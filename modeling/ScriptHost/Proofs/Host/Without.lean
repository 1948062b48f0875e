import ScriptHost.Proofs.Host.Frame

/-!
# A host without a rebuild

A rebuild that has not begun is at most a place in line. A host goes on as it would without this
place (`Host.step_without`), if it is the last one: nobody waits for the rebuild, and others that
wait or are carried on are before it. Its own events make no difference until it begins
(`Host.step_of_isIdle`).

## Main definitions

* `Host.without` — the host without the place of a rebuild.
* `Host.Phase.isIdle` — the rebuild has not begun, or never will.
* `Host.IdleStep` — what an event of such a rebuild comes to.
-/

namespace ScriptHost

namespace Host

variable {W : Type} {h : Host W} {t u : Ticket} {e : Event}

/-- The host without the place of a rebuild. -/
def without (h : Host W) (t : Ticket) : Host W :=
  { h.setPhase t .absent with rebuilding := h.rebuilding.withdraw t }

/-- The rebuild has not begun, or was given up before. -/
def Phase.isIdle : Phase → Bool
  | .absent | .waiting | .abandoned => true
  | _ => false

/-- The other rebuilds stay where they are. -/
theorem phase_without_of_ne (h : Host W) (hu : u ≠ t) : (h.without t).phase u = h.phase u :=
  phase_setPhase_of_ne h _ hu

/-- Whoever has no rebuild has no place in line. -/
theorem InLine.notMem_of_absent (hline : InLine h.phase h.rebuilding) (ht : h.phase t = .absent) :
    t ∉ h.rebuilding.line := by
  intro hmem
  have hpending := (hline.mem_line t).mp hmem
  simp [ht, Phase.isPending] at hpending

/-- Nothing is taken out for a caller that is not there. -/
theorem without_of_absent (hline : InLine h.phase h.rebuilding) (ht : h.phase t = .absent) :
    h.without t = h := by
  have hphase : (h.setPhase t .absent).phase = h.phase := by
    funext u
    by_cases hu : u = t <;> simp [setPhase, hu, ht]
  have hlock : h.rebuilding.withdraw t = h.rebuilding :=
    Lock.withdraw_of_notMem hline.proper hline.nodup_line (hline.notMem_of_absent ht)
  simp only [without, hlock, setPhase] at hphase ⊢
  rw [hphase]

/-! ### The events of others -/

section

variable (hu : u ≠ t)

include hu

/-- The phase of another caller can be set before or after. -/
theorem setPhase_without (p : Phase) :
    (h.without t).setPhase u p = (h.setPhase u p).without t := by
  have hphase : ((h.without t).setPhase u p).phase = ((h.setPhase u p).without t).phase := by
    funext v
    by_cases hv : v = u
    · subst hv
      simp [without, setPhase, hu]
    · simp [without, setPhase, hv]
  exact congrArg (fun phase => { (h.setPhase u p).without t with phase := phase }) hphase

/-- A rebuild of another can go on before or after. -/
theorem proceed_without (p : Progress) (legs : List Leg) :
    (h.without t).proceed u p legs = (h.proceed u p legs).without t := by
  cases legs with
  | nil =>
      exact congrArg (·.submit u (h.reloading h.settings.module.path))
        (setPhase_without (h := h.present u (p.push .reload reloadAnnouncement)) hu _)
  | cons leg later =>
      exact setPhase_without (h := h.present u (p.push leg.stage leg.announcement)) hu _

/-- It can end before or after. -/
theorem conclude_without (hline : InLine h.phase h.rebuilding) (p : Progress) :
    (h.without t).conclude u p = (h.conclude u p).without t := by
  have hset := setPhase_without (h := h.present u p) hu (.ended p)
  have hlock := Lock.withdraw_comm hline.proper hline.nodup_line t u
  calc (h.without t).conclude u p
      = { ((h.present u p).without t).setPhase u (.ended p) with
          rebuilding := (h.rebuilding.withdraw t).withdraw u } := rfl
    _ = (h.conclude u p).without t := by rw [hset, hlock]; rfl

/-- A demand of another can come before or after, if it is no rebuild. -/
theorem arrive_without {d : Demand} (hd : d ≠ .rebuild) :
    (h.without t).arrive u d = (h.arrive u d).without t := by
  have hnew : (h.without t).isNew u = h.isNew u := by
    simp only [isNew, phase_without_of_ne h hu]
    rfl
  unfold arrive
  rw [hnew]
  split
  · cases d with
    | start | load _ | unload | reload _ | executeRequest _ | ready | visit _ => rfl
    | execute language source timeout =>
        have hrequest : (h.without t).requestFor language source timeout
            = h.requestFor language source timeout := rfl
        simp only [accept, hrequest]
        cases h.requestFor language source timeout <;> rfl
    | rebuild => exact absurd rfl hd
  · rfl

/-- Another can be polled before or after, if the one taken out is the last in the line. -/
theorem poll_without (hline : InLine h.phase h.rebuilding) (hlast : h.rebuilding.IsLast t) :
    (h.without t).poll u = (h.poll u).without t := by
  have hphase := phase_without_of_ne h hu
  cases hp : h.phase u with
  | absent =>
      simp only [poll, hphase, hp]
      rfl
  | ended _ | abandoned | orphaned _ => simp only [poll, hphase, hp]
  | waiting =>
      have hheld : (h.without t).rebuilding.isHeldBy u = h.rebuilding.isHeldBy u :=
        hlast.isHeldBy_withdraw hu
      simp only [poll, hphase, hp, hheld]
      split
      · exact proceed_without hu _ _
      · rfl
  | working p stage left later =>
      cases left with
      | nil =>
          simp only [poll, hphase, hp]
          exact proceed_without hu _ _
      | cons deed left =>
          simp only [poll, hphase, hp]
  | stopped p stage cause =>
      simp only [poll, hphase, hp]
      exact conclude_without hu hline _
  | reloading p =>
      have hanswer : (h.without t).gate.poll u = h.gate.poll u := rfl
      simp only [poll, hphase, hp, pollReload, hanswer]
      cases (h.gate.poll u).answer? u with
      | none => rfl
      | some r =>
          cases r <;>
            exact conclude_without (h := { h with gate := h.gate.poll u }) hu hline _

/-- Another can leave before or after. -/
theorem drop_without (hline : InLine h.phase h.rebuilding) :
    (h.without t).drop u = (h.drop u).without t := by
  have hphase := phase_without_of_ne h hu
  have hleave : ∀ p : Phase,
      { (h.without t).setPhase u p with
        gate := h.gate.drop u, rebuilding := (h.rebuilding.withdraw t).withdraw u }
      = Host.without { h.setPhase u p with
          gate := h.gate.drop u, rebuilding := h.rebuilding.withdraw u } t := by
    intro p
    rw [setPhase_without hu, Lock.withdraw_comm hline.proper hline.nodup_line]
    rfl
  cases hp : h.phase u with
  | absent =>
      simp only [drop, hphase, hp]
      rfl
  | ended _ | abandoned | orphaned _ => simp only [drop, hphase, hp]
  | waiting | stopped _ _ _ | reloading _ | working _ _ _ _ =>
      simp only [drop, hphase, hp]
      exact hleave _

/-- A stage of another can go on before or after. -/
theorem advance_without : (h.without t).advance u = (h.advance u).without t := by
  have hphase := phase_without_of_ne h hu
  have hperform : ∀ deed, (h.without t).perform u deed
      = ((h.perform u deed).1, (h.perform u deed).2.without t) := fun _ => rfl
  cases hp : h.phase u with
  | working p stage left later =>
      cases left with
      | nil => simp only [advance, hphase, hp]
      | cons deed left =>
          simp only [advance, hphase, hp, hperform]
          obtain ⟨outcome, k⟩ := h.perform u deed
          cases outcome <;> exact setPhase_without hu _
  | orphaned left =>
      cases left with
      | nil => simp only [advance, hphase, hp]
      | cons deed left =>
          simp only [advance, hphase, hp, hperform]
          obtain ⟨outcome, k⟩ := h.perform u deed
          cases outcome <;> exact setPhase_without hu _
  | absent | waiting | stopped _ _ _ | reloading _ | ended _ | abandoned =>
      simp only [advance, hphase, hp]

end

/-- **A host goes on as it would without a rebuild that stands behind all others**, as long as no
other rebuild is asked for. -/
theorem step_without (hline : InLine h.phase h.rebuilding) (hlast : h.rebuilding.IsLast t)
    (he : e.ticket? ≠ some t) (hno : ∀ u, e ≠ .arrive u .rebuild) :
    (h.without t).step e = (h.step e).without t := by
  have hne {u : Ticket} := Event.ne_of_ticket? (u := u) he
  cases e with
  | arrive u d => exact arrive_without (hne rfl) fun hd => hno u (hd ▸ rfl)
  | poll u => exact poll_without (hne rfl) hline hlast
  | drop u => exact drop_without (hne rfl) hline
  | work => rfl
  | advance u => exact advance_without (hne rfl)

/-! ### Its own events -/

/-- A rebuild that is asked for is the last in line, and remains so. -/
theorem AtRebuilds.isLast {phase : Ticket → Phase} {l : Lock} (hs : h.AtRebuilds e phase l)
    (hline : InLine h.phase h.rebuilding) (hlast : h.rebuilding.IsLast t)
    (honly : ∀ u, e = .arrive u .rebuild → u = t) : l.IsLast t := by
  have hrequest : ∀ u, e = .arrive u .rebuild → h.isNew u → (h.rebuilding.request u).IsLast t := by
    intro u he hnew
    obtain rfl := honly u he
    exact Lock.isLast_request hline.proper (hline.notMem_of_absent (phase_of_isNew hnew))
  cases hs with
  | same _ | begins _ _ _ | goes _ _ _ | trails _ _ => exact hlast
  | waits hnew | arrives hnew _ _ => exact hrequest _ rfl hnew
  | ends _ | leaves _ _ => exact hlast.withdraw hline.nodup_line _

/-- Whoever is last in line and is carried on is the only one in line. -/
theorem not_isPending_of_ne (hline : InLine h.phase h.rebuilding) (hlast : h.rebuilding.IsLast t)
    (hcarried : (h.phase t).isCarried) (hu : u ≠ t) : (h.phase u).isPending = false := by
  have halone := hlast.line_eq (hline.holder_of_served t hcarried)
  rw [← Bool.not_eq_true, ← hline.mem_line u, halone]
  simpa using hu

/-- In which phase a caller was does not matter once it is taken out. -/
theorem without_setPhase (h : Host W) (t : Ticket) (p : Phase) :
    (h.setPhase t p).without t = h.without t := by
  have hphase : ((h.setPhase t p).without t).phase = (h.without t).phase := by
    funext u
    by_cases hu : u = t <;> simp [without, setPhase, hu]
  exact congrArg (fun phase => { h.without t with phase := phase }) hphase

/-- A rebuild that begins is carried on. -/
theorem isCarried_beginRebuild (h : Host W) (t : Ticket) :
    ((h.beginRebuild t).phase t).isCarried := by
  simp [beginRebuild, RebuildSettings.plan, proceed, announce, Phase.isCarried]

/-- A rebuild goes on to its first stage, or is idle still and nobody else sees a difference. -/
def IdleStep (h k : Host W) (t : Ticket) : Prop :=
  (k.phase t).isCarried ∨ (k.phase t).isIdle ∧ k.without t = h.without t

/-- A rebuild that nothing is done about is idle still. -/
theorem idleStep_of_eq {k : Host W} (hidle : (h.phase t).isIdle) (heq : k = h) : IdleStep h k t :=
  .inr ⟨heq.symm ▸ hidle, congrArg (·.without t) heq⟩

/-- A demand for a rebuild begins it, or is the last in the line. -/
theorem idleStep_arrive (hline : InLine h.phase h.rebuilding) (hidle : (h.phase t).isIdle) :
    IdleStep h (h.arrive t .rebuild) t := by
  by_cases hnew : h.isNew t
  · simp only [arrive, hnew, if_true, accept, arriveRebuild]
    split
    · exact .inl (isCarried_beginRebuild _ t)
    · have habsent := hline.notMem_of_absent (phase_of_isNew hnew)
      have hlock : (h.rebuilding.request t).withdraw t = h.rebuilding.withdraw t := by
        rw [Lock.withdraw_request hline.proper hline.nodup_line habsent,
          Lock.withdraw_of_notMem hline.proper hline.nodup_line habsent]
      refine .inr ⟨by simp [Phase.isIdle], ?_⟩
      rw [without_setPhase]
      exact congrArg (fun l => { h.without t with rebuilding := l }) hlock
  · exact idleStep_of_eq hidle (by simp [arrive, hnew])

/-- A poll begins a rebuild whose turn it is. -/
theorem idleStep_poll (hidle : (h.phase t).isIdle) (hgate : h.gate.phase t = .absent) :
    IdleStep h (h.poll t) t := by
  have hpoll : h.gate.poll t = h.gate := by simp [Gate.poll, hgate]
  cases hp : h.phase t with
  | absent => exact idleStep_of_eq hidle (by simp only [poll, hp, hpoll])
  | waiting =>
      by_cases hheld : h.rebuilding.isHeldBy t
      · simp only [poll, hp, hheld, if_true]
        exact .inl (h.isCarried_beginRebuild t)
      · exact idleStep_of_eq hidle (by simp [poll, hp, hheld])
  | abandoned => exact idleStep_of_eq hidle (by simp only [poll, hp])
  | working _ _ _ _ | stopped _ _ _ | reloading _ | ended _ | orphaned _ =>
      simp [hp, Phase.isIdle] at hidle

/-- A caller that leaves gives up its place in the line. -/
theorem idleStep_drop (hline : InLine h.phase h.rebuilding) (hidle : (h.phase t).isIdle)
    (hgate : h.gate.phase t = .absent) : IdleStep h (h.drop t) t := by
  have hdrop : h.gate.drop t = h.gate := by simp [Gate.drop, hgate]
  cases hp : h.phase t with
  | absent => exact idleStep_of_eq hidle (by simp only [drop, hp, hdrop])
  | waiting =>
      have hlock := Lock.withdraw_self hline.proper hline.nodup_line t
      simp only [drop, hp, hdrop]
      refine .inr ⟨by simp [setPhase, Phase.isIdle], ?_⟩
      calc Host.without { h.setPhase t .abandoned with
            rebuilding := h.rebuilding.withdraw t } t
          = { (h.setPhase t .abandoned).without t with
              rebuilding := (h.rebuilding.withdraw t).withdraw t } := rfl
        _ = h.without t := by rw [without_setPhase, hlock]; rfl
  | abandoned => exact idleStep_of_eq hidle (by simp only [drop, hp])
  | working _ _ _ _ | stopped _ _ _ | reloading _ | ended _ | orphaned _ =>
      simp [hp, Phase.isIdle] at hidle

/-- There is no stage of an idle rebuild to go on. -/
theorem idleStep_advance (hidle : (h.phase t).isIdle) : IdleStep h (h.advance t) t := by
  cases hp : h.phase t with
  | absent | waiting | abandoned => exact idleStep_of_eq hidle (by simp only [advance, hp])
  | working _ _ _ _ | stopped _ _ _ | reloading _ | ended _ | orphaned _ =>
      simp [hp, Phase.isIdle] at hidle

/-- **A rebuild takes its place or gives it up until it begins**, and nobody else sees it. -/
theorem step_of_isIdle (hline : InLine h.phase h.rebuilding) (hidle : (h.phase t).isIdle)
    (hgate : h.gate.phase t = .absent) (he : e.ticket? = some t)
    (hd : ∀ d, e = .arrive t d → d = .rebuild) : IdleStep h (h.step e) t := by
  obtain ⟨d, rfl⟩ | rfl | rfl | rfl := Event.of_ticket? he
  · obtain rfl := hd d rfl
    exact idleStep_arrive hline hidle
  · exact idleStep_poll hidle hgate
  · exact idleStep_drop hline hidle hgate
  · exact idleStep_advance hidle

end Host

end ScriptHost
