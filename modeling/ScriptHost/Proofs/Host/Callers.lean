import ScriptHost.Proofs.Gate.Callers
import ScriptHost.Proofs.Host.Rebuilds

/-!
# The callers of a host

A caller of a host comes once, and what it comes for stays what it came for. Whoever was here
before is not new (`Host.isNew_run`), so a caller that came for something else never has a
rebuild (`Host.phase_run_of_arrival`).
-/

namespace ScriptHost

namespace Host

variable {W : Type} {h : Host W} {t : Ticket}

theorem isNew_iff : h.isNew t ↔
    h.gate.phase t = .absent ∧ h.phase t = .absent ∧ h.refused t = none := by
  rw [isNew, Bool.and_eq_true, Bool.and_eq_true, decide_eq_true_iff, Option.isNone_iff_eq_none]
  cases h.gate.phase t <;> simp

/-! ### What stays -/

/-- A caller at the gate was not there before, or it is one for whom something is submitted. -/
theorem AtGate.absent {e : Event} {g : Gate (Native W) Reply} (hg : h.AtGate e g)
    (ht : g.phase t = .absent) : h.gate.phase t = .absent := by
  have hstep : ∀ e', (h.gate.step e').phase t = .absent → h.gate.phase t = .absent := fun e' hnow =>
    ((Gate.follows_step h.gate e' t).absent_iff.mp hnow).1
  cases hg with
  | world _ _ => exact ht
  | @submit u op _ => exact hstep (.arrive u op) ht
  | poll _ u => exact hstep (.poll u) ht
  | drop _ u => exact hstep (.drop u) ht
  | work _ => exact hstep .work ht

/-- Whoever was here before is not new. -/
theorem isNew_step {e : Event} (ht : (h.step e).isNew t) : h.isNew t := by
  obtain ⟨hgate, hphase, hrefused⟩ := isNew_iff.mp ht
  have hs := h.steps e
  refine isNew_iff.mpr ⟨hs.gate.absent hgate, ?_, ?_⟩
  · by_contra hne
    exact hs.rebuilds.ne_absent hne hphase
  · rcases hs.refused t with heq | ⟨cause, -, heq⟩
    · rwa [← heq]
    · simp [heq] at hrefused

theorem isNew_run {events : List Event} (ht : (h.run events).isNew t) : h.isNew t := by
  induction events generalizing h with
  | nil => exact ht
  | cons e events ih => exact isNew_step (ih ht)

/-- A rebuild that was there is there. -/
theorem phase_run_ne_absent (ht : h.phase t ≠ .absent) (events : List Event) :
    (h.run events).phase t ≠ .absent := by
  induction events generalizing h with
  | nil => exact ht
  | cons e events ih => exact ih ((h.steps e).rebuilds.ne_absent ht)

/-- Whoever has come for something else never has a rebuild. -/
theorem phase_run_absent (hcame : ¬ h.isNew t) (ht : h.phase t = .absent) (events : List Event) :
    (h.run events).phase t = .absent := by
  induction events generalizing h with
  | nil => exact ht
  | cons e events ih =>
      exact ih (fun hnew => hcame (isNew_step hnew)) ((h.steps e).rebuilds.absent ht fun _ => hcame)

/-! ### Arrivals -/

/-- Whoever has something submitted is at the gate. -/
theorem not_isNew_submit (h : Host W) (t : Ticket) (op : Operation (Native W) Reply) :
    ¬ (h.submit t op).isNew t := by
  intro hnew
  have habsent : (h.gate.step (.arrive t op)).phase t = .absent := (isNew_iff.mp hnew).1
  exact ((Gate.follows_step h.gate (.arrive t op) t).absent_iff.mp habsent).2 op rfl

/-- Whoever comes is new no longer. -/
theorem not_isNew_arrive (h : Host W) (t : Ticket) (d : Demand) : ¬ (h.arrive t d).isNew t := by
  unfold arrive
  split
  · cases d with
    | start | load _ | unload | reload _ | executeRequest _ | ready | visit _ =>
        exact h.not_isNew_submit t _
    | execute language source timeout =>
        cases hr : h.requestFor language source timeout with
        | ok request =>
            simp only [accept, hr]
            exact h.not_isNew_submit t _
        | error cause =>
            simp only [accept, hr]
            intro hnew
            simp [isNew_iff] at hnew
    | rebuild =>
        change ¬ (h.arriveRebuild t).isNew t
        unfold arriveRebuild
        dsimp only
        split
        · obtain ⟨q, shown, g, hq, -, heq⟩ :=
            proceed_eq { h with rebuilding := h.rebuilding.request t } t
              .empty h.settings.rebuild.plan
          rw [beginRebuild, heq]
          intro hnew
          refine Phase.IsBegun.ne_absent (.inl hq) ?_
          simpa using (isNew_iff.mp hnew).2.1
        · intro hnew
          simpa using (isNew_iff.mp hnew).2.1
  · assumption

/-- Whoever came for something else than a rebuild never has one. -/
theorem phase_run_of_arrival {d : Demand} (hnew : h.isNew t) (hd : d ≠ .rebuild)
    (events : List Event) : (h.run (.arrive t d :: events)).phase t = .absent := by
  refine phase_run_absent (h.not_isNew_arrive t d) ?_ events
  refine (h.steps (.arrive t d)).rebuilds.absent (isNew_iff.mp hnew).2.1 fun he => ?_
  exact absurd (Event.arrive.inj he).2 hd

theorem run_append (h : Host W) (before after : List Event) :
    h.run (before ++ after) = (h.run before).run after :=
  List.foldl_append

/-- A caller comes once. -/
theorem arrival_unique {before after before' after' : List Event} {d d' : Demand}
    (heq : before ++ .arrive t d :: after = before' ++ .arrive t d' :: after')
    (hnew : (h.run before).isNew t) (hnew' : (h.run before').isNew t) : d = d' := by
  -- Whoever comes the second time is not new.
  have hfirst : ∀ {before before' more : List Event} {d : Demand},
      before' = before ++ .arrive t d :: more → ¬ (h.run before').isNew t := by
    rintro before _ more d rfl hagain
    rw [run_append] at hagain
    exact not_isNew_arrive _ t d (isNew_run hagain)
  rcases List.append_eq_append_iff.mp heq with ⟨more, hbefore, hafter⟩ | ⟨more, hbefore, hafter⟩
  · cases more with
    | nil => exact (Event.arrive.inj (List.cons.inj hafter).1).2
    | cons e more =>
        obtain ⟨rfl, -⟩ := List.cons.inj hafter
        exact absurd hnew' (hfirst hbefore)
  · cases more with
    | nil => exact (Event.arrive.inj (List.cons.inj hafter).1).2.symm
    | cons e more =>
        obtain ⟨rfl, -⟩ := List.cons.inj hafter
        exact absurd hnew (hfirst hbefore)

/-! ### Refusals -/

/-- A demand in a language that there is makes a request. -/
theorem requestFor_eq_ok (h : Host W) (language : Option String) (source : String)
    (timeout : Option Duration) {tag : Tag}
    (htag : Tag.ofLanguage (language.getD h.settings.execution.defaultLanguage) = .ok tag) :
    h.requestFor language source timeout =
      .ok ⟨tag, source, timeout.getD h.settings.execution.timeout⟩ := by
  rw [requestFor, Request.forLanguage, htag]
  rfl

/-- No demand is refused for want of a module. -/
theorem requestFor_ne_notReady (h : Host W) (language : Option String) (source : String)
    (timeout : Option Duration) : h.requestFor language source timeout ≠ .error .notReady := by
  unfold requestFor Request.forLanguage
  generalize language.getD h.settings.execution.defaultLanguage = name
  have htag : Tag.ofLanguage name ≠ .error .notReady := by
    unfold Tag.ofLanguage
    split
    · simp
    · simp
    · simp
    · simp
    · split
      · split <;> simp
      · simp
  cases htag' : Tag.ofLanguage name with
  | ok tag => simp [Except.map]
  | error e =>
      rw [htag'] at htag
      simpa [Except.map] using htag

/-- Nobody is refused for want of a module. -/
theorem refused_run (hn : h.refused t ≠ some .notReady) (events : List Event) :
    (h.run events).refused t ≠ some .notReady := by
  induction events generalizing h with
  | nil => exact hn
  | cons e events ih =>
      refine ih ?_
      rcases (h.steps e).refused t with heq |
        ⟨cause, ⟨-, language, source, timeout, -, hcause⟩, heq⟩
      · rwa [heq]
      · rw [heq]
        rintro hnot
        obtain rfl := Option.some.inj hnot
        exact h.requestFor_ne_notReady language source timeout hcause

end Host

end ScriptHost
