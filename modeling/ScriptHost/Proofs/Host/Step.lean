import ScriptHost.Host.Basic

/-!
# What an event can do to a host

All that callers and workers can do to a host, told once for everything that depends on it
(`Host.steps`): what reaches the gate, how far the rebuilds come and what happens to their lock,
which deed is done, and who is refused. What is true of whole runs follows from this without another
look at `Host.step`.

## Main definitions

* `Host.AtGate` — an event of the host as an event of its gate.
* `Host.AtRebuilds` — the ways in which rebuilds go on.
* `Host.toil` — the deed that is done in an event.
* `Host.Steps` — all of this together.
-/

namespace ScriptHost

/-- A deed that was done: for whom, and whether that caller had gone away. -/
structure Toil where
  ticket : Ticket
  late : Bool
  deriving DecidableEq

namespace Host

variable {W : Type} {h : Host W} {t : Ticket}

/-! ### At the gate -/

/-- The operation that a demand is submitted as; none for a rebuild or a demand that is refused. -/
def operation? (h : Host W) : Demand → Option (Operation (Native W) Reply)
  | .start => some (h.loading h.settings.module.path)
  | .load path => some (h.loading path)
  | .unload => some unloading
  | .reload path => some (h.reloading path)
  | .execute language source timeout =>
    match h.requestFor language source timeout with
    | .ok request => some (h.executing request)
    | .error _ => none
  | .executeRequest request => some (h.executing request)
  | .ready => some asking
  | .rebuild => none
  | .visit outcome => some (passing (.task fun n => (outcome, n)))

/-- What a host submits to its gate in an event, and for whom: the operation of a new caller, or
the reload at the end of a rebuild. -/
inductive Submits (h : Host W) : Event → Ticket → Operation (Native W) Reply → Prop where
  | demand {t : Ticket} {d : Demand} {op : Operation (Native W) Reply} (hnew : h.isNew t)
      (hop : h.operation? d = some op) : Submits h (.arrive t d) t op
  | reload {t : Ticket} (hrebuild : h.phase t ≠ .absent) :
      Submits h (.poll t) t (h.reloading h.settings.module.path)

/-- What an event of the host is to the gate. -/
inductive AtGate (h : Host W) (e : Event) : Gate (Native W) Reply → Prop where
  /-- The gate is passed by, and the world may change. -/
  | world (he : e ≠ .work) (world : W) : AtGate h e (h.withWorld world).gate
  | submit {t : Ticket} {op : Operation (Native W) Reply} (hop : h.Submits e t op) :
      AtGate h e (h.gate.arrive t op)
  | poll (he : e ≠ .work) (t : Ticket) : AtGate h e (h.gate.poll t)
  | drop (he : e ≠ .work) (t : Ticket) : AtGate h e (h.gate.drop t)
  | work (he : e = .work) : AtGate h e h.gate.work

/-- An event other than work may leave the gate as it is. -/
theorem AtGate.same {e : Event} (he : e ≠ .work) : AtGate h e h.gate :=
  .world he h.native.world

/-! ### Rebuilds -/

/-- The rebuild is carried on by its caller. -/
def Phase.isCarried : Phase → Bool
  | .working .. | .stopped .. | .reloading _ => true
  | _ => false

/-- The rebuild waits or is carried on. -/
def Phase.isPending : Phase → Bool
  | .waiting | .working .. | .stopped .. | .reloading _ => true
  | _ => false

/-- The rebuild was carried on, or given up. Its worker may still be at a leg. -/
def Phase.isOver : Phase → Bool
  | .ended _ | .abandoned | .orphaned _ => true
  | _ => false

/-- A worker is at a leg of a rebuild whose caller went away. -/
def Phase.isOrphaned : Phase → Bool
  | .orphaned _ => true
  | _ => false

/-- What an event can do to the rebuilds: their phases and the lock after it. -/
inductive AtRebuilds (h : Host W) : Event → (Ticket → Phase) → Lock → Prop where
  | same (e : Event) : AtRebuilds h e h.phase h.rebuilding
  /-- A new caller waits. -/
  | waits {t : Ticket} (hnew : h.isNew t) :
    AtRebuilds h (.arrive t .rebuild) (h.setPhase t .waiting).phase (h.rebuilding.request t)
  /-- A new caller has the lock at once, and begins. -/
  | arrives {t : Ticket} {p : Phase} (hnew : h.isNew t)
      (hheld : (h.rebuilding.request t).holder = some t) (hp : p.isCarried) :
    AtRebuilds h (.arrive t .rebuild) (h.setPhase t p).phase (h.rebuilding.request t)
  /-- A caller that waited has the lock, and begins. -/
  | begins {t : Ticket} {p : Phase} (hwaits : h.phase t = .waiting)
      (hheld : h.rebuilding.holder = some t) (hp : p.isCarried) :
    AtRebuilds h (.poll t) (h.setPhase t p).phase h.rebuilding
  /-- A rebuild goes on. -/
  | goes {e : Event} {t : Ticket} {p : Phase} (he : e = .poll t ∨ e = .advance t)
      (hcarried : (h.phase t).isCarried) (hp : p.isCarried) :
    AtRebuilds h e (h.setPhase t p).phase h.rebuilding
  /-- A rebuild ends. -/
  | ends {t : Ticket} {p : Progress} (hcarried : (h.phase t).isCarried) :
    AtRebuilds h (.poll t) (h.setPhase t (.ended p)).phase (h.rebuilding.withdraw t)
  /-- The caller of a rebuild goes away. -/
  | leaves {t : Ticket} {p : Phase} (hpending : (h.phase t).isPending) (hp : p.isOver) :
    AtRebuilds h (.drop t) (h.setPhase t p).phase (h.rebuilding.withdraw t)
  /-- The worker of a caller that went away goes on. -/
  | trails {t : Ticket} {p : Phase} (horphaned : (h.phase t).isOrphaned) (hp : p.isOver) :
    AtRebuilds h (.advance t) (h.setPhase t p).phase h.rebuilding

/-- The deed that is done in an event. -/
def toil (h : Host W) : Event → List Toil
  | .advance t =>
    match h.phase t with
    | .working _ _ (_ :: _) _ => [⟨t, false⟩]
    | .orphaned (_ :: _) => [⟨t, true⟩]
    | _ => []
  | _ => []

/-- A deed is done for a caller that carries its rebuild on, or went away. -/
theorem toil_cases (h : Host W) (e : Event) :
    h.toil e = [] ∨ ∃ t late, h.toil e = [⟨t, late⟩] ∧
      (late = false ∧ (h.phase t).isCarried ∨ late = true ∧ (h.phase t).isOrphaned) := by
  cases e with
  | advance t =>
      cases hphase : h.phase t with
      | working p stage left later =>
          cases left with
          | nil => exact .inl (by simp [toil, hphase])
          | cons deed left =>
              exact .inr ⟨t, false, by simp [toil, hphase], .inl ⟨rfl, by rw [hphase]; rfl⟩⟩
      | orphaned left =>
          cases left with
          | nil => exact .inl (by simp [toil, hphase])
          | cons deed left =>
              exact .inr ⟨t, true, by simp [toil, hphase], .inr ⟨rfl, by rw [hphase]; rfl⟩⟩
      | absent | waiting | stopped _ _ _ | reloading _ | ended _ | abandoned =>
          exact .inl (by simp [toil, hphase])
  | arrive _ _ | poll _ | drop _ | work => exact .inl rfl

/-! ### Everything together -/

/-- Whom an event refuses: a new caller whose demand makes no request. -/
def Refuses (h : Host W) (e : Event) (t : Ticket) (cause : Failure) : Prop :=
  h.isNew t ∧ ∃ language source timeout, e = .arrive t (.execute language source timeout) ∧
    h.requestFor language source timeout = .error cause

/-- What an event makes of a host. -/
structure Steps (h : Host W) (e : Event) (k : Host W) : Prop where
  gate : h.AtGate e k.gate
  rebuilds : h.AtRebuilds e k.phase k.rebuilding
  deeds : k.deeds.map Prod.fst = h.deeds.map Prod.fst ++ (h.toil e).map Toil.ticket
  refused : ∀ t, k.refused t = h.refused t ∨ ∃ cause, h.Refuses e t cause ∧ k.refused t = some cause

/-- Nothing happens but at the gate. -/
theorem Steps.atGate {e : Event} {g : Gate (Native W) Reply} (hg : h.AtGate e g)
    (htoil : h.toil e = []) : h.Steps e { h with gate := g } :=
  ⟨hg, .same e, by simp [htoil], fun _ => .inl rfl⟩

/-- A rebuild that goes on announces something, and perhaps submits the reload. -/
theorem proceed_eq (h : Host W) (t : Ticket) (p : Progress) (legs : List Leg) :
    ∃ (q : Phase) (shown : Ticket → List Progress) (g : Gate (Native W) Reply), q.isCarried ∧
      (g = h.gate ∨ legs = [] ∧ g = h.gate.arrive t (h.reloading h.settings.module.path)) ∧
      h.proceed t p legs =
        { h with phase := (h.setPhase t q).phase, shown := shown, gate := g } := by
  cases legs with
  | nil => exact ⟨_, _, _, rfl, .inr ⟨rfl, rfl⟩, rfl⟩
  | cons leg later => exact ⟨_, _, _, rfl, .inl rfl, rfl⟩

/-- A deed changes the world, and is noted. -/
theorem perform_eq {deed : Deed} {outcome : Except Failure Unit} {k : Host W}
    (hk : h.perform t deed = (outcome, k)) :
    ∃ world, k = { h.withWorld world with deeds := h.deeds ++ [(t, deed)] } := by
  obtain rfl : (h.perform t deed).2 = k := by rw [hk]
  exact ⟨_, rfl⟩

/-- A demand is a step. -/
theorem steps_arrive (h : Host W) (t : Ticket) (d : Demand) :
    h.Steps (.arrive t d) (h.arrive t d) := by
  have hskip : h.Steps (.arrive t d) h := .atGate (.same (by simp)) rfl
  unfold arrive
  split
  · rename_i hnew
    cases d with
    | start | load _ | unload | reload _ | executeRequest _ | ready | visit _ =>
        exact .atGate (.submit (.demand hnew rfl)) rfl
    | execute language source timeout =>
        cases hr : h.requestFor language source timeout with
        | ok request =>
            have hop : h.operation? (.execute language source timeout) =
                some (h.executing request) := by
              simp [operation?, hr]
            simp only [accept, hr]
            exact .atGate (.submit (.demand hnew hop)) rfl
        | error cause =>
            simp only [accept, hr]
            refine ⟨hskip.gate, .same _, hskip.deeds, fun u => ?_⟩
            by_cases hut : u = t
            · subst hut
              exact .inr ⟨cause, ⟨hnew, _, _, _, rfl, hr⟩, by simp⟩
            · exact .inl (by simp [hut])
    | rebuild =>
        change h.Steps _ (h.arriveRebuild t)
        unfold arriveRebuild
        dsimp only
        split
        · rename_i hheld
          have hheld' : (h.rebuilding.request t).holder = some t := by
            simpa [Lock.isHeldBy] using hheld
          obtain ⟨q, shown, g, hq, hg, heq⟩ :=
            proceed_eq { h with rebuilding := h.rebuilding.request t } t
              .empty h.settings.rebuild.plan
          rw [beginRebuild, heq]
          rcases hg with rfl | ⟨hplan, -⟩
          · exact ⟨hskip.gate, .arrives hnew hheld' hq, hskip.deeds, fun _ => .inl rfl⟩
          · simp [RebuildSettings.plan] at hplan
        · exact ⟨hskip.gate, .waits hnew, hskip.deeds, fun _ => .inl rfl⟩
  · exact hskip

/-- A poll is one. -/
theorem steps_poll (h : Host W) (t : Ticket) : h.Steps (.poll t) (h.poll t) := by
  have hskip : h.Steps (.poll t) h := .atGate (.same (by simp)) rfl
  unfold poll
  split
  · exact .atGate (.poll (by simp) t) rfl
  · rename_i hphase
    split
    · rename_i hheld
      have hheld' : h.rebuilding.holder = some t := by simpa [Lock.isHeldBy] using hheld
      obtain ⟨q, shown, g, hq, hg, heq⟩ := proceed_eq h t .empty h.settings.rebuild.plan
      rw [beginRebuild, heq]
      rcases hg with rfl | ⟨hplan, -⟩
      · exact ⟨hskip.gate, .begins hphase hheld' hq, hskip.deeds, fun _ => .inl rfl⟩
      · simp [RebuildSettings.plan] at hplan
    · exact hskip
  · rename_i p stage later hphase
    have hcarried : (h.phase t).isCarried := by rw [hphase]; rfl
    obtain ⟨q, shown, g, hq, hg, heq⟩ := proceed_eq h t p later
    rw [heq]
    refine ⟨?_, .goes (.inl rfl) hcarried hq, hskip.deeds, fun _ => .inl rfl⟩
    rcases hg with rfl | ⟨-, rfl⟩
    · exact hskip.gate
    · exact .submit (.reload (by simp [hphase]))
  · rename_i hphase
    exact ⟨hskip.gate, .ends (by rw [hphase]; rfl), hskip.deeds, fun _ => .inl rfl⟩
  · rename_i hphase
    have hcarried : (h.phase t).isCarried := by rw [hphase]; rfl
    have hgate : h.AtGate (.poll t) (h.gate.poll t) := .poll (by simp) t
    unfold pollReload
    dsimp only
    split
    · exact .atGate hgate rfl
    · exact ⟨hgate, .ends hcarried, hskip.deeds, fun _ => .inl rfl⟩
    · exact ⟨hgate, .ends hcarried, hskip.deeds, fun _ => .inl rfl⟩
  · exact hskip

/-- A caller that leaves is one. -/
theorem steps_drop (h : Host W) (t : Ticket) : h.Steps (.drop t) (h.drop t) := by
  have hskip : h.Steps (.drop t) h := .atGate (.same (by simp)) rfl
  have hgate : h.AtGate (.drop t) (h.gate.drop t) := .drop (by simp) t
  unfold drop
  dsimp only
  split
  · exact .atGate hgate rfl
  · rename_i hphase
    exact ⟨hgate, .leaves (by rw [hphase]; rfl) rfl, hskip.deeds, fun _ => .inl rfl⟩
  · rename_i hphase
    exact ⟨hgate, .leaves (by rw [hphase]; rfl) rfl, hskip.deeds, fun _ => .inl rfl⟩
  · rename_i hphase
    exact ⟨hgate, .leaves (by rw [hphase]; rfl) rfl, hskip.deeds, fun _ => .inl rfl⟩
  · rename_i hphase
    exact ⟨hgate, .leaves (by rw [hphase]; rfl) rfl, hskip.deeds, fun _ => .inl rfl⟩
  · exact hskip
  · exact hskip
  · exact hskip

/-- A stage that goes on is one. -/
theorem steps_advance (h : Host W) (t : Ticket) : h.Steps (.advance t) (h.advance t) := by
  unfold advance
  split
  · rename_i hphase
    have hcarried : (h.phase t).isCarried := by rw [hphase]; rfl
    split <;> rename_i hk <;> obtain ⟨world, rfl⟩ := perform_eq hk <;>
      exact ⟨.world (by simp) world, .goes (.inr rfl) hcarried rfl,
        by simp [toil, hphase, setPhase], fun _ => .inl rfl⟩
  · rename_i hphase
    have horphaned : (h.phase t).isOrphaned := by rw [hphase]; rfl
    split <;> rename_i hk <;> obtain ⟨world, rfl⟩ := perform_eq hk <;>
      exact ⟨.world (by simp) world, .trails horphaned rfl, by simp [toil, hphase, setPhase],
        fun _ => .inl rfl⟩
  · rename_i hworking horphaned
    refine .atGate (.same (by simp)) ?_
    unfold toil
    dsimp only
    split
    · rename_i hphase
      exact absurd hphase (hworking _ _ _ _ _)
    · rename_i hphase
      exact absurd hphase (horphaned _ _)
    · rfl

/-- **All that an event can do to a host.** -/
theorem steps (h : Host W) (e : Event) : h.Steps e (h.step e) := by
  cases e with
  | arrive t d => exact h.steps_arrive t d
  | poll t => exact h.steps_poll t
  | drop t => exact h.steps_drop t
  | work => exact .atGate (.work rfl) rfl
  | advance t => exact h.steps_advance t

end Host

end ScriptHost
