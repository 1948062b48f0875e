import ScriptHost.Host.Session
import ScriptHost.Proofs.Host.Frame

/-!
# Settling

A rebuild comes to its end, whatever its commands, the loader and the removal of the cache answer:
when its caller and the workers take turns, nobody else is at the gate, and no other rebuild holds
the lock, then the turns that `Host.settle` allows are enough (`Host.exists_answer_serve`).

## Proof idea

A round of turns does one deed, or fails; the number of deeds that are left bounds the rounds before
the reload (`Host.endsWithin_of_working`), and the number of its acts those after it
(`Host.endsWithin_work`).
-/

namespace ScriptHost

/-- Work that is done after this many acts, whatever they find. -/
def Work.Within {σ α : Type} : Nat → Work σ α → Prop
  | _, .done _ => True
  | 0, .act _ _ => False
  | n + 1, .act _ rest => ∀ s, (rest s).Within n

/-- To make something of the value of work takes no act. -/
theorem Work.Within.bind_return {σ α β : Type} {n : Nat} {w : Work σ α} (hw : w.Within n)
    (f : α → β) : Work.Within n (do let a ← w; return f a) := by
  induction w generalizing n with
  | done outcome => cases outcome <;> cases n <;> trivial
  | act change rest ih =>
      cases n with
      | zero => exact hw.elim
      | succ n => exact fun s => ih s (hw s)

namespace Host

variable {W : Type} {h : Host W} {t : Ticket} {p : Progress}

/-- A reload takes three acts. -/
theorem within_reloading (h : Host W) (path : Path) :
    ∃ w, h.reloading path = .work w ∧ w.Within 3 := by
  have hreload : (Native.reloading h.platform.load path).Within 3 := fun _ _ _ => trivial
  exact ⟨_, rfl, hreload.bind_return _⟩

/-! ### Rounds -/

/-- The rebuild of a caller ends within some rounds of turns. -/
def EndsWithin (h : Host W) (t : Ticket) (rounds : Nat) : Prop :=
  ∃ p, (h.run (List.replicate rounds (turns t)).flatten).phase t = .ended p

theorem EndsWithin.succ {rounds : Nat} (hends : EndsWithin ((h.poll t).advance t).work t rounds) :
    EndsWithin h t (rounds + 1) := by
  obtain ⟨p, hp⟩ := hends
  refine ⟨p, ?_⟩
  rw [List.replicate_succ, List.flatten_cons, run_append]
  exact hp

theorem phase_run_ended (hphase : h.phase t = .ended p) (events : List Event) :
    (h.run events).phase t = .ended p := by
  induction events generalizing h with
  | nil => exact hphase
  | cons e events ih => exact ih (phase_step_ended hphase e)

theorem endsWithin_of_poll (hphase : (h.poll t).phase t = .ended p) (rounds : Nat) :
    EndsWithin h t (rounds + 1) :=
  .succ ⟨p, phase_run_ended (phase_run_ended hphase [.advance t, .work]) _⟩

/-! ### The reload -/

/-- A rebuild whose reload is done looks for its answer, and ends. -/
theorem endsWithin_of_finished {r : Except Failure Reply} (hphase : h.phase t = .reloading p)
    (hgate : h.gate.phase t = .finished r) (rounds : Nat) : EndsWithin h t (rounds + 1) := by
  have hanswer : (h.gate.poll t).answer? t = some r := by simp [Gate.poll, hgate, Gate.answer?]
  cases r with
  | ok reply =>
      refine endsWithin_of_poll (p := p.succeed) ?_ rounds
      simp [poll, hphase, pollReload, hanswer, conclude]
  | error cause =>
      refine endsWithin_of_poll (p := p.fail .reload reloadReason) ?_ rounds
      simp [poll, hphase, pollReload, hanswer, conclude]

/-- While its reload is in flight, a rebuild only waits for the worker. -/
theorem turns_of_running {w : Work (Native W) Reply} (hphase : h.phase t = .reloading p)
    (hgate : h.gate.phase t = .running w) : (h.poll t).advance t = h := by
  have hpoll : h.poll t = h := by
    simp [poll, hphase, pollReload, Gate.poll, hgate, Gate.answer?]
  rw [hpoll, advance, hphase]

/-- The worker does an act of the work that it has. -/
theorem work_of_act {change : Native W → Native W} {rest : Native W → Work (Native W) Reply}
    (hheld : h.gate.lock.holder = some t) (hgate : h.gate.phase t = .running (.act change rest)) :
    h.work.gate.lock.holder = some t ∧ h.work.gate.phase t = .running (rest h.gate.state) := by
  simp [work, Gate.work, Gate.busy?, hheld, hgate, Gate.Phase.work?, Gate.Phase.proceed]

/-- The worker has done the last act of the work that it had. -/
theorem work_of_done {o : Outcome Reply} (hheld : h.gate.lock.holder = some t)
    (hgate : h.gate.phase t = .running (.done o)) :
    h.work.gate.phase t = .finished o.toExcept := by
  simp [work, Gate.work, Gate.busy?, hheld, hgate, Gate.Phase.work?, Gate.Phase.complete]

/-- The worker behind the gate does the acts of a reload one by one. -/
theorem endsWithin_work {n : Nat} {w : Work (Native W) Reply} (hphase : h.phase t = .reloading p)
    (hheld : h.gate.lock.holder = some t) (hgate : h.gate.phase t = .running w) (hw : w.Within n)
    (rounds : Nat) : EndsWithin h.work t (rounds + n + 1) := by
  have hstill : h.work.phase t = .reloading p := hphase
  induction w generalizing h n with
  | done o => exact endsWithin_of_finished hstill (work_of_done hheld hgate) (rounds + n)
  | act change rest ih =>
      cases n with
      | zero => exact hw.elim
      | succ n =>
          obtain ⟨hheld', hrunning⟩ := work_of_act hheld hgate
          refine .succ ?_
          rw [turns_of_running hstill hrunning]
          exact ih _ hstill hheld' hrunning (hw _) hstill

/-! ### The legs -/

/-- Nobody is at the gate, and the caller has not been there. -/
def Idle (h : Host W) (t : Ticket) : Prop :=
  h.gate.lock.holder = none ∧ h.gate.phase t = .absent

/-- The worker behind the gate has nothing to do. -/
theorem work_of_idle (hidle : h.Idle t) : h.work = h := by
  have hgate : h.gate.work = h.gate := by simp [Gate.work, Gate.busy?, hidle.1]
  rw [work, hgate]

/-- A rebuild that has stopped ends when its caller looks. -/
theorem endsWithin_of_stopped {stage : Stage} {cause : Failure}
    (hphase : h.phase t = .stopped p stage cause) (rounds : Nat) : EndsWithin h t (rounds + 1) := by
  refine endsWithin_of_poll (p := p.fail stage cause.message) ?_ rounds
  simp [poll, hphase, conclude]

/-- The worker of a rebuild does a deed: there is one less to do, or the rebuild has stopped. -/
theorem advance_of_working {stage : Stage} {deed : Deed} {left : List Deed} {later : List Leg}
    (hphase : h.phase t = .working p stage (deed :: left) later) (hidle : h.Idle t) :
    ((h.advance t).phase t = .working p stage left later ∧ (h.advance t).Idle t) ∨
      ∃ cause, (h.advance t).phase t = .stopped p stage cause ∧ (h.advance t).Idle t := by
  obtain ⟨result, k, hk⟩ : ∃ result k, h.perform t deed = (result, k) := ⟨_, _, rfl⟩
  obtain ⟨world, rfl⟩ := perform_eq hk
  cases result with
  | ok _ =>
      simp only [advance, hphase, hk, phase_setPhase_self]
      exact .inl ⟨trivial, hidle⟩
  | error cause =>
      simp only [advance, hphase, hk, phase_setPhase_self]
      exact .inr ⟨cause, rfl, hidle⟩

/-- A round with a deed. -/
theorem endsWithin_of_deed {stage : Stage} {deed : Deed} {left : List Deed} {later : List Leg}
    {rounds : Nat} (hphase : (h.poll t).phase t = .working p stage (deed :: left) later)
    (hidle : (h.poll t).Idle t)
    (hends : ∀ k : Host W, k.phase t = .working p stage left later → k.Idle t →
      EndsWithin k t (rounds + 1)) : EndsWithin h t (rounds + 1 + 1) := by
  refine .succ ?_
  rcases advance_of_working hphase hidle with ⟨hnext, hidle'⟩ | ⟨cause, hstopped, hidle'⟩ <;>
    rw [work_of_idle hidle']
  · exact hends _ hnext hidle'
  · exact endsWithin_of_stopped hstopped rounds

/-- After the last leg the reload is submitted, and begins if nobody is at the gate. -/
theorem proceed_nil_of_idle (hidle : h.Idle t) (p : Progress) :
    ∃ w, h.reloading h.settings.module.path = .work w ∧
      (h.proceed t p []).phase t = .reloading (p.push .reload reloadAnnouncement) ∧
      (h.proceed t p []).gate.lock.holder = some t ∧
      (h.proceed t p []).gate.phase t = .running w := by
  obtain ⟨w, hw, -⟩ := h.within_reloading h.settings.module.path
  refine ⟨w, hw, phase_setPhase_self .., ?_, ?_⟩ <;> rw [gate_proceed, hw] <;>
    simp [Gate.arrive, hidle.2, Lock.request, hidle.1, Lock.isHeldBy, Gate.enter]

/-- A round without a deed: the legs are done, and the reload is submitted and begins. -/
theorem endsWithin_of_legs_done {stage : Stage} (hphase : h.phase t = .working p stage [] [])
    (hidle : h.Idle t) (rounds : Nat) : EndsWithin h t (rounds + 5) := by
  obtain ⟨w, hw, hreloading, hheld, hrunning⟩ := proceed_nil_of_idle hidle p
  obtain ⟨_, hw', hwithin⟩ := h.within_reloading h.settings.module.path
  obtain rfl := Operation.work.inj (hw.symm.trans hw')
  have hpoll : h.poll t = h.proceed t p [] := by rw [poll, hphase]
  refine .succ ?_
  rw [hpoll, advance, hreloading]
  exact endsWithin_work hreloading hheld hrunning hwithin rounds

/-- **A rebuild at its legs ends**: with each round there is one deed less, and the reload takes
five more. -/
theorem endsWithin_of_working {stage : Stage} {left : List Deed} {later : List Leg}
    (hphase : h.phase t = .working p stage left later) (hidle : h.Idle t)
    (hlater : ∀ leg ∈ later, leg.deeds ≠ []) (rounds : Nat) :
    EndsWithin h t (rounds + 4 + (left.length + (later.flatMap Leg.deeds).length) + 1) := by
  generalize hn : left.length + (later.flatMap Leg.deeds).length = n
  induction n generalizing h p stage left later with
  | zero =>
      obtain rfl : left = [] := List.eq_nil_of_length_eq_zero (by omega)
      obtain rfl : later = [] := by
        refine List.eq_nil_iff_forall_not_mem.mpr fun leg hleg => hlater leg hleg ?_
        have hnone : later.flatMap Leg.deeds = [] := List.eq_nil_of_length_eq_zero (by omega)
        exact List.flatMap_eq_nil_iff.mp hnone leg hleg
      exact endsWithin_of_legs_done hphase hidle rounds
  | succ n ih =>
      cases left with
      | cons deed left =>
          have hpoll : h.poll t = h := by rw [poll, hphase]
          refine endsWithin_of_deed (hpoll.symm ▸ hphase) (hpoll.symm ▸ hidle) fun k hk hkidle => ?_
          exact ih hk hkidle hlater (by rw [List.length_cons] at hn; omega)
      | nil =>
          cases later with
          | nil => simp at hn
          | cons leg later =>
              obtain ⟨deed, left, hdeeds⟩ := List.exists_cons_of_ne_nil (hlater leg (by simp))
              have hpoll : h.poll t = h.proceed t p (leg :: later) := by rw [poll, hphase]
              have hnext : (h.poll t).phase t = .working (p.push leg.stage leg.announcement)
                  leg.stage (deed :: left) later := by
                rw [hpoll, ← hdeeds]
                exact phase_setPhase_self ..
              refine endsWithin_of_deed hnext (hpoll.symm ▸ hidle) fun k hk hkidle => ?_
              refine ih hk hkidle (fun leg' hleg' => hlater leg' (by simp [hleg'])) ?_
              simp only [List.length_nil, List.flatMap_cons, List.length_append, hdeeds,
                List.length_cons] at hn
              omega

/-! ### From the arrival to the answer -/

/-- A new caller is not refused before it comes. -/
theorem refused_run_of_not_isNew (hnew : ¬ h.isNew t) (events : List Event) :
    (h.run events).refused t = h.refused t := by
  induction events generalizing h with
  | nil => rfl
  | cons e events ih =>
      refine (ih fun hnow => hnew (isNew_step hnow)).trans ?_
      rcases (h.steps e).refused t with heq | ⟨cause, ⟨hisnew, -⟩, -⟩
      · exact heq
      · exact absurd hisnew hnew

/-- **A rebuild comes to its end**, with nobody else at the gate and no other rebuild under way. -/
theorem exists_answer_serve (hfree : h.gate.isFree) (hlock : h.rebuilding.holder = none)
    (hnew : h.isNew t) :
    ∃ p, (h.serve t .rebuild).phase t = .ended p ∧
      (h.serve t .rebuild).answer? t = some (.ok (.progress p)) := by
  obtain ⟨hgate, -, hrefused⟩ := isNew_iff.mp hnew
  have hholder : h.gate.lock.holder = none := by simpa [Gate.isFree] using hfree
  have harrive : h.arrive t .rebuild
      = Host.beginRebuild { h with rebuilding := h.rebuilding.request t } t := by
    simp [arrive, hnew, accept, arriveRebuild, Lock.request, hlock, Lock.isHeldBy]
  have hbegun : (h.arrive t .rebuild).phase t = .working
      (.push .empty .sync "Pulling changes...") .sync (h.settings.rebuild.syncCommands.map .run)
      [h.settings.rebuild.cacheLeg, h.settings.rebuild.configureLeg,
        h.settings.rebuild.buildLeg] := by
    rw [harrive]
    exact phase_setPhase_self ..
  have hidle : (h.arrive t .rebuild).Idle t := by
    rw [harrive]
    exact ⟨hholder, hgate⟩
  obtain ⟨p, hp⟩ := endsWithin_of_working hbegun hidle (by
    simp [RebuildSettings.cacheLeg, RebuildSettings.configureLeg, RebuildSettings.buildLeg,
      RebuildSettings.configureCommands, RebuildSettings.buildCommands]) 10
  refine ⟨p, hp, ?_⟩
  have hunrefused : (h.serve t .rebuild).refused t = none := by
    refine (refused_run_of_not_isNew (h.not_isNew_arrive t .rebuild) _).trans ?_
    rw [harrive]
    exact hrefused
  have hended : (h.serve t .rebuild).phase t = .ended p := hp
  simp [answer?, hunrefused, hended]

end Host

end ScriptHost
