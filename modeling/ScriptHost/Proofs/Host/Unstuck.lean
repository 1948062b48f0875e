import Mathlib.Data.List.Perm.Subperm
import ScriptHost.Proofs.Gate.Progress
import ScriptHost.Proofs.Host.Attempts
import ScriptHost.Proofs.Host.Quiet
import ScriptHost.Proofs.Host.Settling

/-!
# No host gets stuck

From whatever point of a run, if callers look and workers work, and nobody comes or goes away any
more, nothing is under way in the end (`Host.Reachable.comes_quiet`), and whoever has come and has
not gone away has an answer (`Host.Reachable.comes_answer`). No failure, no panic and no caller that
goes away leaves the gate or the lock of the rebuilds behind.

## Proof idea

The gate becomes free, since a host looks there for all who wait (`Host.Reachable.comes_isFree`). At
a free gate the rebuild with the lock does one leg after the other, and its reload. So the line of
the rebuilds becomes shorter, until it is empty.

## Main definitions

* `Host.Event.isCalm` — nobody comes and nobody goes away in an event.
* `Host.Comes` — calm events lead to something.
* `Host.Attends` — a caller has come, and has not gone away.
-/

namespace ScriptHost

namespace Gate

variable {σ α : Type} {g : Gate σ α} {t : Ticket}

/-- The caller waits for the gate, for its work or for the result of it. -/
def Phase.isAttended : Phase σ α → Bool
  | .queued _ | .running _ | .finished _ => true
  | _ => false

/-- Nobody waits who has not come. -/
theorem Phase.Follows.isAttended {e : Event σ α} {p q : Phase σ α} (h : Follows t e p q)
    (hp : p.isAttended = false) (he : ∀ op, e ≠ .arrive t op) : q.isAttended = false := by
  cases h with
  | stays _ => exact hp
  | waits op => exact absurd rfl (he op)
  | begins h =>
      rcases h with ⟨rfl, -⟩ | ⟨-, rfl⟩
      · exact absurd rfl (he _)
      · simp [Phase.isAttended] at hp
  | glances _ _ | collects _ => rfl
  | proceeds _ _ | completes _ _ =>
      cases p <;> simp_all [Phase.isAttended, work?, proceed, complete]
  | leaves _ hgone _ => cases q <;> simp_all [Phase.isAttended, Phase.isGone]

/-- Whoever went away waits no longer. -/
theorem not_isAttended_drop (g : Gate σ α) (t : Ticket) :
    ((g.drop t).phase t).isAttended = false := by
  cases hp : g.phase t <;> simp [drop, hp, Phase.isAttended]

/-- Nothing happens when somebody looks who does not wait. -/
theorem poll_of_not_isAttended (ht : (g.phase t).isAttended = false) : g.poll t = g := by
  cases hp : g.phase t <;> simp_all [poll, Phase.isAttended]

/-- Whoever has come and stays finds its answer once it is not in line any more. -/
theorem exists_answer_poll (hcame : g.phase t ≠ .absent) (hhere : (g.phase t).isGone = false)
    (hidle : (g.phase t).isPending = false) : ∃ r, (g.poll t).answer? t = some r := by
  cases hp : g.phase t with
  | finished r | answered r => exact ⟨r, by simp [poll, answer?, hp]⟩
  | absent => exact absurd hp hcame
  | queued _ | running _ | orphaned _ => simp [hp, Phase.isPending] at hidle
  | abandoned => simp [hp, Phase.isGone] at hhere

end Gate

namespace Host

variable {W : Type} {h : Host W} {t u : Ticket} {p : Progress} {e : Event} {more : List Event}
  {P Q : Host W → Prop}

/-! ### Calm events -/

/-- Nobody comes and nobody goes away in an event. -/
def Event.isCalm : Event → Bool
  | .poll _ | .work | .advance _ => true
  | .arrive .. | .drop _ => false

/-- Calm events lead to something. -/
def Comes (h : Host W) (P : Host W → Prop) : Prop :=
  ∃ more, (∀ e ∈ more, e.isCalm) ∧ P (h.run more)

namespace Comes

theorem now (hP : P h) : h.Comes P :=
  ⟨[], by simp, hP⟩

theorem step (he : e.isCalm) (hc : (h.step e).Comes P) : h.Comes P := by
  obtain ⟨more, hcalm, hP⟩ := hc
  exact ⟨e :: more, List.forall_mem_cons.mpr ⟨he, hcalm⟩, hP⟩

theorem trans (hc : h.Comes P)
    (hnext : ∀ more, (∀ e ∈ more, e.isCalm) → P (h.run more) → (h.run more).Comes Q) :
    h.Comes Q := by
  obtain ⟨more, hcalm, hP⟩ := hc
  obtain ⟨more', hcalm', hQ⟩ := hnext more hcalm hP
  exact ⟨more ++ more', List.forall_mem_append.mpr ⟨hcalm, hcalm'⟩, (run_append h ..).symm ▸ hQ⟩

end Comes

/-- Nobody gets into line for a rebuild in a calm event. -/
theorem isPending_of_calm (hcalm : ∀ e ∈ more, e.isCalm) (hu : ((h.run more).phase u).isPending) :
    (h.phase u).isPending := by
  induction more generalizing h with
  | nil => exact hu
  | cons e more ih =>
      rw [List.forall_mem_cons] at hcalm
      have hnext := ih hcalm.2 hu
      rcases (h.steps e).rebuilds.moves u with heq | ⟨-, rfl, -⟩ | ⟨hne, -, hover⟩
      · rwa [← heq]
      · simp [Event.isCalm] at hcalm
      · have hnot := mt hover (mt Phase.not_isPending_of_isOver (by simpa using hnext))
        cases hp : h.phase u <;> simp_all [Phase.isPending, Phase.isOver]

/-- After calm events the line of the rebuilds is no longer than a list of those that are left of
it. -/
theorem InLine.length_line_le (hline : InLine h.phase h.rebuilding) (hcalm : ∀ e ∈ more, e.isCalm)
    {line : List Ticket} (hleft : ∀ u ∈ h.rebuilding.line,
      ((h.run more).phase u).isPending → u ∈ line) :
    (h.run more).rebuilding.line.length ≤ line.length := by
  have hafter := inLine_run hline more
  refine (List.subperm_of_subset hafter.nodup_line fun u hu => ?_).length_le
  have hpending := (hafter.mem_line u).mp hu
  exact hleft u ((hline.mem_line u).mpr (isPending_of_calm hcalm hpending)) hpending

/-! ### Who is there -/

/-- A caller has come, and has not gone away. -/
structure Attends (h : Host W) (t : Ticket) : Prop where
  came : ¬ h.isNew t
  gate : (h.gate.phase t).isGone = false
  rebuild : (h.phase t).isGone = false

/-- A caller is gone from the gate only if it goes away. -/
theorem gate_isGone_step (hgone : ((h.step e).gate.phase t).isGone) :
    (h.gate.phase t).isGone ∨ h.gateEvent? e = some (.drop t) := by
  rw [(h.exactly e).gate, gateAfter] at hgone
  cases hg : h.gateEvent? e with
  | none =>
      rw [hg] at hgone
      exact .inl hgone
  | some e' =>
      rw [hg] at hgone
      exact (Gate.follows_step h.gate e' t).isGone hgone |>.imp id (congrArg some)

/-- Whoever has come attends after every event but its own going away. -/
theorem attends_step (hgate : (h.gate.phase t).isGone = false)
    (hphase : (h.phase t).isGone = false) (hcame : ¬ (h.step e).isNew t) (he : e ≠ .drop t) :
    (h.step e).Attends t where
  came := hcame
  gate := by
    by_contra hgone
    rcases gate_isGone_step (by simpa using hgone) with hbefore | hdrop
    · simp [hgate] at hbefore
    · exact he (gateEvent?_drop hdrop).1
  rebuild := by
    by_contra hgone
    rcases (h.steps e).rebuilds.isGone (by simpa using hgone) with hbefore | rfl
    · simp [hphase] at hbefore
    · exact he rfl

/-- Whoever comes attends. -/
theorem attends_arrive (hnew : h.isNew t) (d : Demand) : (h.arrive t d).Attends t := by
  obtain ⟨hgate, hphase, -⟩ := isNew_iff.mp hnew
  exact attends_step (e := .arrive t d) (by rw [hgate]; rfl) (by rw [hphase]; rfl)
    (h.not_isNew_arrive t d) (by simp)

/-- Whoever has come attends as long as it does not go away. -/
theorem Attends.run (ht : h.Attends t) (hstays : .drop t ∉ more) : (h.run more).Attends t := by
  induction more generalizing h with
  | nil => exact ht
  | cons e more ih =>
      rw [List.mem_cons, not_or] at hstays
      have hcame : ¬ (h.step e).isNew t := fun hnew => ht.came (isNew_step hnew)
      exact ih (attends_step ht.gate ht.rebuild hcame (Ne.symm hstays.1)) hstays.2

theorem Attends.run_of_calm (ht : h.Attends t) (hcalm : ∀ e ∈ more, e.isCalm) :
    (h.run more).Attends t :=
  ht.run fun hmem => by simpa [Event.isCalm] using hcalm _ hmem

/-- Whoever goes away from a host goes away from its gate, unless its rebuild is over. -/
theorem drop_cases (h : Host W) (t : Ticket) :
    (h.phase t).isOver ∧ h.gateEvent? (.drop t) = none ∧ h.step (.drop t) = h ∨
      h.gateEvent? (.drop t) = some (.drop t) ∧
        ((h.step (.drop t)).phase t = .absent ∨ ((h.step (.drop t)).phase t).isGone) := by
  cases hp : h.phase t with
  | ended _ | abandoned | orphaned _ =>
      exact .inl (by simp [Phase.isOver, gateEvent?, step, drop, hp])
  | absent => exact .inr (by simp [gateEvent?, step, drop, hp])
  | waiting | working _ _ _ _ | stopped _ _ _ | reloading _ =>
      exact .inr (by simp [gateEvent?, step, drop, hp, Phase.isGone, setPhase])

/-- A host and its gate agree on whether the caller of a rebuild went away. -/
structure Agree (h : Host W) (t : Ticket) : Prop where
  left : (h.phase t).isGone → (h.gate.phase t).isAttended = false
  gone : (h.gate.phase t).isGone → h.phase t = .absent ∨ (h.phase t).isGone

theorem Agree.left_step (ha : h.Agree t) (hgone : ((h.step e).phase t).isGone) :
    ((h.step e).gate.phase t).isAttended = false := by
  rw [(h.exactly e).gate, gateAfter]
  rcases (h.steps e).rebuilds.isGone hgone with hbefore | rfl
  · cases hg : h.gateEvent? e with
    | none => exact ha.left hbefore
    | some e' =>
        refine (Gate.follows_step h.gate e' t).isAttended (ha.left hbefore) ?_
        rintro op rfl
        rcases gateEvent?_arrive hg with ⟨_, -, hnew, -⟩ | ⟨-, ⟨_, _, hphase⟩, -⟩
        · simp [(isNew_iff.mp hnew).2.1, Phase.isGone] at hbefore
        · simp [hphase, Phase.isGone] at hbefore
  · rcases h.drop_cases t with ⟨-, hg, heq⟩ | ⟨hg, -⟩
    · rw [hg]
      exact ha.left (heq ▸ hgone)
    · rw [hg]
      exact h.gate.not_isAttended_drop t

theorem Agree.gone_step (ha : h.Agree t) (hgone : ((h.step e).gate.phase t).isGone) :
    (h.step e).phase t = .absent ∨ ((h.step e).phase t).isGone := by
  have hbefore : (h.gate.phase t).isGone →
      (h.step e).phase t = .absent ∨ ((h.step e).phase t).isGone := by
    intro hgone
    refine (ha.gone hgone).imp (fun habsent => ?_) fun hphase => isGone_step hphase e
    refine (h.steps e).rebuilds.absent habsent fun _ hnew => ?_
    simp [(isNew_iff.mp hnew).1, Gate.Phase.isGone] at hgone
  rcases gate_isGone_step hgone with hwas | hdrop
  · exact hbefore hwas
  · obtain ⟨rfl, hover⟩ := gateEvent?_drop hdrop
    rcases h.drop_cases t with ⟨hno, -⟩ | ⟨-, hafter⟩
    · simp [hover] at hno
    · exact hafter

theorem Reachable.agree (hreach : h.Reachable) (t : Ticket) : h.Agree t := by
  obtain ⟨settings, moduleConfig, platform, world, events, rfl⟩ := hreach
  have hfirst : (init settings moduleConfig platform world).Agree t :=
    ⟨by simp [init, Phase.isGone], fun _ => .inl rfl⟩
  generalize init settings moduleConfig platform world = h at hfirst
  induction events generalizing h with
  | nil => exact hfirst
  | cons e events ih => exact ih _ ⟨hfirst.left_step, hfirst.gone_step⟩

/-- Every rebuild stands somewhere on its course. -/
theorem Reachable.exists_course (hreach : h.Reachable) (t : Ticket) :
    ∃ s tried, Course s tried (h.phase t) (h.gate.phase t) := by
  obtain ⟨settings, moduleConfig, platform, world, events, rfl⟩ := hreach
  have hfirst : Course settings.rebuild [] ((init settings moduleConfig platform world).phase t)
      ((init settings moduleConfig platform world).gate.phase t) := .absent
  exact ⟨_, _, hfirst.run rfl events⟩

/-! ### The gate -/

/-- A host looks at its gate for all who wait there. -/
theorem Reachable.gate_poll (hreach : h.Reachable) (t : Ticket) :
    (h.poll t).gate = h.gate.poll t ∨ h.gate.poll t = h.gate := by
  have hleft := (hreach.agree t).left
  obtain ⟨s, tried, hc⟩ := hreach.exists_course t
  have hnobody : (h.gate.phase t).isAttended = false → h.gate.poll t = h.gate :=
    Gate.poll_of_not_isAttended
  cases hp : h.phase t with
  | absent => exact .inl (by simp only [poll, hp])
  | reloading p =>
      refine .inl ?_
      simp only [poll, hp, pollReload]
      split <;> rfl
  | abandoned | orphaned _ => exact .inr (hnobody (hleft (by rw [hp]; rfl)))
  | waiting | working _ _ _ _ | stopped _ _ _ | ended _ =>
      refine .inr (hnobody ?_)
      rw [hp] at hc
      generalize h.gate.phase t = g at hc
      cases hc <;> rfl

/-- The gate becomes free. -/
theorem Reachable.comes_isFree (hreach : h.Reachable) : h.Comes fun k => k.gate.isFree := by
  obtain ⟨more, hcalm, hfree⟩ := Gate.exists_isFree hreach.orderly
  induction more generalizing h with
  | nil => exact .now hfree
  | cons e more ih =>
      rw [List.forall_mem_cons] at hcalm
      have hrest : ∀ k : Host W, k.Reachable → k.gate = h.gate.step e →
          k.Comes fun k => k.gate.isFree := fun k hk heq => ih hk hcalm.2 (heq ▸ hfree)
      cases e with
      | arrive _ _ | drop _ => simp [Gate.Event.isCalm] at hcalm
      | work => exact .step (e := .work) rfl (hrest _ (hreach.run [.work]) rfl)
      | poll u =>
          rcases hreach.gate_poll u with heq | heq
          · exact .step (e := .poll u) rfl (hrest _ (hreach.run [.poll u]) heq)
          · exact hrest h hreach heq.symm

/-! ### A rebuild with the lock -/

theorem comes_of_stopped {stage : Stage} {cause : Failure}
    (hphase : h.phase t = .stopped p stage cause) :
    h.Comes fun k => (k.phase t).isPending = false := by
  refine .step (e := .poll t) rfl (.now ?_)
  simp [Host.step, poll, hphase, conclude, Phase.isPending]

/-- A reload that has its result ends the rebuild. -/
theorem comes_of_finished {r : Except Failure Reply} (hphase : h.phase t = .reloading p)
    (hr : (h.gate.poll t).answer? t = some r) :
    h.Comes fun k => (k.phase t).isPending = false := by
  refine .step (e := .poll t) rfl (.now ?_)
  cases r <;> simp [Host.step, poll, hphase, pollReload, hr, conclude, Phase.isPending]

/-- A reload comes to its end, by induction on what the worker has left to do. -/
theorem comes_of_reload {w : Work (Native W) Reply} (hphase : h.phase t = .reloading p)
    (hheld : h.gate.lock.holder = some t) (hgate : h.gate.phase t = .running w) :
    h.Comes fun k => (k.phase t).isPending = false := by
  have hstill : h.work.phase t = .reloading p := hphase
  induction w generalizing h with
  | done o =>
      refine .step (e := .work) rfl (comes_of_finished (r := o.toExcept) hstill ?_)
      simp [Host.step, Gate.poll, work_of_done hheld hgate, Gate.answer?]
  | act change rest ih =>
      obtain ⟨hheld', hrunning⟩ := work_of_act hheld hgate
      exact .step (e := .work) rfl (ih _ hstill hheld' hrunning hstill)

/-- A leg comes to its end if the legs after it do. -/
theorem comes_of_working {stage : Stage} {left : List Deed} {later : List Leg}
    (hphase : h.phase t = .working p stage left later) (hidle : h.Idle t)
    (hlater : ∀ k : Host W, k.Idle t →
      (k.proceed t p later).Comes fun k => (k.phase t).isPending = false) :
    h.Comes fun k => (k.phase t).isPending = false := by
  induction left generalizing h with
  | nil =>
      refine .step (e := .poll t) rfl ?_
      rw [Host.step, poll, hphase]
      exact hlater h hidle
  | cons deed left ih =>
      refine .step (e := .advance t) rfl ?_
      rcases advance_of_working hphase hidle with ⟨hnext, hidle'⟩ | ⟨cause, hstopped, -⟩
      · exact ih hnext hidle'
      · exact comes_of_stopped hstopped

/-- **A rebuild comes to its end** from whichever leg is next. -/
theorem comes_of_proceed (hidle : h.Idle t) (p : Progress) (legs : List Leg) :
    (h.proceed t p legs).Comes fun k => (k.phase t).isPending = false := by
  induction legs generalizing h p with
  | nil =>
      obtain ⟨w, -, hreloading, hheld, hrunning⟩ := proceed_nil_of_idle hidle p
      exact comes_of_reload hreloading hheld hrunning
  | cons leg later ih =>
      exact comes_of_working (phase_setPhase_self ..) hidle fun k hk => ih hk _

/-- Whoever waits or is at a leg has not been at the gate. -/
theorem Course.gate_eq_absent {s : RebuildSettings} {tried : List (Deed × Except Failure Unit)}
    {p : Phase} {g : Gate.Phase (Native W) Reply} (hc : Course s tried p g) (hp : p.isPending)
    (hreload : ∀ q, p ≠ .reloading q) : g = .absent := by
  cases hc <;> simp_all [Phase.isPending]

/-- Whoever has the lock of the rebuilds is done with, if nobody is at the gate. -/
theorem Reachable.comes_over (hreach : h.Reachable) (hfree : h.gate.isFree)
    (hheld : h.rebuilding.holder = some t) :
    h.Comes fun k => (k.phase t).isPending = false := by
  obtain ⟨s, tried, hc⟩ := hreach.exists_course t
  have hidle : (h.phase t).isPending → (∀ q, h.phase t ≠ .reloading q) → h.Idle t :=
    fun hpending hreload => ⟨by simpa [Gate.isFree] using hfree, hc.gate_eq_absent hpending hreload⟩
  cases hp : h.phase t with
  | absent | ended _ | abandoned | orphaned _ => exact .now (by rw [hp]; rfl)
  | stopped _ _ _ => exact comes_of_stopped hp
  | waiting =>
      refine .step (e := .poll t) rfl ?_
      have hbegins : h.step (.poll t) = h.proceed t .empty h.settings.rebuild.plan := by
        simp [Host.step, poll, hp, Lock.isHeldBy, hheld, beginRebuild]
      rw [hbegins]
      exact comes_of_proceed (hidle (by rw [hp]; rfl) (by simp [hp])) _ _
  | working p stage left later =>
      refine comes_of_working hp (hidle (by rw [hp]; rfl) (by simp [hp])) fun k hk => ?_
      exact comes_of_proceed hk _ _
  | reloading p =>
      have hgone := (hreach.agree t).gone
      have hidle := hreach.orderly.not_isPending_of_isFree hfree t
      rw [hp] at hc hgone
      obtain ⟨r, hr⟩ := Gate.exists_answer_poll (g := h.gate) (t := t) (by cases hc; assumption)
        (by simpa [Phase.isGone] using hgone) (by simpa using hidle)
      exact comes_of_finished hp hr

/-! ### Rest -/

/-- **No host gets stuck**: nothing is under way in the end. -/
theorem Reachable.comes_quiet (hreach : h.Reachable) : h.Comes Quiet := by
  -- By induction on the line of the rebuilds: whoever has the lock is done with.
  generalize hn : h.rebuilding.line.length = n
  induction n using Nat.strong_induction_on generalizing h with
  | h n ih =>
      refine hreach.comes_isFree.trans fun more hcalm hfree => ?_
      have hle := hreach.inLine.length_line_le hcalm fun u hu _ => hu
      have hk := hreach.run more
      generalize h.run more = k at hfree hle hk
      cases hholder : k.rebuilding.holder with
      | none =>
          refine .now ⟨fun u => by simpa using hk.orderly.not_isPending_of_isFree hfree u, ?_⟩
          intro u
          have hempty : k.rebuilding.line = [] := by
            simp [Lock.line, hholder, hk.inLine.proper hholder]
          simpa [hempty] using hk.inLine.mem_line u
      | some t =>
          refine (hk.comes_over hfree hholder).trans fun more' hcalm' hover => ?_
          have hline : k.rebuilding.line = t :: k.rebuilding.waiting := by
            simp [Lock.line, hholder]
          have hlt : (k.run more').rebuilding.line.length ≤ k.rebuilding.waiting.length := by
            refine hk.inLine.length_line_le hcalm' fun u hu hpending => ?_
            rw [hline, List.mem_cons] at hu
            refine hu.resolve_left ?_
            rintro rfl
            simp [hover] at hpending
          rw [hline, List.length_cons] at hle
          exact ih _ (by omega) (hk.run more') rfl

/-- **Everybody is answered** who has come and has not gone away. -/
theorem Reachable.comes_answer (hreach : h.Reachable) (ht : h.Attends t) :
    h.Comes fun k => ∃ r, k.answer? t = some r := by
  refine hreach.comes_quiet.trans fun more hcalm hquiet => ?_
  have ht := ht.run_of_calm hcalm
  have hk := hreach.run more
  generalize h.run more = k at hquiet ht hk
  cases hrefused : k.refused t with
  | some cause => exact .now ⟨_, by simp [answer?, hrefused]; rfl⟩
  | none =>
      cases hp : k.phase t with
      | ended p => exact .now ⟨_, by simp [answer?, hrefused, hp]; rfl⟩
      | absent =>
          have hcame : k.gate.phase t ≠ .absent := fun hgate =>
            ht.came (isNew_iff.mpr ⟨hgate, hp, hrefused⟩)
          obtain ⟨r, hr⟩ := Gate.exists_answer_poll hcame ht.gate (hquiet.gate t)
          refine .step (e := .poll t) rfl (.now ⟨r, ?_⟩)
          simp [Host.step, poll, answer?, hrefused, hp, hr]
      | waiting | working _ _ _ _ | stopped _ _ _ | reloading _ =>
          have hpending := hquiet.rebuilds t
          simp [hp, Phase.isPending] at hpending
      | abandoned | orphaned _ =>
          have hgone := ht.rebuild
          simp [hp, Phase.isGone] at hgone

end Host

end ScriptHost
