import ScriptHost.Proofs.Gate.Order

/-!
# Progress at the gate

No gate gets stuck. From whatever point of a run, if those in line look and the worker works, and
nobody comes or goes away any more, the gate is free in the end (`Gate.exists_isFree`): a place in
line is never lost, whoever gave up the places before it.

## Proof idea

The holder of the gate waits or is worked for. If it waits, it enters when it looks; the work that a
worker has is a tree, and comes to its end by induction on it (`Gate.exists_release`). So the line
becomes shorter, until it is empty.
-/

namespace ScriptHost

namespace Gate

variable {σ α : Type} {g : Gate σ α} {t : Ticket} {w : Work σ α}

/-- Nobody comes and nobody goes away in an event. -/
def Event.isCalm : Event σ α → Bool
  | .poll _ | .work => true
  | .arrive .. | .drop _ => false

/-- The work that a worker has comes to its end, and the gate is let go. -/
theorem exists_release (hb : g.busy? = some (t, w)) :
    ∃ n, (g.run (List.replicate n .work)).lock = g.lock.release := by
  induction w generalizing g with
  | done outcome => exact ⟨1, by simp [run, step, work, hb]⟩
  | act change rest ih =>
      have hnext : g.work.busy? = some (t, rest g.state) := by
        obtain ⟨hh, hw⟩ := busy?_eq_some_iff.mp hb
        simp [busy?_eq_some_iff, work, hb, hh, hw, setPhase]
      have hlock : g.work.lock = g.lock := by simp [work, hb]
      obtain ⟨n, hn⟩ := ih g.state hnext
      exact ⟨n + 1, hlock ▸ hn⟩

/-- Whoever is first in line is done with at some time, and the others move up. -/
theorem exists_moved_up (hg : g.Orderly) (hh : g.lock.holder = some t) :
    ∃ more : List (Event σ α), (∀ e ∈ more, e.isCalm) ∧
      (g.run more).lock = g.lock.release := by
  have hworks : ∀ n, ∀ e ∈ List.replicate n (.work : Event σ α), e.isCalm := fun n e he => by
    rw [List.eq_of_mem_replicate he]
    rfl
  have hbusy : ∀ {w : Work σ α}, (g.phase t).work? = some w →
      ∃ more : List (Event σ α), (∀ e ∈ more, e.isCalm) ∧ (g.run more).lock = g.lock.release := by
    intro w hw
    obtain ⟨n, hn⟩ := exists_release (busy?_eq_some_iff.mpr ⟨hh, hw⟩)
    exact ⟨_, hworks n, hn⟩
  have hline : t ∈ g.lock.line := by simp [Lock.line, hh]
  have hpending : (g.phase t).isPending := (hg.agrees.mem_line t).mp hline
  cases hp : g.phase t with
  | queued op =>
      have hpoll : g.poll t = g.enter t op := by simp [poll, hp, Lock.isHeldBy, hh]
      cases op with
      | work w =>
          have hbegun : (g.poll t).busy? = some (t, w) := by
            simp [hpoll, enter, busy?_eq_some_iff, hh, Phase.work?]
          have hlock : (g.poll t).lock = g.lock := by simp [hpoll, enter]
          obtain ⟨n, hn⟩ := exists_release hbegun
          refine ⟨.poll t :: List.replicate n .work, ?_, hlock ▸ hn⟩
          rw [List.forall_mem_cons]
          exact ⟨rfl, hworks n⟩
      | glance f =>
          refine ⟨[.poll t], by simp [Event.isCalm], ?_⟩
          change (g.poll t).lock = _
          simp [hpoll, enter]
  | running w | orphaned w => exact hbusy (by rw [hp]; rfl)
  | absent | finished _ | answered _ | abandoned => simp [hp, Phase.isPending] at hpending

/-- **No gate gets stuck**: callers that look and a worker that works make it free. -/
theorem exists_isFree (hg : g.Orderly) :
    ∃ more : List (Event σ α), (∀ e ∈ more, e.isCalm) ∧ (g.run more).isFree := by
  -- By induction on the line: whoever is in front is done with, and the others move up.
  generalize hline : g.lock.line = line
  induction line generalizing g with
  | nil =>
      have hholder := Lock.holder_eq_head? hg.agrees.proper
      exact ⟨[], by simp, by simp [run, isFree, hholder, hline]⟩
  | cons t rest ih =>
      have hh : g.lock.holder = some t := by
        rw [Lock.holder_eq_head? hg.agrees.proper, hline]
        rfl
      obtain ⟨more, hcalm, hlock⟩ := exists_moved_up hg hh
      have hrest : (g.run more).lock.line = rest := by
        rw [hlock]
        exact (List.cons.inj ((Lock.line_release hh).symm.trans hline)).2
      obtain ⟨more', hcalm', hfree⟩ := ih (hg.run more) hrest
      refine ⟨more ++ more', List.forall_mem_append.mpr ⟨hcalm, hcalm'⟩, ?_⟩
      rwa [run, List.foldl_append]

end Gate

end ScriptHost
