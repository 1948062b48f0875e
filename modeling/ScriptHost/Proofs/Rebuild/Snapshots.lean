import Mathlib.Data.List.Basic
import ScriptHost.Rebuild.Plan

/-!
# Snapshots of a progress

The caller of a rebuild is shown its log after every announcement. While the rebuild is running,
what it was shown is the history of the log, one snapshot for each entry (`Progress.Running`); from
the last snapshot, which has the outcome, all of it can be read off (`Progress.Recounts`).

## Main definitions

* `Progress.history` — the snapshots of a log that has grown entry by entry.
* `Progress.Running` — what was shown of a rebuild that has come to a stage.
* `Progress.Recounts` — what was shown of a rebuild that has ended.

## Invariant

Entries are only added at the end, and each under a stage that is no earlier than the last: it is
enough to know that no entry is of a stage after the current one.
-/

namespace ScriptHost

namespace Stage

variable {a b c : Stage}

/-- Stages are in the order of their ranks. -/
theorem le_iff_rank : a ≤ b ↔ a.rank ≤ b.rank := Iff.rfl

/-- A stage does not come after itself. -/
theorem le_refl (a : Stage) : a ≤ a := Nat.le_refl a.rank

/-- What comes after a stage comes after those before it. -/
theorem le_trans (hab : a ≤ b) (hbc : b ≤ c) : a ≤ c := Nat.le_trans hab hbc

/-- The first stage is before all others. -/
theorem sync_le (a : Stage) : .sync ≤ a := by
  cases a <;> simp [le_iff_rank, rank]

/-- The reload is the last stage. -/
theorem le_reload (a : Stage) : a ≤ .reload := by
  cases a <;> simp [le_iff_rank, rank]

end Stage

namespace RebuildSettings

/-- The legs of a plan are in the order of their stages. -/
theorem ordered_plan (s : RebuildSettings) :
    (s.plan.map Leg.stage).Pairwise fun a b => a ≤ b := by
  simp [plan, syncLeg, cacheLeg, configureLeg, buildLeg, Stage.le_iff_rank, Stage.rank]

end RebuildSettings

namespace Progress

variable {p : Progress} {shown : List Progress} {stage next : Stage}

/-- The snapshots of a log that has grown entry by entry and has no outcome. -/
def history (p : Progress) : List Progress :=
  (List.range p.entries.length).map fun k => ⟨p.entries.take (k + 1), none⟩

/-- There is a snapshot for each entry. -/
theorem length_history (p : Progress) : p.history.length = p.entries.length := by
  simp [history]

/-- The snapshot for an entry has the entries up to it, and no outcome. -/
theorem getElem_history (p : Progress) (k : Nat) (hk : k < p.history.length) :
    p.history[k] = (⟨p.entries.take (k + 1), none⟩ : Progress) := by
  simp [history]

/-- With an entry the history grows by one snapshot, which is the log with that entry. -/
theorem history_push (hp : p.outcome = none) (stage : Stage) (message : String) :
    (p.push stage message).history = p.history ++ [p.push stage message] := by
  have hlast : p.push stage message = ⟨p.entries ++ [⟨stage, message⟩], none⟩ := by
    rw [push, hp]
  simp only [history, hlast, List.length_append, List.length_singleton, List.range_succ,
    List.map_append, List.map_singleton]
  congr 1
  · refine List.map_congr_left fun k hk => ?_
    rw [List.take_append_of_le_length (List.mem_range.mp hk)]
  · rw [List.take_of_length_le (by simp)]

/-- What was shown of a rebuild that has come to a stage and has not ended. -/
structure Running (p : Progress) (stage : Stage) (shown : List Progress) : Prop where
  shown_eq : shown = p.history
  unfinished : p.outcome = none
  ordered : p.entries.Pairwise fun a b => a.stage ≤ b.stage
  /-- No entry is of a later stage. -/
  reached : ∀ e ∈ p.entries, e.stage ≤ stage

/-- What was shown of a rebuild that has ended with this progress. -/
structure Recounts (p : Progress) (shown : List Progress) : Prop where
  /-- There is one snapshot for each entry. -/
  length_eq : shown.length = p.entries.length
  /-- Each has the entries up to its own. -/
  entries_eq : ∀ (k : Nat) (hk : k < shown.length), shown[k].entries = p.entries.take (k + 1)
  /-- All but the last have no outcome. -/
  unfinished : ∀ (k : Nat) (hk : k < shown.length), k + 1 < shown.length → shown[k].outcome = none
  /-- The last is the progress itself. -/
  last : shown.getLast? = some p
  finished : p.outcome.isSome
  /-- The stages do not go back. -/
  ordered : p.entries.Pairwise fun a b => a.stage ≤ b.stage

namespace Running

/-- Before the first announcement nothing is shown. -/
theorem empty : Running .empty .sync [] :=
  ⟨rfl, rfl, .nil, fun _ he => absurd he List.not_mem_nil⟩

/-- The entries stay in order when one of the current or of a later stage is added. -/
theorem ordered_push (hp : p.Running stage shown) (hnext : stage ≤ next) (message : String) :
    (p.push next message).entries.Pairwise fun a b => a.stage ≤ b.stage := by
  refine List.pairwise_append.mpr ⟨hp.ordered, List.pairwise_singleton _ _, ?_⟩
  intro a ha b hb
  rw [List.mem_singleton.mp hb]
  exact Stage.le_trans (hp.reached a ha) hnext

/-- An announcement is shown at once. -/
theorem push (hp : p.Running stage shown) (hnext : stage ≤ next) (message : String) :
    (p.push next message).Running next (shown ++ [p.push next message]) := by
  refine ⟨?_, hp.unfinished, hp.ordered_push hnext message, ?_⟩
  · rw [history_push hp.unfinished, hp.shown_eq]
  · intro e he
    rcases List.mem_append.mp he with hold | hnew
    · exact Stage.le_trans (hp.reached e hold) hnext
    · rw [List.mem_singleton.mp hnew]
      exact Stage.le_refl next

/-- **The last announcement is shown with the outcome.** -/
theorem finish (hp : p.Running stage shown) (hnext : stage ≤ next) (message : String)
    (outcome : RebuildOutcome) :
    ((p.push next message).finish outcome).Recounts
      (shown ++ [(p.push next message).finish outcome]) := by
  have hlength : shown.length = p.entries.length := by rw [hp.shown_eq, length_history]
  constructor
  case length_eq => simp [hlength, Progress.push, Progress.finish]
  case entries_eq =>
    intro k hk
    rcases Nat.lt_or_ge k shown.length with hbefore | hlast
    · have hsnapshot : shown[k] = (⟨p.entries.take (k + 1), none⟩ : Progress) := by
        simp only [hp.shown_eq, getElem_history]
      rw [List.getElem_append_left hbefore, hsnapshot]
      exact (List.take_append_of_le_length (by omega)).symm
    · obtain rfl : k = shown.length := by
        rw [List.length_append, List.length_singleton] at hk
        omega
      rw [List.getElem_concat_length rfl]
      exact (List.take_of_length_le (by simp [hlength, Progress.push, Progress.finish])).symm
  case unfinished =>
    intro k hk hbefore
    rw [List.length_append, List.length_singleton] at hbefore
    have hshown : k < shown.length := by omega
    rw [List.getElem_append_left hshown]
    simp only [hp.shown_eq, getElem_history]
  case last => exact List.getLast?_concat
  case finished => rfl
  case ordered => exact hp.ordered_push hnext message

end Running

end Progress

end ScriptHost
