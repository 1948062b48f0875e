import Mathlib.Tactic.SplitIfs
import ScriptHost.Settings.Basic

/-!
# What settings that are accepted promise

The check of the settings goes through five tests and stops at the first that fails. What it accepts
has passed them all (`Settings.check_eq_ok_iff`); everything that is proved of accepted settings
goes back to that.
-/

namespace ScriptHost

namespace Settings

variable {s : Settings}

/-- What accepted settings are like. -/
structure Accepted (s : Settings) : Prop where
  timeout : s.timeoutInRange = true
  budget : minOutputBudget ≤ s.execution.outputBudget
  workers : s.execution.maxWorkers ≠ 0
  jobs : s.rebuild.jobs ≠ 0
  language : ∃ tag, Tag.ofLanguage s.execution.defaultLanguage = .ok tag

/-- **The check accepts exactly these settings.** -/
theorem check_eq_ok_iff : s.check = .ok () ↔ s.Accepted := by
  constructor
  · intro h
    rw [check] at h
    split_ifs at h with htimeout hbudget hworkers hjobs
    refine ⟨by simpa using htimeout, Nat.not_lt.mp hbudget, hworkers, hjobs, ?_⟩
    cases hlanguage : Tag.ofLanguage s.execution.defaultLanguage with
    | ok tag => exact ⟨tag, rfl⟩
    | error e =>
        rw [hlanguage] at h
        cases h
  · rintro ⟨htimeout, hbudget, hworkers, hjobs, tag, hlanguage⟩
    rw [check, if_neg (by simpa using htimeout), if_neg (Nat.not_lt.mpr hbudget), if_neg hworkers,
      if_neg hjobs, hlanguage]
    rfl

/-- The default timeout of accepted settings is greater than zero, and it is the duration that it is
rounded to. -/
theorem Accepted.ofSeconds? (h : s.Accepted) :
    s.execution.defaultTimeout.isPositive = true ∧
      Duration.ofSeconds? s.execution.defaultTimeout = some s.execution.timeout := by
  obtain ⟨hpositive, hsome⟩ := Bool.and_eq_true_iff.mp h.timeout
  obtain ⟨d, hd⟩ := Option.isSome_iff_exists.mp hsome
  exact ⟨hpositive, by rw [ExecutionSettings.timeout, hd, Option.getD_some]⟩

end Settings

end ScriptHost
