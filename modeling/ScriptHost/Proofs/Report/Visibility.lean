import ScriptHost.Proofs.Settings.Checks
import ScriptHost.Proofs.Text.Cutting
import ScriptHost.Report

/-!
# Failures in what the user is shown

Whether a user can tell a failure from a success by the message alone. The error line stands at the
end of the text, and it is the text with this line that is cut to the budget; so the line is lost
exactly where the output alone fills the message (`Report.rendered_eq_iff`).
-/

namespace ScriptHost

namespace Invocation

/-- Only the status zero means success. -/
theorem isSuccess_category_iff (i : Invocation) : i.category.isSuccess = true ↔ i.status = 0 := by
  rw [Category.isSuccess, decide_eq_true_iff]
  constructor
  · intro h
    rw [← Category.status_ofStatus i.status]
    exact congrArg Category.status h
  · intro h
    rw [category, h]
    rfl

/-- There is an error line for every status but zero. -/
theorem errorLine?_eq_none_iff (i : Invocation) : i.errorLine? = none ↔ i.status = 0 := by
  rw [← i.isSuccess_category_iff, errorLine?, Failure.ofCategory?]
  cases i.category.isSuccess with
  | true => simp
  | false => cases i.category.isUserCaused <;> simp

/-- After a success the user is shown the output alone. -/
theorem displayText_zero (lines : List String) :
    displayText ⟨lines, 0⟩ = "\n".intercalate lines := rfl

/-- After a failure something follows the output. -/
theorem exists_displayText (lines : List String) {status : Int32} (hstatus : status ≠ 0) :
    ∃ more, more ≠ "" ∧ displayText ⟨lines, status⟩ = "\n".intercalate lines ++ more := by
  cases hline : errorLine? ⟨lines, status⟩ with
  | none => exact absurd ((errorLine?_eq_none_iff _).mp hline) hstatus
  | some line =>
      refine ⟨"\n" ++ line, by simp, ?_⟩
      rw [displayText, hline, ← String.append_assoc]
      rfl

end Invocation

/-- Settings that are accepted leave a message room for both fences and an ellipsis, whatever the
language. -/
theorem Settings.leastSize_le {s : Settings} (hs : s.check = .ok ()) (tag : Tag) :
    Fence.leastSize tag.fenceLanguage ≤ s.execution.outputBudget := by
  have hbudget : minOutputBudget ≤ s.execution.outputBudget := (check_eq_ok_iff.mp hs).budget
  have hleast : Fence.leastSize tag.fenceLanguage ≤ 15 := by
    rw [Tag.fenceLanguage]
    split
    · decide
    · split <;> decide
  exact hleast.trans (le_trans (by decide) hbudget)

namespace Report

/-- **When a failure does not show.** For settings that are accepted and a status other than zero,
the message is that of a success with the same output exactly if the output alone is too long for
the budget, or if it fits to the byte and ends like a text that was cut. -/
theorem rendered_eq_iff (s : Settings) (hs : s.check = .ok ()) (lines : List String) (tag : Tag)
    (status : Int32) (hstatus : status ≠ 0) :
    let output := "\n".intercalate lines
    let budget := s.execution.outputBudget
    (ofInvocation ⟨lines, status⟩ tag budget).rendered
        = (ofInvocation ⟨lines, 0⟩ tag budget).rendered ↔
      budget < Fence.wholeSize output tag.fenceLanguage ∨
        Fence.wholeSize output tag.fenceLanguage = budget ∧
          ∃ kept, output = kept ++ Fence.ellipsis := by
  intro output budget
  have hbudget := Settings.leastSize_le hs tag
  obtain ⟨more, hmore, hdisplay⟩ := Invocation.exists_displayText lines hstatus
  simp only [ofInvocation, hdisplay, Invocation.displayText_zero]
  change Fence.block (output ++ more) tag.fenceLanguage budget
    = Fence.block output tag.fenceLanguage budget ↔ _
  by_cases houtput : output = ""
  · -- The block of an empty text says nothing of a language, so the general lemma is silent on it.
    have hempty : Fence.block output tag.fenceLanguage budget = Fence.emptyBlock := by
      rw [houtput]
      rfl
    have hdiffers : Fence.block (output ++ more) tag.fenceLanguage budget ≠ Fence.emptyBlock := by
      intro h
      have hsize := Fence.utf8ByteSize_block_gt tag.fenceLanguage budget
        (show output ++ more ≠ "" by simp [hmore])
      rw [h] at hsize
      exact Nat.lt_irrefl _ hsize
    have hroom : Fence.wholeSize output tag.fenceLanguage < budget := by
      simp only [Fence.leastSize, Fence.utf8ByteSize_ellipsis] at hbudget
      simp only [Fence.wholeSize, houtput, String.utf8ByteSize_empty]
      omega
    rw [hempty]
    simp only [hdiffers, Nat.not_lt.mpr hroom.le, hroom.ne, false_and, or_self]
  · exact Fence.block_append_eq_iff houtput hmore hbudget

/-- An output that fills its message to the byte and ends in an ellipsis of its own is shown in the
same way after a failure. -/
theorem rendered_eq_iff_ellipsis :
    let s : Settings := { execution := { outputBudget := 32 } }
    let shown := fun status =>
      (ofInvocation ⟨["seventeen bytes: (...)"], status⟩ .script 32).rendered
    s.check = .ok () ∧ (-3 : Int32) ≠ 0 ∧ shown (-3) = shown 0 := by
  intro s shown
  have hcheck : s.check = .ok () := by decide +kernel
  have hstatus : (-3 : Int32) ≠ 0 := by decide
  have hfull : Fence.wholeSize "seventeen bytes: (...)" "sqf" = 32 := by decide
  exact ⟨hcheck, hstatus, (rendered_eq_iff s hcheck _ .script _ hstatus).mpr
    (.inr ⟨hfull, "seventeen bytes: ", rfl⟩)⟩

/-- A failure does not show after an output of 1991 bytes, with settings that are accepted: one byte
more than a message has room for. -/
theorem rendered_of_long_output :
    let s : Settings := {}
    let output := String.ofList (List.replicate 1991 'a')
    let shown := fun status =>
      (ofInvocation ⟨[output], status⟩ .script s.execution.outputBudget).rendered
    s.check = .ok () ∧ (-6 : Int32) ≠ 0 ∧ shown (-6) = shown 0 := by
  intro s output shown
  have hcheck : s.check = .ok () := by decide +kernel
  have hstatus : (-6 : Int32) ≠ 0 := by decide
  obtain ⟨more, -, hdisplay⟩ := Invocation.exists_displayText [output] hstatus
  have hsize : output.utf8ByteSize = 1991 := by
    rw [String.utf8ByteSize_ofList, Fence.utf8Len_replicate]
    rfl
  have hlong : s.execution.outputBudget < Fence.wholeSize output "sqf" := by
    rw [Fence.wholeSize, hsize]
    decide
  have houtput : output ≠ "" := by
    intro h
    simp [h] at hsize
  refine ⟨hcheck, hstatus, ?_⟩
  simp only [shown, ofInvocation, hdisplay, Invocation.displayText_zero]
  exact Fence.block_append_of_lt more houtput hlong

end Report

end ScriptHost
