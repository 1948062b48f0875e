import ScriptHost.Proofs.Report.Visibility

/-!
# What a message gives away

A status is classified, turned into a failure, and told in a line of its own below the output. For
everything the submitted code is not at fault for this line is one and the same, so that a user who
sees the message, and even one who could see the text before it is cut, learns nothing of which
status it was (`Report.internal_alike`). Of a failure that the code is at fault for the user is told
all.

## Main definitions

* `Category.Internal` — the categories that are no concern of the user.
-/

namespace ScriptHost

namespace Category

/-- Something failed, and the submitted code is not at fault. -/
structure Internal (c : Category) : Prop where
  failed : c.isSuccess = false
  blameless : c.isUserCaused = false

/-- A category is a success, or the fault of the submitted code, or internal. -/
theorem trichotomy (c : Category) : c = .success ∨ c.isUserCaused = true ∨ c.Internal := by
  cases huser : c.isUserCaused with
  | true => exact .inr (.inl rfl)
  | false =>
      by_cases hsuccess : c = .success
      · exact .inl hsuccess
      · exact .inr (.inr ⟨decide_eq_false hsuccess, huser⟩)

/-- The internal categories of statuses are those of every number but zero and three others. -/
theorem internal_ofStatus_iff (status : Int32) :
    (ofStatus status).Internal ↔
      status ≠ 0 ∧ status ≠ -2 ∧ status ≠ -3 ∧ status ≠ -6 := by
  constructor
  · rintro ⟨hfailed, hblameless⟩
    refine ⟨?_, ?_, ?_, ?_⟩ <;> rintro rfl
    · cases hfailed
    all_goals cases hblameless
  · rintro ⟨hzero, htwo, hthree, hsix⟩
    constructor
    · rw [isSuccess, decide_eq_false_iff_not]
      intro hsuccess
      have hstatus := status_ofStatus status
      rw [hsuccess] at hstatus
      exact hzero hstatus.symm
    · have hstatus := status_ofStatus status
      generalize ofStatus status = c at hstatus
      cases c with
      | preprocessingFailed => exact absurd hstatus.symm htwo
      | parsingFailed => exact absurd hstatus.symm hthree
      | executionFailed => exact absurd hstatus.symm hsix
      | success | instanceNull | alreadyRunning | invalidType | unknown _ => rfl

/-- What the user is told of a category; nothing for a success. -/
def told? (c : Category) : Option String :=
  (Failure.ofCategory? c).map Failure.userMessage

theorem told?_success : told? .success = none := rfl

theorem told?_of_userCaused {c : Category} (hc : c.isUserCaused = true) :
    c.told? = some ("Error: " ++ c.message) := by
  have hfailed : c.isSuccess = false := by
    cases c <;> first | rfl | cases hc
  rw [told?, Failure.ofCategory?, hfailed, hc]
  rfl

theorem told?_of_internal {c : Category} (hc : c.Internal) :
    c.told? = some Failure.internalMessage := by
  rw [told?, Failure.ofCategory?, hc.failed, hc.blameless]
  rfl

/-- No two faults of the submitted code have the same text. -/
theorem eq_of_message_eq {c d : Category} (hc : c.isUserCaused = true) (hd : d.isUserCaused = true)
    (h : c.message = d.message) : c = d := by
  cases c <;> cases hc <;> cases d <;> cases hd <;> first | rfl | (revert h; decide)

/-- No text for a fault of the submitted code is the one that stands for all internal failures. -/
theorem error_message_ne_internalMessage {c : Category} (hc : c.isUserCaused = true) :
    "Error: " ++ c.message ≠ Failure.internalMessage := by
  cases c <;> cases hc <;> decide

/-- **What the user is told tells the category**, unless it is internal. -/
theorem told?_eq_iff {c d : Category} : c.told? = d.told? ↔ c = d ∨ c.Internal ∧ d.Internal := by
  constructor
  · intro h
    rcases c.trichotomy with rfl | hc | hc <;> rcases d.trichotomy with rfl | hd | hd
    · exact .inl rfl
    · rw [told?_success, told?_of_userCaused hd] at h
      cases h
    · rw [told?_success, told?_of_internal hd] at h
      cases h
    · rw [told?_success, told?_of_userCaused hc] at h
      cases h
    · rw [told?_of_userCaused hc, told?_of_userCaused hd, Option.some_inj,
        String.append_right_inj] at h
      exact .inl (eq_of_message_eq hc hd h)
    · rw [told?_of_userCaused hc, told?_of_internal hd, Option.some_inj] at h
      exact absurd h (error_message_ne_internalMessage hc)
    · rw [told?_success, told?_of_internal hc] at h
      cases h
    · rw [told?_of_internal hc, told?_of_userCaused hd, Option.some_inj] at h
      exact absurd h.symm (error_message_ne_internalMessage hd)
    · exact .inr ⟨hc, hd⟩
  · rintro (rfl | ⟨hc, hd⟩)
    · rfl
    · rw [told?_of_internal hc, told?_of_internal hd]

end Category

namespace Invocation

variable (lines : List String) {s t : Int32}

/-- **The error line is what the user is told of the category.** The two ways to the line, one for
each kind of failure, make no difference. -/
theorem errorLine?_eq_told? (i : Invocation) : i.errorLine? = i.category.told? := by
  rw [errorLine?, Category.told?, Failure.ofCategory?]
  cases i.category.isSuccess with
  | true => rfl
  | false => cases i.category.isUserCaused <;> rfl

theorem displayText_of_userCaused (hs : (Category.ofStatus s).isUserCaused = true) :
    displayText ⟨lines, s⟩
      = "\n".intercalate lines ++ "\n" ++ ("Error: " ++ (Category.ofStatus s).message) := by
  rw [displayText, errorLine?_eq_told?, category, Category.told?_of_userCaused hs]
  rfl

/-- The text ends in the error line, on a line of its own. -/
theorem displayText_eq_append (i : Invocation) :
    i.displayText = i.text ++ i.errorLine?.elim "" ("\n" ++ ·) := by
  rw [displayText]
  cases i.errorLine? with
  | none => exact String.append_empty.symm
  | some line => exact String.append_assoc

/-- The error line can be read off the text, for one who knows the output. -/
theorem errorLine?_eq_of_displayText_eq {a b : Invocation} (htext : a.text = b.text)
    (h : a.displayText = b.displayText) : a.errorLine? = b.errorLine? := by
  rw [displayText_eq_append, displayText_eq_append, htext, String.append_right_inj] at h
  cases ha : a.errorLine? <;> cases hb : b.errorLine? <;> simp_all

/-- **What the shown text tells of the status**: all, unless it is internal. -/
theorem displayText_eq_iff :
    displayText ⟨lines, s⟩ = displayText ⟨lines, t⟩ ↔
      s = t ∨ (Category.ofStatus s).Internal ∧ (Category.ofStatus t).Internal := by
  have hcategory : Category.ofStatus s = Category.ofStatus t ↔ s = t := by
    refine ⟨fun h => ?_, congrArg Category.ofStatus⟩
    rw [← Category.status_ofStatus s, h, Category.status_ofStatus]
  rw [← hcategory, ← Category.told?_eq_iff]
  constructor
  · intro h
    have hline : errorLine? ⟨lines, s⟩ = errorLine? ⟨lines, t⟩ :=
      errorLine?_eq_of_displayText_eq rfl h
    rwa [errorLine?_eq_told?, errorLine?_eq_told?] at hline
  · intro h
    rw [displayText, displayText, errorLine?_eq_told?, errorLine?_eq_told?, category, category, h]
    rfl

end Invocation

namespace Report

/-- **Internal failures look alike to the user.** Whatever was logged, and for every tag and budget,
all statuses that are internal are shown in the same way, before and after the text is cut. A fault
of the submitted code is shown with the text of its category, and a success with the output alone.
And nothing else is kept from the user: two statuses are shown alike only if both are internal. -/
theorem internal_alike (lines : List String) (tag : Tag) (budget : Nat) :
    let output := "\n".intercalate lines
    let report := fun status => ofInvocation ⟨lines, status⟩ tag budget
    let display := fun status => (report status).invocation.displayText
    (∀ s t, (Category.ofStatus s).Internal → (Category.ofStatus t).Internal →
      display s = display t ∧ (report s).rendered = (report t).rendered) ∧
    (∀ s, (Category.ofStatus s).isUserCaused = true →
      display s = output ++ "\n" ++ ("Error: " ++ (Category.ofStatus s).message)) ∧
    display 0 = output ∧
    ∀ s t, display s = display t →
      s = t ∨ (Category.ofStatus s).Internal ∧ (Category.ofStatus t).Internal := by
  intro output report display
  refine ⟨fun s t hs ht => ?_, fun s hs => ?_, ?_, fun s t h => ?_⟩
  · have hdisplay := (Invocation.displayText_eq_iff lines).mpr (.inr ⟨hs, ht⟩)
    exact ⟨hdisplay, congrArg (Fence.block · tag.fenceLanguage budget) hdisplay⟩
  · exact Invocation.displayText_of_userCaused lines hs
  · exact Invocation.displayText_zero lines
  · exact (Invocation.displayText_eq_iff lines).mp h

/-- A number that means nothing is shown like a module that was busy, and a text that could not be
parsed is told. -/
theorem internal_alike_unknown :
    let report := fun status => ofInvocation ⟨["out"], status⟩ .script 2000
    (Category.ofStatus (-4)).Internal ∧ (Category.ofStatus 77).Internal ∧
      (Category.ofStatus (-3)).isUserCaused = true ∧
      (report (-4)).rendered = (report 77).rendered ∧
      (report (-3)).invocation.displayText
        = "out\nError: VM encountered an error while executing the code: parsing failed" := by
  intro report
  have hbusy := (Category.internal_ofStatus_iff (-4)).mpr (by decide)
  have hunknown := (Category.internal_ofStatus_iff 77).mpr (by decide)
  have huser : (Category.ofStatus (-3)).isUserCaused = true := by decide
  obtain ⟨halike, htold, -, -⟩ := internal_alike ["out"] .script 2000
  exact ⟨hbusy, hunknown, huser, (halike (-4) 77 hbusy hunknown).2, htold (-3) huser⟩

end Report

end ScriptHost
