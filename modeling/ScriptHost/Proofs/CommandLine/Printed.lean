import ScriptHost.CommandLine.Run
import ScriptHost.Proofs.Json.Layout

/-!
# Reports as they are printed

A report that is printed as a document can be read again: the text stands for one value, and that
has the fields of the report in their order (`CommandLine.printed_report_lossless`). Nothing of a
report is lost, so two reports that differ are printed as different texts.

## Main definitions

* `CommandLine.shownCategory` — what stands for the meaning of a status.
-/

namespace ScriptHost.CommandLine

/-- The names of the statuses that have one. -/
def categoryNames : List (Int32 × String) :=
  [(0, "Success"), (-1, "InstanceNull"), (-2, "PreprocessingFailed"), (-3, "ParsingFailed"),
    (-4, "AlreadyRunning"), (-5, "InvalidType"), (-6, "ExecutionFailed")]

/-- What stands for the meaning of a status: its name, or the status itself if it has none. -/
def shownCategory (status : Int32) : Json :=
  match categoryNames.lookup status with
  | some name => .text name
  | none => .object [("Unknown", .number status.toInt)]

theorem toJson_ofStatus (status : Int32) :
    (Category.ofStatus status).toJson = shownCategory status := by
  cases hname : categoryNames.lookup status with
  | some name =>
      obtain ⟨before, after, hsplit, -⟩ := List.lookup_eq_some_iff.mp hname
      have hmem : (status, name) ∈ categoryNames := by simp [hsplit]
      rw [shownCategory, hname]
      simp only [categoryNames, List.mem_cons, Prod.mk.injEq, List.not_mem_nil, or_false] at hmem
      rcases hmem with ⟨rfl, rfl⟩ | ⟨rfl, rfl⟩ | ⟨rfl, rfl⟩ | ⟨rfl, rfl⟩ | ⟨rfl, rfl⟩ | ⟨rfl, rfl⟩ |
        ⟨rfl, rfl⟩ <;> rfl
  | none =>
      have hother := List.lookup_eq_none_iff.mp hname
      simp only [categoryNames, List.forall_mem_cons, List.not_mem_nil, bne_iff_ne] at hother
      have hunknown : Category.ofStatus status = .unknown status := by
        simp [Category.ofStatus, hother]
      rw [hunknown, shownCategory, hname]
      rfl

variable {i i' : Invocation} {tag tag' : Tag} {budget budget' : Nat}

/-- What an execution prints for a report if a document is asked for. -/
def printedReport (r : Report) : String :=
  (printAnswer true (some (.ok (.report r)))).output

/-- A report that is printed stands for its document, and for nothing else. -/
theorem document_printedReport_iff {r : Report} {j : Json} :
    Json.Document (printedReport r) j ↔ j = r.toJson :=
  Json.document_render_iff (.skip (by decide) .done)

/-- The fields of the document of an invocation. -/
theorem toJson_ofInvocation :
    (Report.ofInvocation i tag budget).toJson = .object [
      ("lines", .list (i.lines.map .text)),
      ("status", .number i.status.toInt),
      ("category", shownCategory i.status),
      ("rendered", .text (Report.ofInvocation i tag budget).rendered)] := by
  rw [← toJson_ofStatus]
  rfl

/-- A report is told from its document. -/
theorem ofInvocation_of_toJson_eq
    (h : (Report.ofInvocation i tag budget).toJson = (Report.ofInvocation i' tag' budget').toJson) :
    Report.ofInvocation i tag budget = Report.ofInvocation i' tag' budget' := by
  rw [toJson_ofInvocation, toJson_ofInvocation] at h
  simp only [Json.object.injEq, List.cons.injEq, Prod.mk.injEq, true_and, Json.list.injEq,
    Json.number.injEq, Json.text.injEq] at h
  obtain ⟨hlines, hstatus, -, hrendered, -⟩ := h
  have hfields (i : Invocation) (tag : Tag) (budget : Nat) : Report.ofInvocation i tag budget
      = ⟨i.lines, i.status, .ofStatus i.status, (Report.ofInvocation i tag budget).rendered⟩ := rfl
  rw [hfields i, hfields i', List.map_injective_iff.mpr (fun _ _ => Json.text.inj) hlines,
    Int32.toInt_inj.mp hstatus, hrendered]

/-- **A printed report is lossless.** The text that is printed for the report of an invocation is a
document of one value, an object with the lines, the status, what stands for its meaning and the
message, in this order and character by character. Reports that differ are printed as different
texts. -/
theorem printed_report_lossless (i : Invocation) (tag : Tag) (budget : Nat) :
    let r := Report.ofInvocation i tag budget
    (∀ j, Json.Document (printedReport r) j ↔ j = .object [
      ("lines", .list (r.lines.map .text)),
      ("status", .number r.status.toInt),
      ("category", shownCategory r.status),
      ("rendered", .text r.rendered)]) ∧
    ∀ i' tag' budget', Report.ofInvocation i' tag' budget' ≠ r →
      printedReport (Report.ofInvocation i' tag' budget') ≠ printedReport r := by
  intro r
  refine ⟨fun j => ?_, fun i' tag' budget' hne heq => hne ?_⟩
  · rw [document_printedReport_iff, toJson_ofInvocation]
    rfl
  · refine ofInvocation_of_toJson_eq (document_printedReport_iff.mp ?_)
    rw [← heq]
    exact document_printedReport_iff.mpr rfl

/-- A line that is a quotation mark is told from one with a backslash in front of it. -/
theorem printed_report_quote :
    let r := Report.ofInvocation ⟨["\""], 7⟩ .script 2000
    let r' := Report.ofInvocation ⟨["\\\""], 7⟩ .script 2000
    r' ≠ r ∧ printedReport r' ≠ printedReport r ∧
      Json.Document (printedReport r) (.object [
        ("lines", .list [.text "\""]),
        ("status", .number 7),
        ("category", .object [("Unknown", .number 7)]),
        ("rendered", .text r.rendered)]) := by
  intro r r'
  have hne : r' ≠ r := fun heq => absurd (congrArg Report.lines heq) (by decide)
  obtain ⟨hdocument, hdiffer⟩ := printed_report_lossless ⟨["\""], 7⟩ .script 2000
  exact ⟨hne, hdiffer _ _ _ hne, (hdocument _).mpr rfl⟩

end ScriptHost.CommandLine
