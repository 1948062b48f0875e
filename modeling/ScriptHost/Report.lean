import ScriptHost.Json
import ScriptHost.Tag
import ScriptHost.Text.Fence

/-!
# Invocations and reports

An invocation is what a module did with a source: the lines it logged and a status. A
report adds what the status means and the message for the user.

## Main definitions

* `Invocation.displayText` — the lines, and an error line after a failure.
* `Report.ofInvocation` — classified and fenced within a byte budget.
* `Report.toJson` — the report as a document.
-/

namespace ScriptHost

/-- The raw outcome of a call: logged lines in order, and the status. -/
structure Invocation where
  lines : List String
  status : Int32
  deriving DecidableEq, Repr

namespace Invocation

/-- The lines joined by line ends. -/
def text (i : Invocation) : String :=
  "\n".intercalate i.lines

/-- The meaning of the status. -/
def category (i : Invocation) : Category :=
  Category.ofStatus i.status

/-- The error line after the output: what went wrong with the user's code, or a fixed line
for everything that is not the user's concern. -/
def errorLine? (i : Invocation) : Option String :=
  match Failure.ofCategory? i.category with
  | none => none
  | some (.userCode category detail) => some (Failure.userCode category detail).userMessage
  | some _ => some Failure.internalMessage

/-- The output as shown to the user, with an error line after a failure. -/
def displayText (i : Invocation) : String :=
  match i.errorLine? with
  | none => i.text
  | some line => i.text ++ "\n" ++ line

end Invocation

/-- The outcome of one execution, classified and rendered. -/
structure Report where
  lines : List String
  status : Int32
  category : Category
  /-- The message for the user. -/
  rendered : String
  deriving DecidableEq, Repr

namespace Report

/-- Classifies an invocation and renders it for a tag within a byte budget. -/
def ofInvocation (i : Invocation) (tag : Tag) (budget : Nat) : Report where
  lines := i.lines
  status := i.status
  category := i.category
  rendered := Fence.block i.displayText tag.fenceLanguage budget

/-- The invocation a report is about. -/
def invocation (r : Report) : Invocation := ⟨r.lines, r.status⟩

/-- The status is zero. -/
def isSuccess (r : Report) : Bool :=
  r.category.isSuccess

/-- The failure that the status stands for. -/
def failure? (r : Report) : Option Failure :=
  Failure.ofCategory? r.category

end Report

/-- A category as a document: its name, or the number under `Unknown`. -/
def Category.toJson : Category → Json
  | .unknown status => .object [("Unknown", .number status.toInt)]
  | c => .text c.name

/-- The report as a document. -/
def Report.toJson (r : Report) : Json :=
  .object [
    ("lines", .list (r.lines.map .text)),
    ("status", .number r.status.toInt),
    ("category", r.category.toJson),
    ("rendered", .text r.rendered)]

end ScriptHost
