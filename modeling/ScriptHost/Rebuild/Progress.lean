import ScriptHost.Json
import ScriptHost.Stage

/-!
# Progress of a rebuild

A log that only grows: what a rebuild has announced so far, stage by stage, and how it
ended.

## Main definitions

* `Progress.push`, `Progress.finish` — what a rebuild does to its log.
* `Progress.display` — the log as a code block.
* `Progress.toJson` — the log as a document.
-/

namespace ScriptHost

/-- How a rebuild ended. -/
inductive RebuildOutcome where
  | success
  | failed (stage : Stage) (reason : String)
  deriving DecidableEq, Repr

/-- An announcement. -/
structure ProgressEntry where
  stage : Stage
  message : String
  deriving DecidableEq, Repr

/-- The log of one rebuild. -/
structure Progress where
  entries : List ProgressEntry
  /-- None while the rebuild is running. -/
  outcome : Option RebuildOutcome
  deriving DecidableEq, Repr

namespace Progress

/-- Nothing announced yet. -/
def empty : Progress := ⟨[], none⟩

/-- The log with one more announcement. -/
def push (p : Progress) (stage : Stage) (message : String) : Progress :=
  { p with entries := p.entries ++ [⟨stage, message⟩] }

/-- The log of a rebuild that has ended. -/
def finish (p : Progress) (outcome : RebuildOutcome) : Progress :=
  { p with outcome := some outcome }

/-- The announcements in order. -/
def messages (p : Progress) : List String :=
  p.entries.map (·.message)

/-- A log grows at its end. -/
@[simp] theorem messages_push (p : Progress) (stage : Stage) (message : String) :
    (p.push stage message).messages = p.messages ++ [message] := by
  simp [messages, push]

/-- The end of a rebuild announces nothing. -/
@[simp] theorem messages_finish (p : Progress) (outcome : RebuildOutcome) :
    (p.finish outcome).messages = p.messages := rfl

/-- The rebuild ended well. -/
def isSuccess (p : Progress) : Bool :=
  p.outcome = some .success

/-- The log as a code block. -/
def display (p : Progress) : String :=
  "```\n" ++ "\n".intercalate p.messages ++ "```"

end Progress

/-- The name of a stage in documents. -/
def Stage.title : Stage → String
  | .sync => "Sync"
  | .configure => "Configure"
  | .build => "Build"
  | .reload => "Reload"

/-- An outcome as a document. -/
def RebuildOutcome.toJson : RebuildOutcome → Json
  | .success => .text "Success"
  | .failed stage reason =>
    .object [("Failed", .object [("stage", .text stage.title), ("reason", .text reason)])]

/-- The log as a document. -/
def Progress.toJson (p : Progress) : Json :=
  .object [
    ("entries", .list (p.entries.map fun e =>
      .object [("stage", .text e.stage.title), ("message", .text e.message)])),
    ("outcome", (p.outcome.map RebuildOutcome.toJson).getD .null)]

end ScriptHost
