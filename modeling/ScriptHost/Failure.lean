import ScriptHost.Stage
import ScriptHost.Status

/-!
# Failures

Every way in which an operation of the host can fail, with the full text for the log and
the text for the user.

## Main definitions

* `Failure.message` — the full text.
* `Failure.isUserFacing` — whether the full text may be shown to a user.
* `Failure.userMessage` — the text a user sees; it hides everything that is not theirs.
-/

namespace ScriptHost

/-- Why an operation failed. -/
inductive Failure where
  /-- The module file could not be opened. -/
  | load (path detail : String)
  /-- The module was opened but lacks an entry point. -/
  | missingSymbol (path symbol detail : String)
  /-- No module is loaded. -/
  | notReady
  /-- The module handed back no instance. -/
  | instanceCreation
  /-- The submitted code is at fault. -/
  | userCode (category : Category) (detail : String)
  /-- The module answered with a status the user is not responsible for. -/
  | internal (category : Category) (detail : String)
  /-- A stage of a rebuild failed. -/
  | pipelineStage (stage : Stage) (reason : String)
  /-- A command of a stage failed. -/
  | command (line detail : String)
  /-- The requested language has no tag. -/
  | unsupportedLanguage (language : String)
  /-- The settings could not be read or are invalid. -/
  | config (detail : String)
  /-- A worker panicked. -/
  | workerPanicked (detail : String)
  /-- The operating system refused. -/
  | io (detail : String)
  deriving DecidableEq, Repr

namespace Failure

/-- What a user is told when the module is missing or unusable. -/
def notReadyMessage : String := "Error: VM not loaded correctly"

/-- What a user is told about failures they did not cause. -/
def internalMessage : String := "Error: VM encountered an internal error"

/-- The full text of a failure. -/
def message : Failure → String
  | .load path detail => "failed to load module " ++ path ++ ": " ++ detail
  | .missingSymbol path symbol detail =>
    "module " ++ path ++ " is missing symbol `" ++ symbol ++ "`: " ++ detail
  | .notReady => "no VM module is loaded"
  | .instanceCreation => "VM could not create an instance"
  | .userCode _ detail => detail
  | .internal _ detail => detail
  | .pipelineStage stage reason => stage.name ++ " failed: " ++ reason
  | .command line detail => "`" ++ line ++ "` failed: " ++ detail
  | .unsupportedLanguage language => "unsupported language: " ++ language
  | .config detail => "config error: " ++ detail
  | .workerPanicked detail => "worker task failed: " ++ detail
  | .io detail => "IO error: " ++ detail

/-- The full text may be shown to a user. -/
def isUserFacing : Failure → Bool
  | .userCode .. | .pipelineStage .. | .unsupportedLanguage _ | .config _ => true
  | _ => false

/-- The text a user sees. -/
def userMessage : Failure → String
  | .userCode _ detail => "Error: " ++ detail
  | .pipelineStage stage reason => "Error: " ++ (pipelineStage stage reason).message
  | .unsupportedLanguage language => "Error: " ++ (unsupportedLanguage language).message
  | .config detail => "Error: " ++ (config detail).message
  | .notReady | .load .. | .missingSymbol .. => notReadyMessage
  | _ => internalMessage

/-- The failure that a category stands for; none for success. -/
def ofCategory? (c : Category) : Option Failure :=
  if c.isSuccess then none
  else if c.isUserCaused then some (.userCode c c.message)
  else some (.internal c c.message)

end Failure

/-- How a piece of work ended: with a value, with a failure, or by a panic. -/
inductive Outcome (α : Type) where
  | ok (a : α)
  | failed (e : Failure)
  | panicked
  deriving DecidableEq, Repr

namespace Outcome

/-- What is said of the cause of a panic. The words are not the host's own; wherever they are shown,
as in the reason for which a stage of a rebuild failed, this stands for them. -/
def panicDetail : String := "(panic)"

/-- The result that the caller of a worker sees: a panic is a failure like others. -/
def toExcept {α : Type} : Outcome α → Except Failure α
  | .ok a => .ok a
  | .failed e => .error e
  | .panicked => .error (.workerPanicked panicDetail)

/-- An outcome that did not panic. -/
def ofExcept {α : Type} : Except Failure α → Outcome α
  | .ok a => .ok a
  | .error e => .failed e

/-- The outcome with its value changed. -/
def map {α β : Type} (f : α → β) : Outcome α → Outcome β
  | .ok a => .ok (f a)
  | .failed e => .failed e
  | .panicked => .panicked

end Outcome

end ScriptHost
