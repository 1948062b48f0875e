import ScriptHost.Settings.Basic

/-!
# Commands of a rebuild

External commands, and the ones that each stage of a rebuild runs.

## Main definitions

* `Command` — a program, its arguments and additions to the environment.
* `RebuildSettings.syncCommands`, `configureCommands`, `buildCommands` — the commands of
  each stage, in order.
-/

namespace ScriptHost

/-- A single external command. -/
structure Command where
  program : String
  args : List String
  /-- Variables added to the inherited environment. -/
  env : List (String × String) := []
  deriving DecidableEq, Repr

/-- A variable set in an environment: in its old place if it was there, else at the end. -/
def setVariable {α : Type} (env : List (String × α)) (name : String) (value : α) :
    List (String × α) :=
  match env with
  | [] => [(name, value)]
  | (n, v) :: rest =>
    if n = name then (name, value) :: rest else (n, v) :: setVariable rest name value

namespace Command

/-- The command with more variables; later ones replace earlier ones of the same name. -/
def withEnv (c : Command) (env : List (String × String)) : Command :=
  { c with env := env.foldl (fun e v => setVariable e v.1 v.2) c.env }

/-- The command line as shown to a reader: program and arguments, not quoted. -/
def display (c : Command) : String :=
  " ".intercalate (c.program :: c.args)

end Command

namespace RebuildSettings

/-- Resets the checkout to the remote branch. -/
def syncCommands (s : RebuildSettings) : List Command := [
  ⟨"git", ["reset", "--hard"], []⟩,
  ⟨"git", ["fetch", "--all"], []⟩,
  ⟨"git", ["checkout", s.branch], []⟩,
  ⟨"git", ["reset", "--hard", s.remoteBranch], []⟩,
  ⟨"git", ["pull"], []⟩]

/-- Regenerates the build tree; the settings' variables apply here only. -/
def configureCommands (s : RebuildSettings) : List Command := [
  (Command.mk "cmake" ["."] []).withEnv s.env,
  (Command.mk "make" ["clean"] []).withEnv s.env]

/-- Builds the module. -/
def buildCommands (s : RebuildSettings) : List Command := [
  ⟨"make", [s.buildTarget, "-j", toString s.jobs], []⟩]

/-- The build cache in the checkout. -/
def cachePath (s : RebuildSettings) : Path :=
  Path.join s.sourceDir s.cacheFile

end RebuildSettings

end ScriptHost
