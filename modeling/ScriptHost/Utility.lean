import ScriptHost.Shell.Program
import ScriptHost.Utility.Calculation
import ScriptHost.Utility.Files
import ScriptHost.Utility.Lines
import ScriptHost.Utility.Search
import ScriptHost.Utility.System

/-!
# The utilities of the system

The utilities by name. Some of them do what a command of the shell does.

## Main definitions

* `Utility.run` — runs a utility.
* `Utility.names` — the names of the utilities.
-/

namespace ScriptHost.Utility

open Shell

/-- What a utility does with what it was started with. -/
abbrev Program := Running → Ending × Kernel

/-- The names of the shell. -/
def shellNames : List String := ["dash", "sh"]

/-- The utilities that do what a command of the shell does. -/
def commandNames : List String := ["[", "false", "kill", "printf", "test", "true"]

/-- A command of the shell as a program. -/
def ofCommand (e : Engine) (name : String) : Program := fun r =>
  finish e (command r.arguments) (.begin r)
where
  command (arguments : List Octets) : Act Nat :=
    match builtin? e {} name with
    | some run => do
      let status ← caught (run arguments)
      modify fun s => { s with status := status }
      return status
    | none => return 0

/-- The utilities that have a task of their own. -/
def tasks : List (String × Task Nat) := [
  ("basename", basename), ("cat", cat), ("chmod", chmod), ("cp", cp), ("cut", cut),
  ("dirname", dirname), ("echo", echo), ("expr", expr), ("grep", grep), ("head", head),
  ("id", id), ("ls", ls), ("mkdir", mkdir), ("mv", mv), ("printenv", printenv), ("pwd", pwd),
  ("rm", rm), ("rmdir", rmdir), ("seq", seq), ("sleep", sleep), ("sort", sort), ("tail", tail),
  ("tee", tee), ("touch", touch), ("tr", tr), ("uname", uname), ("uniq", uniq), ("wc", wc),
  ("which", which), ("whoami", whoami)]

/-- The names of the utilities. -/
def names : List String :=
  shellNames ++ commandNames ++ "env" :: tasks.map (·.1)

/-- Runs a utility. -/
def run (e : Engine) (name : String) : Program :=
  if shellNames.contains name then shell e
  else if name = "env" then env e.start
  else
    match tasks.lookup name with
    | some task => task.finish
    | none => ofCommand e name

end ScriptHost.Utility
