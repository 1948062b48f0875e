import ScriptHost.Shell.Builtin.Control
import ScriptHost.Shell.Builtin.Naming
import ScriptHost.Shell.Builtin.Printing
import ScriptHost.Shell.Builtin.Processes

/-!
# The commands of the shell

The commands that a shell carries out itself, by name. Those that change how the shell goes
on get what runs scripts; `exec` is the one command that changes the streams of the shell,
and is not among them.

## Main definitions

* `builtin?` — a command by name.
* `assigningCommands` — the commands whose arguments may be assignments.
-/

namespace ScriptHost.Shell

/-- The commands whose arguments may be assignments. -/
def assigningCommands : List String :=
  ["alias", "export", "local", "readonly"]

open Builtin in
/-- What a command of the shell does with its arguments. -/
def builtin? (e : Engine) (m : Manner) (name : String) : Option (List Octets → Act Nat) :=
  match name with
  | ":" | "true" => some fun _ => return 0
  | "false" => some fun _ => return 1
  | "." => some (source e)
  | "[" => some bracket
  | "alias" => some alias_
  | "bg" | "fg" => some resume
  | "break" => some (skipLoops .break)
  | "cd" | "chdir" => some cd
  | "command" => some command
  | "continue" => some (skipLoops .continue)
  | "echo" => some echo
  | "eval" => some (eval e m)
  | "exit" => some exit
  | "export" => some (mark "export" true false)
  | "getopts" => some getopts
  | "hash" => some hash
  | "jobs" => some fun _ => return 0
  | "kill" => some kill
  | "local" => some makeLocal
  | "printf" => some printf
  | "pwd" => some pwd
  | "read" => some read
  | "readonly" => some (mark "readonly" false true)
  | "return" => some return_
  | "set" => some set_
  | "shift" => some shift
  | "test" => some conditionStatus
  | "times" => some fun _ => times
  | "trap" => some trap
  | "type" => some type_
  | "ulimit" => some ulimit
  | "umask" => some umask
  | "unalias" => some unalias
  | "unset" => some unsetAll
  | "wait" => some (wait e)
  | _ => none

end ScriptHost.Shell
