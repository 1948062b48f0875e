import ScriptHost.Shell.Condition
import ScriptHost.Shell.Engine
import ScriptHost.Shell.Format

/-!
# Printing and testing

The commands of the shell that print texts and test conditions.
-/

namespace ScriptHost.Shell.Builtin

/-- Prints words with blanks between them, and a line end unless told otherwise. -/
def echo (arguments : List Octets) : Act Nat := do
  let endsLine := arguments.head? ≠ some "-n"
  let (text, goesOn) := Escapes.words (if endsLine then arguments else arguments.drop 1)
  print (if endsLine && goesOn then text ++ "\n" else text)

/-- Prints arguments in a format. -/
def printf (arguments : List Octets) : Act Nat := do
  let (_, arguments) ← options "" arguments
  match arguments with
  | [] => fail "usage: printf format [arg ...]"
  | format :: arguments =>
    let printed := Format.print format arguments
    printed.complaints.forM warn
    printed.refusal.forM warn
    let status ← print printed.output
    if printed.refusal.isSome then giveUp 2
    else return if printed.complaints.isEmpty then status else 1

/-- The status of a condition. -/
def conditionStatus (arguments : List Octets) : Act Nat := do
  return if ← Condition.holds arguments then 0 else 1

/-- Tests a condition in brackets. -/
def bracket (arguments : List Octets) : Act Nat :=
  match arguments.getLast? with
  | some last =>
    if last.toList.head? = some ']' then conditionStatus arguments.dropLast else fail "missing ]"
  | none => fail "missing ]"

end ScriptHost.Shell.Builtin
