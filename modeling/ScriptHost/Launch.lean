import ScriptHost.Utility

/-!
# Starting programs

A program is a utility of the system or a file that names its interpreter in its first line.
A shell runs scripts, and scripts run programs; a bound on the depth keeps that finite.

## Main definitions

* `Launch.interpreter?` — the interpreter that a file names.
* `Launch.engine` — what runs scripts and starts programs.
-/

namespace ScriptHost.Launch

open Shell

/-- A blank in the first line of a file. -/
def isLineBlank (b : UInt8) : Bool :=
  b = 0x20 || b = 0x09

/-- Bytes at the start of a file that are looked at when it is started. -/
def headLength : Nat := 256

/-- The interpreter that a line after its first two bytes names, with the one argument it may
have. -/
def interpreterOfLine? (line : Bytes) : Option (Octets × Option Octets) :=
  let line := ((line.dropWhile isLineBlank).reverse.dropWhile isLineBlank).reverse
  let path := line.takeWhile fun b => !isLineBlank b
  let argument := (line.drop path.length).dropWhile isLineBlank
  if path.isEmpty then none
  else some (Octets.ofBytes path, if argument.isEmpty then none else some (Octets.ofBytes argument))

/-- The interpreter that the first line of a file names, with the one argument it may have. The
line has to end within the head of the file, or at least the name has to. -/
def interpreter? (content : Bytes) : Option (Octets × Option Octets) :=
  match content.take headLength with
  | 0x23 :: 0x21 :: head =>
    let line := head.takeWhile fun b => b ≠ 0x0A && b ≠ 0x00
    let isWhole := line.length < head.length || content.length < headLength
    let named := line.dropWhile isLineBlank
    if isWhole || named.any isLineBlank then interpreterOfLine? (line.take (headLength - 3))
    else none
  | _ => none

/-- Starts a program whose interpreters may be scripts in their turn, as many levels deep as
told. -/
def startAt (e : Engine) : Nat → Starter
  | levels, path, r =>
    match r.lookUp path with
    | .error problem => .error problem
    | .ok (_, entry) =>
      match entry, levels with
      | .utility _, 0 | .file _ true, 0 => .error .tooManyLevels
      | .utility name, _ => .ok (Utility.run e name r)
      | .file content true, levels + 1 =>
        match interpreter? content with
        | none => .error .notExecutable
        | some (interpreter, argument) =>
          startAt e levels interpreter { r with
            name := interpreter
            arguments := argument.toList ++ path :: r.arguments }
      | _, _ => .error .noAccess

/-- How many levels of interpreters the system looks at. -/
def maxLevels : Nat := 6

/-- How a program ends for which there is no room left. -/
def overflow : Ending := .killed 11

/-- What runs scripts and starts programs, nested to a depth. -/
def engine : Nat → Engine
  | 0 => ⟨fun _ _ => throw (.gone overflow), fun _ r => .ok (overflow, r.kernel)⟩
  | depth + 1 =>
    let inner := engine depth
    ⟨fun script m => script.execute inner m, startAt inner maxLevels⟩

/-- How deeply scripts and programs may be nested. -/
def maxDepth : Nat := 1000

/-- Starts a program. -/
def start : Starter :=
  (engine maxDepth).start

end ScriptHost.Launch
