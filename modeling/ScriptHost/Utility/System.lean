import ScriptHost.Shell.Escapes
import ScriptHost.Utility.Environment
import ScriptHost.Utility.Texts

/-!
# Utilities about the system

Utilities that print texts, wait, or tell where a program is and who its user is.
-/

namespace ScriptHost.Utility

open Shell

/-! ### Printing -/

/-- Hexadecimal digits at the front, two at most, as a character. -/
def hexadecimal? (cs : List Char) : Option (Char × List Char) :=
  let digits := (cs.take 2).filterMap (Numeral.digit? 16)
  let digits := if (cs.head?.bind (Numeral.digit? 16)).isSome then digits else []
  if digits.isEmpty then none
  else
    let count := if 1 < digits.length then 2 else 1
    some (Char.ofNat (Numeral.value 16 (digits.take count)), cs.drop count)

/-- Characters with their escapes replaced, and whether printing goes on after them. -/
def unescaped : Nat → List Char → List Char × Bool
  | 0, _ => ([], true)
  | fuel + 1, cs =>
    let after := fun (c : Char) (rest : List Char) =>
      let (later, goesOn) := unescaped fuel rest
      (c :: later, goesOn)
    match cs with
    | [] => ([], true)
    | '\\' :: 'c' :: _ => ([], false)
    | '\\' :: 'e' :: rest => after '\x1b' rest
    | '\\' :: 'x' :: rest =>
      match hexadecimal? rest with
      | some (c, rest) => after c rest
      | none => after '\\' ('x' :: rest)
    | '\\' :: '0' :: rest =>
      let (c, rest) := Escapes.octal rest
      after c rest
    | '\\' :: rest =>
      let (c, rest) := Escapes.one rest
      after c rest
    | c :: rest => after c rest

/-- The words of `echo` after its options, with what these ask for: no line end, and escapes. -/
def echoWords (endsLine escapes : Bool) : List Octets → Bool × Bool × List Octets
  | [] => (endsLine, escapes, [])
  | a :: rest =>
    match a.toList with
    | '-' :: c :: cs =>
      if (c :: cs).all fun c => c = 'n' || c = 'e' || c = 'E' then
        let escapes := (c :: cs).foldl
          (fun escapes c => if c = 'e' then true else if c = 'E' then false else escapes) escapes
        echoWords (endsLine && !(c :: cs).contains 'n') escapes rest
      else (endsLine, escapes, a :: rest)
    | _ => (endsLine, escapes, a :: rest)

/-- Prints words with blanks between them. -/
def echo : Task Nat := do
  let (endsLine, escapes, words) := echoWords true false (← get).arguments
  let text := " ".intercalate words
  let (shown, goesOn) :=
    if escapes then unescaped (text.length + 1) text.toList else (text.toList, true)
  say (String.ofList shown ++ if endsLine && goesOn then "\n" else "")
  return 0

/-- Prints the path of the working directory. -/
def pwd : Task Nat := do
  let o : Options := { letters := "LP", long := [("logical", 'L'), ("physical", 'P')] }
  let _ ← o.ofArguments
  say (Running.pathOf (← get).cwd ++ "\n")
  return 0

/-! ### Waiting -/

/-- A length of time: a number that may have a fraction, and a unit. -/
def isInterval (text : Octets) : Bool :=
  let cs := text.toList
  let whole := cs.takeWhile Char.isDigit
  let rest := cs.drop whole.length
  let (fraction, rest) := match rest with
    | '.' :: rest => (rest.takeWhile Char.isDigit, rest.dropWhile Char.isDigit)
    | rest => ([], rest)
  let unit := match rest with
    | [] => true
    | [c] => ['s', 'm', 'h', 'd'].contains c
    | _ => false
  unit && !(whole.isEmpty && fraction.isEmpty) || text = "infinity" || text = "inf"

/-- Waits, for as long as it is told. Nothing else happens meanwhile. -/
def sleep : Task Nat := do
  let arguments := (← get).arguments
  needed 1 arguments
  let wrong := arguments.filter (!isInterval ·)
  wrong.forM fun text => complain ("invalid time interval " ++ quoted text)
  if wrong.isEmpty then return 0 else usage 1

/-! ### Users and machines -/

/-- Prints numbers and names of the user. -/
def id : Task Nat := do
  let o : Options := {
    letters := "Ggnru"
    long := [("user", 'u'), ("group", 'g'), ("groups", 'G'), ("name", 'n'), ("real", 'r')] }
  let (given, _) ← o.ofArguments
  if has given 'u' || has given 'g' || has given 'G' then
    say (if has given 'n' then "root\n" else "0\n")
  else say "uid=0(root) gid=0(root) groups=0(root)\n"
  return 0

/-- Prints the name of the user. -/
def whoami : Task Nat := do
  say "root\n"
  return 0

/-- Prints the name of the system. -/
def uname : Task Nat := do
  let o : Options := {
    letters := "amnoprsvi"
    long := [("kernel-name", 's'), ("machine", 'm'), ("operating-system", 'o')] }
  let (given, _) ← o.ofArguments
  let parts := [('s', "Linux"), ('m', "x86_64"), ('o', "GNU/Linux")]
  let shown := if given.isEmpty then ["Linux"]
    else parts.filterMap fun p => if has given p.1 then some p.2 else none
  say (" ".intercalate shown ++ "\n")
  return 0

/-- Prints the paths of programs. -/
def which : Task Nat := do
  let o : Options := { letters := "as" }
  let (given, names) ← o.ofArguments
  let r ← get
  let isProgram := fun (path : Octets) =>
    match r.entry? path with
    | some (.file _ executable) => executable
    | some (.utility _) => true
    | _ => false
  let statuses ← names.mapM fun name => do
    let found := (programPaths r name).filter isProgram
    if !has given 's' then say (ofLines (if has given 'a' then found else found.take 1))
    return if found.isEmpty then 1 else 0
  return if statuses.all (· = 0) && !names.isEmpty then 0 else 1

end ScriptHost.Utility
