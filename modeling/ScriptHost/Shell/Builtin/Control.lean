import ScriptHost.Shell.Builtin.Variables
import ScriptHost.Shell.Search

/-!
# Control

The commands of the shell that decide what happens next: they leave loops, functions and
the shell, run texts and files as scripts, and set actions for signals.
-/

namespace ScriptHost.Shell.Builtin

/-- Passes over commands of so many loops, at most those that are running. -/
def skipLoops (skip : Nat → Skip) (arguments : List Octets) : Act Nat := do
  let n ← match arguments with
    | [] => pure 1
    | a :: _ => do
      let n ← number a
      if n = 0 then fail ("Illegal number: " ++ a) else pure n
  modify fun s =>
    let n := min n s.loops
    if n = 0 then s else { s with skip := skip n }
  return 0

/-- Leaves a function or a file. -/
def return_ (arguments : List Octets) : Act Nat := do
  match arguments with
  | [] =>
    modify fun s => { s with skip := .plainReturn }
    return (← get).status
  | a :: _ =>
    modify fun s => { s with skip := .return }
    number a

/-- Ends the shell. In the action of a trap its status is what it was before, unless it says
otherwise. -/
def exit (arguments : List Octets) : Act Nat := do
  match arguments with
  | [] => modify fun s => { s with status := s.savedStatus.getD s.status }
  | a :: _ =>
    let n ← number a
    modify fun s => { s with status := n, savedStatus := some n }
  throw .over

/-- Runs its arguments as a script. -/
def eval (e : Engine) (m : Manner) (arguments : List Octets) : Act Nat :=
  if arguments.isEmpty then return 0
  else runText e { tested := m.tested } (" ".intercalate arguments)

/-- The path of a file with a script. A name without a slash is looked for on the search path. -/
def scriptPath (name : Octets) : Act Octets := do
  if name.contains '/' then return name
  let s ← get
  let isScript := fun (path : Octets) =>
    match s.toRunning.entry? path with
    | some (.file ..) | some (.utility _) => true
    | _ => false
  match ((s.pathText.splitOn ":").map fun entry => Session.below entry name).find? isScript with
  | some path => return path
  | none => fail (name ++ ": not found")

/-- Runs the script in a file. -/
def source (e : Engine) (arguments : List Octets) : Act Nat := do
  let (_, arguments) ← options "" arguments
  match arguments with
  | [] => return 0
  | name :: _ =>
    let path ← scriptPath name
    let s ← get
    match s.toRunning.openToRead path with
    | .error problem => fail (openRefusal path false problem)
    | .ok (channel, r) =>
      let text := match r.kernel.waiting channel with
        | .ok b => Octets.ofBytes b
        | .error _ => ""
      let kernel := r.kernel.consume channel text.length
      set { s with toRunning := { r with kernel := kernel }, command := some path }
      runFile e text

/-! ### Traps -/

/-- The name of what a trap is for. -/
def trapName (n : Nat) : Octets :=
  if n = 0 then "EXIT" else signalName n

/-- The number of what a trap is for. -/
def trapNumber? (text : Octets) : Option Nat :=
  if text.toUpper = "EXIT" then some 0 else signalOf? text

/-- A text of digits that is the number of a signal. -/
def isTrapNumber (text : Octets) : Bool :=
  text.toList.all Char.isDigit && (signalOf? text).isSome

/-- Sets actions for signals or takes them away, up to one that there is not. -/
def setTraps (action : Option Octets) : List Octets → Act Nat
  | [] => return 0
  | text :: rest => do
    match trapNumber? text with
    | none =>
      complain ("trap: " ++ text ++ ": bad trap\n")
      return 1
    | some n =>
      modify fun s =>
        let others := s.traps.filter (·.1 ≠ n)
        { s with traps := (action.toList.map fun a => (n, a)) ++ others }
      setTraps action rest

/-- Sets actions for signals, takes them away, or lists them. -/
def trap (arguments : List Octets) : Act Nat := do
  let (_, arguments) ← options "" arguments
  match arguments with
  | [] =>
    let traps := (← get).traps.mergeSort fun a b => a.1 ≤ b.1
    print (String.join (traps.map fun t =>
      "trap -- " ++ quote t.2 ++ " " ++ trapName t.1 ++ "\n"))
  | action :: signals =>
    if signals.isEmpty || isTrapNumber action then setTraps none (action :: signals)
    else setTraps (if action = "-" then none else some action) signals

/-- The time that the shell and its programs took. -/
def times : Act Nat :=
  let none := "0m0.000000s 0m0.000000s\n"
  print (none ++ none)

end ScriptHost.Shell.Builtin
