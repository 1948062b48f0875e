import ScriptHost.Shell.Builtin.Variables
import ScriptHost.Shell.Escapes
import ScriptHost.Shell.Search

/-!
# Processes

The commands of the shell that send signals, wait for scripts in the background, and change
what programs inherit from the shell.
-/

namespace ScriptHost.Shell.Builtin

/-! ### Signals -/

/-- What is said of arguments that `kill` does not understand at all. -/
def killUsage : Octets :=
  "Usage: kill [-s sigspec | -signum | -sigspec] [pid | job]... or\nkill -l [exitstatus]"

/-- What the arguments of `kill` ask for: a signal, or a list; and the arguments after that. -/
structure KillRequest where
  signal : Option Nat
  lists : Bool
  rest : List Octets

/-- The signal that an option of `kill` names. -/
def killSignal (known : Option Nat) (option : Char × Octets) : Act (Option Nat) := do
  if option.1 ≠ 's' then return known
  match signalOf? option.2 with
  | some n => return some n
  | none => fail ("invalid signal number or name: " ++ option.2)

/-- What the arguments of `kill` ask for. -/
def killRequest (arguments : List Octets) : Act KillRequest := do
  match arguments with
  | [] => fail killUsage
  | first :: rest =>
    match first.toList with
    | '-' :: cs =>
      match signalOf? (String.ofList cs) with
      | some n => return ⟨some n, false, rest⟩
      | none =>
        let (given, rest) ← options "ls:" arguments
        let signal ← given.foldlM killSignal none
        return ⟨signal, given.any (·.1 = 'l'), rest⟩
    | _ => return ⟨none, false, arguments⟩

/-- The first process, which takes no signals. -/
def firstProcess : Nat := 1

/-- Sends a signal to a process. -/
def sendSignal (signal : Nat) (target : Octets) : Act Nat := do
  let grouped := target.toList.head? = some '-'
  let n ← number (if grouped then String.ofList target.toList.tail else target)
  let s ← get
  if n = firstProcess && !grouped then return 0
  else if s.kernel.processes.contains n && !grouped then
    if signal ≠ 0 then
      set { s with kernel := { s.kernel with sent := s.kernel.sent ++ [(n, signal)] } }
    return 0
  else
    warn (OsError.text 3 ++ "\n")
    return 1

/-- Sends a signal to processes, or lists the signals. -/
def kill (arguments : List Octets) : Act Nat := do
  let request ← killRequest arguments
  let isComplete := (request.signal.isSome || !request.lists) && !request.rest.isEmpty
  if isComplete = request.lists then fail killUsage
  else if request.lists then
    match request.rest with
    | [] => print ("0\n" ++ String.join ((List.range signalBound).tail.map fun n =>
        signalName n ++ "\n"))
    | text :: _ =>
      let n ← number text
      let n := if 128 < n then n - 128 else n
      if 0 < n && n < signalBound then print (signalName n ++ "\n")
      else fail ("invalid signal number or exit status: " ++ text)
  else
    let statuses ← request.rest.mapM (sendSignal (request.signal.getD 15))
    return if statuses.all (· = 0) then 0 else 1

/-! ### Jobs -/

/-- The end of a job that has a process number, after it has run. -/
def awaitJob (process : Nat) : Act (Option Ending) := do
  let s ← get
  match s.jobs.find? fun j => j.process = process with
  | none => return none
  | some j =>
    let (j, kernel) := j.run s.kernel
    let jobs := s.jobs.map fun (k : Job) => if k.process = process then j else k
    set { s with kernel := kernel, jobs := jobs }
    match j.state with
    | .ended ending => return some ending
    | .waiting _ => return none

/-- The process number of the job that a text with a percent sign names. -/
def jobNamed (text : Octets) : Act Nat := do
  let jobs := (← get).jobs
  let refuse : Act Nat := fail ("No such job: " ++ text)
  let orRefuse := fun (j : Option Job) => match j with
    | some j => pure j.process
    | none => refuse
  match text.toList.tail with
  | [] | ['%'] | ['+'] => orRefuse jobs.getLast?
  | ['-'] => orRefuse jobs.dropLast.getLast?
  | cs =>
    match (String.ofList cs).toNat? with
    | some (n + 1) => orRefuse jobs[n]?
    | _ => refuse

/-- Waits for processes, or for all jobs. The status is that of the last process. -/
def wait (e : Engine) (arguments : List Octets) : Act Nat := do
  let (_, arguments) ← options "" arguments
  if arguments.isEmpty then
    modify fun s =>
      let (_, kernel) := runJobs s.jobs s.kernel
      { s with jobs := [], kernel := kernel }
    heedSignals e
    return 0
  else
    arguments.foldlM (fun _ text => do
      let process ← if text.toList.head? = some '%' then jobNamed text else number text
      let ending ← awaitJob process
      heedSignals e
      match ending with
      | some ending => awaited ending
      | none => return 127) 127

/-- Goes on with a job, which only a shell with a terminal can do. -/
def resume (arguments : List Octets) : Act Nat := do
  match arguments with
  | [] =>
    match (← get).jobs.getLast? with
    | none => fail "No current job"
    | some j => fail ("job " ++ toString j.process ++ " not created under job control")
  | text :: _ =>
    let _ ← jobNamed text
    fail ("job " ++ text ++ " not created under job control")

/-! ### The working directory -/

/-- A path begins with a step that has nothing to do with the search path for directories. -/
def isAnchored (path : Octets) : Bool :=
  match path.toList with
  | '/' :: _ | ['.'] | '.' :: '/' :: _ | ['.', '.'] | '.' :: '.' :: '/' :: _ => true
  | _ => false

/-- The slash that a path from the root begins with. Two slashes stay two, more are one. -/
def rootOf (path : Octets) : Octets :=
  match path.toList with
  | '/' :: '/' :: '/' :: _ => "/"
  | '/' :: '/' :: _ => "//"
  | _ => "/"

/-- The path that a path spells below a working directory, step by step: two dots take the step
before them away, whether it is there or not. -/
def spelled (workingPath path : Octets) : Octets :=
  let isAbsolute := path.toList.head? = some '/'
  let whole := if isAbsolute then path else workingPath ++ "/" ++ path
  let steps := (whole.splitOn "/").foldl
    (fun steps step =>
      if step.isEmpty || step = "." then steps
      else if step = ".." then steps.dropLast
      else steps ++ [step]) []
  rootOf (if isAbsolute then path else workingPath) ++ "/".intercalate steps

/-- Changes the working directory. -/
def enter (dest path : Octets) (physical prints : Bool) : Act Nat := do
  let s ← get
  match s.toRunning.lookUp (if physical then path else spelled s.workingPath path) with
  | .ok (l, .directory) =>
    let old := s.workingPath
    let new := if physical then Running.pathOf l else spelled old path
    set { s with cwd := l, workingPath := new }
    setVariable "OLDPWD" (some old) true false
    setVariable "PWD" (some new) true false
    if prints then print (new ++ "\n") else return 0
  | _ => fail ("can't cd to " ++ dest)

/-- The path has to be that of the files and not as it was spelled. -/
def asksPhysical (given : List (Char × Octets)) : Bool :=
  (given.getLast?.map (·.1)) = some 'P'

/-- Changes the working directory: to the home directory unless told otherwise, or to the one
before. -/
def cd (arguments : List Octets) : Act Nat := do
  let (given, arguments) ← options "LP" arguments
  let physical := asksPhysical given
  let s ← get
  let (dest, prints) := match arguments with
    | [] => ((s.value? "HOME").getD "", false)
    | "-" :: _ => ((s.value? "OLDPWD").getD "", true)
    | path :: _ => (path, false)
  if isAnchored dest then enter dest dest physical prints
  else
    let dest := if dest.isEmpty then "." else dest
    let candidates := match s.value? "CDPATH" with
      | some entries => (entries.splitOn ":").map fun entry => (entry, Session.below entry dest)
      | none => []
    match candidates.find? fun c => s.toRunning.isDirectory c.2 with
    | some (entry, path) => enter dest path physical (prints || !entry.isEmpty)
    | none => enter dest dest physical prints

/-- Prints the path of the working directory. -/
def pwd (arguments : List Octets) : Act Nat := do
  let (given, _) ← options "LP" arguments
  let s ← get
  print ((if asksPhysical given then Running.pathOf s.cwd else s.workingPath) ++ "\n")

/-! ### Limits -/

/-- A number in octal, with at least so many digits. -/
def octal (places n : Nat) : Octets :=
  let digits := Nat.toDigits 8 n
  String.ofList (List.replicate (places - digits.length) '0' ++ digits)

/-- Permissions as letters for the owner, the group and all others. -/
def permissionLetters (allowed : Nat) : Octets :=
  let part := fun (who : String) (bits : Nat) =>
    who ++ "=" ++ (if bits / 4 % 2 = 1 then "r" else "") ++ (if bits / 2 % 2 = 1 then "w" else "")
      ++ (if bits % 2 = 1 then "x" else "")
  ",".intercalate [part "u" (allowed / 64 % 8), part "g" (allowed / 8 % 8), part "o" (allowed % 8)]

/-- Whose permissions a letter means, as the lowest bits of their permissions. -/
def ownerBits (c : Char) : Nat :=
  ([('a', 73), ('u', 64), ('g', 8), ('o', 1)].lookup c).getD 0

/-- The permissions that a letter means, where some are given already. -/
def permissionBits (given : Nat) (c : Char) : Nat :=
  match c with
  | 'r' => 4
  | 'w' => 2
  | 'x' => 1
  | 'u' => given / 64 % 8
  | 'g' => given / 8 % 8
  | 'o' => given % 8
  | 'X' => if given &&& 73 = 0 then 0 else 1
  | _ => 0

/-- Permissions without some of them. -/
def without (permissions removed : Nat) : Nat :=
  permissions - (permissions &&& removed)

/-- The permissions after changes in letters; none if they are no changes. `owners` are those that
the changes are about if they do not say so. -/
def changedPermissions (given : Nat) : Nat → Nat → Nat → List Char → Option Nat
  | 0, _, permissions, _ => some permissions
  | fuel + 1, owners, permissions, cs =>
    let who := cs.takeWhile fun c => ownerBits c ≠ 0
    let owners := who.foldl (fun bits c => bits ||| ownerBits c) owners
    let owners := if owners = 0 then 73 else owners
    match cs.drop who.length with
    | [] => some permissions
    | op :: cs =>
      if op != '=' && op != '+' && op != '-' then none
      else
        let letters := cs.takeWhile ['r', 'w', 'x', 'u', 'g', 'o', 'X', 's'].contains
        let bits := letters.foldl (fun bits c => bits ||| permissionBits given c) 0
        let bits := bits * owners
        let permissions :=
          if op = '+' then permissions ||| bits
          else if op = '-' then without permissions bits
          else bits ||| without permissions (owners * 7)
        match cs.drop letters.length with
        | [] => some permissions
        | ',' :: rest => changedPermissions given fuel 0 permissions rest
        | c :: rest =>
          if ['=', '+', '-'].contains c then
            changedPermissions given fuel owners permissions (c :: rest)
          else none

/-- Shows or changes which permissions new files do not get. -/
def umask (arguments : List Octets) : Act Nat := do
  let (given, arguments) ← options "S" arguments
  let mask := (← get).mask
  match arguments with
  | [] =>
    if given.isEmpty then print (octal 4 mask ++ "\n")
    else print (permissionLetters (511 - mask) ++ "\n")
  | text :: _ =>
    if text.toList.head?.any Char.isDigit then
      if !text.toList.all Escapes.isOctal then fail ("Illegal number: " ++ text)
      let mask := Numeral.value 8 (text.toList.filterMap (Numeral.digit? 8))
      modify fun s => { s with mask := mask % 512 }
    else
      match changedPermissions (511 - mask) text.length 0 (511 - mask) text.toList with
      | some permissions => modify fun s => { s with mask := 511 - permissions }
      | none => fail ("Illegal mode: " ++ text)
    return 0

/-- Shows that there are no limits, or takes one for granted. -/
def ulimit (arguments : List Octets) : Act Nat := do
  let (_, arguments) ← options "HSatfdscmlpnvwr" arguments
  if arguments.isEmpty then print "unlimited\n" else return 0

end ScriptHost.Shell.Builtin
