import ScriptHost.Shell.Kernel
import ScriptHost.Shell.Numeral
import ScriptHost.Shell.Script.Token

/-!
# Shell sessions

A session is the state of a running shell: its variables, functions, traps and options, and
how the last command ended. What a shell does is an act: it changes the session, and it may
end by an escape, which abandons everything up to the place that catches it.

## Main definitions

* `Session` — the state.
* `Escape`, `Act` — what a shell does.
* `warn`, `fail` — saying what is wrong, and giving up because of it.
* `assign`, `unset`, `value?` — variables.
-/

namespace ScriptHost.Shell

/-! ### State -/

/-- A variable. One without a value may still have properties. -/
structure Variable where
  name : String
  value : Option Octets
  /-- Programs inherit it. -/
  exported : Bool
  /-- Its value cannot be changed. -/
  readonly : Bool
  deriving DecidableEq, Repr

/-- What is restored at the end of a scope. -/
inductive Saved where
  | variable (name : String) (old : Option Variable)
  | options (old : List String)

/-- A function: a script, and the line of its parentheses. -/
structure Function where
  line : Nat
  body : Script

/-- What commands are passed over after one that breaks the order. -/
inductive Skip where
  | nothing
  /-- The rest of so many loops. -/
  | break (loops : Nat)
  /-- The rest of a turn of the outermost of so many loops. -/
  | continue (loops : Nat)
  /-- The rest of a function or a file. -/
  | return
  /-- The same without a status of its own. -/
  | plainReturn
  deriving DecidableEq, Repr

/-- A script in the background. It runs when it is waited for. -/
inductive JobState where
  | waiting (run : Kernel → Ending × Kernel)
  | ended (e : Ending)

/-- A script in the background, with its process number. -/
structure Job where
  process : Nat
  state : JobState

/-- The progress of the reading of options: the next argument, and how far the one before it was
read. -/
structure OptionProgress where
  next : Nat
  offset : Option Nat
  deriving DecidableEq, Repr

/-- The state of a running shell. -/
structure Session extends Running where
  /-- The process number that the shell shows for itself, also in a process of its own for a part
  of the script. -/
  shownProcess : Nat
  /-- The path of the working directory as it was spelled. -/
  workingPath : Octets
  bindings : List Variable
  /-- The scopes that are open, the innermost first. -/
  scopes : List (List Saved)
  functions : List (String × Function)
  aliases : List (String × String)
  /-- Actions for signals by number; the end of the shell counts as number zero. -/
  traps : List (Nat × Octets)
  /-- The options that are on, by name. -/
  options : List String
  /-- The status of the last command. -/
  status : Nat
  /-- The status of the last substitution of a simple command. -/
  substituted : Nat
  /-- The line that messages name. -/
  line : Nat
  /-- The line that was reached by reading. -/
  reached : Nat
  /-- The command that messages name. -/
  command : Option Octets
  /-- The loops that are running. -/
  loops : Nat
  skip : Skip
  /-- The status before a trap whose action is running. -/
  savedStatus : Option Nat
  /-- Texts of the script by number. -/
  documents : List (Nat × Word)
  nextDocument : Nat
  jobs : List Job
  /-- The process number of the last script in the background. -/
  background : Option Nat
  optionProgress : OptionProgress
  /-- The programs that were found on the search path, by name, with their paths. -/
  found : List (Octets × Octets)

/-- What ends an act early. -/
inductive Escape where
  /-- A command failed in a way that ends the shell, unless the failure is caught. -/
  | failed
  /-- The shell ends with its status. -/
  | over
  /-- The process has ended. -/
  | gone (e : Ending)

/-- What a shell does. -/
abbrev Act := ExceptT Escape (StateM Session)

namespace Session

/-- An option is on. -/
def has (s : Session) (option : String) : Bool :=
  s.options.contains option

/-- A variable by name. -/
def binding? (s : Session) (name : String) : Option Variable :=
  s.bindings.find? fun v => v.name = name

/-- The value of a variable. -/
def value? (s : Session) (name : String) : Option Octets :=
  (s.binding? name).bind (·.value)

/-- The session with a variable put in place of the one of its name. -/
def putVariable (s : Session) (v : Variable) : Session :=
  if s.bindings.any (·.name = v.name) then
    { s with bindings := s.bindings.map fun w => if w.name = v.name then v else w }
  else { s with bindings := s.bindings ++ [v] }

/-- The session without a variable. -/
def dropVariable (s : Session) (name : String) : Session :=
  { s with bindings := s.bindings.filter (·.name ≠ name) }

/-- The directories where programs are looked for when nothing is said about that. -/
def defaultPath : Octets := "/usr/local/sbin:/usr/local/bin:/usr/sbin:/usr/bin:/sbin:/bin"

/-- The entries of the search path. -/
def searchPath (s : Session) : List Octets :=
  ((s.value? "PATH").getD "").splitOn ":"

/-- A name below an entry of a search path; an empty entry is the working directory. -/
def below (entry name : Octets) : Octets :=
  if entry.isEmpty then name else entry ++ "/" ++ name

/-- The characters that separate fields, if they are set. -/
def separators? (s : Session) : Option (List Char) :=
  (s.value? "IFS").map String.toList

/-- What separates fields when nothing is said about that. -/
def defaultSeparators : List Char := [' ', '\t', '\n']

/-- What programs inherit. -/
def exports (s : Session) : List Octets :=
  s.bindings.filterMap fun v =>
    match v.exported, v.value with
    | true, some value => some (v.name ++ "=" ++ value)
    | _, _ => none

/-- Actions are set for signals, beyond ignoring them. -/
def hasTraps (s : Session) : Bool :=
  s.traps.any fun t => !t.2.isEmpty

/-- Nothing is being passed over. -/
def isOnCourse (s : Session) : Bool :=
  s.skip = .nothing

end Session

/-! ### Messages -/

/-- Says something on the standard error. -/
def complain (text : Octets) : Act Unit :=
  modify fun s => { s with toRunning := s.toRunning.say 2 text }

/-- Says what is wrong with a command. -/
def warn (words : Octets) : Act Unit := do
  let s ← get
  let command := match s.command with
    | some c => c ++ ": "
    | none => ""
  complain (s.name ++ ": " ++ toString s.line ++ ": " ++ command ++ words ++ "\n")

/-- Gives up with a status. -/
def giveUp {α : Type} (status : Nat) : Act α := do
  modify fun s => { s with status := status }
  throw .failed

/-- Says what is wrong and gives up. -/
def fail {α : Type} (words : Octets) : Act α := do
  warn words
  giveUp 2

/-- The number that an argument is. -/
def number (text : Octets) : Act Nat := do
  match Numeral.whole? 10 text with
  | some n => if 0 ≤ n && n ≤ Int32.maxValue.toInt then return n.toNat else illegal
  | none => illegal
where
  illegal : Act Nat := fail ("Illegal number: " ++ text)

/-! ### Variables -/

/-- Gives a variable a value, or takes it away. -/
def setVariable (name : String) (value : Option Octets) (exported readonly : Bool) :
    Act Unit := do
  if !isName name then
    fail (String.ofList (name.toList.takeWhile (· ≠ '=')) ++ ": bad variable name")
  let s ← get
  let old := (s.binding? name).getD ⟨name, none, false, false⟩
  if old.readonly then fail (name ++ ": is read only")
  let exports := old.exported || exported || (s.has "allexport" && value.isSome)
  modify (·.putVariable ⟨name, value, exports, readonly⟩)
  if name = "OPTIND" then
    let next := (value.bind (Numeral.whole? 10)).getD 1
    modify fun s => { s with optionProgress := ⟨if next ≤ 0 then 1 else next.toNat, none⟩ }
  if name = "PATH" then modify fun s => { s with found := [] }

/-- Gives a variable a value. -/
def assign (name : String) (value : Octets) : Act Unit :=
  setVariable name (some value) false false

/-- The variables that the shell itself uses. They are there even without a value. -/
def lastingVariables : List String :=
  ["IFS", "MAIL", "MAILPATH", "OPTIND", "PATH", "PS1", "PS2", "PS4"]

/-- Takes the value of a variable away, and its properties unless the shell uses it. -/
def unset (name : String) : Act Unit := do
  if !isName name then fail (name ++ ": bad variable name")
  match (← get).binding? name with
  | some v =>
    if v.readonly then fail (name ++ ": is read only")
    if lastingVariables.contains name then modify (·.putVariable { v with value := none })
    else modify (·.dropVariable name)
    if name = "PATH" then modify fun s => { s with found := [] }
  | none => return ()

/-- Keeps the old state of a variable until the innermost scope ends. -/
def keep (name : String) : Act Unit :=
  modify fun s =>
    match s.scopes with
    | scope :: scopes => { s with scopes := (.variable name (s.binding? name) :: scope) :: scopes }
    | [] => s

/-- The session with the old state of something. -/
def restoreOne (s : Session) : Saved → Session
  | .variable _ (some old) => s.putVariable old
  | .variable name none => s.dropVariable name
  | .options old => { s with options := old }

/-- The session after the innermost scope. -/
def endScope (s : Session) : Session :=
  match s.scopes with
  | scope :: scopes => scope.foldl restoreOne { s with scopes := scopes }
  | [] => s

/-- Does something in a scope of its own. An escape leaves the scope open. -/
def inScope {α : Type} (act : Act α) : Act α := do
  modify fun s => { s with scopes := [] :: s.scopes }
  let result ← act
  modify endScope
  return result

/-! ### Catching -/

/-- The session after all scopes but so many of the outermost. -/
def endScopes (depth : Nat) : Nat → Session → Session
  | 0, s => s
  | n + 1, s => if depth < s.scopes.length then endScopes depth n (endScope s) else s

/-- The status of a command whose failure does not end the shell. Other escapes go on. -/
def caught (act : Act Nat) : Act Nat := do
  let depth := (← get).scopes.length
  tryCatch act fun e =>
    match e with
    | .failed => do
      modify fun s => endScopes depth s.scopes.length s
      return (← get).status
    | e => throw e

/-- Does something at the end of an act, however it ends. -/
def ensuring {α : Type} (act : Act α) (last : Session → Session) : Act α := do
  let result ← tryCatch (do return Except.ok (← act)) fun e => return Except.error e
  modify last
  match result with
  | .ok a => return a
  | .error e => throw e

/-! ### Streams -/

/-- Prints on the standard output. The status is that of a command that could or could not do
so. -/
def print (text : Octets) : Act Nat := do
  if text.isEmpty then return 0
  let s ← get
  match s.toRunning.write 1 text with
  | .ok r =>
    set { s with toRunning := r }
    return 0
  | .error _ =>
    warn (s.command.getD "" ++ ": I/O error")
    return 1

/-- The words for a file that cannot be opened. -/
def openRefusal (path : Octets) (creates : Bool) (e : OsError) : Octets :=
  let reason :=
    if e = .noEntry || e = .notDirectory then
      if creates then "Directory nonexistent" else "No such file"
    else
      match e with
      | .number n => OsError.text n
      | e => e.message
  (if creates then "cannot create " else "cannot open ") ++ path ++ ": " ++ reason

end ScriptHost.Shell
