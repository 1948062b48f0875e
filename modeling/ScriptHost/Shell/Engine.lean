import ScriptHost.Shell.Redirection
import ScriptHost.Shell.Script.Grammar

/-!
# Scripts and processes

What the commands of a shell need from the shell as a whole: to run scripts, to start
programs, to run a part of a script in a process of its own, and to look after signals.

## Main definitions

* `Engine` — runs scripts and starts programs.
* `runText`, `runFile` — run the text of a script line by line.
* `inChild`, `awaited` — a process for a part of a script, and its end.
* `heedSignals` — carries out what signals ask for.
* `finish` — the end of a shell.
-/

namespace ScriptHost.Shell

/-- How a script is carried out. -/
structure Manner where
  /-- Its status is looked at, so that a failure does not end the shell. -/
  tested : Bool := false
  /-- Nothing follows it in its process. -/
  last : Bool := false
  deriving DecidableEq, Repr

/-- Starts the program at a path. -/
abbrev Starter := Octets → Running → Except OsError (Ending × Kernel)

/-- Runs scripts and starts programs. -/
structure Engine where
  execute : Script → Manner → Act Nat
  start : Starter

/-! ### Texts -/

/-- Runs a text line by line. Its lines may be shown as they are read. -/
def runLines (e : Engine) (m : Manner) (shows : Bool) : Nat → Source → Nat → Act Nat
  | 0, _, status => return status
  | fuel + 1, source, status => do
    let s ← get
    let source := { source with
      aliases := s.aliases, documents := s.documents, nextDocument := s.nextDocument }
    match Script.nextLine.run source with
    | .error problem =>
      modify fun s => { s with line := problem.line }
      fail problem.message
    | .ok (none, _) => return status
    | .ok (some script, after) =>
      if shows && s.has "verbose" then
        complain (String.ofList (source.rest.take (source.rest.length - after.rest.length)))
      modify fun s => { s with
        documents := after.documents, nextDocument := after.nextDocument, reached := after.line }
      match script with
      | .nothing => runLines e m shows fuel after status
      | script =>
        let status ← e.execute script { m with last := m.last && after.isAtEnd }
        if (← get).isOnCourse then runLines e m shows fuel after status else return status

/-- Runs a text. -/
def runText (e : Engine) (m : Manner) (text : Octets) : Act Nat := do
  let reached := (← get).reached
  let status ← runLines e m false (text.length + 2) (.ofText text.toList) 0
  modify fun s => { s with reached := reached }
  return status

/-- Commands that return from a function or a file have done so. -/
def Session.returned (s : Session) : Session :=
  match s.skip with
  | .return | .plainReturn => { s with skip := .nothing }
  | _ => s

/-- Runs the text of a file. -/
def runFile (e : Engine) (text : Octets) : Act Nat := do
  let reached := (← get).reached
  let cs := text.toList.filter (· ≠ '\x00')
  let status ← runLines e {} true (cs.length + 2) (.ofText cs) 0
  modify fun s => { s.returned with reached := reached }
  return status

/-! ### Signals -/

/-- Carries out the action of a trap. The status is what it was before, unless the action returns
from a function. -/
def runTrap (e : Engine) (action : Octets) : Act Unit := do
  let s ← get
  let status := s.savedStatus.getD s.status
  set { s with savedStatus := some status }
  let _ ← runText e {} action
  modify fun t => { t with
    status := if t.skip = .return then t.status else status
    savedStatus := s.savedStatus }

/-- What a signal does to a shell. -/
def heedSignal (e : Engine) (signal : Nat) : Act Unit := do
  let s ← get
  match s.traps.lookup signal with
  | some action =>
    if signal = 9 || signal = 19 then throw (.gone (.killed signal))
    else if !action.isEmpty then runTrap e action
  | none =>
    if !(s.ignored.contains signal || unnoticedSignals.contains signal) then
      throw (.gone (.killed signal))

/-- Carries out what signals to the shell ask for. -/
def heedSignals (e : Engine) : Act Unit := do
  let s ← get
  let mine := s.kernel.sent.filter (·.1 = s.process)
  if !mine.isEmpty then
    set { s with kernel := { s.kernel with sent := s.kernel.sent.filter (·.1 ≠ s.process) } }
    mine.forM fun m => heedSignal e m.2

/-! ### Ends -/

/-- A shell ends with its status. -/
def Session.ending (s : Session) : Ending :=
  .exited (s.status % 256)

/-- Carries out the trap for the end of a shell. Its action does not change the status, except by
saying so. -/
def runLastTrap (e : Engine) : Act Unit := do
  let s ← get
  match s.traps.lookup 0 with
  | some action =>
    set { s with
      traps := s.traps.filter (·.1 ≠ 0), skip := .nothing,
      savedStatus := some s.status, loops := 0 }
    tryCatch (discard (runText e {} action)) fun escape =>
      match escape with
      | .failed => modify fun s => { s with savedStatus := none }
      | .over => return ()
      | e => throw e
    modify fun s => { s with status := s.savedStatus.getD s.status }
  | none => return ()

/-- A job that is waited for runs to its end. -/
def Job.run (j : Job) (k : Kernel) : Job × Kernel :=
  match j.state with
  | .waiting run =>
    let (ending, k) := run k
    ({ j with state := .ended ending }, k)
  | .ended _ => (j, k)

/-- Jobs run to their ends one after another. -/
def runJobs : List Job → Kernel → List Job × Kernel
  | [], k => ([], k)
  | j :: rest, k =>
    let (j, k) := j.run k
    let (rest, k) := runJobs rest k
    (j :: rest, k)

/-- Everything a shell does until it has ended, and what comes of it. Jobs that nobody waited for
go on without the shell. -/
def finish (e : Engine) (act : Act Nat) (s : Session) : Ending × Kernel :=
  let body : Act Unit := do
    discard act
    heedSignals e
  let whole : Act Unit := do
    tryCatch body fun escape =>
      match escape with
      | .gone ending => throw (.gone ending)
      | _ => return ()
    runLastTrap e
  let (result, s) := whole.run.run s
  let ending := match result with
    | .error (.gone ending) => ending
    | _ => s.ending
  let (_, k) := runJobs s.jobs s.kernel
  (ending, { k with processes := k.processes.filter (· ≠ s.process) })

/-! ### Children -/

/-- The session of a process for a part of the script. Actions of traps are not handed on. -/
def Session.forked (s : Session) (number : Nat) : Session :=
  { s with
    parent := s.process
    process := number
    traps := s.traps.filter (·.2.isEmpty)
    jobs := []
    kernel := { s.kernel with
      lastProcess := number, processes := number :: s.kernel.processes } }

/-- A new number for a process. -/
def newProcess : Act Nat := do
  let s ← get
  let number := s.kernel.lastProcess + 1
  set { s with kernel := { s.kernel with lastProcess := number } }
  return number

/-- Runs a part of the script in a process of its own, after its session was adjusted. -/
def inChild (e : Engine) (adjust : Session → Session) (act : Act Nat) : Act Ending := do
  let number ← newProcess
  let s ← get
  let (ending, kernel) := finish e act (adjust (s.forked number))
  set { s with kernel := kernel }
  heedSignals e
  return ending

/-- The status of a process that was waited for. The shell says which signal ended it. -/
def awaited (ending : Ending) : Act Nat := do
  let words := match ending with
    | .killed n => signalDescription? n
    | .exited _ => none
  words.forM fun words => complain (words ++ "\n")
  return ending.status

/-- The end of a process that the shell waits for, or that takes its place if nothing follows. -/
def replacing (m : Manner) (child : Act Ending) : Act Nat := do
  let s ← get
  let ending ← child
  if m.last && !s.hasTraps then throw (.gone ending) else awaited ending

/-- What a script prints, in a process of its own. -/
def outputOf (e : Engine) : OutputOf := fun script => do
  match script with
  | .nothing => return ""
  | script =>
    let s ← get
    let (reader, writer, kernel) := s.kernel.addBuffer []
    set { s with kernel := kernel }
    let ending ← inChild e
      (fun s => { s with toRunning := s.toRunning.setStream 1 (some writer) })
      (e.execute script { last := true })
    let printed := match (← get).kernel.waiting reader with
      | .ok b => Octets.ofBytes b
      | .error _ => ""
    let status ← awaited ending
    modify fun s => { s with substituted := status }
    return printed

/-! ### Options of commands -/

/-- The options in front of arguments, and the arguments. A letter with a colon after it takes
an argument. -/
def optionsFrom (known : List Char) : Nat → List Octets → Act (List (Char × Octets) × List Octets)
  | 0, args => return ([], args)
  | fuel + 1, args => do
    match args with
    | [] => return ([], [])
    | a :: rest =>
      match a.toList with
      | ['-', '-'] => return ([], rest)
      | '-' :: c :: cs =>
        let after := (known.dropWhile (· ≠ c)).drop 1
        if c = ':' || !known.contains c then fail ("Illegal option -" ++ String.singleton c)
        else if after.head? = some ':' then
          if cs.isEmpty then
            match rest with
            | [] => fail ("No arg for -" ++ String.singleton c ++ " option")
            | value :: rest =>
              let (options, args) ← optionsFrom known fuel rest
              return ((c, value) :: options, args)
          else
            let (options, args) ← optionsFrom known fuel rest
            return ((c, String.ofList cs) :: options, args)
        else
          let next := if cs.isEmpty then rest else String.ofList ('-' :: cs) :: rest
          let (options, args) ← optionsFrom known fuel next
          return ((c, "") :: options, args)
      | _ => return ([], args)

/-- The options in front of arguments, and the arguments. -/
def options (known : String) (args : List Octets) : Act (List (Char × Octets) × List Octets) :=
  optionsFrom known.toList (args.foldl (fun n a => n + a.length + 1) 1) args

end ScriptHost.Shell
