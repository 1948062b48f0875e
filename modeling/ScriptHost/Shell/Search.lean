import ScriptHost.Shell.Engine

/-!
# Looking for programs

A program is named by a path, or looked for on the search path. A file that names no
interpreter is run as a script of the shell.

## Main definitions

* `findProgram` — the paths where a program is.
* `startAny` — starts the first program that can be started.
* `runProgram`, `become` — a program in a process of its own, and in place of the shell.
-/

namespace ScriptHost.Shell

/-- The shell of the system. -/
def shellPath : Octets := "/bin/sh"

/-- The words for a program that cannot be started. -/
def startRefusal (e : OsError) : Octets :=
  if e = .noEntry || e = .notDirectory then "not found"
  else
    match e with
    | .number n => OsError.text n
    | e => e.message

/-- The status of a program that cannot be started. -/
def startStatus (e : OsError) : Nat :=
  if e = .noEntry || e = .notDirectory || e = .tooManyLevels || e = .nameTooLong then 127 else 126

namespace Session

/-- A path names a file that may be executed. -/
def isProgram (s : Session) (path : Octets) : Bool :=
  match s.toRunning.entry? path with
  | some (.file _ executable) => executable
  | some (.utility _) => true
  | _ => false

/-- Why a path is not that of a program, if it names anything. -/
def obstacle? (s : Session) (path : Octets) : Option OsError :=
  match s.toRunning.lookUp path with
  | .ok _ => some .noAccess
  | .error e => if e = .noEntry || e = .notDirectory then none else some e

/-- The paths where a program may be. Those in front of the first one that is a program are left
out. Of the obstacles to all of them the last one counts. -/
def programsOn (s : Session) (path : Octets) (name : Octets) : Except OsError (List Octets) :=
  let paths := (path.splitOn ":").map fun entry => below entry name
  match paths.dropWhile fun p => !s.isProgram p with
  | [] => .error ((paths.filterMap s.obstacle?).getLast?.getD .noEntry)
  | found => .ok found

/-- The path where a program is looked for. -/
def pathText (s : Session) : Octets :=
  (s.value? "PATH").getD ""

end Session

/-- The paths where a program may be, the first one being remembered if it was looked for on the
search path of the shell. Says that it is nowhere. -/
def findProgram (path : Option Octets) (name : Octets) : Act (Option (List Octets)) := do
  let s ← get
  match s.programsOn (path.getD s.pathText) name with
  | .ok found =>
    if path.isNone then
      let others := s.found.filter (·.1 ≠ name)
      set { s with found := others ++ found.head?.toList.map fun path => (name, path) }
    return some found
  | .error problem =>
    warn (name ++ ": " ++ startRefusal problem)
    return none

/-! ### Starting -/

/-- Starts a program. A file that names no interpreter is run as a script. -/
def startOne (start : Starter) (r : Running) (path : Octets) : Except OsError (Ending × Kernel) :=
  match start path r with
  | .error e =>
    if e = .notExecutable then
      start shellPath { r with name := shellPath, arguments := path :: r.arguments }
    else .error e
  | .ok ended => .ok ended

/-- Starts the first program that can be started. -/
def startAny (start : Starter) (r : Running) :
    OsError → List Octets → Except OsError (Ending × Kernel)
  | obstacle, [] => .error obstacle
  | obstacle, path :: rest =>
    match startOne start r path with
    | .ok ended => .ok ended
    | .error e =>
      startAny start r (if e = .noEntry || e = .notDirectory then obstacle else e) rest

/-- What a program is started with. -/
def Session.launch (s : Session) (process parent : Nat) (name : Octets) (arguments : List Octets) :
    Running :=
  { s.toRunning with
    process := process
    parent := parent
    name := name
    arguments := arguments
    environment := s.exports
    ignored := s.ignored ++ (s.traps.filter fun t => t.2.isEmpty && t.1 ≠ 0).map (·.1) }

/-- Starts a program by its name, on one of the paths where it may be. -/
def startNamed (e : Engine) (r : Running) (paths : List Octets) :
    Except OsError (Ending × Kernel) :=
  if r.name.contains '/' then startOne e.start r r.name
  else startAny e.start r .noEntry paths

/-- Runs a program in a process of its own. -/
def runProgram (e : Engine) (m : Manner) (name : Octets) (arguments : List Octets)
    (paths : List Octets) : Act Nat := do
  if name = "sleep" || name.endsWith "/sleep" then
    modify fun s =>
      let (jobs, kernel) := runJobs s.jobs s.kernel
      { s with jobs := jobs, kernel := kernel }
  let number ← newProcess
  let s ← get
  let r := s.launch number s.process name arguments
  let r := { r with kernel := { r.kernel with processes := number :: r.kernel.processes } }
  match startNamed e r paths with
  | .ok (ending, kernel) =>
    replacing m do
      modify fun s => { s with
        kernel := { kernel with processes := kernel.processes.filter (· ≠ number) } }
      heedSignals e
      return ending
  | .error problem =>
    warn (name ++ ": " ++ startRefusal problem)
    return startStatus problem

/-- Runs a program in place of the shell. -/
def become (e : Engine) (name : Octets) (arguments : List Octets) : Act Nat := do
  let s ← get
  let r := s.launch s.process s.parent name arguments
  let paths := (s.pathText.splitOn ":").map fun entry => Session.below entry name
  match startNamed e r paths with
  | .ok (ending, kernel) =>
    set { s with kernel := kernel }
    throw (.gone ending)
  | .error problem =>
    warn (name ++ ": " ++ startRefusal problem)
    modify fun s => { s with status := startStatus problem }
    throw .over

end ScriptHost.Shell
