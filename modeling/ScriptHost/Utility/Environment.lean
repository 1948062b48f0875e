import ScriptHost.Shell.Search
import ScriptHost.Utility.Basic

/-!
# Utilities about the environment

Utilities that print variables, and the one that starts a program with other variables.
-/

namespace ScriptHost.Utility

open Shell

/-- The variable of an entry of an environment. -/
def entryName (entry : Octets) : Octets :=
  String.ofList (entry.toList.takeWhile (· ≠ '='))

/-- The environment with an entry put in place of that for its variable. -/
def putEntry (environment : List Octets) (entry : Octets) : List Octets :=
  if environment.any fun e => entryName e = entryName entry then
    environment.map fun e => if entryName e = entryName entry then entry else e
  else environment ++ [entry]

/-- The value of a variable. -/
def valueOf? (environment : List Octets) (name : Octets) : Option Octets :=
  (environment.find? fun e => entryName e = name && e.length ≠ name.length).map fun e =>
    String.ofList (e.toList.drop (name.length + 1))

/-- The options of `env`. -/
def envOptions : Options where
  letters := "iu:C:S:v0"
  long := [("ignore-environment", 'i'), ("unset", 'u'), ("chdir", 'C'), ("null", '0')]
  inFront := true
  status := 125

/-- The paths where a program may be, by its name. -/
def programPaths (r : Running) (name : Octets) : List Octets :=
  if name.contains '/' then [name]
  else
    let path := (valueOf? r.environment "PATH").getD "/bin:/usr/bin"
    (path.splitOn ":").map fun entry => Session.below entry name

/-- Starts a program in the place of the utility. -/
def startInPlace (start : Starter) (name : Octets) (arguments : List Octets) (r : Running) :
    Except OsError (Ending × Kernel) :=
  startAny start { r with name := name, arguments := arguments } .noEntry (programPaths r name)

/-- What `env` is asked to do: print the environment, or start a program. -/
def envTask : Task (Option (Octets × List Octets) × Octets) := do
  let (given, arguments) ← envOptions.ofArguments
  let clears := has given 'i' || arguments.head? = some "-"
  let arguments := if arguments.head? = some "-" then arguments.drop 1 else arguments
  let removed := (given.filter (·.1 = 'u')).map (·.2)
  let r ← get
  let kept := if clears then [] else r.environment.filter fun e => !removed.contains (entryName e)
  let settings := arguments.takeWhile fun a => a.contains '='
  set { r with environment := settings.foldl putEntry kept }
  if let some directory := value? given 'C' then
    match r.lookUp directory with
    | .ok (l, .directory) => modify fun r => { r with cwd := l }
    | .ok _ =>
      complainOf ("cannot change directory to " ++ quoted directory) .notDirectory
      quit 125
    | .error e =>
      complainOf ("cannot change directory to " ++ quoted directory) e
      quit 125
  match arguments.drop settings.length with
  | [] => return (none, if has given '0' then "\x00" else "\n")
  | program :: arguments => return (some (program, arguments), "\n")

/-- Prints the environment, or starts a program with another one. -/
def env (start : Starter) (r : Running) : Ending × Kernel :=
  match envTask.run.run r with
  | (.error status, r) => (.exited status, r.kernel)
  | (.ok (none, separator), r) =>
    Task.finish
      (do
        say (String.join (r.environment.map (· ++ separator)))
        return 0) r
  | (.ok (some (program, arguments), _), r) =>
    match startInPlace start program arguments r with
    | .ok ended => ended
    | .error e =>
      Task.finish
        (do
          complainOf (quoted program) e
          return if e = .noEntry then 127 else 126) r

/-- Prints the values of variables, or all variables. -/
def printenv : Task Nat := do
  let o : Options := { letters := "0", long := [("null", '0')], inFront := true, status := 2 }
  let (given, names) ← o.ofArguments
  let separator := if has given '0' then "\x00" else "\n"
  let r ← get
  if names.isEmpty then
    say (String.join (r.environment.map (· ++ separator)))
    return 0
  else
    let values := names.map (valueOf? r.environment)
    say (String.join (values.filterMap fun v => v.map (· ++ separator)))
    return if values.all Option.isSome then 0 else 1

end ScriptHost.Utility
