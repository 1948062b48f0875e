import ScriptHost.Path
import ScriptHost.Timeout

/-!
# Command line arguments

Reads the arguments of a command line: options for everything in front, a task, and the
options of the task.

## Main definitions

* `Order`, `Task` — what a command line asks for.
* `Stop` — the ends of a command line that asks for nothing.
* `Order.ofArguments` — reads the arguments.

## Rules

* An option with a value has it in the next argument or, after an equals sign or directly after
  a short name, in the same one. A next argument that begins with a dash is no value, unless it
  is a lone dash.
* Short names may share a dash. No option may be given twice in one place; in front of the task
  and after it are two places, of which the second counts.
* After `--` nothing is an option.
* Arguments are read from left to right, and the first thing to be wrong, or the first request
  for help, is the end.
-/

namespace ScriptHost.CommandLine

/-- The options of an execution. -/
structure ExecOptions where
  /-- The source; standard input if none. -/
  file : Option Path := none
  language : Option String := none
  timeout : Option Duration := none
  json : Bool := false
  deriving DecidableEq, Repr

/-- What to do. -/
inductive Task where
  | exec (options : ExecOptions)
  | rebuild
  | status
  deriving DecidableEq, Repr

/-- What a command line asks for. -/
structure Order where
  config : Option Path
  verbose : Bool
  task : Task
  deriving DecidableEq, Repr

/-- Why a command line asks for nothing. -/
inductive Stop where
  | misuse
  | help
  | version
  deriving DecidableEq, Repr

/-- The part of a command line that an argument is in. -/
inductive Scope where
  /-- In front of the task. -/
  | front
  | exec
  | rebuild
  | status
  deriving DecidableEq, Repr

/-- An option with a value. -/
inductive Key where
  | config
  | language
  | timeout
  deriving DecidableEq, Repr

/-- An option without a value. -/
inductive Flag where
  | verbose
  | json
  | help
  | version
  deriving DecidableEq, Repr

/-- What has been read so far. -/
structure Draft where
  scope : Scope := .front
  config : Option Path := none
  verbose : Bool := false
  /-- The configuration was named in this scope. -/
  configHere : Bool := false
  /-- Verbosity was asked for in this scope. -/
  verboseHere : Bool := false
  exec : ExecOptions := {}
  /-- Nothing is an option any more. -/
  literal : Bool := false
  deriving Repr

/-! ### Names -/

/-- The option with a value under a long name. -/
def Scope.longKey? (s : Scope) (name : String) : Option Key :=
  match name with
  | "config" => some .config
  | "language" => if s = .exec then some .language else none
  | "timeout" => if s = .exec then some .timeout else none
  | _ => none

/-- The option without a value under a long name. -/
def Scope.longFlag? (s : Scope) (name : String) : Option Flag :=
  match name with
  | "verbose" => some .verbose
  | "help" => some .help
  | "json" => if s = .exec then some .json else none
  | "version" => if s = .front then some .version else none
  | _ => none

/-- The option with a value under a short name. -/
def Scope.shortKey? (s : Scope) (name : Char) : Option Key :=
  match name with
  | 'c' => some .config
  | 'l' => if s = .exec then some .language else none
  | 't' => if s = .exec then some .timeout else none
  | _ => none

/-- The option without a value under a short name. -/
def Scope.shortFlag? (s : Scope) (name : Char) : Option Flag :=
  match name with
  | 'v' => some .verbose
  | 'h' => some .help
  | 'V' => if s = .front then some .version else none
  | _ => none

/-- The task under a name. -/
def scope? : String → Option Scope
  | "exec" => some .exec
  | "rebuild" => some .rebuild
  | "status" => some .status
  | _ => none

/-! ### Parts -/

namespace Draft

/-- Takes the value of an option. -/
def set (d : Draft) (key : Key) (value : String) : Except Stop Draft :=
  match key with
  | .config =>
    if d.configHere || value.isEmpty then .error .misuse
    else .ok { d with config := some value, configHere := true }
  | .language =>
    if d.exec.language.isSome then .error .misuse
    else .ok { d with exec := { d.exec with language := some value } }
  | .timeout =>
    if d.exec.timeout.isSome then .error .misuse
    else
      match Timeout.parse value with
      | .ok timeout => .ok { d with exec := { d.exec with timeout := some timeout } }
      | .error _ => .error .misuse

/-- Takes an option without a value. -/
def raise (d : Draft) : Flag → Except Stop Draft
  | .help => .error .help
  | .version => .error .version
  | .verbose =>
    if d.verboseHere then .error .misuse else .ok { d with verbose := true, verboseHere := true }
  | .json =>
    if d.exec.json then .error .misuse else .ok { d with exec := { d.exec with json := true } }

/-- Takes a long option. The key that is returned waits for its value. -/
def long (d : Draft) (name : String) (value : Option String) : Except Stop (Draft × Option Key) :=
  match d.scope.longKey? name, d.scope.longFlag? name, value with
  | some key, _, some value => (d.set key value).map fun d => (d, none)
  | some key, _, none => .ok (d, some key)
  | none, some flag, none => (d.raise flag).map fun d => (d, none)
  | none, _, _ => .error .misuse

/-- Takes short options that share a dash. The key that is returned waits for its value. -/
def short (d : Draft) : List Char → Except Stop (Draft × Option Key)
  | [] => .ok (d, none)
  | c :: cs =>
    match d.scope.shortKey? c, d.scope.shortFlag? c with
    | some key, _ =>
      match cs with
      | [] => .ok (d, some key)
      | '=' :: value => (d.set key (String.ofList value)).map fun d => (d, none)
      | value => (d.set key (String.ofList value)).map fun d => (d, none)
    | none, some flag =>
      match d.raise flag with
      | .ok d => d.short cs
      | .error stop => .error stop
    | none, none => .error .misuse

/-- Takes an argument that is no option: the task, or the file of an execution. -/
def positional (d : Draft) (a : String) : Except Stop Draft :=
  match d.scope with
  | .front =>
    match scope? a with
    | some scope =>
      if d.literal then .error .misuse
      else .ok { d with scope := scope, configHere := false, verboseHere := false }
    | none => .error .misuse
  | .exec =>
    if d.exec.file.isSome || a.isEmpty then .error .misuse
    else .ok { d with exec := { d.exec with file := some a } }
  | .rebuild | .status => .error .misuse

/-- The order, when all arguments have been read. -/
def finish (d : Draft) : Except Stop Order :=
  match d.scope with
  | .front => .error .misuse
  | .exec => .ok ⟨d.config, d.verbose, .exec d.exec⟩
  | .rebuild => .ok ⟨d.config, d.verbose, .rebuild⟩
  | .status => .ok ⟨d.config, d.verbose, .status⟩

end Draft

/-! ### Arguments -/

/-- An argument that may be an option. -/
def isOption (a : String) : Bool :=
  a.startsWith "-" && a ≠ "-"

/-- The name of a long option, and its value if that is in the same argument. -/
def splitLong (a : String) : String × Option String :=
  let cs := a.toList.drop 2
  let name := String.ofList (cs.takeWhile (· ≠ '='))
  match cs.dropWhile (· ≠ '=') with
  | [] => (name, none)
  | _ :: value => (name, some (String.ofList value))

/-- Takes an argument when no option waits for a value. The key that is returned waits for
its value. -/
def Draft.argument (d : Draft) (a : String) : Except Stop (Draft × Option Key) :=
  if d.literal then (d.positional a).map fun d => (d, none)
  else if a = "--" then .ok ({ d with literal := true }, none)
  else if a.startsWith "--" then
    let (name, value) := splitLong a
    d.long name value
  else if isOption a then d.short (a.toList.drop 1)
  else (d.positional a).map fun d => (d, none)

/-- The end of a command line that asks for help on tasks. -/
def helpOn : List String → Stop
  | [] => .help
  | [task] => if task = "help" || (scope? task).isSome then .help else .misuse
  | _ => .misuse

/-- Reads arguments, the first of which may be the value of an option that waits for it. -/
def readArguments (d : Draft) (waiting : Option Key) : List String → Except Stop Order
  | [] => if waiting.isSome then .error .misuse else d.finish
  | a :: rest =>
    match waiting with
    | some key =>
      if isOption a then .error .misuse
      else
        match d.set key a with
        | .ok d => readArguments d none rest
        | .error stop => .error stop
    | none =>
      if d.scope = .front && !d.literal && a = "help" then .error (helpOn rest)
      else
        match d.argument a with
        | .ok (d, waiting) => readArguments d waiting rest
        | .error stop => .error stop

/-- What the arguments of a command line ask for. -/
def Order.ofArguments (arguments : List String) : Except Stop Order :=
  readArguments {} none arguments

end ScriptHost.CommandLine
