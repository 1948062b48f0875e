import ScriptHost.CommandLine.Arguments
import ScriptHost.CommandLine.LogFilter
import ScriptHost.Host.Session

/-!
# Running a command line

Carries out an order: sets up a host, has it do the task, and prints the outcome. The files and
the environment are those of the site that is part of the world; modules and commands come
from any platform.

## Main definitions

* `Printed` — what a command line prints, and its exit status.
* `perform` — carries out an order.
* `run` — a whole command line, from its arguments.
* `runOnSite` — a command line whose modules and commands are those of the site.

## Channels

A result is printed to the standard output, whatever its status; everything that stands in the
way of a result is one line on the standard error. The exit status is zero after success, one
after a failure and two after a misuse of the arguments. A breakdown has a status of its own.
-/

namespace ScriptHost.CommandLine

/-- What a command line prints, and its exit status. -/
structure Printed where
  exit : Nat
  output : String
  errors : String
  deriving DecidableEq, Repr

/-- What stands in the way of a result. -/
inductive Obstacle where
  | failure (e : Failure)
  | logFilter (text : String)
  /-- The source could not be read. -/
  | source (path : Path) (e : OsError)
  | standardInput (e : OsError)
  deriving DecidableEq, Repr

/-- The line on the standard error. -/
def Obstacle.message : Obstacle → String
  | .failure e => e.userMessage
  | .logFilter text =>
    "Error: Invalid log level " ++ "`" ++ text ++ "`" ++ ": invalid filter directive"
  | .source path e => "Error: Failed to read " ++ path ++ ": " ++ e.message
  | .standardInput e => "Error: Failed to read stdin: " ++ e.message

/-- A line of output. -/
def line (s : String) : String := s ++ "\n"

/-- The outcome of a task that came to a result. -/
def Printed.result (output : String) (success : Bool) : Printed :=
  ⟨if success then 0 else 1, output, ""⟩

/-- The outcome of a task that did not come to a result. -/
def Printed.obstacle (o : Obstacle) : Printed :=
  ⟨1, "", line o.message⟩

/-- The outcome of a breakdown, which is no answer at all. -/
def Printed.breakdown : Printed := ⟨101, "", ""⟩

/-! ### Settings -/

/-- The settings: those of the file that is named, or of the usual file if there is one, or the
defaults. -/
def settingsFor (order : Order) (s : Site) : Except Failure Settings :=
  let usual := Settings.defaultPath s.environment
  match order.config with
  | some path => Settings.loadWith s.files s.cwd s.environment path
  | none =>
    if s.files.exists? s.cwd usual then Settings.loadWith s.files s.cwd s.environment usual
    else .ok (({} : Settings).override s.environment)

/-! ### Logging -/

/-- The variable with more log filters, between commas. -/
def logVariable : String := "RUST_LOG"

/-- The log filters of the environment. A value that is not UTF-8 does not count. -/
def loggingOf (env : Environment) : List String :=
  ((((env.bytes? logVariable).bind Utf8.decode?).map (·.splitOn ",")).getD []).filter (· ≠ "")

/-- The level of the settings has to be a log filter, unless all is to be logged. Of the filters of
the environment those that are malformed are passed over. No filter can be torn. -/
def checkLogging (order : Order) (settings : Settings) (env : Environment) :
    Except Printed Unit :=
  let level := settings.logging.level
  match if order.verbose then .ok () else LogFilter.check level with
  | .error .malformed => .error (.obstacle (.logFilter level))
  | .error .torn => .error .breakdown
  | .ok () =>
    if (loggingOf env).any fun filter => LogFilter.check filter matches .error .torn then
      .error .breakdown
    else .ok ()

/-! ### Tasks -/

variable {W : Type}

/-- The source of an execution. -/
def readSource (file : Option Path) (input : Bytes) (s : Site) : Except Obstacle String :=
  match file with
  | some path =>
    match s.files.readText s.cwd path with
    | .ok source => .ok source
    | .error e => .error (.source path e)
  | none =>
    match Utf8.decode? input with
    | some source => .ok source
    | none => .error (.standardInput .notUtf8)

/-- A report as it is printed. -/
def showReport (json : Bool) (r : Report) : String :=
  line (if json then r.toJson.render else r.rendered)

/-- What is printed for the answer to an execution. -/
def printAnswer (json : Bool) : Option (Except Failure Reply) → Printed
  | some (.ok (.report r)) => .result (showReport json r) r.isSuccess
  | some (.error e) => .obstacle (.failure e)
  | _ => .obstacle (.failure .notReady)

/-- Executes a source. A module that cannot be loaded is no obstacle yet: the execution says
that there is none. -/
def runExec (part : Part W Site) (options : ExecOptions) (input : Bytes) (h : Host W) :
    Printed × Host W :=
  match readSource options.file input (part.get h.native.world) with
  | .error o => (.obstacle o, h)
  | .ok source =>
    let h := (h.serve 0 .start).serve 1 (.execute options.language source options.timeout)
    (printAnswer options.json (h.answer? 1), h)

/-- The lines that a rebuild prints: the last announcement whenever there is a new one. -/
def progressLines (shown : List Progress) : String :=
  String.join (shown.map fun p => (p.messages.getLast?.map line).getD "")

/-- Rebuilds the module. -/
def runRebuild (h : Host W) : Printed × Host W :=
  let h := h.serve 0 .rebuild
  let success :=
    match h.answer? 0 with
    | some (.ok (.progress p)) => p.isSuccess
    | _ => false
  (.result (progressLines (h.shown 0)) success, h)

/-- Loads the module and tells whether it is ready. -/
def runStatus (h : Host W) : Printed × Host W :=
  let h := h.serve 0 .start
  let ready := h.native.slot.ready
  let reason :=
    match h.answer? 0 with
    | some (.error e) => line ("reason: " ++ e.message)
    | _ => ""
  (.result (line ("module: " ++ h.settings.module.path)
    ++ line ("ready: " ++ (if ready then "yes" else "no")) ++ reason) ready, h)

/-- Does a task. -/
def Task.perform (task : Task) (part : Part W Site) (input : Bytes) (h : Host W) :
    Printed × Host W :=
  match task with
  | .exec options => runExec part options input h
  | .rebuild => runRebuild h
  | .status => runStatus h

/-! ### Command lines -/

/-- Carries out an order. The platform may depend on the prefix of the module's symbols. -/
def perform (part : Part W Site) (platform : String → Platform W) (order : Order) (input : Bytes)
    (w : W) : Printed × W :=
  match settingsFor order (part.get w) with
  | .error e => (.obstacle (.failure e), w)
  | .ok settings =>
    match checkLogging order settings (part.get w).environment with
    | .error printed => (printed, w)
    | .ok () =>
      match Host.openOn part (platform settings.module.symbolPrefix) settings w with
      | (.error e, w) => (.obstacle (.failure e), w)
      | (.ok h, _) =>
        let (printed, h) := order.task.perform part input h
        (printed, h.native.world)

/-- The name and version of the program. -/
def versionLine : String := "vmbridge 0.1.0\n"

/-- What is printed for arguments that ask for nothing. -/
def Stop.printed : Stop → Printed
  | .misuse => ⟨2, "", ""⟩
  | .help => ⟨0, "", ""⟩
  | .version => ⟨0, versionLine, ""⟩

/-- A whole command line. -/
def run (part : Part W Site) (platform : String → Platform W) (arguments : List String)
    (input : Bytes) (w : W) : Printed × W :=
  match Order.ofArguments arguments with
  | .ok order => perform part platform order input w
  | .error stop => (stop.printed, w)

/-- A command line whose modules and commands are those of the site. -/
def runOnSite (arguments : List String) (input : Bytes) (s : Site) : Printed × Site :=
  run Part.whole Site.platform arguments input s.atStart

end ScriptHost.CommandLine
