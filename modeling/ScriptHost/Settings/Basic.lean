import ScriptHost.Duration
import ScriptHost.FileTree
import ScriptHost.Tag
import ScriptHost.Text.Fence

/-!
# Settings

What a host can be told: where the module is and how its symbols are named, the limits of
an execution, how the module is rebuilt, and how much is logged. Every setting has a
default.

## Main definitions

* `Settings` and its four sections.
* `Settings.check` — which settings a host accepts.
* `ModuleSettings.shadowDir`, `RebuildSettings.remoteBranch` — derived values.
-/

namespace ScriptHost

/-- Where the module is, and how its symbols are named. -/
structure ModuleSettings where
  /-- The module's library file. -/
  path : Path := "../SQFvm/libcsqfvm.so"
  /-- Comes before the name of every symbol. -/
  symbolPrefix : String := "sqfvm_"
  /-- A file whose content is passed to the module before every call. -/
  configFile : Option Path := none
  /-- Where copies of the module are kept while they are loaded. -/
  shadowDir? : Option Path := none
  deriving DecidableEq, Repr

/-- The limits of an execution. -/
structure ExecutionSettings where
  /-- The language of a request that names none. -/
  defaultLanguage : String := "sqf"
  /-- The seconds allowed to a request that names no timeout. -/
  defaultTimeout : Number.Double := Number.Double.ofInt 10
  /-- The byte budget of a rendered message. -/
  outputBudget : Nat := Fence.messageBudget
  /-- The most workers at a time. -/
  maxWorkers : Nat := 4
  deriving DecidableEq, Repr

/-- How the module is rebuilt. -/
structure RebuildSettings where
  /-- The checkout of the module's sources. -/
  sourceDir : Path := "../SQFvm"
  /-- The branch to build, possibly with its remote. -/
  branch : String := "master"
  /-- The remote of a branch that does not name one. -/
  remote : String := "origin"
  /-- The build cache that is removed before configuring. -/
  cacheFile : String := "CMakeCache.txt"
  /-- The target that produces the module. -/
  buildTarget : String := "libcsqfvm"
  /-- Parallel build jobs. -/
  jobs : Nat := 6
  /-- Variables for the configure stage, in the order of their names. -/
  env : List (String × String) := []
  deriving DecidableEq, Repr

/-- How much is logged. -/
structure LoggingSettings where
  level : String := "info"
  deriving DecidableEq, Repr

/-- All settings of a host. -/
structure Settings where
  module : ModuleSettings := {}
  execution : ExecutionSettings := {}
  rebuild : RebuildSettings := {}
  logging : LoggingSettings := {}
  deriving DecidableEq, Repr

/-! ### Derived values -/

/-- The name of the directory for copies of a module, next to the module. -/
def shadowDirName : String := ".vmbridge-shadow"

/-- The directory for copies of a module that has no other one set. -/
def defaultShadowDir (module : Path) : Path :=
  Path.join ((Path.parent? module).getD ".") shadowDirName

/-- The directory for copies of the module. -/
def ModuleSettings.shadowDir (s : ModuleSettings) : Path :=
  s.shadowDir?.getD (defaultShadowDir s.path)

/-- The timeout of a request that names none. A number of seconds that is no duration gives
the longest one. -/
def ExecutionSettings.timeout (s : ExecutionSettings) : Duration :=
  (Duration.ofSeconds? s.defaultTimeout).getD Duration.max

/-- The branch with its remote. -/
def RebuildSettings.remoteBranch (s : RebuildSettings) : String :=
  if s.branch.contains '/' then s.branch else s.remote ++ "/" ++ s.branch

/-! ### Checks -/

/-- The smallest output budget. The fences and the ellipsis alone take 15 bytes. -/
def minOutputBudget : Nat := 32

namespace Settings

/-- The default timeout is greater than zero and a duration. -/
def timeoutInRange (s : Settings) : Bool :=
  s.execution.defaultTimeout.isPositive
    && (Duration.ofSeconds? s.execution.defaultTimeout).isSome

/-- Accepts or refuses settings; of several faults the first in this order is named. -/
def check (s : Settings) : Except Failure Unit :=
  if !s.timeoutInRange then
    .error (.config "execution.default_timeout_secs must be a positive number of seconds in range")
  else if s.execution.outputBudget < minOutputBudget then
    .error (.config "execution.output_budget must be at least 32 bytes")
  else if s.execution.maxWorkers = 0 then
    .error (.config "execution.max_blocking_threads must be at least 1")
  else if s.rebuild.jobs = 0 then
    .error (.config "rebuild.jobs must be at least 1")
  else
    (Tag.ofLanguage s.execution.defaultLanguage).map fun _ => ()

/-- The content of the file that is passed to the module, if one is set. -/
def readModuleConfig (s : Settings) (files : FileTree) (cwd : Location) :
    Except Failure (Option Bytes) :=
  match s.module.configFile with
  | none => .ok none
  | some path =>
    match files.readFile cwd path with
    | .ok content => .ok (some content)
    | .error e => .error (.config ("cannot read VM config " ++ path ++ ": " ++ e.message))

end Settings

end ScriptHost
