import ScriptHost.Settings.Basic
import ScriptHost.Toml.Document

/-!
# Reading settings

Settings are read from a TOML document and may be overridden by two environment variables.

## Main definitions

* `Settings.parse` — the settings of a document.
* `Settings.load` — the settings of a file.
* `Settings.override` — the environment's say.
* `Settings.defaultPath` — where a settings file is looked for.

## Reading a section

A section is a table, or an array that gives the settings of the section in their order and
may be shorter or longer than that. Keys that name no setting are ignored.
-/

namespace ScriptHost

open Toml (Value Table)

namespace Settings

/-! ### Values of one type -/

/-- A string. -/
def readString : Value → Option String
  | .string s => some s
  | _ => none

/-- A string that may also be left out. -/
def readOptional (v : Value) : Option (Option String) :=
  (readString v).map some

/-- A non-negative integer. -/
def readSize : Value → Option Nat
  | .integer n => if 0 ≤ n then some n.toNat else none
  | _ => none

/-- A float, or an integer for one. -/
def readSeconds : Value → Option Number.Double
  | .float x => some x
  | .integer n => some (Number.Double.ofInt n)
  | _ => none

/-- Texts by name in the order of their names, whatever order they were written in. -/
def sortByName (texts : List (String × String)) : List (String × String) :=
  texts.mergeSort fun a b => decide (a.1 ≤ b.1)

/-- A table of strings, in the order of their names. -/
def readStrings (v : Value) : Option (List (String × String)) :=
  v.table?.bind fun t =>
    (t.mapM fun m => (readString m.2).map fun s => (m.1, s)).map sortByName

/-! ### Sections -/

/-- A section's values by key. The keys are the settings of the section in their order. -/
def sectionTable (keys : List String) (v : Value) : Option Table :=
  match v with
  | .array elements => some (keys.zip elements)
  | v => v.table?

/-- The setting under a key, or its default if the key is missing. -/
def setting {α : Type} (t : Table) (key : String) (read : Value → Option α) (default : α) :
    Option α :=
  match t.lookup key with
  | none => some default
  | some v => read v

/-- The settings of the module section, in their order. -/
def moduleKeys : List String := ["path", "symbol_prefix", "config_file", "shadow_dir"]

/-- The settings of the execution section, in their order. -/
def executionKeys : List String :=
  ["default_language", "default_timeout_secs", "output_budget", "max_blocking_threads"]

/-- The settings of the rebuild section, in their order. -/
def rebuildKeys : List String :=
  ["source_dir", "branch", "remote", "cache_file", "build_target", "jobs", "env"]

/-- The settings of the logging section, in their order. -/
def loggingKeys : List String := ["level"]

/-- Reads the module section. -/
def readModule (v : Value) : Option ModuleSettings := do
  let t ← sectionTable moduleKeys v
  let d : ModuleSettings := {}
  let path ← setting t "path" readString d.path
  let symbolPrefix ← setting t "symbol_prefix" readString d.symbolPrefix
  let configFile ← setting t "config_file" readOptional d.configFile
  let shadowDir ← setting t "shadow_dir" readOptional d.shadowDir?
  some ⟨path, symbolPrefix, configFile, shadowDir⟩

/-- Reads the execution section. -/
def readExecution (v : Value) : Option ExecutionSettings := do
  let t ← sectionTable executionKeys v
  let d : ExecutionSettings := {}
  let language ← setting t "default_language" readString d.defaultLanguage
  let timeout ← setting t "default_timeout_secs" readSeconds d.defaultTimeout
  let budget ← setting t "output_budget" readSize d.outputBudget
  let workers ← setting t "max_blocking_threads" readSize d.maxWorkers
  some ⟨language, timeout, budget, workers⟩

/-- Reads the rebuild section. -/
def readRebuild (v : Value) : Option RebuildSettings := do
  let t ← sectionTable rebuildKeys v
  let d : RebuildSettings := {}
  let sourceDir ← setting t "source_dir" readString d.sourceDir
  let branch ← setting t "branch" readString d.branch
  let remote ← setting t "remote" readString d.remote
  let cacheFile ← setting t "cache_file" readString d.cacheFile
  let buildTarget ← setting t "build_target" readString d.buildTarget
  let jobs ← setting t "jobs" readSize d.jobs
  let env ← setting t "env" readStrings d.env
  some ⟨sourceDir, branch, remote, cacheFile, buildTarget, jobs, env⟩

/-- Reads the logging section. -/
def readLogging (v : Value) : Option LoggingSettings := do
  let t ← sectionTable loggingKeys v
  let d : LoggingSettings := {}
  let level ← setting t "level" readString d.level
  some ⟨level⟩

/-- The settings of a table. -/
def ofTable? (t : Table) : Option Settings := do
  let module ← setting t "module" readModule {}
  let execution ← setting t "execution" readExecution {}
  let rebuild ← setting t "rebuild" readRebuild {}
  let logging ← setting t "logging" readLogging {}
  some ⟨module, execution, rebuild, logging⟩

/-- What is said of a text that gives no settings. -/
def parseDetail : String := "config parse error"

/-- The settings of a document. -/
def parse (s : String) : Except Failure Settings :=
  match (Toml.parse? s).bind ofTable? with
  | some settings => .ok settings
  | none => .error (.config parseDetail)

/-- The settings of a file. -/
def load (files : FileTree) (cwd : Location) (path : Path) : Except Failure Settings :=
  match files.readText cwd path with
  | .ok s => parse s
  | .error e => .error (.config ("cannot read " ++ path ++ ": " ++ e.message))

/-! ### Environment -/

end Settings

/-- The variables of an environment with their bytes. -/
abbrev Environment := List (String × Bytes)

namespace Environment

/-- The bytes of a variable. -/
def bytes? (env : Environment) (name : String) : Option Bytes :=
  env.lookup name

/-- The text of a variable, if it is set to a text that is not empty. -/
def text? (env : Environment) (name : String) : Option String :=
  (env.bytes? name).bind fun b => (Utf8.decode? b).bind fun s => if s.isEmpty then none else some s

end Environment

namespace Settings

/-- The variable that overrides the module's path. -/
def modulePathVariable : String := "VMBRIDGE_MODULE_PATH"

/-- The variable that overrides the source checkout. -/
def sourceDirVariable : String := "VMBRIDGE_SOURCE_DIR"

/-- The settings with what the environment overrides. -/
def override (s : Settings) (env : Environment) : Settings where
  module := { s.module with path := (env.text? modulePathVariable).getD s.module.path }
  execution := s.execution
  rebuild := { s.rebuild with sourceDir := (env.text? sourceDirVariable).getD s.rebuild.sourceDir }
  logging := s.logging

/-- The settings of a file with what the environment overrides. -/
def loadWith (files : FileTree) (cwd : Location) (env : Environment) (path : Path) :
    Except Failure Settings :=
  (load files cwd path).map fun s => s.override env

/-- The home of the superuser, for an environment that names no home. -/
def superuserHome : Path := "/root"

/-- The user's home directory. -/
def home (env : Environment) : Path :=
  match (env.bytes? "HOME").map Utf8.decodeLossy with
  | some dir => if dir.isEmpty then superuserHome else dir
  | none => superuserHome

/-- The directory of the user's configuration: a variable for it if that is absolute, else a
directory in the user's home. -/
def configDir (env : Environment) : Path :=
  match ((env.bytes? "XDG_CONFIG_HOME").map Utf8.decodeLossy).filter Path.isAbsolute with
  | some dir => dir
  | none => Path.join (home env) ".config"

/-- Where a settings file is looked for when none is named. -/
def defaultPath (env : Environment) : Path :=
  Path.join (Path.join (configDir env) "vmbridge") "config.toml"

end Settings

end ScriptHost
