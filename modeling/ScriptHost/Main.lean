import ScriptHost.CommandLine.Run

/-!
# The program

The command line as a program. It works on a copy of the files that its arguments and
settings name, in an otherwise bare site; this module only brings the copy together and prints
what `CommandLine.runOnSite` says.
-/

namespace ScriptHost.Main

open CommandLine

/-- The working directory of the copy. -/
def workingDirectory : Location := ["home", "user"]

/-- The variables of the environment that matter. -/
def variableNames : List String :=
  ["HOME", "PATH", "LD_LIBRARY_PATH", "XDG_CONFIG_HOME", logVariable, Settings.modulePathVariable,
    Settings.sourceDirVariable]

/-- The files that an order names, as far as the files at hand tell. -/
def namedFiles (order : Order) (s : Site) : List Path :=
  let source :=
    match order.task with
    | .exec options => options.file.toList
    | _ => []
  let configuration := order.config.getD (Settings.defaultPath s.environment)
  let module :=
    match settingsFor order s with
    | .ok settings => settings.module.path :: settings.module.configFile.toList
    | .error _ => []
  configuration :: source ++ module

/-- The environment. -/
def readEnvironment : IO Environment :=
  variableNames.filterMapM fun name => do
    return (← IO.getEnv name).map fun value => (name, Utf8.encode value)

/-- All that a stream holds. -/
partial def readAll (stream : IO.FS.Stream) (before : ByteArray) : IO ByteArray := do
  let more ← stream.read 65536
  if more.isEmpty then return before else readAll stream (before ++ more)

/-- The site with copies of files. -/
def copyFiles (s : Site) (paths : List Path) : IO Site :=
  paths.foldlM (fun s (path : String) => do
    let content ← try pure (some (← IO.FS.readBinFile path)) catch _ => pure none
    match content with
    | some content =>
      return { s with files := s.files.place s.cwd path (some (.file content.toList false)) }
    | none => return s) s

/-- Runs the program. -/
def run (arguments : List String) : IO UInt32 := do
  let bare := Site.bare .bare workingDirectory (← readEnvironment)
  let (site, input) ←
    match Order.ofArguments arguments with
    | .error _ => pure (bare, [])
    | .ok order => do
      let site ← copyFiles bare (namedFiles order bare)
      let site ← copyFiles site (namedFiles order site)
      let input ←
        match order.task with
        | .exec ⟨none, _, _, _⟩ => do
          let content ← readAll (← IO.getStdin) .empty
          pure content.toList
        | _ => pure []
      pure (site, input)
  let (printed, _) := CommandLine.runOnSite arguments input site
  (← IO.getStdout).putStr printed.output
  (← IO.getStderr).putStr printed.errors
  return UInt32.ofNat printed.exit

end ScriptHost.Main

def main (arguments : List String) : IO UInt32 :=
  ScriptHost.Main.run arguments
