import ScriptHost.Launch
import ScriptHost.Module.LineMachine
import ScriptHost.Platform
import ScriptHost.Settings.Reader
import ScriptHost.Shadow
import ScriptHost.Text.Blank

/-!
# Sites

A site is all that a host runs on: files, a working directory, an environment, and the line
machine as the one kind of module there is. It can load libraries, run commands and remove
files, so it is a platform.

## Main definitions

* `Site` — the state.
* `Site.loader`, `Site.run`, `Site.remove` — the three abilities of a platform.
* `Site.bare` — a site with nothing but the utilities of the system.
-/

namespace ScriptHost

/-- What a host runs on. -/
structure Site where
  files : FileTree
  /-- The working directory of the host. -/
  cwd : Location
  environment : Environment
  /-- How libraries are found. -/
  linker : Linker LineMachine.State
  machine : LineMachine.State

namespace Site

/-! ### Modules -/

/-- The line machine as a part of the site. -/
def machinePart : Part Site LineMachine.State := ⟨(·.machine), fun m s => { s with machine := m }⟩

/-- Loads the modules whose symbols have a prefix. -/
def loader (symbolPrefix : String) : Loader Site := fun path s =>
  let (loaded, _) :=
    Library.load LineMachine.readLibrary s.linker symbolPrefix s.files s.cwd path
  (Outcome.ofExcept (loaded.map machinePart.liftEntryPoints), s)

/-- The site of a program that is about to start: the variable with the directories for libraries
is looked at only then. -/
def atStart (s : Site) : Site :=
  let listed := ((s.environment.bytes? "LD_LIBRARY_PATH").map Utf8.decodeLossy).getD ""
  let searchPath :=
    if listed.isEmpty then [] else (listed.splitOn ":").flatMap fun dirs => dirs.splitOn ";"
  { s with linker := { s.linker with searchPath } }

/-! ### Commands -/

/-- The path of the working directory. -/
def workingDirectory (s : Site) : Path :=
  "/" ++ "/".intercalate s.cwd

/-- The home directory of the user, which is that of the system's user unless a variable tells
another one. -/
def home (s : Site) : Path :=
  let said := ((s.environment.bytes? "HOME").map Utf8.decodeLossy).getD ""
  if said.isEmpty then "/root" else said

/-- A directory of the search path. One that begins with the step `~` lies in the user's home
directory. -/
def expandHome (s : Site) (dir : Path) : Path :=
  match Path.components dir with
  | "~" :: steps => Path.extend s.home steps
  | _ => dir

/-- The directories of the search path, an empty one being the working directory. -/
def searchPath (s : Site) : List Path :=
  (((s.environment.bytes? "PATH").map Utf8.decodeLossy).map (·.splitOn ":")).getD []

/-- Where the program of a name may be: a name of several steps is a path as seen from the
working directory, any other is looked for on the search path. -/
def programCandidates (s : Site) (name : String) : List Path :=
  if 1 < (Path.components name).length then [name]
  else s.searchPath.map fun dir => Path.join (s.expandHome dir) name

/-- The absolute path of the program of a name. -/
def findProgram (s : Site) (name : String) : Option Path :=
  ((s.programCandidates name).map fun p => Path.toAbsolute p s.workingDirectory).find? fun p =>
    s.files.isProgram s.cwd p

/-- The environment of a command, in the order of the names. -/
def commandEnvironment (s : Site) (c : Command) : Environment :=
  (c.env.foldl (fun env v => setVariable env v.1 (Utf8.encode v.2)) s.environment).mergeSort
    fun a b => decide (a.1 ≤ b.1)

/-- A text with a NUL in it. -/
def holdsNul (s : String) : Bool :=
  s.toList.contains '\x00'

/-- A command that cannot be passed on because of a NUL. -/
def isUnpassable (c : Command) (dir : Path) : Bool :=
  c.args.any holdsNul || c.env.any (fun v => holdsNul v.1 || holdsNul v.2) || holdsNul dir

/-- Bytes in the longest argument. -/
def maxArgument : Nat := 131071

/-- The process number of a command, and that of the host. -/
def processNumbers : Nat × Nat := (4242, 4241)

/-- What a command leaves behind. -/
structure Finished where
  files : FileTree
  /-- What it printed on its standard error. -/
  errors : Bytes
  ending : Shell.Ending

/-- What a program of a command is started with: it reads nothing, and what it prints is kept. The
answer also tells the channel to read what it prints on its standard error. -/
def launch (s : Site) (c : Command) (at_ : Location) (program : Path) : Shell.Running × Nat :=
  let (process, parent) := processNumbers
  let kernel := Shell.Kernel.ofFiles s.files
  let (input, kernel) := kernel.addChannel ⟨.device .null, .reading⟩
  let (_, output, kernel) := kernel.addBuffer []
  let (said, errors, kernel) := kernel.addBuffer []
  let entries := (s.commandEnvironment c).map fun v =>
    Octets.ofText v.1 ++ "=" ++ Octets.ofBytes v.2
  ({ kernel := { kernel with lastProcess := process, processes := [process] }
     cwd := at_
     process := process
     parent := parent
     streams := [(0, input), (1, output), (2, errors)]
     name := Octets.ofText program
     arguments := c.args.map Octets.ofText
     environment := entries
     ignored := []
     mask := 18 }, said)

/-- Starts a command in a directory. -/
def startCommand (s : Site) (c : Command) (dir : Path) (program : Path) :
    Except OsError Finished := do
  let l ← s.files.resolve s.cwd dir
  if s.files.find? l ≠ some .directory then throw .notDirectory
  if c.args.any fun a => maxArgument < a.utf8ByteSize then throw (.number 7)
  let (running, said) := s.launch c l program
  let (ending, kernel) ← Launch.start (Octets.ofText program) running
  let errors := match kernel.waiting said with
    | .ok b => b
    | .error _ => []
  .ok ⟨kernel.files, errors, ending⟩

/-- How a command ended, and what it printed about it. -/
def commandDetail (f : Finished) : String :=
  let said := Text.trim (Utf8.decodeLossy f.errors)
  if said.isEmpty then f.ending.message else f.ending.message ++ ": " ++ said

/-- What is said of a program that is not found. -/
def notFoundDetail (name : String) : String := name ++ " not found in PATH"

/-- Begins what is said of a program that cannot be started. -/
def startLead : String := "failed to start: "

/-- Runs a command in a directory. -/
def run : Runner Site := fun c dir s =>
  match s.findProgram c.program with
  | none => (.failed (.command c.program (notFoundDetail c.program)), s)
  | some program =>
    if isUnpassable c dir then
      (.failed (.command c.display (startLead ++ "nul byte found in provided data")), s)
    else
      match s.startCommand c dir program with
      | .error e => (.failed (.command c.display (startLead ++ e.message)), s)
      | .ok f =>
        let s := { s with files := f.files }
        if f.ending.isSuccess then (.ok (), s)
        else (.failed (.command c.display (commandDetail f)), s)

/-! ### Files -/

/-- Removes a file. -/
def remove : Remover Site := fun path s =>
  match s.files.removeFile s.cwd path with
  | .ok files => (.ok (), { s with files := files })
  | .error e => (.error e, s)

/-- Removes the leftovers in a shadow directory and counts them. -/
def cleanShadow (s : Site) (directory : Path) : Except OsError Nat × Site :=
  let (removed, files) := Shadow.cleanUp s.files s.cwd directory
  (removed, { s with files := files })

/-- What the site does for a host whose modules have symbols with a prefix. -/
def platform (symbolPrefix : String) : Platform Site := ⟨loader symbolPrefix, run, remove⟩

/-! ### A bare site -/

/-- The directories of a bare site. -/
def directories : List Location := [
  ["bin"], ["boot"], ["dev"], ["dev", "fd"], ["dev", "shm"], ["etc"], ["home"], ["lib"],
  ["media"], ["mnt"], ["opt"], ["root"], ["run"], ["sbin"], ["srv"], ["tmp"], ["usr"],
  ["usr", "bin"], ["usr", "lib"], ["usr", "local"], ["usr", "local", "bin"], ["usr", "sbin"],
  ["usr", "share"], ["var"], ["var", "tmp"]]

/-- The devices of a bare site. -/
def devices : List (Location × Device) :=
  [(["dev", "null"], .null), (["dev", "full"], .full), (["dev", "tty"], .terminal),
    (["dev", "stdin"], .stream 0), (["dev", "stdout"], .stream 1), (["dev", "stderr"], .stream 2)]
  ++ (List.range 10).map fun n => (["dev", "fd", toString n], .stream n)

/-- The files of a bare site. -/
def bareFiles : FileTree :=
  .ofList (directories.map (fun l => (l, Entry.directory))
    ++ devices.map (fun d => (d.1, Entry.device d.2))
    ++ Utility.names.flatMap fun u => [(["bin", u], .utility u), (["usr", "bin", u], .utility u)])

/-- A site with nothing but the utilities of the system, in an empty working directory. -/
def bare (linker : Linker LineMachine.State) (cwd : Location) (environment : Environment) :
    Site where
  files := bareFiles.insertDirectories cwd
  cwd := cwd
  environment := environment
  linker := linker
  machine := .empty

end Site

end ScriptHost
