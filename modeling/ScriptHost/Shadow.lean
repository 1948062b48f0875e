import ScriptHost.FileTree

/-!
# Shadow copies

On systems that lock the file of a loaded module, the module is loaded from a copy in a
directory of its own, the shadow directory. Here files are not locked: a module is loaded from
its own path, and all that is left to do is to remove the copies of an earlier run.

## Main definitions

* `Shadow.loadPath` — the path a module is loaded from.
* `Shadow.sweep` — removes the libraries among the names in a directory.
* `Shadow.cleanUp` — removes what an earlier run left behind.
-/

namespace ScriptHost.Shadow

/-- The path a module is loaded from. -/
def loadPath (module : Path) (_directory : Path) : Path := module

/-- The extensions of library files. -/
def libraryExtensions : List String := ["dll", "so", "dylib"]

/-- A file name with the extension of a library. -/
def isLibraryName (name : String) : Bool :=
  match Path.extensionOfName? name with
  | some extension => libraryExtensions.contains extension
  | none => false

/-- Removes what lies in a directory under a name, by the path of the name below the directory. -/
def unlink (files : FileTree) (directory : Path) (l : Location) (name : String) :
    Except OsError FileTree :=
  match FileTree.refusal? (Path.join directory name), files.find? (l ++ [name]) with
  | some e, _ => .error e
  | none, some .directory => .error .isDirectory
  | none, some _ => .ok (files.erase (l ++ [name]))
  | none, none => .error .noEntry

/-- Goes through names in a directory, removes what has the name of a library and counts it. What
cannot be removed is passed over. -/
def sweep (directory : Path) (l : Location) : List String → FileTree → Nat × FileTree
  | [], files => (0, files)
  | name :: names, files =>
    if isLibraryName name then
      match unlink files directory l name with
      | .ok files =>
        let (removed, files) := sweep directory l names files
        (removed + 1, files)
      | .error _ => sweep directory l names files
    else sweep directory l names files

/-- Removes the leftovers directly in a directory and counts them. A directory that does not
exist holds none. -/
def cleanUp (files : FileTree) (cwd : Location) (directory : Path) :
    Except OsError Nat × FileTree :=
  if files.exists? cwd directory then
    match files.resolve cwd directory, files.readDirectory cwd directory with
    | .ok l, .ok names =>
      let (removed, files) := sweep directory l names files
      (.ok removed, files)
    | .error e, _ => (.error e, files)
    | _, .error e => (.error e, files)
  else (.ok 0, files)

end ScriptHost.Shadow
