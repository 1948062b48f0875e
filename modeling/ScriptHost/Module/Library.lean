import ScriptHost.FileTree
import ScriptHost.Module.Slot

/-!
# Libraries

A library is a file that exports symbols. Loading a module opens its library and binds the
five entry points, each to the symbol of its own name.

## Main definitions

* `Library` — what an opened file exports.
* `Linker` — how a system finds libraries.
* `Library.bind` — all five entry points, or the first symbol that is missing.
* `Library.load` — from a path to entry points, with what was opened and closed meanwhile.

## Finding the file

A path with a slash is opened as that file. One without is a name that is looked for in the
directories of a search path and then among the libraries of the system.

In the path of a file and in the directories of the search path a dollar sign with one of a
few names behind it, which may stand in braces, stands for a part of a path.

The directories, the names behind dollar signs and the system's own libraries differ from one
system to another. They are no part of the host, which is given them as a `Linker`.
-/

namespace ScriptHost

/-- What an opened library exports. A symbol is code at an address; what it does depends on
the signature it is called with, so it has a behaviour for each of the five. -/
structure Library (W : Type) where
  symbol? : String → Option (EntryPoints W)

/-- How a system finds libraries. -/
structure Linker (W : Type) where
  /-- The directories where a name is looked for before the libraries of the system. -/
  searchPath : List Path
  /-- What the names behind dollar signs stand for. -/
  parts : List (String × String)
  /-- The system's own libraries, by their names. -/
  system? : String → Option (Library W)

/-- What happens to a library while a module is loaded. -/
inductive Library.Handling where
  | opened (path : Path)
  | closed (path : Path)
  deriving DecidableEq, Repr

/-- What the system says of a library that cannot be opened or that lacks a symbol. The words are
the system's own; wherever they are shown, this stands for them. -/
def Library.systemDetail : String := "(dl error)"

/-- What is said of a path that names nothing. -/
def Library.absentDetail : String := "file not found"

namespace Library

variable {W : Type}

/-- The symbol of a name. A name that holds NUL is never found. -/
def resolve (lib : Library W) (symbol : String) : Option (EntryPoints W) :=
  if symbol.toList.contains '\x00' then none else lib.symbol? symbol

/-- The symbol of an entry point. -/
def find (lib : Library W) (path : Path) (symbolPrefix name : String) :
    Except Failure (EntryPoints W) :=
  match lib.resolve (symbolName symbolPrefix name) with
  | some symbol => .ok symbol
  | none => .error (.missingSymbol path (symbolName symbolPrefix name) systemDetail)

/-- The five entry points, or the first one that is missing. -/
def bind (lib : Library W) (path : Path) (symbolPrefix : String) :
    Except Failure (EntryPoints W) := do
  let create ← lib.find path symbolPrefix "create_instance"
  let destroy ← lib.find path symbolPrefix "destroy_instance"
  let loadConfig ← lib.find path symbolPrefix "load_config"
  let call ← lib.find path symbolPrefix "call"
  let status ← lib.find path symbolPrefix "status"
  .ok {
    create := create.create
    destroy := destroy.destroy
    loadConfig := loadConfig.loadConfig
    call := call.call
    status := status.status }

end Library

/-! ### Paths of libraries -/

namespace Linker

variable {W : Type}

/-- A system without libraries of its own, in which nothing but paths leads to a library. -/
def bare : Linker W := ⟨[], [], fun _ => none⟩

/-- A character that a name might go on with. -/
def continuesName (c : Char) : Bool :=
  c.isAlphanum || c = '_'

/-- What the name behind a dollar sign stands for, and what follows the name. -/
def named? (linker : Linker W) (cs : List Char) : Option (List Char × List Char) :=
  linker.parts.findSome? fun entry =>
    let bare := entry.1.toList
    let braced := '{' :: bare ++ ['}']
    if braced.isPrefixOf cs then some (entry.2.toList, cs.drop braced.length)
    else if bare.isPrefixOf cs && !(cs.drop bare.length).head?.any continuesName then
      some (entry.2.toList, cs.drop bare.length)
    else none

/-- Characters with all names replaced by what they stand for. -/
def expandFrom (linker : Linker W) : Nat → List Char → List Char
  | 0, cs => cs
  | fuel + 1, cs =>
    match cs with
    | [] => []
    | '$' :: rest =>
      match linker.named? rest with
      | some (text, rest) => text ++ linker.expandFrom fuel rest
      | none => '$' :: linker.expandFrom fuel rest
    | c :: rest => c :: linker.expandFrom fuel rest

/-- A path with all names replaced by what they stand for. -/
def expandPath (linker : Linker W) (path : Path) : Path :=
  String.ofList (linker.expandFrom path.length path.toList)

end Linker

/-! ### Opening -/

namespace Library

variable {W : Type}

/-- The library in a file. -/
def ofFile? (read : Bytes → Option (Library W)) (files : FileTree) (cwd : Location) (path : Path) :
    Option (Library W) :=
  match files.readFile cwd path with
  | .ok content => read content
  | .error _ => none

/-- The first file of a name in the directories of the search path. -/
def search? (linker : Linker W) (files : FileTree) (cwd : Location) (name : String) :
    Option Path :=
  (linker.searchPath.map fun dir =>
    Path.join (if dir.isEmpty then "." else linker.expandPath dir) name).find? fun p =>
      files.exists? cwd p

/-- Opens the library at a path. `read` tells which files are libraries and what they
export. -/
def open? (read : Bytes → Option (Library W)) (linker : Linker W) (files : FileTree)
    (cwd : Location) (path : Path) : Option (Library W) :=
  if path.toList.contains '/' then ofFile? read files cwd (linker.expandPath path)
  else
    match search? linker files cwd path with
    | some found => ofFile? read files cwd found
    | none => linker.system? path

/-- Opens the library at a path and binds its entry points. If one of them is missing the
library is closed again. -/
def load (read : Bytes → Option (Library W)) (linker : Linker W) (symbolPrefix : String)
    (files : FileTree) (cwd : Location) (path : Path) :
    Except Failure (EntryPoints W) × List Handling :=
  if files.exists? cwd path then
    match open? read linker files cwd path with
    | none => (.error (.load path systemDetail), [])
    | some lib =>
      match lib.bind path symbolPrefix with
      | .ok entry => (.ok entry, [.opened path])
      | .error e => (.error e, [.opened path, .closed path])
  else (.error (.load path absentDetail), [])

end Library

end ScriptHost
