import ScriptHost.OsError
import ScriptHost.Path
import ScriptHost.Text.Utf8

/-!
# File trees

A file tree holds what lies at each location below the root: directories, regular files
with their bytes, devices and the system's own utilities. There are no links and no
permissions except the executable bit.

## Main definitions

* `FileTree.find?` — what lies at a location.
* `FileTree.resolve` — the location a path names, as seen from a working directory.
* `FileTree.readFile`, `writeFile`, `removeFile`, `names` — the operations programs use,
  with the errors they answer.

## Resolution

A path is walked part by part. Every part but the last has to name a directory, also before
`.` and `..`, and a trailing slash asks for a directory. The root is its own parent.
-/

namespace ScriptHost

/-- A place in a file tree: the names on the way from the root. -/
abbrev Location := List String

/-- What looks like a file and is none. -/
inductive Device where
  /-- Reads as empty and swallows what is written. -/
  | null
  /-- Reads as empty and has no room for what is written. -/
  | full
  /-- The terminal of a program, which no program has. -/
  | terminal
  /-- Another name for an open stream of the program that uses it. -/
  | stream (number : Nat)
  deriving DecidableEq, Repr

/-- What lies at a location. -/
inductive Entry where
  | directory
  | file (content : Bytes) (executable : Bool)
  | device (d : Device)
  /-- A program that belongs to the system. -/
  | utility (name : String)
  deriving DecidableEq, Repr

/-- The entries of a file tree by location. The root is always a directory. -/
structure FileTree where
  entries : List (Location × Entry)
  /-- One entry lies at a location at most. -/
  nodup : (entries.map (·.1)).Nodup
  deriving DecidableEq, Repr

namespace FileTree

/-- No entries. -/
def empty : FileTree := ⟨[], by simp⟩

/-- What lies at a location. -/
def find? (t : FileTree) (l : Location) : Option Entry :=
  if l.isEmpty then some .directory else t.entries.lookup l

/-- The tree without the entry at a location. -/
def erase (t : FileTree) (l : Location) : FileTree where
  entries := t.entries.filter fun e => e.1 ≠ l
  nodup := t.nodup.sublist (List.filter_sublist.map _)

/-- Nothing is left at a location that was cleared. -/
theorem notMem_erase (t : FileTree) (l : Location) : l ∉ (t.erase l).entries.map (·.1) := by
  simp [erase]

/-- The tree with an entry put at a location. -/
def insert (t : FileTree) (l : Location) (e : Entry) : FileTree where
  entries := (l, e) :: (t.erase l).entries
  nodup := List.nodup_cons.2 ⟨t.notMem_erase l, (t.erase l).nodup⟩

/-- The tree of a list of entries, of which later ones replace earlier ones. -/
def ofList (entries : List (Location × Entry)) : FileTree :=
  entries.foldl (fun t e => t.insert e.1 e.2) empty

/-! ### Looking up -/

/-- The root is a directory. -/
@[simp] theorem find?_root (t : FileTree) : t.find? [] = some .directory := rfl

/-- Clearing a location leaves the others as they are. -/
theorem find?_erase_of_ne (t : FileTree) {l k : Location} (h : k ≠ l) :
    (t.erase l).find? k = t.find? k := by
  have lookup : ∀ es : List (Location × Entry),
      (es.filter fun e => e.1 ≠ l).lookup k = es.lookup k := by
    intro es
    induction es with
    | nil => rfl
    | cons e es ih =>
      obtain ⟨m, x⟩ := e
      by_cases hm : m = l
      · subst hm
        have hk : (k == m) = false := by simpa using h
        rw [List.filter_cons_of_neg (by simp), List.lookup_cons, hk]
        exact ih
      · simp only [ne_eq, hm, not_false_eq_true, decide_true, List.filter_cons_of_pos,
          List.lookup_cons]
        split
        · rfl
        · exact ih
  simp only [find?, erase]
  split
  · rfl
  · exact lookup t.entries

/-- A directory lies at a location. -/
def isDirectory (t : FileTree) (l : Location) : Bool :=
  t.find? l = some .directory

/-- The tree with a directory at a location and at all locations above it, where nothing
lies yet. Nothing is put below what is no directory. -/
def insertDirectories (t : FileTree) (l : Location) : FileTree :=
  ((List.range l.length).map fun n => l.take (n + 1)).foldl
    (fun t l =>
      if t.isDirectory l.dropLast && (t.find? l).isNone then t.insert l .directory else t) t

/-- The names directly below a location. -/
def names (t : FileTree) (l : Location) : List String :=
  t.entries.filterMap fun e =>
    match e.1.getLast? with
    | some name => if e.1.dropLast = l then some name else none
    | none => none

/-- The entries below a location, by their location relative to it. -/
def below (t : FileTree) (l : Location) : List (Location × Entry) :=
  t.entries.filterMap fun e =>
    if l.isPrefixOf e.1 && e.1 ≠ l then some (e.1.drop l.length, e.2) else none

/-! ### Resolution -/

/-- Bytes in the longest file name. -/
def maxName : Nat := 255

/-- Bytes in the longest path. -/
def maxPath : Nat := 4095

/-- One step from a location. -/
def step (t : FileTree) (here : Location) (part : String) : Except OsError Location :=
  match t.find? here with
  | some .directory =>
    if part.isEmpty || part = "." then .ok here
    else if part = ".." then .ok here.dropLast
    else if maxName < part.utf8ByteSize then .error .nameTooLong
    else if (t.find? (here ++ [part])).isSome then .ok (here ++ [part])
    else .error .noEntry
  | some _ => .error .notDirectory
  | none => .error .noEntry

/-- The location where the walk of a path begins. -/
def origin (cwd : Location) (p : Path) : Location :=
  if Path.isAbsolute p then [] else cwd

/-- What is wrong with a path before any part of it is looked up. -/
def refusal? (p : Path) : Option OsError :=
  if p.toList.contains '\x00' then some .nulInPath
  else if maxPath < p.utf8ByteSize then some .nameTooLong
  else if p.isEmpty then some .noEntry
  else none

/-- The location an existing path names. -/
def resolve (t : FileTree) (cwd : Location) (p : Path) : Except OsError Location :=
  match refusal? p with
  | some e => .error e
  | none => (Path.parts p).foldlM (step t) (origin cwd p)

/-- The path names something. -/
def exists? (t : FileTree) (cwd : Location) (p : Path) : Bool :=
  match t.resolve cwd p with
  | .ok _ => true
  | .error _ => false

/-- The location a path names or would name if its last part were created. -/
def resolveNew (t : FileTree) (cwd : Location) (p : Path) : Except OsError Location :=
  match t.resolve cwd p with
  | .ok l => .ok l
  | .error e =>
    match refusal? p, (Path.parts p).getLast? with
    | none, some name =>
      if name.isEmpty then .error e
      else do
        let above ← (Path.parts p).dropLast.foldlM (step t) (origin cwd p)
        match t.find? above with
        | some .directory =>
          if maxName < name.utf8ByteSize then .error .nameTooLong else .ok (above ++ [name])
        | some _ => .error .notDirectory
        | none => .error .noEntry
    | _, _ => .error e

/-! ### Files -/

/-- The bytes of a file. -/
def readFile (t : FileTree) (cwd : Location) (p : Path) : Except OsError Bytes := do
  let l ← t.resolve cwd p
  match t.find? l with
  | some (.file content _) => .ok content
  | some .directory => .error .isDirectory
  | some (.device .terminal) => .error .noDevice
  | some (.device _) => .ok []
  | some (.utility _) => .ok []
  | none => .error .noEntry

/-- The text of a file. -/
def readText (t : FileTree) (cwd : Location) (p : Path) : Except OsError String := do
  let content ← t.readFile cwd p
  match Utf8.decode? content with
  | some s => .ok s
  | none => .error .notUtf8

/-- A path without the slashes at its end. -/
def trimSlashes (p : Path) : Path :=
  match p.toList.reverse.dropWhile (· = '/') with
  | [] => if p.isEmpty then p else "/"
  | cs => String.ofList cs.reverse

/-- The location of a file to write. A slash at the end of its path asks for a directory. -/
def resolveFile (t : FileTree) (cwd : Location) (p : Path) : Except OsError Location := do
  let l ← t.resolveNew cwd (trimSlashes p)
  if p = trimSlashes p then .ok l else .error .isDirectory

/-- Writes a file, after what it already holds or in place of it. A new file is not
executable; an old one keeps its bit. -/
def writeFile (t : FileTree) (cwd : Location) (p : Path) (append : Bool) (content : Bytes) :
    Except OsError FileTree := do
  let l ← t.resolveFile cwd p
  match t.find? l with
  | some (.file old executable) =>
    .ok (t.insert l (.file (if append then old ++ content else content) executable))
  | some .directory => .error .isDirectory
  | some (.device .terminal) => .error .noDevice
  | some (.device .full) => if content.isEmpty then .ok t else .error .noSpace
  | some (.device _) => .ok t
  | some (.utility _) => .error .noAccess
  | none => .ok (t.insert l (.file content false))

/-- Removes a file. -/
def removeFile (t : FileTree) (cwd : Location) (p : Path) : Except OsError FileTree := do
  let l ← t.resolve cwd p
  match t.find? l with
  | some .directory => .error .isDirectory
  | some _ => .ok (t.erase l)
  | none => .error .noEntry

/-- Creates a directory. -/
def makeDirectory (t : FileTree) (cwd : Location) (p : Path) : Except OsError FileTree :=
  match t.resolve cwd p with
  | .ok _ => .error .alreadyThere
  | .error e =>
    if e ≠ .noEntry then .error e
    else (t.resolveNew cwd (trimSlashes p)).map fun l => t.insert l .directory

/-- Removes a directory, which has to be empty. -/
def removeDirectory (t : FileTree) (cwd : Location) (p : Path) : Except OsError FileTree := do
  let l ← t.resolve cwd p
  match t.find? l with
  | some .directory =>
    if (Path.parts (trimSlashes p)).getLast? = some "." then .error (.number 22)
    else if l.isEmpty then .error (.number 16)
    else if !(t.below l).isEmpty then .error .notEmpty
    else .ok (t.erase l)
  | some _ => .error .notDirectory
  | none => .error .noEntry

/-- Makes a file executable, or takes that away. -/
def setExecutable (t : FileTree) (cwd : Location) (p : Path) (executable : Bool) :
    Except OsError FileTree := do
  let l ← t.resolve cwd p
  match t.find? l with
  | some (.file content _) => .ok (t.insert l (.file content executable))
  | _ => .ok t

/-- The tree without a location and everything below it. -/
def clear (t : FileTree) (l : Location) : FileTree :=
  ((t.below l).foldl (fun t e => t.erase (l ++ e.1)) t).erase l

/-- The tree with everything at a location and below it put at another one. -/
def move (t : FileTree) (l k : Location) : FileTree :=
  let moved := (t.find? l).toList.map (fun e => ([], e)) ++ t.below l
  moved.foldl (fun t e => t.insert (k ++ e.1) e.2) ((t.clear l).clear k)

/-- Gives something another path. A directory takes the place of an empty one, and anything else
that of a file. -/
def rename (t : FileTree) (cwd : Location) (old new : Path) : Except OsError FileTree := do
  let l ← t.resolve cwd old
  let movesDirectory := t.isDirectory l
  let k ← t.resolveNew cwd (if movesDirectory then trimSlashes new else new)
  if l = k then .ok t
  else if l.isEmpty || k.isEmpty then .error (.number 16)
  else if l.isPrefixOf k then .error (.number 22)
  else
    match t.find? k with
    | none => .ok (t.move l k)
    | some .directory =>
      if !movesDirectory then .error .isDirectory
      else if !(t.below k).isEmpty then .error .notEmpty
      else .ok (t.move l k)
    | some _ => if movesDirectory then .error .notDirectory else .ok (t.move l k)

/-- The names in a directory. -/
def readDirectory (t : FileTree) (cwd : Location) (p : Path) :
    Except OsError (List String) := do
  let l ← t.resolve cwd p
  match t.find? l with
  | some .directory => .ok (t.names l)
  | some _ => .error .notDirectory
  | none => .error .noEntry

/-- A path names an executable regular file or a utility. -/
def isProgram (t : FileTree) (cwd : Location) (p : Path) : Bool :=
  match t.resolve cwd p with
  | .ok l =>
    match t.find? l with
    | some (.file _ executable) => executable
    | some (.utility _) => true
    | _ => false
  | .error _ => false

/-! ### Placing -/

/-- The location of a path below a location, told from the path alone. -/
def locate (base : Location) (p : Path) : Location :=
  (Path.parts p).foldl
    (fun l part =>
      if part.isEmpty || part = "." then l
      else if part = ".." then l.dropLast
      else l ++ [part])
    (origin base p)

/-- The tree with an entry put at a path, with directories above it as needed, or with the path
cleared if there is no entry. A directory stays where it is. -/
def place (t : FileTree) (base : Location) (p : Path) (e : Option Entry) : FileTree :=
  let l := locate base p
  let t := t.insertDirectories l.dropLast
  if t.isDirectory l || !t.isDirectory l.dropLast then t
  else
    match e with
    | none => t.erase l
    | some e => t.insert l e

/-! ### Listings -/

/-- An entry as a listing shows it: its path below the listed location, with a slash after
a directory. -/
def listed : Location × Entry → String
  | (l, .directory) => "/".intercalate l ++ "/"
  | (l, _) => "/".intercalate l

/-- The order of listings: by UTF-8 bytes. -/
def byteLe (a b : String) : Bool :=
  !(Utf8.encode b < Utf8.encode a)

/-- Every entry below a location, in the order of listings. -/
def listing (t : FileTree) (l : Location) : List String :=
  ((t.below l).map listed).mergeSort byteLe

end FileTree

end ScriptHost
