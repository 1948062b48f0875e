import ScriptHost.Utility.Basic

/-!
# Utilities about files

Utilities that create, remove, copy, move and list files and directories.
-/

namespace ScriptHost.Utility

open Shell

/-- The parts of a path as texts of octets. -/
def pathParts (path : Octets) : List Octets :=
  path.splitOn "/"

/-- A path without the slashes at its end, unless there is nothing else. -/
def trimmed (path : Octets) : Octets :=
  Octets.ofText (FileTree.trimSlashes (Octets.toText path))

/-- The last name in a path. -/
def lastName (path : Octets) : Octets :=
  if trimmed path = "/" then "/" else (pathParts (trimmed path)).getLast?.getD ""

/-- A path below a directory. -/
def inside (directory name : Octets) : Octets :=
  if directory.toList.getLast? = some '/' then directory ++ name else directory ++ "/" ++ name

/-- The status of several tasks. -/
def statusOf (statuses : List Nat) : Nat :=
  if statuses.all (· = 0) then 0 else 1

/-- The status of a change. If it was refused, words say of what. -/
def changed (words : Octets) (f : FileTree → Location → Except OsError FileTree) : Task Nat := do
  match ← change f with
  | .ok () => return 0
  | .error e =>
    complainOf words e
    return 1

/-- What a path names. -/
def entryOf (path : Octets) : Task (Except OsError Entry) := do
  return ((← get).lookUp path).map (·.2)

/-! ### Directories -/

/-- The paths of the directories above a path and of the path itself. -/
def ancestors (path : Octets) : List Octets :=
  let parts := pathParts (trimmed path)
  ((List.range parts.length).map fun n => "/".intercalate (parts.take (n + 1))).filter
    (!·.isEmpty)

/-- Creates a directory, and those above it. -/
def makePath (path : Octets) : Task Nat := do
  let refuse := fun (e : OsError) => do
    complainOf ("cannot create directory " ++ quoted path) e
    return 1
  let results ← (ancestors path).mapM fun p =>
    change fun t cwd => t.makeDirectory cwd (Octets.toText p)
  match ← entryOf path with
  | .ok .directory => return 0
  | .ok _ => refuse .alreadyThere
  | .error e =>
    let problem := results.findSome? fun r =>
      match r with
      | .error e => if e = .alreadyThere then none else some e
      | .ok () => none
    refuse (problem.getD e)

/-- Creates directories. -/
def mkdir : Task Nat := do
  let o : Options := {
    letters := "pm:v"
    long := [("parents", 'p'), ("mode", 'm'), ("verbose", 'v')] }
  let (given, paths) ← o.ofArguments
  needed 1 paths
  let statuses ← paths.mapM fun path => do
    let status ←
      if has given 'p' then makePath path
      else changed ("cannot create directory " ++ quoted path) fun t cwd =>
        t.makeDirectory cwd (Octets.toText path)
    if status = 0 && has given 'v' then
      say ((← get).name ++ ": created directory " ++ quoted path ++ "\n")
    return status
  return statusOf statuses

/-- Removes directories. -/
def rmdir : Task Nat := do
  let o : Options := { letters := "pv", long := [("parents", 'p'), ("verbose", 'v')] }
  let (given, paths) ← o.ofArguments
  needed 1 paths
  let removed := fun (path : Octets) =>
    changed ("failed to remove " ++ quoted path) fun t cwd =>
      t.removeDirectory cwd (Octets.toText path)
  let statuses ← paths.mapM fun path => do
    if has given 'p' then
      (ancestors path).reverse.foldlM
        (fun status p => if status = 0 then removed p else return status) 0
    else removed path
  return statusOf statuses

/-! ### Removing -/

/-- Removes what a path names. -/
def remove (recursive directories forced : Bool) (path : Octets) : Task Nat := do
  let words := "cannot remove " ++ quoted path
  match ← entryOf path with
  | .error e =>
    if forced && (e = .noEntry || e = .notDirectory) then return 0
    else
      complainOf words e
      return 1
  | .ok .directory =>
    if recursive then
      if lastName path = "." || lastName path = ".." then
        complain ("refusing to remove '.' or '..' directory: skipping " ++ quoted path)
        return 1
      else
        changed words fun t cwd => do
          let l ← t.resolve cwd (Octets.toText path)
          .ok (t.clear l)
    else if directories then
      changed words fun t cwd => t.removeDirectory cwd (Octets.toText path)
    else
      complainOf words .isDirectory
      return 1
  | .ok _ => changed words fun t cwd => t.removeFile cwd (Octets.toText path)

/-- Removes files. -/
def rm : Task Nat := do
  let o : Options := {
    letters := "rRfdivI"
    long := [("recursive", 'r'), ("force", 'f'), ("dir", 'd'), ("verbose", 'v')] }
  let (given, paths) ← o.ofArguments
  let forced := has given 'f'
  if !forced then needed 1 paths
  let statuses ← paths.mapM (remove (has given 'r' || has given 'R') (has given 'd') forced)
  return statusOf statuses

/-! ### Creating -/

/-- Creates files that are not there. -/
def touch : Task Nat := do
  let o : Options := {
    letters := "acmt:d:r:"
    long := [("no-create", 'c'), ("date", 'd'), ("reference", 'r')] }
  let (given, paths) ← o.ofArguments
  if paths.isEmpty then misused 1 "missing file operand"
  let statuses ← paths.mapM fun path => do
    match ← entryOf path with
    | .ok _ => return 0
    | .error e =>
      if has given 'c' && e = .noEntry then return 0
      else
        changed ("cannot touch " ++ quoted path) fun t cwd =>
          t.writeFile cwd (Octets.toText path) true []
  return statusOf statuses

/-- Permissions in octal let a file be executed, or not. -/
def octalMode? (mode : List Char) : Option Bool :=
  if mode.isEmpty || mode.any (fun c => c < '0' || '7' < c) then none
  else some (mode.any fun c => (c.toNat - '0'.toNat) % 2 = 1)

/-- What a change of permissions says about executing a file; none if it is no change of
permissions. -/
def symbolicMode? (mode : List Char) : Option (Option Bool) :=
  let who := mode.takeWhile fun c => ['u', 'g', 'o', 'a'].contains c
  match mode.drop who.length with
  | op :: letters =>
    let known := letters.all fun c => ['r', 'w', 'x', 'X', 's', 't'].contains c
    let executes := letters.contains 'x'
    if !known then none
    else if op = '+' then some (if executes then some true else none)
    else if op = '-' then some (if executes then some false else none)
    else if op = '=' then some (some executes)
    else none
  | [] => none

/-- What a text says about executing a file; none if it does not say anything about permissions. -/
def mode? (text : Octets) : Option (Option Bool) :=
  match octalMode? text.toList with
  | some executable => some (some executable)
  | none =>
    ((text.splitOn ",").mapM fun part => symbolicMode? part.toList).map fun changes =>
      (changes.filterMap id).getLast?

/-- Changes permissions. -/
def chmod : Task Nat := do
  let arguments := (← get).arguments
  let isMode := fun (a : Octets) => a.toList.head? = some '-' && (mode? a).isSome
  let o : Options := {
    letters := "Rvfc"
    long := [("recursive", 'R'), ("verbose", 'v'), ("silent", 'f'), ("changes", 'c')] }
  let (_, others) ← o.read (arguments.length + 1) (arguments.filter (!isMode ·))
  match arguments.filter isMode ++ others with
  | [] => misused 1 "missing operand"
  | [text] => misused 1 ("missing operand after " ++ quoted text)
  | text :: paths =>
    match mode? text with
    | none => misused 1 ("invalid mode: " ++ quoted text)
    | some executable =>
      let statuses ← paths.mapM fun path =>
        changed ("cannot access " ++ quoted path) fun t cwd => do
          let _ ← t.resolve cwd (Octets.toText path)
          match executable with
          | some executable => t.setExecutable cwd (Octets.toText path) executable
          | none => .ok t
      return statusOf statuses

/-! ### Copying and moving -/

/-- The paths of sources and the paths they go to: below the last path if that is a directory. -/
def destinations (paths : List Octets) : Task (List (Octets × Octets)) := do
  match paths.reverse with
  | [] => misused 1 "missing file operand"
  | [path] => misused 1 ("missing destination file operand after " ++ quoted path)
  | last :: sources =>
    let sources := sources.reverse
    match ← entryOf last with
    | .ok .directory => return sources.map fun p => (p, inside last (lastName p))
    | found =>
      match sources with
      | [source] => return [(source, last)]
      | _ =>
        let e : OsError := match found with
          | .ok _ => .notDirectory
          | .error e => e
        complainOf ("target " ++ quoted last) e
        quit 1

/-- The locations that two paths name are the same. -/
def isSame (a b : Octets) : Task Bool := do
  let r ← get
  match r.lookUp a, r.lookUp b with
  | .ok (l, _), .ok (k, _) => return l = k
  | _, _ => return false

/-- The tree with a copy of everything at a location and below it at another one. -/
def copied (t : FileTree) (l k : Location) : FileTree :=
  let all := (t.find? l).toList.map (fun e => ([], e)) ++ t.below l
  all.foldl (fun t e => t.insert (k ++ e.1) e.2) t

/-- Copies a file, or a directory if that is wanted. -/
def copy (recursive : Bool) (source target : Octets) : Task Nat := do
  match ← entryOf source with
  | .error e =>
    complainOf ("cannot stat " ++ quoted source) e
    return 1
  | .ok .directory =>
    if !recursive then
      complain ("-r not specified; omitting directory " ++ quoted source)
      return 1
    else
      changed ("cannot create directory " ++ quoted target) fun t cwd => do
        let l ← t.resolve cwd (Octets.toText source)
        let k ← t.resolveNew cwd (FileTree.trimSlashes (Octets.toText target))
        if l.isPrefixOf k then .error (.number 22) else .ok (copied t l k)
  | .ok entry =>
    if ← isSame source target then
      complain (quoted source ++ " and " ++ quoted target ++ " are the same file")
      return 1
    else
      match ← input source with
      | .error e =>
        complainOf ("error reading " ++ quoted source) e
        return 1
      | .ok content =>
        let executable := match entry with
          | .file _ executable => executable
          | _ => false
        changed ("cannot create regular file " ++ quoted target) fun t cwd => do
          let path := Octets.toText target
          let isNew := !t.exists? cwd path
          let t ← t.writeFile cwd path false (Octets.toBytes content)
          if isNew then t.setExecutable cwd path executable else .ok t

/-- Copies files. -/
def cp : Task Nat := do
  let o : Options := {
    letters := "rRafpvdut:T"
    long := [("recursive", 'r'), ("archive", 'a'), ("force", 'f'), ("verbose", 'v')] }
  let (given, paths) ← o.ofArguments
  let recursive := has given 'r' || has given 'R' || has given 'a'
  let statuses ← (← destinations paths).mapM fun d => copy recursive d.1 d.2
  return statusOf statuses

/-- Moves a file or a directory. -/
def moveOne (source target : Octets) : Task Nat := do
  match ← entryOf source with
  | .error e =>
    complainOf ("cannot stat " ++ quoted source) e
    return 1
  | .ok _ =>
    if ← isSame source target then
      complain (quoted source ++ " and " ++ quoted target ++ " are the same file")
      return 1
    else
      match ← change fun t cwd =>
          t.rename cwd (Octets.toText source) (Octets.toText target) with
      | .ok () => return 0
      | .error e =>
        if e = .number 22 then
          complain ("cannot move " ++ quoted source ++ " to a subdirectory of itself, "
            ++ quoted target)
        else
          complainOf ("cannot move " ++ quoted source ++ " to " ++ quoted target) e
        return 1

/-- Moves files. -/
def mv : Task Nat := do
  let o : Options := {
    letters := "finvut:T"
    long := [("force", 'f'), ("no-clobber", 'n'), ("verbose", 'v')] }
  let (_, paths) ← o.ofArguments
  let statuses ← (← destinations paths).mapM fun d => moveOne d.1 d.2
  return statusOf statuses

/-! ### Listing -/

/-- The order of names: by bytes. -/
def inOrder (names : List Octets) : List Octets :=
  names.mergeSort fun a b => !(b < a)

/-- The mark behind a name in a listing. -/
def listMark (given : List (Char × Octets)) (e : Except OsError Entry) : Octets :=
  match e with
  | .ok .directory => if has given 'F' || has given 'p' then "/" else ""
  | .ok (.file _ true) | .ok (.utility _) => if has given 'F' then "*" else ""
  | _ => ""

/-- The lines for the names in a directory. -/
def listDirectory (given : List (Char × Octets)) (path : Octets) : Task Octets := do
  let names := inOrder ((← get).names path)
  let shown :=
    if has given 'a' then inOrder ("." :: ".." :: names)
    else if has given 'A' then names
    else names.filter fun n => n.toList.head? ≠ some '.'
  let shown := if has given 'r' then shown.reverse else shown
  let lines ← shown.mapM fun n => do
    return n ++ listMark given (← entryOf (inside path n)) ++ "\n"
  return String.join lines

/-- Lists files and directories: the files first, then what is in the directories. -/
def ls : Task Nat := do
  let o : Options := {
    letters := "1aAdFprCUtSh"
    long := [("all", 'a'), ("almost-all", 'A'), ("directory", 'd'), ("classify", 'F'),
      ("reverse", 'r')]
    status := 2 }
  let (given, paths) ← o.ofArguments
  let paths := inOrder (if paths.isEmpty then ["."] else paths)
  let entries ← paths.mapM fun p => do return (p, ← entryOf p)
  let found ← entries.filterM fun e => do
    match e.2 with
    | .ok _ => return true
    | .error problem =>
      complainOf ("cannot access " ++ quoted e.1) problem
      return false
  let isListed := fun (e : Octets × Except OsError Entry) =>
    match e.2 with
    | .ok .directory => !has given 'd'
    | _ => false
  let files := found.filter (!isListed ·)
  let directories := found.filter isListed
  say (String.join (files.map fun e => e.1 ++ listMark given e.2 ++ "\n"))
  let parts ← directories.mapM fun e => do
    let lines ← listDirectory given e.1
    return if 1 < paths.length then e.1 ++ ":\n" ++ lines else lines
  say ((if files.isEmpty || directories.isEmpty then "" else "\n") ++ "\n".intercalate parts)
  return if found.length = entries.length then 0 else 2

/-! ### Paths -/

/-- The path of the directory that a path lies in. -/
def parentPath (path : Octets) : Octets :=
  let above := (pathParts (trimmed path)).dropLast
  if trimmed path = "/" then "/"
  else if above.isEmpty then "."
  else
    let joined := trimmed ("/".intercalate above)
    if joined.isEmpty then "/" else joined

/-- Prints the directories that paths lie in. -/
def dirname : Task Nat := do
  let o : Options := { letters := "z", long := [("zero", 'z')] }
  let (given, paths) ← o.ofArguments
  needed 1 paths
  let lineEnd := if has given 'z' then "\x00" else "\n"
  say (String.join (paths.map fun p => parentPath p ++ lineEnd))
  return 0

/-- A name without an ending, unless it is nothing else. -/
def withoutEnding (ending name : Octets) : Octets :=
  if name ≠ ending && name.endsWith ending then
    String.ofList (name.toList.take (name.length - ending.length))
  else name

/-- Prints the last names in paths. -/
def basename : Task Nat := do
  let o : Options := {
    letters := "as:z"
    long := [("multiple", 'a'), ("suffix", 's'), ("zero", 'z')]
    inFront := true }
  let (given, paths) ← o.ofArguments
  needed 1 paths
  let lineEnd := if has given 'z' then "\x00" else "\n"
  let several := has given 'a' || has given 's'
  match several, paths with
  | false, [_, _] | false, [_] | true, _ => pure ()
  | false, _ => misused 1 ("extra operand " ++ quoted (paths[2]?.getD ""))
  let ending := if several then (value? given 's').getD "" else paths[1]?.getD ""
  let shown := if several then paths else paths.take 1
  say (String.join (shown.map fun p => withoutEnding ending (lastName p) ++ lineEnd))
  return 0

end ScriptHost.Utility
