/-!
# Paths

A path is the text a user wrote; nothing is normalised unless asked for. This module holds
what can be said of a path without looking at any file.

## Main definitions

* `Path.components` — the steps of a path: the root, `.` (only in front), `..`, names.
* `Path.parent?` — the path without its last component, cut from the text itself.
* `Path.join` — a path below a directory; an absolute path replaces it.
* `Path.extension?` — what follows the last dot of the last name.
-/

namespace ScriptHost

/-- A path as written. -/
abbrev Path := String

namespace Path

/-- The path begins at the root. -/
def isAbsolute (p : Path) : Bool :=
  p.toList.head? = some '/'

/-- The parts between slashes; one empty part for the empty text. -/
def splitSlash : List Char → List (List Char)
  | [] => [[]]
  | '/' :: cs => [] :: splitSlash cs
  | c :: cs =>
    match splitSlash cs with
    | [] => [[c]]
    | part :: parts => (c :: part) :: parts

/-- The parts between slashes, as texts. -/
def parts (p : Path) : List String :=
  (splitSlash p.toList).map String.ofList

/-- A directory with a path below it. -/
def join (base rel : Path) : Path :=
  if isAbsolute rel || base.isEmpty then rel
  else if base.toList.getLast? = some '/' then base ++ rel
  else base ++ "/" ++ rel

/-! ### Components -/

/-- The steps of a path: the root as a slash, `..`, and names. Empty parts and `.` are passed
over, except for a `.` that a relative path begins with. -/
def components (p : Path) : List String :=
  let isStep := fun (part : String) => !part.isEmpty && part ≠ "."
  if isAbsolute p then "/" :: (parts p).filter isStep
  else
    match parts p with
    | "." :: rest => "." :: rest.filter isStep
    | all => all.filter isStep

/-- A path below another one, step by step. -/
def extend (base : Path) (steps : List String) : Path :=
  steps.foldl join base

/-- The path as seen from the root. -/
def toAbsolute (p cwd : Path) : Path :=
  if isAbsolute p then p else extend cwd (components p)

/-! ### The last component

Reversed texts make "the end of a path" the front of a list. -/

/-- Drops slashes and `.` parts from the end of a relative path, given in reverse; a `.` at
the very start stays. -/
def trimEndRev : List Char → List Char
  | '/' :: cs => trimEndRev cs
  | '.' :: '/' :: cs => trimEndRev cs
  | cs => cs

/-- The last part of a relative path without trailing slashes, and what comes before it,
both in reverse. -/
def splitLastRev (cs : List Char) : List Char × List Char :=
  (cs.takeWhile (· ≠ '/'), cs.dropWhile (· ≠ '/'))

/-- The leading slashes that make a path absolute, and the rest. -/
def splitRoot (p : Path) : List Char × List Char :=
  match p.toList with
  | '/' :: cs => (['/'], cs)
  | cs => ([], cs)

/-- The part of a path below the root that remains when trailing slashes and `.` parts are
dropped, in reverse. Below a root a lone `.` is dropped too. -/
def bodyRev (p : Path) : List Char :=
  match splitRoot p with
  | (root, cs) =>
    let body := trimEndRev cs.reverse
    if body = ['.'] && !root.isEmpty then [] else body

/-- The last component, if there is one below the root: a name, `..`, or a lone `.`. -/
def last? (p : Path) : Option String :=
  match bodyRev p with
  | [] => none
  | body => some (String.ofList (splitLastRev body).1.reverse)

/-- The path without its last component; none for the empty path and the root. -/
def parent? (p : Path) : Option Path :=
  match bodyRev p with
  | [] => none
  | body =>
    let root := (splitRoot p).1
    let rest := trimEndRev (splitLastRev body).2
    let rest := if rest = ['.'] && !root.isEmpty then [] else rest
    some (String.ofList (root ++ rest.reverse))

/-- The name a path ends in; none if it ends in `..` or `.`. -/
def fileName? (p : Path) : Option String :=
  match last? p with
  | some name => if name = ".." || name = "." then none else some name
  | none => none

/-- What follows the last dot of a name, if anything comes before that dot. -/
def extensionOfName? (name : String) : Option String :=
  let rev := name.toList.reverse
  match rev.dropWhile (· ≠ '.') with
  | [] => none
  | _ :: stem =>
    if stem.isEmpty then none else some (String.ofList (rev.takeWhile (· ≠ '.')).reverse)

/-- What follows the last dot of the last name, if anything comes before that dot. -/
def extension? (p : Path) : Option String :=
  (fileName? p).bind extensionOfName?

end Path

end ScriptHost
