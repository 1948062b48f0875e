/-!
# Patterns

Patterns in which `*` stands for any text, `?` for any character, and brackets for one of
several characters. A backslash takes the meaning from the character after it.

## Main definitions

* `Glob.Item`, `Glob.items` — what a pattern is made of.
* `Glob.accepts` — a pattern fits a text.
* `Glob.shortestFront`, … — the pieces of a text that a pattern fits.

## Brackets

A bracket that is not closed is an ordinary character. An exclamation mark at the front
means any character but those that follow, and a closing bracket at the front is one of
them.
-/

namespace ScriptHost.Shell.Glob

/-- The characters that a member of a bracket stands for. -/
inductive Member where
  | range (first last : Char)
  | named (name : String)
  deriving DecidableEq, Repr

/-- What a pattern is made of. -/
inductive Item where
  | char (c : Char)
  | anyChar
  | anyText
  | oneOf (negated : Bool) (members : List Member)
  deriving DecidableEq, Repr

/-- The named classes of characters. -/
def classes : List (String × (Char → Bool)) := [
  ("alnum", Char.isAlphanum), ("alpha", Char.isAlpha),
  ("blank", fun c => c = ' ' || c = '\t'),
  ("cntrl", fun c => c.toNat < 32 || c.toNat = 127),
  ("digit", Char.isDigit), ("graph", fun c => 32 < c.toNat && c.toNat < 127),
  ("lower", Char.isLower), ("print", fun c => 31 < c.toNat && c.toNat < 127),
  ("punct", fun c => 32 < c.toNat && c.toNat < 127 && !c.isAlphanum),
  ("space", fun c => c = ' ' || (9 ≤ c.toNat && c.toNat ≤ 13)),
  ("upper", Char.isUpper),
  ("xdigit", fun c => c.isDigit || ('a' ≤ c && c ≤ 'f') || ('A' ≤ c && c ≤ 'F'))]

namespace Member

/-- A member stands for a character. -/
def accepts (m : Member) (c : Char) : Bool :=
  match m with
  | .range first last => first ≤ c && c ≤ last
  | .named name =>
    match classes.lookup name with
    | some f => f c
    | none => false

end Member

namespace Item

/-- An item stands for a character. -/
def accepts (i : Item) (c : Char) : Bool :=
  match i with
  | .char d => c = d
  | .anyChar | .anyText => true
  | .oneOf negated members => (members.any (·.accepts c)) != negated

end Item

/-! ### Reading -/

/-- The named class that begins here, after its opening bracket. -/
def classAt? (cs : List Char) : Option (String × List Char) :=
  (classes.map (·.1)).findSome? fun name =>
    let written := ':' :: name.toList ++ [':', ']']
    if written.isPrefixOf cs then some (name, cs.drop written.length) else none

/-- A character of a bracket, which may be quoted. -/
def bracketChar : List Char → Option (Char × List Char)
  | '\\' :: c :: cs => some (c, cs)
  | c :: cs => some (c, cs)
  | [] => none

/-- The members of a bracket and what follows it; none if it is not closed. -/
def bracket (first : Bool) : Nat → List Char → Option (List Member × List Char)
  | 0, _ => none
  | fuel + 1, cs =>
    match cs with
    | [] => none
    | c :: after =>
      if c = ']' && !first then some ([], after)
      else
        match if c = '[' then classAt? after else none with
        | some (name, rest) =>
          (bracket false fuel rest).map fun r => (.named name :: r.1, r.2)
        | none =>
          match bracketChar cs with
          | none => none
          | some (low, '-' :: rest) =>
            if rest.head? = some ']' then
              (bracket false fuel ('-' :: rest)).map fun r => (.range low low :: r.1, r.2)
            else
              match bracketChar rest with
              | some (high, rest) =>
                (bracket false fuel rest).map fun r => (.range low high :: r.1, r.2)
              | none => none
          | some (low, rest) =>
            (bracket false fuel rest).map fun r => (.range low low :: r.1, r.2)

/-- The items of a pattern. -/
def itemsFrom : Nat → List Char → List Item
  | 0, _ => []
  | fuel + 1, cs =>
    match cs with
    | [] => []
    | '\\' :: c :: rest => .char c :: itemsFrom fuel rest
    | '?' :: rest => .anyChar :: itemsFrom fuel rest
    | '*' :: rest => .anyText :: itemsFrom fuel rest
    | '[' :: rest =>
      let (negated, inside) := match rest with
        | '!' :: inside => (true, inside)
        | inside => (false, inside)
      match bracket true (inside.length + 1) inside with
      | some (members, after) => .oneOf negated members :: itemsFrom fuel after
      | none => .char '[' :: itemsFrom fuel rest
    | c :: rest => .char c :: itemsFrom fuel rest

/-- The items of a pattern. -/
def items (pattern : List Char) : List Item :=
  itemsFrom pattern.length pattern

/-! ### Matching -/

/-- Every end of a text, the longest first. -/
def ends : List Char → List (List Char)
  | [] => [[]]
  | c :: cs => (c :: cs) :: ends cs

/-- The items fit the whole text. -/
def accepts : List Item → List Char → Bool
  | [], cs => cs.isEmpty
  | .anyText :: rest, cs => (ends cs).any (accepts rest)
  | _ :: _, [] => false
  | i :: rest, c :: cs => i.accepts c && accepts rest cs

/-! ### Cutting -/

/-- The text without the piece at its front that fits, if one does. -/
def trimFront (pattern : List Item) (longest : Bool) (cs : List Char) : List Char :=
  let cuts := List.range (cs.length + 1)
  let cuts := if longest then cuts.reverse else cuts
  match cuts.find? fun n => accepts pattern (cs.take n) with
  | some n => cs.drop n
  | none => cs

/-- The text without the piece at its back that fits, if one does. -/
def trimBack (pattern : List Item) (longest : Bool) (cs : List Char) : List Char :=
  let cuts := List.range (cs.length + 1)
  let cuts := if longest then cuts else cuts.reverse
  match cuts.find? fun n => accepts pattern (cs.drop n) with
  | some n => cs.take n
  | none => cs

/-! ### Paths -/

/-- A piece of a pattern between slashes fits more than one text. -/
def isMeta (piece : List Char) : Bool :=
  (items piece).any fun i =>
    match i with
    | .char _ => false
    | _ => true

/-- A pattern as a text, without its backslashes. -/
def plain : List Char → List Char
  | '\\' :: c :: cs => c :: plain cs
  | c :: cs => c :: plain cs
  | [] => []

/-- The pieces of a pattern between slashes. -/
def pieces : List Char → List (List Char)
  | [] => [[]]
  | '\\' :: '/' :: cs => [] :: pieces cs
  | '\\' :: c :: cs =>
    match pieces cs with
    | [] => [['\\', c]]
    | piece :: rest => ('\\' :: c :: piece) :: rest
  | '/' :: cs => [] :: pieces cs
  | c :: cs =>
    match pieces cs with
    | [] => [[c]]
    | piece :: rest => (c :: piece) :: rest

/-- The names that a piece fits. A dot at the front of a name has to be written out. -/
def choose (piece : List Char) (names : List String) : List String :=
  let dotted := (plain piece).head? = some '.'
  let pattern := items piece
  names.filter fun name =>
    (dotted || name.toList.head? ≠ some '.') && accepts pattern name.toList

/-- The paths below a path that pieces fit. `names` gives the names in a directory, and `holds`
says whether a path names anything. -/
def pathsBelow (names : String → List String) (holds : String → Bool) :
    List (List Char) → String → List String
  | [], above => [above]
  | [piece], above =>
    if isMeta piece then (choose piece (names above)).map (above ++ ·)
    else
      let path := above ++ String.ofList (plain piece)
      if holds path then [path] else []
  | piece :: rest, above =>
    if isMeta piece then
      (choose piece (names above)).flatMap fun name =>
        pathsBelow names holds rest (above ++ name ++ "/")
    else pathsBelow names holds rest (above ++ String.ofList (plain piece) ++ "/")

/-- The paths that a pattern fits, in order. -/
def paths (names : String → List String) (holds : String → Bool) (pattern : List Char) :
    List String :=
  let pieces := pieces pattern
  if pieces.any isMeta then (pathsBelow names holds pieces "").mergeSort fun a b => !(b < a)
  else []

end ScriptHost.Shell.Glob
