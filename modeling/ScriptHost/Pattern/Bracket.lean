import ScriptHost.Pattern.Escape

/-!
# Bracket expressions

Sets of characters in brackets, such as `[a-z]`, `[^[:alpha:]_]` or `[a-z&&[^x]]`.

## Main definitions

* `combine` — how deep a combination of parts is nested.
* `readBracket?` — the set after an opening bracket.

## Nesting

The answer of a reader is the depth of what was read: parts that stand alone have depth zero, and
brackets, unions of several members and operations on sets add one each.
-/

namespace ScriptHost.Pattern

/-- The depth of parts side by side: a part that is alone is not nested any deeper. -/
def combine : List Nat → Nat
  | [] => 0
  | [d] => d
  | ds => ds.foldl max 0 + 1

/-- The names of sets, as in `[:alpha:]`. -/
def setNames : List String :=
  ["alnum", "alpha", "ascii", "blank", "cntrl", "digit", "graph", "lower", "print", "punct",
    "space", "upper", "word", "xdigit"]

/-- A named set after its opening bracket: whether it is negated, and what follows it. -/
def readNamed? : List Char → Option (Bool × List Char)
  | ':' :: cs =>
    let negated := cs.head? = some '^'
    let cs := if negated then cs.drop 1 else cs
    match cs.dropWhile (· ≠ ':') with
    | ':' :: ']' :: rest =>
      if setNames.contains (String.ofList (cs.takeWhile (· ≠ ':'))) then some (negated, rest)
      else none
    | _ => none
  | _ => none

/-- A named set that can be compiled. -/
def isNamedAllowed (m : Mode) (negated : Bool) : Bool :=
  if m.unicode then !m.ignoreCase else !negated

/-- A character that can be compiled inside of brackets. -/
def isMemberAllowed (m : Mode) (c : Char) : Bool :=
  if m.unicode then !m.ignoreCase else isAscii c

/-- One end of a range, or a member alone. -/
def readMember? (m : Mode) : List Char → Option (Item × List Char)
  | [] => none
  | '\\' :: cs => readEscape? m cs
  | c :: cs => some (.literal c false, cs)

/-- The character after a hyphen that tells what the hyphen means. In the verbose mode blanks are
passed over, and one number sign among them. -/
def afterHyphen? (m : Mode) (cs : List Char) : Option Char :=
  if m.verbose then
    match cs.dropWhile Text.isBlank with
    | '#' :: more =>
      match more.dropWhile Text.isBlank with
      | c :: _ => some c
      | [] => cs.head?
    | c :: _ => some c
    | [] => cs.head?
  else cs.head?

/-- A range or a member alone: what follows it, if it can be compiled. -/
def readRange? (m : Mode) (cs : List Char) : Option (List Char) := do
  let (first, rest) ← readMember? m cs
  match skip m rest with
  | [] => none
  | c :: more =>
    let next := afterHyphen? m more
    if c ≠ '-' || next = some ']' || next = some '-' then
      match first with
      | .literal x _ => if isMemberAllowed m x then some (c :: more) else none
      | .shorthand _ => if first.isAllowed m then some (c :: more) else none
      | _ => none
    else
      let (last, rest) ← readMember? m (skip m more)
      match first, last with
      | .literal x _, .literal y _ =>
        if x ≤ y && isMemberAllowed m x && isMemberAllowed m y then some rest else none
      | _, _ => none

/-- The hyphens, or else the closing bracket, that a set begins with: how many members they are,
and what follows them. -/
def readLeading (m : Mode) (cs : List Char) : Nat × List Char :=
  let rec hyphens (count : Nat) : List Char → Nat × List Char
    | '-' :: cs => hyphens (count + 1) cs
    | cs => (count, cs)
  let rec verboseHyphens (fuel count : Nat) (cs : List Char) : Nat × List Char :=
    match fuel, cs with
    | fuel + 1, '-' :: cs => verboseHyphens fuel (count + 1) (skip m cs)
    | _, cs => (count, cs)
  let (count, rest) := if m.verbose then verboseHyphens cs.length 0 cs else hyphens 0 cs
  match count, rest with
  | 0, ']' :: rest => (1, skip m rest)
  | count, rest => (count, rest)

/-- Whether a set is negated, and what follows the sign for it. -/
def readNegation (m : Mode) : List Char → Bool × List Char
  | '^' :: cs => (true, skip m cs)
  | cs => (false, cs)

/-- The depth of the members of a set after the operations in front of them. -/
def operate (left : Option Nat) (members : List Nat) : Nat :=
  match left with
  | none => combine members
  | some d => max d (combine members) + 1

/-- The operations on sets. -/
def isOperation (a b : Char) : Bool :=
  a = b && (a = '&' || a = '-' || a = '~')

/-- Reads a set up to its closing bracket: its depth, and what follows it. `left` is the depth of
what stands in front of the last operation, and `members` are the depths of the members so
far. Where `opening` is told, the text is right after an opening bracket. -/
def readSet? (fuel : Nat) (m : Mode) (opening : Bool) (left : Option Nat) (members : List Nat)
    (cs : List Char) : Option (Nat × List Char) :=
  match fuel with
  | 0 => none
  | fuel + 1 =>
    if opening then
      let (negated, cs) := readNegation m (skip m cs)
      let (count, cs) := readLeading m cs
      if (negated && !m.unicode) || (0 < count && !isMemberAllowed m '-') then none
      else readSet? fuel m false none (List.replicate count 0) cs
    else
      match skip m cs with
      | [] => none
      | ']' :: rest => some (operate left members, rest)
      | '[' :: rest =>
        match readNamed? rest with
        | some (negated, rest) =>
          if isNamedAllowed m negated then readSet? fuel m false left (0 :: members) rest else none
        | none =>
          match readSet? fuel m true none [] rest with
          | some (d, rest) => readSet? fuel m false left ((d + 1) :: members) rest
          | none => none
      | a :: cs =>
        if cs.head?.any (isOperation a) then
          readSet? fuel m false (some (operate left members)) [] (cs.drop 1)
        else
          match readRange? m (a :: cs) with
          | some rest => readSet? fuel m false left (0 :: members) rest
          | none => none

/-- The set after an opening bracket: the depth of what stands in the brackets, and what follows
the closing one. -/
def readBracket? (m : Mode) (cs : List Char) : Option (Nat × List Char) :=
  readSet? (2 * cs.length + 2) m true none [] cs

end ScriptHost.Pattern
