import ScriptHost.Pattern.Bracket
import ScriptHost.Text.Alphanumeric

/-!
# Patterns

Reads a whole pattern: branches of parts, groups, flags and repetitions. Only the question is
answered whether a text is a pattern that can be compiled.

```text
pattern ::= branch { "|" branch }
branch  ::= { part | flags }
part    ::= item | bracket | group | part ( "?" | "*" | "+" ) [ "?" ]
group   ::= "(" [ "?" [ "P" ] "<" name ">" | "?" letters ":" ] pattern ")"
flags   ::= "(?" letters ")"
```

## Main definitions

* `readFlags?`, `readName?` — what may stand after an opening parenthesis and a question mark.
* `readBranches?` — the branches of a pattern or of a group.
* `isValid` — a text is a pattern.

## What is refused

* A counted repetition. Patterns stand in braces, so they have no closing brace of their own.
* A group that looks ahead or behind.
* A pattern that is nested too deep, see `maxDepth`. Groups, repetitions and brackets are one
  level each, and so are several branches and several parts of one branch.
-/

namespace ScriptHost.Pattern

/-! ### Flags -/

/-- The letters that stand for flags. Half of them make no difference to what is a pattern. -/
def flagLetters : List Char := ['i', 'm', 's', 'U', 'u', 'R', 'x']

/-- Switches a flag on or off. -/
def Mode.switch (on : Bool) (m : Mode) : Char → Mode
  | 'i' => { m with ignoreCase := on }
  | 'u' => { m with unicode := on }
  | 'x' => { m with verbose := on }
  | _ => m

/-- Switches flags on, and those after a hyphen off. -/
def Mode.switchAll (m : Mode) (flags : List Char) : Mode :=
  (flags.dropWhile (· ≠ '-')).foldl (Mode.switch false)
    ((flags.takeWhile (· ≠ '-')).foldl (Mode.switch true) m)

/-- Flags up to a colon or a closing parenthesis, none of them twice: the flags, whether a colon
ends them, and what follows it. `seen` holds the flags so far, the last one first. -/
def readFlags? (seen : List Char) : List Char → Option (List Char × Bool × List Char)
  | [] => none
  | c :: cs =>
    if c = ':' || c = ')' then
      if seen.head? = some '-' then none else some (seen.reverse, c = ':', cs)
    else if seen.contains c || (c ≠ '-' && !flagLetters.contains c) then none
    else readFlags? (c :: seen) cs

/-! ### Names -/

/-- A character that a name may begin with. -/
def isNameStart (c : Char) : Bool :=
  c = '_' || Text.isAlphabetic c

/-- A character that a name may go on with. -/
def isNamePart (c : Char) : Bool :=
  c = '_' || c = '.' || c = '[' || c = ']' || Text.isAlphanumeric c

/-- The name of a group up to its closing bracket, and what follows it. -/
def readName? (cs : List Char) : Option (String × List Char) :=
  match cs.takeWhile (· ≠ '>'), cs.dropWhile (· ≠ '>') with
  | first :: more, _ :: rest =>
    if isNameStart first && more.all isNamePart then some (String.ofList (first :: more), rest)
    else none
  | _, _ => none

/-! ### Groups -/

/-- What the parts of a pattern depend on. -/
structure Context where
  mode : Mode := {}
  /-- The names of the groups so far. -/
  names : List String := []
  deriving DecidableEq, Repr

/-- What begins with an opening parenthesis. -/
inductive Opening where
  /-- Flags from here to the end of the group around them. -/
  | flags (mode : Mode)
  /-- A group, with the context of its parts. -/
  | group (inside : Context)
  deriving DecidableEq, Repr

/-- A group with a name that no other group has. -/
def readNamedGroup? (x : Context) (cs : List Char) : Option (Opening × List Char) :=
  (readName? cs).bind fun r =>
    if x.names.contains r.1 then none
    else some (.group { x with names := r.1 :: x.names }, r.2)

/-- What begins with an opening parenthesis, and what follows the head of it. -/
def readOpening? (x : Context) : List Char → Option (Opening × List Char)
  | '?' :: '=' :: _ | '?' :: '!' :: _ | '?' :: '<' :: '=' :: _ | '?' :: '<' :: '!' :: _ => none
  | '?' :: 'P' :: '<' :: cs | '?' :: '<' :: cs => readNamedGroup? x cs
  | '?' :: cs =>
    match readFlags? [] cs with
    | some (flags, true, rest) =>
      some (.group { x with mode := x.mode.switchAll flags }, rest)
    | some (flags, false, rest) =>
      if flags.isEmpty then none else some (.flags (x.mode.switchAll flags), rest)
    | none => none
  | cs => some (.group x, cs)

/-! ### Branches -/

/-- An item outside of brackets, and what follows it. -/
def readItem? (m : Mode) : List Char → Option (Item × List Char)
  | [] => none
  | '\\' :: cs => readEscape? m cs
  | '.' :: cs => some (.anyCharacter, cs)
  | '^' :: cs | '$' :: cs => some (.anchor, cs)
  | c :: cs => some (.literal c false, cs)

/-- The depth of parts side by side. -/
def depthOfParts (parts : List (Option Nat)) : Nat :=
  combine (parts.map fun d => d.getD 0)

/-- Drops the question mark that makes a repetition as short as can be. -/
def dropLazy : List Char → List Char
  | '?' :: cs => cs
  | cs => cs

/-- Reads branches up to the end of the text or, in a group, up to its closing parenthesis: their
depth, the names of the groups so far, and what follows. `branches` are the depths of the branches
that have been read, and `parts` those of the parts of the next one, the last part first; flags
have none, for they cannot be repeated. -/
def readBranches? (fuel : Nat) (inGroup : Bool) (x : Context) (branches : List Nat)
    (parts : List (Option Nat)) (cs : List Char) : Option (Nat × List String × List Char) :=
  match fuel with
  | 0 => none
  | fuel + 1 =>
    let depth := combine (depthOfParts parts :: branches)
    match skip x.mode cs with
    | [] => if inGroup then none else some (depth, x.names, [])
    | ')' :: rest => if inGroup then some (depth, x.names, rest) else none
    | '|' :: rest => readBranches? fuel inGroup x (depthOfParts parts :: branches) [] rest
    | '(' :: rest =>
      match readOpening? x (skip x.mode rest) with
      | some (.flags mode, rest) =>
        readBranches? fuel inGroup { x with mode := mode } branches (none :: parts) rest
      | some (.group inside, rest) =>
        match readBranches? fuel true inside [] [] rest with
        | some (d, names, rest) =>
          readBranches? fuel inGroup { x with names := names } branches (some (d + 1) :: parts) rest
        | none => none
      | none => none
    | '[' :: rest =>
      match readBracket? x.mode rest with
      | some (d, rest) => readBranches? fuel inGroup x branches (some (d + 1) :: parts) rest
      | none => none
    | '{' :: _ => none
    | c :: rest =>
      if c = '?' || c = '*' || c = '+' then
        match parts with
        | some d :: before =>
          readBranches? fuel inGroup x branches (some (d + 1) :: before) (dropLazy rest)
        | _ => none
      else
        match readItem? x.mode (c :: rest) with
        | some (item, rest) =>
          if item.isAllowed x.mode then readBranches? fuel inGroup x branches (some 0 :: parts) rest
          else none
        | none => none

/-- Patterns may be nested so deep. -/
def maxDepth : Nat := 250

/-- A text is a pattern. -/
def isValid (cs : List Char) : Bool :=
  (readBranches? (cs.length + 1) false {} [] [] cs).any fun r => r.1 ≤ maxDepth

end ScriptHost.Pattern
