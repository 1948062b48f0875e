import ScriptHost.Shell.Glob
import ScriptHost.Shell.Numeral

/-!
# Regular expressions

Expressions that match pieces of lines, in a basic and an extended notation. Of all pieces
that an expression matches the one that begins first is meant, and of those that begin there
the longest.

## Main definitions

* `Expression` — an expression.
* `Expression.read` — the expression that a text is in one of the notations.
* `Expression.search` — the piece of a line that is meant.

## Notations

In the extended notation parentheses, braces, bars, plus signs and question marks are
operators, and stand for themselves behind a backslash. In the basic notation it is the
other way round.
-/

namespace ScriptHost.Utility

open Shell

/-- A regular expression. -/
inductive Expression where
  | nothing
  | item (i : Glob.Item)
  | lineStart
  | lineEnd
  | group (n : Nat) (e : Expression)
  /-- What a group matched. -/
  | again (n : Nat)
  | sequence (first second : Expression)
  | either (first second : Expression)
  | repeated (e : Expression) (least : Nat) (most : Option Nat)

namespace Expression

/-! ### Matching -/

/-- A place in a line: the characters before it, the last one first, those behind it, and what the
groups matched so far. -/
structure Place where
  before : List Char
  rest : List Char
  groups : List (Nat × List Char)

/-- The place a number of characters further on. -/
def Place.advance (p : Place) (n : Nat) : Place :=
  { p with before := (p.rest.take n).reverse ++ p.before, rest := p.rest.drop n }

/-- Places of which no two are the same in the line; the first of those is kept. -/
def distinct : List Place → List Place
  | [] => []
  | p :: rest => p :: (distinct rest).filter fun q => q.rest.length ≠ p.rest.length

/-- The places after repetitions, those after more of them first. -/
def repeatedFrom (step : Place → List Place) (least : Nat) (most : Option Nat) :
    Nat → Nat → Place → List Place
  | 0, _, p => [p]
  | fuel + 1, done, p =>
    let further :=
      if most = some done then []
      else
        (step p).flatMap fun q =>
          if q.rest.length = p.rest.length && least ≤ done then []
          else repeatedFrom step least most fuel (done + 1) q
    distinct (further ++ if least ≤ done then [p] else [])

/-- The places to which an expression leads. -/
def ends (foldsCase : Bool) : Expression → Place → List Place
  | .nothing, p => [p]
  | .item i, p =>
    match p.rest with
    | c :: _ =>
      let fits := i.accepts c || (foldsCase && (i.accepts c.toLower || i.accepts c.toUpper))
      if fits then [p.advance 1] else []
    | [] => []
  | .lineStart, p => if p.before.isEmpty then [p] else []
  | .lineEnd, p => if p.rest.isEmpty then [p] else []
  | .group n e, p =>
    (ends foldsCase e p).map fun q =>
      let matched := p.rest.take (p.rest.length - q.rest.length)
      { q with groups := (n, matched) :: q.groups }
  | .again n, p =>
    match p.groups.lookup n with
    | some matched => if matched.isPrefixOf p.rest then [p.advance matched.length] else []
    | none => []
  | .sequence a b, p => distinct ((ends foldsCase a p).flatMap fun q => ends foldsCase b q)
  | .either a b, p => distinct (ends foldsCase a p ++ ends foldsCase b p)
  | .repeated e least most, p =>
    repeatedFrom (fun q => ends foldsCase e q) least most (p.rest.length + least + 1) 0 p

/-- What an expression matches in a line. -/
structure Found where
  before : List Char
  matched : List Char
  after : List Char
  groups : List (Nat × List Char)

/-- The longest of places. -/
def farthest : List Place → Option Place
  | [] => none
  | p :: rest =>
    match farthest rest with
    | some q => if q.rest.length < p.rest.length then some q else some p
    | none => some p

/-- The piece that is meant from a place on. -/
def searchFrom (foldsCase : Bool) (e : Expression) (p : Place) : Nat → Option Found
  | 0 => none
  | fuel + 1 =>
    match farthest (ends foldsCase e p) with
    | some q =>
      some ⟨p.before.reverse, p.rest.take (p.rest.length - q.rest.length), q.rest, q.groups⟩
    | none => if p.rest.isEmpty then none else searchFrom foldsCase e (p.advance 1) fuel

/-- The piece of a line that is meant. -/
def search (foldsCase : Bool) (e : Expression) (line : List Char) : Option Found :=
  searchFrom foldsCase e ⟨[], line, []⟩ (line.length + 1)

/-! ### Reading -/

/-- A token of an expression. -/
inductive Token where
  | item (i : Glob.Item)
  | lineStart
  | lineEnd
  | open
  | close
  | bar
  | again (n : Nat)
  | repeated (least : Nat) (most : Option Nat)

/-- Why a text is no expression. -/
inductive Problem where
  | openBracket
  | openGroup
  | closedGroup
  | lastBackslash
  | badBraces
  | badReference

/-- The words for a problem. -/
def Problem.message : Problem → String
  | .openBracket => "Unmatched [, [^, [:, [., or [="
  | .openGroup => "Unmatched ( or \\("
  | .closedGroup => "Unmatched ) or \\)"
  | .lastBackslash => "Trailing backslash"
  | .badBraces => "Invalid content of \\\x7b\\\x7d"
  | .badReference => "Invalid back reference"

/-- The members of a bracket up to its end, and what follows it. -/
def members (first : Bool) : Nat → List Char → Option (List Glob.Member × List Char)
  | 0, _ => none
  | fuel + 1, cs =>
    match cs with
    | [] => none
    | c :: after =>
      if c = ']' && !first then some ([], after)
      else
        match if c = '[' then Glob.classAt? after else none with
        | some (name, rest) => (members false fuel rest).map fun r => (.named name :: r.1, r.2)
        | none =>
          match after with
          | '-' :: d :: rest =>
            if d = ']' then (members false fuel after).map fun r => (.range c c :: r.1, r.2)
            else (members false fuel rest).map fun r => (.range c d :: r.1, r.2)
          | _ => (members false fuel after).map fun r => (.range c c :: r.1, r.2)

/-- The bounds in braces, and what follows them. -/
def bounds? (extended : Bool) (cs : List Char) : Option (Nat × Option Nat × List Char) :=
  let (least, rest) := Numeral.digits 10 cs
  let closed := fun (cs : List Char) =>
    match extended, cs with
    | true, '}' :: rest => some rest
    | false, '\\' :: '}' :: rest => some rest
    | _, _ => none
  match rest with
  | ',' :: rest =>
    let (most, rest) := Numeral.digits 10 rest
    (closed rest).map fun rest =>
      (Numeral.value 10 least, if most.isEmpty then none else some (Numeral.value 10 most), rest)
  | rest =>
    if least.isEmpty then none
    else (closed rest).map fun rest =>
      (Numeral.value 10 least, some (Numeral.value 10 least), rest)

/-- A letter, a digit or an underscore. -/
def wordItem (negated : Bool) : Glob.Item :=
  .oneOf negated [.named "alnum", .range '_' '_']

/-- The operator that a character stands for, with or without a backslash depending on the
notation. -/
def operator? (extended : Bool) (c : Char) (rest : List Char) :
    Option (Except Problem (Token × List Char)) :=
  match c with
  | '(' => some (.ok (.open, rest))
  | ')' => some (.ok (.close, rest))
  | '|' => some (.ok (.bar, rest))
  | '+' => some (.ok (.repeated 1 none, rest))
  | '?' => some (.ok (.repeated 0 (some 1), rest))
  | '{' =>
    match bounds? extended rest with
    | some (least, most, rest) => some (.ok (.repeated least most, rest))
    | none => if extended then none else some (.error .badBraces)
  | _ => none

/-- The token behind a backslash. -/
def escaped (extended : Bool) (c : Char) (rest : List Char) : Except Problem (Token × List Char) :=
  match if extended then none else operator? extended c rest with
  | some token => token
  | none =>
    match c with
    | 'w' => .ok (.item (wordItem false), rest)
    | 'W' => .ok (.item (wordItem true), rest)
    | 's' => .ok (.item (.oneOf false [.named "space"]), rest)
    | 'S' => .ok (.item (.oneOf true [.named "space"]), rest)
    | c =>
      if c.isDigit && c ≠ '0' then .ok (.again (c.toNat - '0'.toNat), rest)
      else .ok (.item (.char c), rest)

/-- The tokens of an expression. `atStart` says that nothing stands before it that could be
repeated. -/
def tokens (extended : Bool) (atStart : Bool) : Nat → List Char → Except Problem (List Token)
  | 0, _ => .ok []
  | fuel + 1, cs => do
    let plain := fun (c : Char) => Token.item (.char c)
    match cs with
    | [] => .ok []
    | ['\\'] => .error .lastBackslash
    | '\\' :: c :: rest =>
      let (token, rest) ← escaped extended c rest
      let starts := match token with
        | .open | .bar => true
        | _ => false
      .ok (token :: (← tokens extended starts fuel rest))
    | '.' :: rest => .ok (.item .anyChar :: (← tokens extended false fuel rest))
    | '[' :: rest =>
      let (negated, inside) := match rest with
        | '^' :: inside => (true, inside)
        | inside => (false, inside)
      match members true (inside.length + 1) inside with
      | some (found, rest) =>
        .ok (.item (.oneOf negated found) :: (← tokens extended false fuel rest))
      | none => .error .openBracket
    | '*' :: rest =>
      let token := if atStart then plain '*' else .repeated 0 none
      .ok (token :: (← tokens extended false fuel rest))
    | '^' :: rest =>
      if extended || atStart then .ok (.lineStart :: (← tokens extended true fuel rest))
      else .ok (plain '^' :: (← tokens extended false fuel rest))
    | '$' :: rest =>
      let isLast := match rest with
        | [] | '\\' :: ')' :: _ | '\\' :: '|' :: _ => true
        | _ => false
      let token := if extended || isLast then .lineEnd else plain '$'
      .ok (token :: (← tokens extended false fuel rest))
    | c :: rest =>
      match if extended then operator? extended c rest else none with
      | some token =>
        let (token, rest) ← token
        let starts := match token with
          | .open | .bar => true
          | _ => false
        .ok (token :: (← tokens extended starts fuel rest))
      | none => .ok (plain c :: (← tokens extended false fuel rest))

/-- An expression with the repetitions behind it. -/
def withRepetitions (e : Expression) : List Token → Expression × List Token
  | .repeated least most :: rest => withRepetitions (.repeated e least most) rest
  | rest => (e, rest)

mutual

/-- Expressions between bars, up to a closing parenthesis or the end. The number is that of the
next group. -/
def branches : Nat → Nat → List Token → Except Problem (Expression × Nat × List Token)
  | 0, n, ts => .ok (.nothing, n, ts)
  | fuel + 1, n, ts => do
    let (first, n, rest) ← branch fuel n ts
    match rest with
    | .bar :: rest =>
      let (second, n, rest) ← branches fuel n rest
      .ok (.either first second, n, rest)
    | rest => .ok (first, n, rest)

/-- Expressions one after another. -/
def branch : Nat → Nat → List Token → Except Problem (Expression × Nat × List Token)
  | 0, n, ts => .ok (.nothing, n, ts)
  | fuel + 1, n, ts => do
    let goOn := fun (e : Expression) (n : Nat) (rest : List Token) => do
      let (e, rest) := withRepetitions e rest
      let (later, n, rest) ← branch fuel n rest
      .ok (.sequence e later, n, rest)
    match ts with
    | [] | .bar :: _ | .close :: _ => .ok (.nothing, n, ts)
    | .item i :: rest => goOn (.item i) n rest
    | .lineStart :: rest => goOn .lineStart n rest
    | .lineEnd :: rest => goOn .lineEnd n rest
    | .repeated .. :: rest => goOn .nothing n rest
    | .again m :: rest => if m < n then goOn (.again m) n rest else .error .badReference
    | .open :: rest =>
      let (inner, next, rest) ← branches fuel (n + 1) rest
      match rest with
      | .close :: rest => goOn (.group n inner) next rest
      | _ => .error .openGroup

end

/-- The expression that a text is in one of the notations. -/
def read (extended : Bool) (text : List Char) : Except Problem Expression := do
  let ts ← tokens extended true (text.length + 1) text
  let (e, _, rest) ← branches (2 * ts.length + 2) 1 ts
  match rest with
  | [] => .ok e
  | _ => .error .closedGroup

/-- An expression that matches nothing but a text. -/
def ofText (text : List Char) : Expression :=
  text.foldr (fun c e => .sequence (.item (.char c)) e) .nothing

end Expression

end ScriptHost.Utility
