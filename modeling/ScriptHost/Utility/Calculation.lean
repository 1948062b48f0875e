import ScriptHost.Utility.Expression
import ScriptHost.Utility.Texts

/-!
# Calculations

The utility that evaluates its arguments as an expression over integers and texts.

## Grammar

```
either  ::= both (| both)*
both    ::= compared (& compared)*
compared ::= sum ((< | <= | = | == | != | >= | >) sum)*
sum     ::= product ((+ | -) product)*
product ::= matched ((* | / | %) matched)*
matched ::= primary (: primary)*
primary ::= ( either ) | length primary | index primary primary
          | substr primary primary primary | match primary primary | + text | text
```
-/

namespace ScriptHost.Utility.Calculation

open Shell

/-- Reads a part of the arguments: its value, and the arguments after it. -/
abbrev Part := List Octets → Task (Octets × List Octets)

/-- The integer that a value is. -/
def integer? (value : Octets) : Option Int :=
  match value.toList with
  | '-' :: cs => (count? (String.ofList cs)).map fun n => -(n : Int)
  | _ => (count? value).map Int.ofNat

/-- The integer that an operand is. -/
def integer (value : Octets) : Task Int :=
  match integer? value with
  | some n => return n
  | none => fail 2 "non-integer argument"

/-- A value is empty or zero. -/
def isNull (value : Octets) : Bool :=
  value.isEmpty || integer? value = some 0

/-- The truth as a value. -/
def ofBool (b : Bool) : Octets :=
  if b then "1" else "0"

/-- What a comparison of two values comes to: of two integers as integers, else as texts. -/
def compare (op : Octets) (a b : Octets) : Octets :=
  let (less, equal) := match integer? a, integer? b with
    | some x, some y => (decide (x < y), decide (x = y))
    | _, _ => (decide (a < b), decide (a = b))
  ofBool (match op with
    | "<" => less
    | "<=" => less || equal
    | "=" | "==" => equal
    | "!=" => !equal
    | ">=" => !less
    | _ => !less && !equal)

/-- What an operator of integers comes to. -/
def calculate (op : Octets) (a b : Octets) : Task Octets := do
  let x ← integer a
  let y ← integer b
  match op with
  | "+" => return toString (x + y)
  | "-" => return toString (x - y)
  | "*" => return toString (x * y)
  | _ =>
    if y = 0 then fail 2 "division by zero"
    else if op = "/" then return toString (x.tdiv y)
    else return toString (x.tmod y)

/-- What matching an expression from the start of a value comes to: what its first group matched, or
how much it matched. -/
def matched (value pattern : Octets) : Task Octets := do
  let e ← match Expression.read false pattern.toList with
    | .ok e => pure e
    | .error problem => fail 2 problem.message
  let hasGroup := (pattern.splitOn "\\(").length ≠ 1
  match Expression.farthest (e.ends false ⟨[], value.toList, []⟩) with
  | some p =>
    if hasGroup then return String.ofList ((p.groups.lookup 1).getD [])
    else return toString (value.length - p.rest.length)
  | none => return if hasGroup then "" else "0"

/-- The place of the first of some characters in a value, counted from one. -/
def index (value set : Octets) : Octets :=
  let place := value.toList.findIdx set.toList.contains
  if place < value.length then toString (place + 1) else "0"

/-- So many characters of a value from a place on. -/
def substr (value place length : Octets) : Octets :=
  match integer? place, integer? length with
  | some p, some n =>
    if p ≤ 0 || n ≤ 0 then ""
    else String.ofList ((value.toList.drop (p.toNat - 1)).take n.toNat)
  | _, _ => ""

/-- Refuses an expression that ends too early. -/
def missing {α : Type} (after : Octets) : Task α :=
  fail 2 ("syntax error: missing argument after " ++ quoted after)

/-- Operands with operators of one rank between them, from the left. -/
def chain (ops : List Octets) (operand : Part)
    (apply : Octets → Octets → Octets → Task Octets) : Nat → Octets → Part
  | 0, value, rest => return (value, rest)
  | fuel + 1, value, rest => do
    match rest with
    | op :: after =>
      if ops.contains op then
        if after.isEmpty then missing op
        let (other, rest) ← operand after
        chain ops operand apply fuel (← apply op value other) rest
      else return (value, rest)
    | [] => return (value, [])

/-- The operators by rank, the loosest first, with what they come to. -/
def ranks : List (List Octets × (Octets → Octets → Octets → Task Octets)) := [
  (["|"], fun _ a b => return if !isNull a then a else if !isNull b then b else "0"),
  (["&"], fun _ a b => return if isNull a || isNull b then "0" else a),
  (["<", "<=", "=", "==", "!=", ">=", ">"], fun op a b => return compare op a b),
  (["+", "-"], calculate),
  (["*", "/", "%"], calculate),
  ([":"], fun _ a b => matched a b)]

/-- Operands and operators of some ranks. -/
def ranked (primary : Part) : List (List Octets × (Octets → Octets → Octets → Task Octets)) → Part
  | [], args => primary args
  | (ops, apply) :: tighter, args => do
    let (first, rest) ← ranked primary tighter args
    chain ops (ranked primary tighter) apply rest.length first rest

/-- What is not joined to anything. -/
def primary : Nat → Part
  | 0, args => return ("", args)
  | fuel + 1, args => do
    let operand := fun (after : Octets) (args : List Octets) =>
      if args.isEmpty then missing after else primary fuel args
    match args with
    | [] => fail 2 "syntax error"
    | "(" :: rest =>
      if rest.isEmpty then missing "("
      let (value, rest) ← ranked (primary fuel) ranks rest
      match rest with
      | ")" :: rest => return (value, rest)
      | [] => fail 2 ("syntax error: expecting ')' after " ++ quoted value)
      | other :: _ => fail 2 ("syntax error: expecting ')' instead of " ++ quoted other)
    | ")" :: _ => fail 2 "syntax error: unexpected ')'"
    | ["+"] => missing "+"
    | "+" :: text :: rest => return (text, rest)
    | "length" :: rest =>
      let (a, rest) ← operand "length" rest
      return (toString a.length, rest)
    | "match" :: rest =>
      let (a, rest) ← operand "match" rest
      let (b, rest) ← operand "match" rest
      return (← matched a b, rest)
    | "index" :: rest =>
      let (a, rest) ← operand "index" rest
      let (b, rest) ← operand "index" rest
      return (index a b, rest)
    | "substr" :: rest =>
      let (a, rest) ← operand "substr" rest
      let (b, rest) ← operand "substr" rest
      let (c, rest) ← operand "substr" rest
      return (substr a b c, rest)
    | text :: rest => return (text, rest)

end Calculation

/-- Evaluates the arguments. -/
def expr : Task Nat := do
  let arguments := (← get).arguments
  let arguments := if arguments.head? = some "--" then arguments.drop 1 else arguments
  needed 2 arguments
  let (value, rest) ←
    Calculation.ranked (Calculation.primary (arguments.length + 1)) Calculation.ranks arguments
  match rest with
  | [] =>
    say (value ++ "\n")
    return if Calculation.isNull value then 1 else 0
  | other :: _ => fail 2 ("syntax error: unexpected argument " ++ quoted other)

end ScriptHost.Utility
