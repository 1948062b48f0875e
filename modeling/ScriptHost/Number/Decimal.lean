import ScriptHost.Number.Binary

/-!
# Decimal numerals

The grammar of floating-point numerals and the binary64 number each one denotes.

```text
numeral   ::= [sign] ( "inf" | "infinity" | "nan" | unsigned )      words in any case
unsigned  ::= ( digits [ "." [digits] ] | "." digits ) [ exponent ]
exponent  ::= ( "e" | "E" ) [sign] digits
sign      ::= "+" | "-"
```

A numeral denotes the number nearest to its exact decimal value, ties to even. Of an exponent
only so many digits count as it takes to reach `65536`.

## Main definitions

* `Numeral.parse?` — reads a whole text as a numeral.
* `Numeral.toDouble` — the number a numeral denotes.
-/

namespace ScriptHost.Number

/-- A numeral, read but not yet rounded: the finite ones are `± digits * 10 ^ exponent`. -/
inductive Numeral where
  | nan
  | infinite (negative : Bool)
  | decimal (negative : Bool) (digits : Nat) (exponent : Int)
  deriving DecidableEq, Repr

namespace Numeral

/-- An ASCII digit. -/
def isDigit (c : Char) : Bool :=
  '0' ≤ c && c ≤ '9'

/-- The digits at the start of a text, and what follows them. -/
def spanDigits (cs : List Char) : List Char × List Char :=
  cs.span isDigit

/-- The number that digits spell. -/
def ofDigits (ds : List Char) : Nat :=
  ds.foldl (fun n d => 10 * n + (d.toNat - '0'.toNat)) 0

/-- An optional sign, and what follows it. The answer is `true` for a minus sign. -/
def sign : List Char → Bool × List Char
  | '-' :: cs => (true, cs)
  | '+' :: cs => (false, cs)
  | cs => (false, cs)

/-- Exponents are read until they reach this magnitude, which is far beyond every number. -/
def exponentLimit : Nat := 65536

/-- The magnitude of an exponent. Digits that follow after it has reached the limit do not
count. -/
def exponentOfDigits (ds : List Char) : Nat :=
  ds.foldl (fun n d => if n < exponentLimit then 10 * n + (d.toNat - '0'.toNat) else n) 0

/-- An optional exponent that ends the text. -/
def exponent? : List Char → Option Int
  | [] => some 0
  | c :: cs =>
    if c = 'e' || c = 'E' then
      match sign cs with
      | (negative, cs) =>
        match spanDigits cs with
        | (ds, []) =>
          if ds.isEmpty then none
          else some (if negative then -(exponentOfDigits ds : Int) else exponentOfDigits ds)
        | _ => none
    else none

/-- Digits with an optional point and exponent, to the end of the text. -/
def unsigned? (negative : Bool) (cs : List Char) : Option Numeral :=
  let (whole, rest) := spanDigits cs
  let (fraction, rest) := match rest with
    | '.' :: r => spanDigits r
    | r => ([], r)
  if whole.isEmpty && fraction.isEmpty then none
  else
    (exponent? rest).map fun e =>
      .decimal negative (ofDigits (whole ++ fraction)) (e - fraction.length)

/-- The words for the numerals without digits. -/
def word? (negative : Bool) (cs : List Char) : Option Numeral :=
  match String.ofList (cs.map Char.toLower) with
  | "inf" | "infinity" => some (.infinite negative)
  | "nan" => some .nan
  | _ => none

/-- Reads a whole text as a numeral. -/
def parse? (s : String) : Option Numeral :=
  let (negative, cs) := sign s.toList
  (unsigned? negative cs).or (word? negative cs)

/-- The number of decimal digits of a positive number. -/
def digitCount (n : Nat) : Nat :=
  (Nat.toDigits 10 n).length

/-- Numerals of at least `10 ^ 400` or at most `10 ^ -400` lie beyond every finite binary64
number, so that their powers of ten need not be computed. -/
def farExponent : Int := 400

/-- The number a numeral denotes. -/
def toDouble : Numeral → Double
  | .nan => .nan
  | .infinite negative => .infinite negative
  | .decimal negative digits exponent =>
    let magnitude := digitCount digits + exponent
    if digits = 0 || magnitude < -farExponent then .finite negative 0
    else if farExponent < magnitude then .infinite negative
    else if 0 ≤ exponent then Double.nearest negative (digits * Nat.pow 10 exponent.toNat) 1
    else Double.nearest negative digits (Nat.pow 10 (-exponent).toNat)

end Numeral

end ScriptHost.Number
