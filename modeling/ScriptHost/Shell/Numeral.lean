/-!
# Numerals

Numerals as programs of the system read them: blanks, a sign, digits, and whatever follows.
Where the base is left open, `0x` in front means sixteen and `0` means eight.

## Main definitions

* `Numeral.read` — the number a text begins with, and the rest of the text.
* `Numeral.whole?` — the number that a text is.
* `Numeral.clamp` — the nearest number that a word of the machine holds.
-/

namespace ScriptHost.Shell.Numeral

/-- A blank in front of a numeral or after it. -/
def isBlank (c : Char) : Bool :=
  c = ' ' || (9 ≤ c.toNat && c.toNat ≤ 13)

/-- The value of a digit in a base. -/
def digit? (base : Nat) (c : Char) : Option Nat :=
  let v :=
    if c.isDigit then c.toNat - '0'.toNat
    else if c.isLower then c.toNat - 'a'.toNat + 10
    else if c.isUpper then c.toNat - 'A'.toNat + 10
    else base
  if v < base then some v else none

/-- Digits in a base, and the rest. -/
def digits (base : Nat) (cs : List Char) : List Nat × List Char :=
  ((cs.takeWhile fun c => (digit? base c).isSome).filterMap (digit? base),
    cs.dropWhile fun c => (digit? base c).isSome)

/-- The value of digits. -/
def value (base : Nat) (ds : List Nat) : Nat :=
  ds.foldl (fun n d => base * n + d) 0

/-- A number without a sign, and the rest; none if there are no digits. Base zero means that the
numeral tells its base. -/
def readUnsigned (base : Nat) (cs : List Char) : Option (Nat × List Char) :=
  let hexadecimal := match cs with
    | '0' :: x :: c :: _ => (x = 'x' || x = 'X') && (digit? 16 c).isSome
    | _ => false
  let (base, cs) :=
    if base = 16 && hexadecimal then (16, cs.drop 2)
    else if base ≠ 0 then (base, cs)
    else if hexadecimal then (16, cs.drop 2)
    else if cs.head? = some '0' then (8, cs)
    else (10, cs)
  match digits base cs with
  | ([], _) => none
  | (ds, rest) => some (value base ds, rest)

/-- The number that characters begin with, and the rest; none if there are no digits. -/
def read (base : Nat) (cs : List Char) : Option (Int × List Char) :=
  match cs.dropWhile isBlank with
  | '-' :: cs => (readUnsigned base cs).map fun r => (-(r.1 : Int), r.2)
  | '+' :: cs => (readUnsigned base cs).map fun r => ((r.1 : Int), r.2)
  | cs => (readUnsigned base cs).map fun r => ((r.1 : Int), r.2)

/-- The smallest and the largest number that a word of the machine holds. -/
def bounds : Int × Int := (Int64.minValue.toInt, Int64.maxValue.toInt)

/-- A word of the machine holds a number. -/
def fits (n : Int) : Bool :=
  bounds.1 ≤ n && n ≤ bounds.2

/-- The nearest number that a word of the machine holds. -/
def clamp (n : Int) : Int :=
  max bounds.1 (min bounds.2 n)

/-- The number that a text is, with blanks around it. In a base that is left open a text without
any digits counts as zero. -/
def whole? (base : Nat) (s : String) : Option Int :=
  match read base s.toList with
  | some (n, rest) => if (rest.dropWhile isBlank).isEmpty && fits n then some n else none
  | none => if base = 0 && (s.toList.dropWhile isBlank).isEmpty then some 0 else none

end ScriptHost.Shell.Numeral
