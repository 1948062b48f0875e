import ScriptHost.Number.Rounding

/-!
# Binary floating-point numbers

Non-negative numbers of a binary interchange format are represented by their bit pattern
below the sign, read as a natural number. Larger patterns stand for larger values, and the
pattern after the largest finite one stands for infinity, so rounding is one formula
without cases for subnormals or carries.

## Main definitions

* `Format.nearest` — the pattern of the value nearest to a quotient, ties to even.
* `Format.value` — the exact value of a pattern as a significand and a power of two.
* `Double` — a binary64 number with sign, infinities and a single NaN.
* `Single` — a non-negative binary32 number.
-/

namespace ScriptHost.Number

/-- A binary format: `precision` significand bits, and `2 ^ minExponent` the smallest
positive value. -/
structure Format where
  precision : Nat
  minExponent : Int
  /-- The pattern of infinity. -/
  infinity : Nat
  deriving DecidableEq, Repr

namespace Format

/-- The 64-bit format. -/
def binary64 : Format := ⟨53, -1074, 0x7FF0000000000000⟩

/-- The 32-bit format. -/
def binary32 : Format := ⟨24, -149, 0x7F800000⟩

/-- `num / den` in units of `2 ^ e`, as a quotient. -/
def scaled (num den : Nat) (e : Int) : Nat × Nat :=
  if 0 ≤ e then (num, den * Nat.pow 2 e.toNat) else (num * Nat.pow 2 (-e).toNat, den)

/-- The exponent of the last significand place of values near `num / den`. -/
def lastPlace (f : Format) (num den : Nat) : Int :=
  max f.minExponent (floorLog2 num den - (f.precision - 1 : Nat))

/-- The pattern of the value nearest to `num / den`, a tie going to the even pattern.
Values too large for a finite pattern become infinity.

With last place `e` and significand `m` the pattern is `(e - minExponent) * 2 ^ (precision
- 1) + m`. A significand that rounds up to `2 ^ precision` gives the pattern of the next
binade's first value, as it should. -/
def nearest (f : Format) (num den : Nat) : Nat :=
  if num = 0 then 0
  else
    let e := f.lastPlace num den
    let q := scaled num den e
    min f.infinity
      ((e - f.minExponent).toNat * Nat.pow 2 (f.precision - 1) + roundHalfEven q.1 q.2)

/-- The exact value of a finite pattern: a significand and the exponent of its last
place. -/
def value (f : Format) (pattern : Nat) : Nat × Int :=
  let unit := Nat.pow 2 (f.precision - 1)
  if pattern < unit then (pattern, f.minExponent)
  else (unit + pattern % unit, f.minExponent + (pattern / unit - 1 : Nat))

/-- The value of a finite pattern as a quotient. -/
def quotient (f : Format) (pattern : Nat) : Nat × Nat :=
  let v := f.value pattern
  if 0 ≤ v.2 then (v.1 * Nat.pow 2 v.2.toNat, 1) else (v.1, Nat.pow 2 (-v.2).toNat)

end Format

/-! ### The 64-bit numbers of settings and arguments -/

/-- A binary64 number. All NaNs are one. -/
inductive Double where
  | nan
  | infinite (negative : Bool)
  /-- A finite number, with its pattern below the sign. -/
  | finite (negative : Bool) (pattern : Nat)
  deriving DecidableEq, Repr

namespace Double

/-- The number nearest to `± num / den`, infinite if that is too large. -/
def nearest (negative : Bool) (num den : Nat) : Double :=
  let pattern := Format.binary64.nearest num den
  if pattern < Format.binary64.infinity then .finite negative pattern else .infinite negative

/-- The number nearest to an integer. -/
def ofInt (n : Int) : Double :=
  nearest (n < 0) n.natAbs 1

/-- Greater than zero, infinity included. -/
def isPositive : Double → Bool
  | .nan => false
  | .infinite negative => !negative
  | .finite negative pattern => !negative && 0 < pattern

end Double

/-! ### The 32-bit numbers handed to a module -/

/-- A non-negative binary32 number, infinity included, by its bit pattern. -/
structure Single where
  pattern : Nat
  deriving DecidableEq, Repr

namespace Single

/-- The number nearest to a quotient. -/
def nearest (num den : Nat) : Single :=
  ⟨Format.binary32.nearest num den⟩

/-- The number nearest to a natural number. -/
def ofNat (n : Nat) : Single :=
  nearest n 1

/-- The value of a finite number as a quotient. -/
def quotient (x : Single) : Nat × Nat :=
  Format.binary32.quotient x.pattern

/-- The number nearest to the sum of two finite numbers. -/
def add (x y : Single) : Single :=
  let a := x.quotient
  let b := y.quotient
  nearest (a.1 * b.2 + b.1 * a.2) (a.2 * b.2)

/-- The number nearest to the quotient of two finite numbers, the second one positive. -/
def div (x y : Single) : Single :=
  let a := x.quotient
  let b := y.quotient
  nearest (a.1 * b.2) (a.2 * b.1)

end Single

end ScriptHost.Number
