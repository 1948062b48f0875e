/-!
# Rounding quotients

Nearest integers of quotients of natural numbers, and the size of a quotient in powers of
two. A quotient is given by numerator and denominator; the denominator is positive
wherever these functions are used.
-/

namespace ScriptHost.Number

/-- The integer nearest to `num / den`; a half goes to the even neighbour. -/
def roundHalfEven (num den : Nat) : Nat :=
  let q := num / den
  let twiceRest := 2 * (num % den)
  if twiceRest < den then q
  else if den < twiceRest then q + 1
  else if q % 2 = 0 then q else q + 1

/-- `a / b` lies in `[2 ^ e, 2 ^ (e + 1))` for `e = floorLog2 a b`, when both are
positive. -/
def floorLog2 (num den : Nat) : Int :=
  let guess : Int := (Nat.log2 num : Int) - (Nat.log2 den : Int)
  -- `num / den` is at least `2 ^ guess` or only at least half of that
  if 0 ≤ guess then
    if den * Nat.pow 2 guess.toNat ≤ num then guess else guess - 1
  else
    if den ≤ num * Nat.pow 2 (-guess).toNat then guess else guess - 1

end ScriptHost.Number
