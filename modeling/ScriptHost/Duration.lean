import ScriptHost.Number.Binary

/-!
# Durations

Lengths of time in whole seconds and nanoseconds, their conversion from seconds in
binary64, and the binary32 seconds a module receives.

## Main definitions

* `Duration.ofSeconds?` — exact seconds to nanoseconds, half to even, if in range.
* `Duration.toSingle` — binary32 seconds; every step of the computation is rounded.
-/

namespace ScriptHost

open Number

/-- A length of time. -/
structure Duration where
  secs : UInt64
  nanos : Nat
  nanos_lt : nanos < 1000000000 := by decide
  deriving DecidableEq, Repr

namespace Duration

/-- Nanoseconds in a second. -/
def nanosPerSec : Nat := 1000000000

/-- The longest duration. -/
def max : Duration := ⟨18446744073709551615, 999999999, by decide⟩

/-- A whole number of seconds. -/
def ofSecs (secs : UInt64) : Duration := ⟨secs, 0, by decide⟩

/-- All of a duration in nanoseconds. -/
def totalNanos (d : Duration) : Nat :=
  d.secs.toNat * nanosPerSec + d.nanos

/-- The duration of `n` nanoseconds, if its seconds fit in 64 bits. -/
def ofNanos? (n : Nat) : Option Duration :=
  if n < UInt64.size * nanosPerSec then
    some ⟨(n / nanosPerSec).toUInt64, n % nanosPerSec, Nat.mod_lt _ (by decide)⟩
  else none

/-- The order of durations as lengths of time. -/
instance : LE Duration := ⟨fun d e => d.totalNanos ≤ e.totalNanos⟩

instance : LT Duration := ⟨fun d e => d.totalNanos < e.totalNanos⟩

/-- The duration of a number of seconds, rounded to nanoseconds with halves to even.
`none` for numbers below zero, NaN, infinity, and everything from `2 ^ 64` seconds on. A
zero of either sign is the empty duration. -/
def ofSeconds? : Double → Option Duration
  | .nan => none
  | .infinite _ => none
  | .finite negative pattern =>
    if negative && 0 < pattern then none
    else
      let q := Format.binary64.quotient pattern
      ofNanos? (roundHalfEven (q.1 * nanosPerSec) q.2)

/-- The duration in binary32 seconds: the whole seconds plus the nanoseconds divided by a
billion, where both conversions, the division and the sum are rounded. -/
def toSingle (d : Duration) : Single :=
  (Single.ofNat d.secs.toNat).add ((Single.ofNat d.nanos).div (Single.ofNat nanosPerSec))

end Duration

end ScriptHost
