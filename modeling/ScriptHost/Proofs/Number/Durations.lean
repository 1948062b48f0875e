import ScriptHost.Duration
import ScriptHost.Proofs.Number.Nearest

/-!
# Durations from seconds and in seconds

A number of seconds becomes a duration by one rounding, to nanoseconds, and a duration becomes the
binary32 seconds of a module by four. The first rounding can lose a positive number: everything up
to half a nanosecond becomes the empty duration (`Duration.totalNanos_pos_iff`). The others lose no
duration but the empty one (`Duration.toSingle_pos_iff`).

## Main definitions

* `Double.toRat`, `Single.toRat` — the value of a finite number.
-/

namespace ScriptHost

namespace Number

/-- The value of a finite number, and zero for the others. -/
def Double.toRat : Double → ℚ
  | .finite negative pattern =>
    if negative then -Format.binary64.toRat pattern else Format.binary64.toRat pattern
  | _ => 0

namespace Single

variable {x y : Single} {num den n : Nat}

/-- The value of a finite number. -/
def toRat (x : Single) : ℚ := Format.binary32.toRat x.pattern

theorem quotient_eq (x : Single) : (x.quotient.1 / x.quotient.2 : ℚ) = x.toRat :=
  Format.quotient_eq

theorem quotient_den_pos (x : Single) : 0 < x.quotient.2 :=
  Format.quotient_den_pos

theorem toRat_nonneg (x : Single) : 0 ≤ x.toRat :=
  Format.toRat_zero.symm.trans_le ((Format.toRat_strictMono _).monotone (Nat.zero_le _))

/-- The smallest positive number bounds every positive number from below. -/
theorem le_toRat (h : 0 < x.pattern) : (2 : ℚ) ^ (-149 : Int) ≤ x.toRat :=
  Format.toRat_one.symm.trans_le ((Format.toRat_strictMono Format.binary32).monotone h)

/-- What is larger than half of the smallest positive number is not rounded to zero. -/
theorem nearest_pos (hden : 0 < den) (h : (2 : ℚ) ^ (-149 : Int) / 2 < num / den) :
    0 < (nearest num den).pattern :=
  (Format.nearest_pos_iff (by decide) hden).mpr h

/-- The quotient that is rounded to a sum. -/
theorem sum_eq : (((x.quotient.1 * y.quotient.2 + y.quotient.1 * x.quotient.2 : Nat) : ℚ)
    / (x.quotient.2 * y.quotient.2 : Nat)) = x.toRat + y.toRat := by
  have hx := x.quotient_den_pos
  have hy := y.quotient_den_pos
  rw [← quotient_eq, ← quotient_eq]
  push_cast
  field_simp

/-- The quotient that is rounded to a ratio. -/
theorem ratio_eq : (((x.quotient.1 * y.quotient.2 : Nat) : ℚ) / (x.quotient.2 * y.quotient.1 : Nat))
    = x.toRat / y.toRat := by
  rw [← quotient_eq, ← quotient_eq, div_div_div_eq]
  push_cast
  rfl

theorem quotient_num_pos (hy : 0 < y.toRat) : 0 < y.quotient.1 := by
  refine Nat.pos_of_ne_zero fun h0 => hy.ne' ?_
  rw [← quotient_eq, h0, Nat.cast_zero, zero_div]

/-- A sum is rounded once. -/
theorem add_pos (h : 0 < x.pattern ∨ 0 < y.pattern) : 0 < (x.add y).pattern := by
  refine nearest_pos (Nat.mul_pos x.quotient_den_pos y.quotient_den_pos) ?_
  rw [sum_eq]
  refine (half_lt_self (by positivity)).trans_le ?_
  rcases h with h | h
  · exact (le_toRat h).trans (le_add_of_nonneg_right y.toRat_nonneg)
  · exact (le_toRat h).trans (le_add_of_nonneg_left x.toRat_nonneg)

/-- A quotient is rounded once. -/
theorem div_pos (hy : 0 < y.toRat) (h : (2 : ℚ) ^ (-149 : Int) / 2 < x.toRat / y.toRat) :
    0 < (x.div y).pattern :=
  nearest_pos (Nat.mul_pos x.quotient_den_pos (quotient_num_pos hy)) (ratio_eq.symm ▸ h)

/-- One is a binary32 number. -/
theorem toRat_ofNat_one : (ofNat 1).toRat = 1 := by
  have hvalue : Format.binary32.value (ofNat 1).pattern = (8388608, -23) := by decide
  rw [toRat, Format.toRat, hvalue]
  norm_num

/-- A natural number other than zero is at least one, also when it is rounded. -/
theorem one_le_toRat_ofNat (hn : 0 < n) : 1 ≤ (ofNat n).toRat := by
  have hle : Format.binary32.nearest 1 1 ≤ Format.binary32.nearest n 1 :=
    Format.nearest_mono _ one_pos one_pos (by gcongr; exact hn)
  exact toRat_ofNat_one.symm.trans_le ((Format.toRat_strictMono _).monotone hle)

theorem ofNat_pos (hn : 0 < n) : 0 < (ofNat n).pattern := by
  refine nearest_pos one_pos ?_
  calc (2 : ℚ) ^ (-149 : Int) / 2 < 1 := by norm_num
    _ ≤ n / (1 : Nat) := by simpa using Nat.one_le_iff_ne_zero.mpr hn.ne'

/-- The nanoseconds in a second are a binary32 number. -/
theorem toRat_ofNat_nanosPerSec : (ofNat Duration.nanosPerSec).toRat = 1000000000 := by
  have hvalue : Format.binary32.value (ofNat Duration.nanosPerSec).pattern = (15625000, 6) := by
    decide
  rw [toRat, Format.toRat, hvalue]
  norm_num

end Single

end Number

open Number

namespace Duration

variable {x : Double} {d : Duration}

theorem totalNanos_of_ofNanos? {n : Nat} (h : ofNanos? n = some d) : d.totalNanos = n := by
  rw [ofNanos?] at h
  split at h
  · rename_i hn
    obtain rfl := Option.some.inj h
    have hsecs : n / nanosPerSec < UInt64.size := Nat.div_lt_of_lt_mul (by rwa [mul_comm])
    rw [totalNanos]
    dsimp only
    rw [Nat.toUInt64_eq, UInt64.toNat_ofNat_of_lt' hsecs, mul_comm, Nat.div_add_mod]
  · cases h

/-- The nanoseconds of a number of seconds, which is not negative. -/
theorem totalNanos_of_ofSeconds? (h : ofSeconds? x = some d) :
    ∃ p, x.toRat = Format.binary64.toRat p ∧ d.totalNanos
      = roundHalfEven ((Format.binary64.quotient p).1 * nanosPerSec)
          (Format.binary64.quotient p).2 := by
  match x with
  | .nan | .infinite _ => cases h
  | .finite negative p =>
    rw [ofSeconds?] at h
    split at h
    · cases h
    · rename_i hsign
      refine ⟨p, ?_, totalNanos_of_ofNanos? h⟩
      rw [Double.toRat]
      split
      · rename_i hnegative
        have hp : p = 0 := by simpa [hnegative] using hsign
        rw [hp, Format.toRat_zero, neg_zero]
      · rfl

/-- The nanoseconds in a number of seconds, before they are rounded. -/
theorem quotient_mul_nanosPerSec (p : Nat) :
    (((Format.binary64.quotient p).1 * nanosPerSec : Nat) : ℚ) / (Format.binary64.quotient p).2
      = Format.binary64.toRat p * 1000000000 := by
  rw [← Format.quotient_eq, nanosPerSec]
  push_cast
  ring

/-- **A number of seconds is rounded to nanoseconds**, by half of one at most. -/
theorem abs_totalNanos_sub_le (h : ofSeconds? x = some d) :
    |(d.totalNanos : ℚ) - x.toRat * 1000000000| ≤ 1 / 2 := by
  obtain ⟨p, hx, hd⟩ := totalNanos_of_ofSeconds? h
  rw [hd, hx, ← quotient_mul_nanosPerSec]
  exact abs_roundHalfEven_sub_le Format.quotient_den_pos

/-- A number of seconds that is greater than zero and a duration has a value greater than zero. -/
theorem toRat_pos_of_isPositive (hx : x.isPositive = true) (h : ofSeconds? x = some d) :
    0 < x.toRat := by
  match x with
  | .nan | .infinite _ => cases h
  | .finite negative p =>
    obtain ⟨hsign, hp⟩ := Bool.and_eq_true_iff.mp hx
    rw [Double.toRat, if_neg (by simpa using hsign), ← Format.toRat_zero]
    exact Format.toRat_strictMono _ (by simpa using hp)

/-- **A number of seconds is no duration but the empty one up to half a nanosecond**, and a longer
one beyond. -/
theorem totalNanos_pos_iff (h : ofSeconds? x = some d) :
    0 < d.totalNanos ↔ 1 / 2000000000 < x.toRat := by
  obtain ⟨p, hx, hd⟩ := totalNanos_of_ofSeconds? h
  rw [hd, roundHalfEven_pos_iff Format.quotient_den_pos, quotient_mul_nanosPerSec, hx]
  constructor <;> intro h <;> linarith

/-- **The seconds that a module receives are zero for no duration but the empty one.** -/
theorem toSingle_pos_iff : 0 < d.toSingle.pattern ↔ 0 < d.totalNanos := by
  constructor
  · intro h
    refine Nat.pos_of_ne_zero fun hzero => ?_
    rw [totalNanos, Nat.add_eq_zero_iff, Nat.mul_eq_zero] at hzero
    obtain ⟨hsecs, hnanos⟩ := hzero
    rw [toSingle, hsecs.resolve_right (by decide), hnanos] at h
    revert h
    decide
  · intro h
    refine Single.add_pos ?_
    by_cases hsecs : d.secs.toNat = 0
    · -- A nanosecond is a billionth of a second, far above the smallest positive number.
      have hnanos : 0 < d.nanos := by
        rw [totalNanos, hsecs, zero_mul, zero_add] at h
        exact h
      refine .inr (Single.div_pos ?_ ?_)
      · rw [Single.toRat_ofNat_nanosPerSec]
        norm_num
      · rw [Single.toRat_ofNat_nanosPerSec]
        have hone := Single.one_le_toRat_ofNat hnanos
        calc (2 : ℚ) ^ (-149 : Int) / 2 < 1 / 1000000000 := by norm_num
          _ ≤ (Single.ofNat d.nanos).toRat / 1000000000 := by gcongr
    · exact .inl (Single.ofNat_pos (Nat.pos_of_ne_zero hsecs))

end Duration

end ScriptHost
