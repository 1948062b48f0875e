import ScriptHost.Number.Binary
import ScriptHost.Proofs.Number.Rounding

/-!
# Nearest patterns

The value of a pattern as a rational number, and the order of the two directions between patterns
and values. A larger pattern stands for a larger value (`Format.toRat_strictMono`), and a larger
value has no smaller pattern nearest to it (`Format.nearest_mono`). Only values up to half of the
smallest positive one have zero nearest to them (`Format.nearest_pos_iff`).

All of this holds of every format.

## Main definitions

* `Format.toRat` — the value of a finite pattern.
* `Format.steps`, `Format.significand` — the two parts of the pattern nearest to a quotient.
-/

namespace ScriptHost.Number

namespace Format

variable {f : Format} {num den num' den' p : Nat}

/-! ### Values -/

/-- The value of a finite pattern. -/
def toRat (f : Format) (p : Nat) : ℚ :=
  (f.value p).1 * 2 ^ (f.value p).2

/-- The patterns of one exponent, which is also the smallest significand of a normal number. -/
def unit (f : Format) : Nat := 2 ^ (f.precision - 1)

/-- A binade has patterns. -/
theorem unit_pos : 0 < f.unit := Nat.two_pow_pos _

/-- Patterns below the first binade are spaced like it. -/
theorem value_of_lt (h : p < f.unit) : f.value p = (p, f.minExponent) := by
  rw [value, Nat.pow_eq, ← unit, if_pos h]

/-- A pattern in a binade is the unit and its place in it, by the last place of the binade. -/
theorem value_of_le (h : f.unit ≤ p) :
    f.value p = (f.unit + p % f.unit, f.minExponent + (p / f.unit - 1 : Nat)) := by
  rw [value, Nat.pow_eq, ← unit, if_neg (Nat.not_lt.mpr h)]

/-- What a pattern in two parts stands for, also if the significand has just grown out of its
places. -/
theorem toRat_parts {k m : Nat} (hm : m ≤ 2 * f.unit) (hk : k = 0 ∨ f.unit ≤ m) :
    f.toRat (k * f.unit + m) = m * 2 ^ (f.minExponent + k) := by
  have hunit := unit_pos (f := f)
  by_cases hlow : k * f.unit + m < f.unit
  · obtain rfl : k = 0 := hk.resolve_right (by omega)
    rw [zero_mul, zero_add] at hlow ⊢
    rw [toRat, value_of_lt hlow, Nat.cast_zero, add_zero]
  · have hle : f.unit ≤ m := by
      rcases hk with rfl | hle
      · omega
      · exact hle
    obtain ⟨r, rfl⟩ := Nat.exists_eq_add_of_le hle
    have hp : k * f.unit + (f.unit + r) = r + (k + 1) * f.unit := by ring
    rw [toRat, value_of_le (Nat.not_lt.mp hlow), hp, Nat.add_mul_mod_self_right,
      Nat.add_mul_div_right _ _ hunit]
    rcases Nat.lt_or_eq_of_le (by omega : r ≤ f.unit) with hr | rfl
    · rw [Nat.mod_eq_of_lt hr, Nat.div_eq_of_lt hr]
      simp
    · -- Twice the unit is read as the unit with the next exponent.
      rw [Nat.mod_self, Nat.div_self hunit, ← two_mul, add_zero, Nat.add_sub_cancel_left]
      push_cast
      rw [← add_assoc, zpow_add_one₀ two_ne_zero]
      ring

/-- Every pattern has two such parts. -/
theorem exists_parts (f : Format) (p : Nat) :
    ∃ k m, p = k * f.unit + m ∧ m < 2 * f.unit ∧ (k = 0 ∨ f.unit ≤ m) := by
  have hunit := unit_pos (f := f)
  by_cases hp : p < f.unit
  · exact ⟨0, p, by simp, by omega, .inl rfl⟩
  · have hmod := Nat.mod_lt p hunit
    have hdiv : 0 < p / f.unit := Nat.div_pos (Nat.not_lt.mp hp) hunit
    refine ⟨p / f.unit - 1, f.unit + p % f.unit, ?_, by omega, .inr (by omega)⟩
    rw [← add_assoc, ← Nat.succ_mul, Nat.succ_eq_add_one, Nat.sub_add_cancel hdiv, mul_comm,
      Nat.div_add_mod]

/-- Larger patterns stand for larger values. -/
theorem toRat_strictMono (f : Format) : StrictMono f.toRat := by
  refine strictMono_nat_of_lt_succ fun p => ?_
  obtain ⟨k, m, rfl, hm, hk⟩ := f.exists_parts p
  rw [add_assoc, toRat_parts hm.le hk, toRat_parts (by omega) (hk.imp_right (by omega))]
  gcongr
  exact Nat.lt_succ_self m

/-- Zero stands for zero. -/
@[simp] theorem toRat_zero : f.toRat 0 = 0 := by
  rw [toRat, value_of_lt unit_pos]
  simp

/-- The smallest positive value. -/
theorem toRat_one : f.toRat 1 = 2 ^ f.minExponent := by
  have hone : 1 ≤ 2 * f.unit := by have := unit_pos (f := f); omega
  simpa using toRat_parts hone (.inl rfl)

/-! ### Quotients -/

/-- The denominator of a pattern's value is positive. -/
theorem quotient_den_pos : 0 < (f.quotient p).2 := by
  rw [quotient]
  split
  · exact one_pos
  · exact Nat.two_pow_pos _

/-- The value of a finite pattern as a quotient. -/
theorem quotient_eq : ((f.quotient p).1 / (f.quotient p).2 : ℚ) = f.toRat p := by
  rw [quotient, toRat]
  generalize (f.value p).2 = e
  split
  · rename_i he
    lift e to Nat using he
    simp
  · rename_i he
    obtain ⟨e, rfl⟩ := Int.exists_eq_neg_ofNat (Int.le_of_not_le he)
    simp [div_eq_mul_inv]

/-- Scaling keeps a denominator positive. -/
theorem scaled_den_pos {e : Int} (hden : 0 < den) : 0 < (scaled num den e).2 := by
  rw [scaled]
  split
  · exact Nat.mul_pos hden (Nat.two_pow_pos _)
  · exact hden

/-- A quotient in units of a power of two. -/
theorem scaled_eq {e : Int} :
    ((scaled num den e).1 / (scaled num den e).2 : ℚ) = num / den / 2 ^ e := by
  rw [scaled]
  split
  · rename_i he
    lift e to Nat using he
    simp [div_div]
  · rename_i he
    obtain ⟨e, rfl⟩ := Int.exists_eq_neg_ofNat (Int.le_of_not_le he)
    simp [mul_div_right_comm]

/-! ### The nearest pattern -/

/-- How many exponents the values near a quotient lie above the smallest one. -/
def steps (f : Format) (num den : Nat) : Nat := (f.lastPlace num den - f.minExponent).toNat

/-- The rounded significand of a quotient. -/
def significand (f : Format) (num den : Nat) : Nat :=
  roundHalfEven (scaled num den (f.lastPlace num den)).1 (scaled num den (f.lastPlace num den)).2

/-- The pattern nearest to a quotient, by its parts. -/
theorem nearest_eq (hnum : 0 < num) :
    f.nearest num den = min f.infinity (f.steps num den * f.unit + f.significand num den) := by
  rw [nearest, if_neg hnum.ne']
  rfl

/-- The pattern nearest to zero is that of zero. -/
theorem nearest_zero : f.nearest 0 den = 0 := by
  rw [nearest, if_pos rfl]

/-- The last place of the values near a quotient goes by its size. -/
theorem lastPlace_eq (hnum : 0 < num) (hden : 0 < den) :
    f.lastPlace num den
      = max f.minExponent (Int.log 2 (num / den : ℚ) - (f.precision - 1 : Nat)) := by
  rw [lastPlace, floorLog2_eq_log hnum hden]

/-- The steps lead from the least exponent to that of the last place. -/
theorem minExponent_add_steps (f : Format) (num den : Nat) :
    f.minExponent + f.steps num den = f.lastPlace num den := by
  have hle : f.minExponent ≤ f.lastPlace num den := le_max_left _ _
  rw [steps]
  omega

/-- The unit is a power of two, by the precision. -/
theorem unit_eq_zpow (f : Format) : (f.unit : ℚ) = 2 ^ ((f.precision - 1 : Nat) : Int) := by
  rw [unit, zpow_natCast]
  push_cast
  rfl

/-- A quotient is less than what a significand that has grown out of its places stands for. -/
theorem lt_two_mul_unit_mul (hnum : 0 < num) (hden : 0 < den) :
    (num / den : ℚ) < 2 * f.unit * 2 ^ f.lastPlace num den := by
  have hplace : Int.log 2 (num / den : ℚ) - (f.precision - 1 : Nat) ≤ f.lastPlace num den :=
    lastPlace_eq hnum hden ▸ le_max_right _ _
  rw [unit_eq_zpow, ← zpow_one_add₀ two_ne_zero, ← zpow_add₀ two_ne_zero]
  exact (lt_pow_log_add_one _).trans_le (zpow_le_zpow_right₀ one_le_two (by omega))

/-- Above the smallest exponent a quotient is at least what the smallest significand of a normal
number stands for. -/
theorem unit_mul_le (hnum : 0 < num) (hden : 0 < den) (hsteps : 0 < f.steps num den) :
    f.unit * 2 ^ f.lastPlace num den ≤ (num / den : ℚ) := by
  have hplace : f.lastPlace num den = Int.log 2 (num / den : ℚ) - (f.precision - 1 : Nat) := by
    have hmax := lastPlace_eq (f := f) hnum hden
    have hadd := f.minExponent_add_steps num den
    omega
  rw [unit_eq_zpow, hplace, ← zpow_add₀ two_ne_zero, add_sub_cancel]
  exact pow_log_le (by positivity)

/-- A significand fits in its places, or has just grown out of them. -/
theorem significand_le (hnum : 0 < num) (hden : 0 < den) :
    f.significand num den ≤ 2 * f.unit := by
  refine roundHalfEven_le (scaled_den_pos hden) ?_
  rw [scaled_eq, div_le_iff₀ (zpow_pos two_pos _)]
  push_cast
  exact (lt_two_mul_unit_mul hnum hden).le

/-- Above the smallest exponent a significand fills its places. -/
theorem unit_le_significand (hnum : 0 < num) (hden : 0 < den) (hsteps : 0 < f.steps num den) :
    f.unit ≤ f.significand num den := by
  refine le_roundHalfEven (scaled_den_pos hden) ?_
  rw [scaled_eq, le_div_iff₀ (zpow_pos two_pos _)]
  exact unit_mul_le hnum hden hsteps

/-- **A larger value has no smaller pattern nearest to it.** -/
theorem nearest_mono (f : Format) (hden : 0 < den) (hden' : 0 < den')
    (h : (num / den : ℚ) ≤ num' / den') : f.nearest num den ≤ f.nearest num' den' := by
  rcases Nat.eq_zero_or_pos num with rfl | hnum
  · rw [nearest_zero]
    exact Nat.zero_le _
  have hx : (0 : ℚ) < num / den := by positivity
  have hnum' : 0 < num' := by
    refine Nat.pos_of_ne_zero fun h0 => ?_
    rw [h0, Nat.cast_zero, zero_div] at h
    exact absurd hx (not_lt.mpr h)
  rw [nearest_eq hnum, nearest_eq hnum']
  refine min_le_min_left _ ?_
  have hlog : Int.log 2 (num / den : ℚ) ≤ Int.log 2 (num' / den' : ℚ) := Int.log_mono_right hx h
  have hplace : f.lastPlace num den ≤ f.lastPlace num' den' := by
    rw [lastPlace_eq hnum hden, lastPlace_eq hnum' hden']
    omega
  have hsum := f.minExponent_add_steps num den
  have hsum' := f.minExponent_add_steps num' den'
  rcases hplace.eq_or_lt with heq | hlt
  · -- With one last place the significands are in order.
    have hsteps : f.steps num den = f.steps num' den' := by omega
    rw [hsteps]
    refine Nat.add_le_add_left ?_ _
    refine roundHalfEven_mono (scaled_den_pos hden) (scaled_den_pos hden') ?_
    rw [scaled_eq, scaled_eq, heq]
    gcongr
  · -- Otherwise the larger one has an exponent more and a full significand.
    have hsteps : f.steps num den + 1 ≤ f.steps num' den' := by omega
    calc f.steps num den * f.unit + f.significand num den
        ≤ f.steps num den * f.unit + 2 * f.unit :=
          Nat.add_le_add_left (significand_le hnum hden) _
      _ = (f.steps num den + 1) * f.unit + f.unit := by ring
      _ ≤ f.steps num' den' * f.unit + f.significand num' den' :=
          Nat.add_le_add (Nat.mul_le_mul_right _ hsteps)
            (unit_le_significand hnum' hden' (by omega))

/-- **Zero is nearest** up to half of the smallest positive value, and no further. -/
theorem nearest_pos_iff (hinfinity : 0 < f.infinity) (hden : 0 < den) :
    0 < f.nearest num den ↔ (2 : ℚ) ^ f.minExponent / 2 < num / den := by
  rcases Nat.eq_zero_or_pos num with rfl | hnum
  · have hhalf : (0 : ℚ) < 2 ^ f.minExponent / 2 := by positivity
    simp [nearest_zero, hhalf.le]
  rw [nearest_eq hnum, lt_min_iff, and_iff_right hinfinity]
  have hsum := f.minExponent_add_steps num den
  rcases Nat.eq_zero_or_pos (f.steps num den) with hsteps | hsteps
  · have hplace : f.lastPlace num den = f.minExponent := by omega
    rw [hsteps, zero_mul, zero_add, significand, roundHalfEven_pos_iff (scaled_den_pos hden),
      scaled_eq, hplace, lt_div_iff₀ (zpow_pos two_pos _), one_div_mul_eq_div]
  · have hfull := unit_le_significand hnum hden hsteps
    have hunit := unit_pos (f := f)
    have hx : (0 : ℚ) < num / den := by positivity
    have hplace : f.minExponent ≤ Int.log 2 (num / den : ℚ) := by
      have hmax := lastPlace_eq (f := f) hnum hden
      omega
    refine iff_of_true (by omega) ?_
    calc (2 : ℚ) ^ f.minExponent / 2 < 2 ^ f.minExponent := half_lt_self (zpow_pos two_pos _)
      _ ≤ 2 ^ Int.log 2 (num / den : ℚ) := zpow_le_zpow_right₀ one_le_two hplace
      _ ≤ num / den := pow_log_le hx

end Format

end ScriptHost.Number
