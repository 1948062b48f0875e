import Mathlib.Algebra.Order.Field.Power
import Mathlib.Data.Int.Log
import Mathlib.Data.Rat.Floor
import Mathlib.Tactic.Linarith
import Mathlib.Tactic.Ring
import ScriptHost.Number.Rounding

/-!
# Rounded quotients

What the two functions on quotients compute. Rounding half to even is pinned down by the numbers
that lie below its answer (`lt_roundHalfEven_iff`), from which its order and its bounds follow; the
size of a quotient in powers of two is the integer logarithm (`floorLog2_eq_log`).
-/

namespace ScriptHost.Number

variable {num den num' den' k n : Nat}

/-! ### Half to even -/

/-- What lies below a rounded quotient: everything up to the half before it, and that half itself if
it was not rounded down to an even number. -/
theorem lt_roundHalfEven_iff_mul (hden : 0 < den) :
    k < roundHalfEven num den ↔
      (2 * k + 1) * den < 2 * num ∨ (2 * k + 1) * den = 2 * num ∧ k % 2 = 1 := by
  have hdiv := Nat.div_add_mod num den
  have hrest := Nat.mod_lt num hden
  rw [roundHalfEven]
  generalize num / den = q at *
  generalize num % den = r at *
  subst hdiv
  have hhalf : (2 * k + 1) * den = 2 * (den * k) + den := by ring
  rw [hhalf]
  -- Only the place of `k` below, at or above the whole part matters.
  rcases Nat.lt_trichotomy k q with hk | rfl | hk
  · have hle : den * (k + 1) ≤ den * q := Nat.mul_le_mul_left den hk
    rw [Nat.mul_succ] at hle
    grind
  · grind
  · have hle : den * (q + 1) ≤ den * k := Nat.mul_le_mul_left den hk
    rw [Nat.mul_succ] at hle
    grind

/-- The same, in terms of the quotient. -/
theorem lt_roundHalfEven_iff (hden : 0 < den) :
    k < roundHalfEven num den ↔
      (k + 1 / 2 : ℚ) < num / den ∨ (k + 1 / 2 : ℚ) = num / den ∧ k % 2 = 1 := by
  have hden' : (0 : ℚ) < den := by exact_mod_cast hden
  have hhalf : (k + 1 / 2 : ℚ) * den = ((2 * k + 1) * den : Nat) / 2 := by push_cast; ring
  have hnum : (num : ℚ) = (2 * num : Nat) / 2 := by push_cast; ring
  rw [lt_roundHalfEven_iff_mul hden, lt_div_iff₀ hden', eq_div_iff hden'.ne', hhalf, hnum,
    div_lt_div_iff_of_pos_right two_pos, div_left_inj' two_ne_zero]
  norm_cast

/-- A quotient is rounded to zero up to a half. -/
theorem roundHalfEven_pos_iff (hden : 0 < den) :
    0 < roundHalfEven num den ↔ (1 / 2 : ℚ) < num / den := by
  rw [lt_roundHalfEven_iff hden]
  simp

/-- A quotient is rounded by a half at most. -/
theorem abs_roundHalfEven_sub_le (hden : 0 < den) :
    |(roundHalfEven num den : ℚ) - num / den| ≤ 1 / 2 := by
  have hnonneg : (0 : ℚ) ≤ num / den := by positivity
  generalize hn : roundHalfEven num den = n
  have habove : (num / den : ℚ) ≤ n + 1 / 2 := by
    refine le_of_not_gt fun hlt => Nat.lt_irrefl n ?_
    exact ((lt_roundHalfEven_iff hden).mpr (.inl hlt)).trans_eq hn
  have hbelow : (n - 1 / 2 : ℚ) ≤ num / den := by
    cases n with
    | zero =>
        push_cast
        linarith
    | succ k =>
        have hk : k < roundHalfEven num den := by omega
        push_cast
        rcases (lt_roundHalfEven_iff hden).mp hk with hlt | ⟨heq, -⟩ <;> linarith
  rw [abs_le]
  constructor <;> linarith

/-- Rounding keeps the order. -/
theorem roundHalfEven_mono (hden : 0 < den) (hden' : 0 < den')
    (h : (num / den : ℚ) ≤ num' / den') : roundHalfEven num den ≤ roundHalfEven num' den' := by
  refine Nat.le_of_not_lt fun hlt => Nat.lt_irrefl (roundHalfEven num' den') ?_
  rw [lt_roundHalfEven_iff hden] at hlt
  rw [lt_roundHalfEven_iff hden']
  rcases hlt with hlt | ⟨heq, hodd⟩
  · exact .inl (hlt.trans_le h)
  · exact (heq.le.trans h).lt_or_eq.imp_right fun heq' => ⟨heq', hodd⟩

/-- A whole number is its own rounding. -/
@[simp] theorem roundHalfEven_one : roundHalfEven n 1 = n := by
  simp [roundHalfEven, Nat.mod_one]

/-- What is at most a whole number is rounded to no more than that. -/
theorem roundHalfEven_le (hden : 0 < den) (h : (num / den : ℚ) ≤ n) :
    roundHalfEven num den ≤ n :=
  (roundHalfEven_mono hden one_pos (by simpa using h)).trans_eq roundHalfEven_one

/-- What is at least a whole number is rounded to no less than that. -/
theorem le_roundHalfEven (hden : 0 < den) (h : (n : ℚ) ≤ num / den) :
    n ≤ roundHalfEven num den :=
  roundHalfEven_one.symm.trans_le (roundHalfEven_mono one_pos hden (by simpa using h))

/-! ### Size in powers of two -/

/-- A natural number lies between two powers of two that follow each other. -/
theorem log2_spec (hn : 0 < n) : (2 : ℚ) ^ n.log2 ≤ n ∧ (n : ℚ) < 2 ^ (n.log2 + 1) :=
  ⟨by exact_mod_cast Nat.log2_self_le hn.ne', by exact_mod_cast Nat.lt_log2_self⟩

/-- The comparison with a power of two that the size of a quotient is decided by. -/
theorem pow_le_quotient_iff (hden : 0 < den) (e : Int) :
    (if 0 ≤ e then den * Nat.pow 2 e.toNat ≤ num else den ≤ num * Nat.pow 2 (-e).toNat) ↔
      (2 : ℚ) ^ e ≤ num / den := by
  have hden' : (0 : ℚ) < den := by exact_mod_cast hden
  rw [le_div_iff₀ hden']
  split
  · rename_i he
    lift e to Nat using he
    rw [Int.toNat_natCast, Nat.pow_eq, zpow_natCast, mul_comm ((2 : ℚ) ^ e)]
    norm_cast
  · rename_i he
    obtain ⟨e, rfl⟩ := Int.exists_eq_neg_ofNat (Int.le_of_not_le he)
    rw [neg_neg, Int.toNat_natCast, Nat.pow_eq, zpow_neg, zpow_natCast,
      inv_mul_le_iff₀ (by positivity), mul_comm ((2 : ℚ) ^ e)]
    norm_cast

theorem pow_log_le {x : ℚ} (hx : 0 < x) : (2 : ℚ) ^ Int.log 2 x ≤ x := by
  exact_mod_cast Int.zpow_log_le_self one_lt_two hx

theorem lt_pow_log_add_one (x : ℚ) : x < (2 : ℚ) ^ (Int.log 2 x + 1) := by
  exact_mod_cast Int.lt_zpow_succ_log_self one_lt_two x

/-- A number between two powers of two that follow each other has the size of the lower one. -/
theorem log_eq_of_pow_le_of_lt {x : ℚ} {e : Int} (hlow : (2 : ℚ) ^ e ≤ x)
    (hhigh : x < (2 : ℚ) ^ (e + 1)) : Int.log 2 x = e := by
  have hx : 0 < x := (zpow_pos two_pos e).trans_le hlow
  have hle : e ≤ Int.log 2 x := (Int.zpow_le_iff_le_log one_lt_two hx).mp (by exact_mod_cast hlow)
  have hlt : Int.log 2 x < e + 1 :=
    (Int.lt_zpow_iff_log_lt one_lt_two hx).mp (by exact_mod_cast hhigh)
  omega

/-- A power of two times another one. -/
theorem zpow_mul_pow {e : Int} {m n : Nat} (h : e + m = n) : (2 : ℚ) ^ e * 2 ^ m = 2 ^ n := by
  rw [← zpow_natCast, ← zpow_natCast, ← zpow_add₀ two_ne_zero, h]

/-- The sizes of numerator and denominator give the size of a quotient up to one. -/
theorem quotient_bracket (hnum : 0 < num) (hden : 0 < den) :
    (2 : ℚ) ^ ((num.log2 : Int) - den.log2 - 1) ≤ num / den ∧
      (num / den : ℚ) < 2 ^ ((num.log2 : Int) - den.log2 + 1) := by
  have hden' : (0 : ℚ) < den := by exact_mod_cast hden
  obtain ⟨hnumLow, hnumHigh⟩ := log2_spec hnum
  obtain ⟨hdenLow, hdenHigh⟩ := log2_spec hden
  generalize hg : (num.log2 : Int) - den.log2 = g
  constructor
  · rw [le_div_iff₀ hden']
    calc (2 : ℚ) ^ (g - 1) * den ≤ 2 ^ (g - 1) * 2 ^ (den.log2 + 1) := by gcongr
      _ = 2 ^ num.log2 := zpow_mul_pow (by push_cast; omega)
      _ ≤ num := hnumLow
  · rw [div_lt_iff₀ hden']
    calc (num : ℚ) < 2 ^ (num.log2 + 1) := hnumHigh
      _ = 2 ^ (g + 1) * 2 ^ den.log2 := (zpow_mul_pow (by push_cast; omega)).symm
      _ ≤ 2 ^ (g + 1) * den := by gcongr

/-- **The size of a quotient** is its logarithm, rounded down. -/
theorem floorLog2_eq_log (hnum : 0 < num) (hden : 0 < den) :
    floorLog2 num den = Int.log 2 (num / den : ℚ) := by
  obtain ⟨hlow, hhigh⟩ := quotient_bracket hnum hden
  have hguess : floorLog2 num den
      = if (2 : ℚ) ^ ((num.log2 : Int) - den.log2) ≤ num / den
        then (num.log2 : Int) - den.log2 else (num.log2 : Int) - den.log2 - 1 := by
    simp only [← pow_le_quotient_iff hden, floorLog2]
    split <;> rfl
  rw [hguess]
  split
  · rename_i hle
    exact (log_eq_of_pow_le_of_lt hle hhigh).symm
  · rename_i hlt
    exact (log_eq_of_pow_le_of_lt hlow (by rw [sub_add_cancel]; exact not_le.mp hlt)).symm

end ScriptHost.Number
