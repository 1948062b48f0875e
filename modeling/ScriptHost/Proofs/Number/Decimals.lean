import ScriptHost.Proofs.Number.Literals
import ScriptHost.Proofs.Number.Nearest

/-!
# The number that a numeral denotes

What it means for a pattern to be correctly rounded, for all formats: the finite patterns below it
are those from which half of the way to the next one does not reach the value, a tie going to the
even pattern (`Format.Rounds`). The nearest pattern of a quotient is correctly rounded
(`Format.rounds_nearest`), and so is the number of a numeral, although powers of ten far beyond
every number are not computed (`Numeral.denotes_toDouble`). A text is read as the number nearest to
what it spells, unless it is so long that what is left out of its exponent could matter
(`Numeral.Spells.hasValue`).

## Main definitions

* `Format.Rounds`, `Double.Rounds` — correct rounding to nearest, ties to even.
* `Numeral.value?` — the exact value of a numeral with digits.
* `Numeral.Denotes` — the number that a numeral denotes.
* `Numeral.HasValue` — a text is read as the number nearest to its exact value.
-/

namespace ScriptHost.Number

namespace Format

variable {f : Format} {num den p q : Nat} {x y : ℚ}

/-- Half of the way from a pattern to the next one. -/
def middle (f : Format) (p : Nat) : ℚ := (f.toRat p + f.toRat (p + 1)) / 2

/-- A pattern is the one nearest to a value, a tie going to the even pattern. The middle above the
largest finite pattern is where infinity begins. -/
structure Rounds (f : Format) (x : ℚ) (p : Nat) : Prop where
  le_infinity : p ≤ f.infinity
  lt_iff : ∀ q < f.infinity, q < p ↔ f.middle q < x ∨ f.middle q = x ∧ q % 2 = 1

/-- The middles between patterns are in the order of the patterns. -/
theorem middle_strictMono (f : Format) : StrictMono f.middle := by
  intro p q h
  have hlow := f.toRat_strictMono h
  have hhigh := f.toRat_strictMono (Nat.succ_lt_succ h)
  rw [middle, middle]
  linarith

/-- A pattern is below the middle after it. -/
theorem toRat_lt_middle : f.toRat p < f.middle p := by
  have hnext := f.toRat_strictMono (Nat.lt_succ_self p)
  rw [middle]
  linarith

/-- The next pattern is above that middle. -/
theorem middle_lt_toRat : f.middle p < f.toRat (p + 1) := by
  have hnext := f.toRat_strictMono (Nat.lt_succ_self p)
  rw [middle]
  linarith

/-- A larger value is not rounded to a smaller pattern. -/
theorem Rounds.mono (hp : f.Rounds x p) (hq : f.Rounds y q) (h : x ≤ y) : p ≤ q := by
  refine Nat.le_of_not_lt fun hlt => Nat.lt_irrefl q ?_
  have hq' : q < f.infinity := hlt.trans_le hp.le_infinity
  refine (hq.lt_iff q hq').mpr ?_
  rcases (hp.lt_iff q hq').mp hlt with hbelow | ⟨hmet, hodd⟩
  · exact .inl (hbelow.trans_le h)
  · exact (hmet.le.trans h).lt_or_eq.imp_right fun hmet' => ⟨hmet', hodd⟩

/-- Up to half of the smallest positive value is rounded to zero. -/
theorem Rounds.of_le (h : x ≤ f.middle 0) : f.Rounds x 0 := by
  refine ⟨Nat.zero_le _, fun q _ => iff_of_false (Nat.not_lt_zero q) ?_⟩
  rintro (hbelow | ⟨hmet, hodd⟩)
  · exact absurd (hbelow.trans_le h) (not_lt.mpr ((f.middle_strictMono).monotone (Nat.zero_le q)))
  · obtain rfl : q = 0 := Nat.le_zero.mp ((f.middle_strictMono).le_iff_le.mp (hmet.trans_le h))
    cases hodd

/-- What is too large for a finite pattern is rounded to infinity. -/
theorem Rounds.of_ge (h : f.toRat f.infinity ≤ x) : f.Rounds x f.infinity := by
  refine ⟨le_rfl, fun q hq => iff_of_true hq (.inl ?_)⟩
  exact (middle_lt_toRat.trans_le ((f.toRat_strictMono).monotone hq)).trans_le h

/-- A finite pattern that is correctly rounded stands for a value that is as near as that of any
other one. -/
theorem Rounds.abs_sub_le (h : f.Rounds x p) (hp : p < f.infinity) (q : Nat) :
    |f.toRat p - x| ≤ |f.toRat q - x| := by
  have hmono := (f.toRat_strictMono).monotone
  rcases Nat.lt_trichotomy q p with hlt | rfl | hgt
  · -- The value is not below the middle under its pattern.
    obtain ⟨r, rfl⟩ : ∃ r, p = r + 1 := ⟨p - 1, by omega⟩
    have hmiddle : f.middle r ≤ x := by
      rcases (h.lt_iff r (by omega)).mp (Nat.lt_succ_self r) with hbelow | ⟨hmet, -⟩
      · exact hbelow.le
      · exact hmet.le
    have hle : f.toRat q ≤ f.toRat r := hmono (Nat.le_of_lt_succ hlt)
    have hstep : f.toRat r ≤ f.toRat (r + 1) := hmono (Nat.le_succ r)
    have hfar : x - f.toRat q ≤ |f.toRat q - x| := by
      rw [abs_sub_comm]
      exact le_abs_self _
    rw [middle] at hmiddle
    refine (abs_le.mpr ⟨?_, ?_⟩).trans hfar <;> linarith
  · exact le_rfl
  · -- The value is not above the middle over its pattern.
    have hmiddle : x ≤ f.middle p := by
      refine not_lt.mp fun hlt => Nat.lt_irrefl p ?_
      exact (h.lt_iff p hp).mpr (.inl hlt)
    have hle : f.toRat (p + 1) ≤ f.toRat q := hmono hgt
    have hstep : f.toRat p ≤ f.toRat (p + 1) := hmono (Nat.le_succ p)
    have hfar : f.toRat q - x ≤ |f.toRat q - x| := le_abs_self _
    rw [middle] at hmiddle
    refine (abs_le.mpr ⟨?_, ?_⟩).trans hfar <;> linarith

/-- **The nearest pattern is correctly rounded.** -/
theorem rounds_nearest (hprecision : 2 ≤ f.precision) (hden : 0 < den) :
    f.Rounds (num / den) (f.nearest num den) := by
  rcases Nat.eq_zero_or_pos num with rfl | hnum
  · rw [nearest_zero, Nat.cast_zero, zero_div]
    exact .of_le (toRat_zero.symm.trans_le toRat_lt_middle.le)
  rw [nearest_eq hnum]
  refine ⟨min_le_left _ _, fun q hq => ?_⟩
  rw [lt_min_iff, and_iff_right hq]
  obtain ⟨k, m, rfl, hm, hk⟩ := f.exists_parts q
  have hplace := f.minExponent_add_steps num den
  have hunit := unit_pos (f := f)
  rcases Nat.lt_trichotomy k (f.steps num den) with hlt | heq | hgt
  · -- The next pattern is not above the first one with the last place of the quotient.
    have hfull := unit_le_significand (f := f) hnum hden (Nat.zero_lt_of_lt hlt)
    have hle : k * f.unit + m + 1 ≤ f.steps num den * f.unit + f.unit := by
      have hsteps := Nat.mul_le_mul_right f.unit (Nat.succ_le_of_lt hlt)
      rw [Nat.succ_mul] at hsteps
      omega
    have hvalue := (f.toRat_strictMono).monotone hle
    rw [toRat_parts (by omega) (.inr le_rfl), hplace] at hvalue
    refine iff_of_true (by omega) (.inl (middle_lt_toRat.trans_le (hvalue.trans ?_)))
    exact unit_mul_le hnum hden (Nat.zero_lt_of_lt hlt)
  · -- Pattern and quotient have one last place, and the significands decide.
    have hpos : (0 : ℚ) < 2 ^ f.lastPlace num den := zpow_pos two_pos _
    have hmiddle : f.middle (k * f.unit + m) = (m + 1 / 2) * 2 ^ f.lastPlace num den := by
      rw [middle, add_assoc, toRat_parts hm.le hk, toRat_parts (by omega) (hk.imp_right (by omega)),
        heq, hplace]
      push_cast
      ring
    have heven : f.unit % 2 = 0 := by
      rw [unit, show f.precision - 1 = f.precision - 2 + 1 by omega, Nat.pow_succ, Nat.mul_mod_left]
    have hparity : (k * f.unit + m) % 2 = m % 2 := by
      rw [Nat.add_mod, Nat.mul_mod, heven, mul_zero, Nat.zero_mod, zero_add, Nat.mod_mod]
    rw [hmiddle, hparity, ← heq, Nat.add_lt_add_iff_left, significand,
      lt_roundHalfEven_iff (scaled_den_pos hden), scaled_eq, lt_div_iff₀ hpos, eq_div_iff hpos.ne']
  · -- The pattern is not below the last one with the last place of the quotient.
    have hgrown := significand_le (f := f) hnum hden
    have hle : f.steps num den * f.unit + 2 * f.unit ≤ k * f.unit + m := by
      have hsteps := Nat.mul_le_mul_right f.unit (Nat.succ_le_of_lt hgt)
      rw [Nat.succ_mul] at hsteps
      have hfull := hk.resolve_left (Nat.ne_zero_of_lt hgt)
      omega
    have hvalue := (f.toRat_strictMono).monotone hle
    rw [toRat_parts le_rfl (.inr (by omega)), hplace] at hvalue
    have hbelow : (num / den : ℚ) < f.middle (k * f.unit + m) := by
      push_cast at hvalue
      exact (lt_two_mul_unit_mul hnum hden).trans_le (hvalue.trans toRat_lt_middle.le)
    refine iff_of_false (by omega) ?_
    rintro (h | ⟨h, -⟩)
    · exact absurd h hbelow.not_gt
    · exact hbelow.ne' h

/-- Every value that is not negative is rounded to some pattern. -/
theorem exists_rounds (hprecision : 2 ≤ f.precision) (hx : 0 ≤ x) : ∃ p, f.Rounds x p := by
  have hquotient : ((x.num.natAbs : Nat) : ℚ) / x.den = x := by
    rw [Nat.cast_natAbs, abs_of_nonneg (Rat.num_nonneg.mpr hx), Rat.num_div_den]
  rw [← hquotient]
  exact ⟨_, rounds_nearest hprecision x.den_pos⟩

/-! ### The 64-bit format -/

/-- Where the infinity of a double stands among the numbers, as if the exponents went on. -/
theorem toRat_infinity_binary64 : binary64.toRat binary64.infinity = 2 ^ (1024 : Int) := by
  have hvalue : binary64.value binary64.infinity = (4503599627370496, 972) := by decide
  have hunit : ((4503599627370496 : Nat) : ℚ) = 2 ^ (52 : Int) := by norm_num
  rw [toRat, hvalue, hunit, ← zpow_add₀ two_ne_zero]
  rfl

/-- Half of the least double. -/
theorem middle_zero_binary64 : binary64.middle 0 = 2 ^ (-1075 : Int) := by
  rw [middle, zero_add, toRat_zero, toRat_one, zero_add]
  exact (zpow_sub_one₀ two_ne_zero (-1074)).symm

/-- All numbers of the format lie between these powers of ten. -/
theorem two_pow_le_ten_pow : (2 : ℚ) ^ (1075 : Int) ≤ 10 ^ (400 : Int) := by
  calc (2 : ℚ) ^ (1075 : Int) ≤ 2 ^ (3 * 400 : Int) := zpow_le_zpow_right₀ one_le_two (by norm_num)
    _ = 8 ^ (400 : Int) := by rw [zpow_mul]; norm_num
    _ ≤ 10 ^ (400 : Int) := zpow_le_zpow_left₀ (by norm_num) (by norm_num) (by norm_num)

end Format

namespace Double

/-- A number is the one nearest to a magnitude with a sign. -/
inductive Rounds (negative : Bool) (x : ℚ) : Double → Prop
  | finite {p : Nat} (hp : p < Format.binary64.infinity) (h : Format.binary64.Rounds x p) :
    Rounds negative x (.finite negative p)
  | infinite (h : Format.binary64.Rounds x Format.binary64.infinity) :
    Rounds negative x (.infinite negative)

/-- **A fraction is rounded to nearest**, ties to even. -/
theorem rounds_nearest (negative : Bool) {num den : Nat} (hden : 0 < den) :
    Rounds negative (num / den) (nearest negative num den) := by
  have h : Format.binary64.Rounds (num / den) (Format.binary64.nearest num den) :=
    Format.rounds_nearest (by decide) hden
  rw [nearest]
  split
  · rename_i hp
    exact .finite hp h
  · rename_i hp
    rw [le_antisymm h.le_infinity (Nat.not_lt.mp hp)] at h
    exact .infinite h

end Double

namespace Numeral

variable {ds cs : List Char} {negative : Bool} {digits length : Nat} {e e' : Int}
  {n numeral : Numeral}

/-- The exact value of a numeral with digits. -/
def value? : Numeral → Option ℚ
  | .decimal negative digits e => some (if negative then -(digits * 10 ^ e) else digits * 10 ^ e)
  | _ => none

/-- The number that a numeral denotes. -/
inductive Denotes : Numeral → Double → Prop
  | nan : Denotes .nan .nan
  | infinite {negative : Bool} : Denotes (.infinite negative) (.infinite negative)
  | decimal {negative : Bool} {digits : Nat} {e : Int} {x : Double}
    (h : Double.Rounds negative (digits * 10 ^ e) x) : Denotes (.decimal negative digits e) x

/-- A text spells a number with an exact value, and it is read as the number nearest to that. -/
def HasValue (s : String) (v : ℚ) : Prop :=
  ∃ n, Spells s.toList n ∧ n.value? = some v ∧
    ∃ numeral, parse? s = some numeral ∧ n.Denotes numeral.toDouble

/-! ### Far away from all numbers -/

/-- A numeral that is zero, or as good as zero. -/
def Negligible (digits : Nat) (e : Int) : Prop :=
  digits = 0 ∨ digitCount digits + e < -farExponent

/-- A numeral that is as good as infinite. -/
structure Excessive (digits : Nat) (e : Int) : Prop where
  ne_zero : digits ≠ 0
  far : farExponent < digitCount digits + e

/-- A number is below the power of ten with as many zeros as it has digits. -/
theorem lt_pow_digitCount (digits : Nat) : digits < 10 ^ digitCount digits :=
  (Nat.length_toDigits_le_iff (by decide) Nat.length_toDigits_pos).mp le_rfl

/-- It is not below the one with a zero less. -/
theorem pow_digitCount_le (h : digits ≠ 0) : 10 ^ (digitCount digits - 1) ≤ digits := by
  have hpos : 0 < digitCount digits := Nat.length_toDigits_pos
  rcases Nat.eq_zero_or_pos (digitCount digits - 1) with hone | hmore
  · rw [hone, pow_zero]
    exact Nat.pos_of_ne_zero h
  · refine Nat.le_of_not_lt fun hlt => ?_
    have hle := (Nat.length_toDigits_le_iff (by decide) hmore).mpr hlt
    rw [← digitCount] at hle
    omega

/-- A decimal that is negligible is read as zero. -/
theorem Negligible.toDouble (h : Negligible digits e) :
    (decimal negative digits e).toDouble = .finite negative 0 := by
  rw [Numeral.toDouble, if_pos (by simpa [Negligible] using h)]

/-- A decimal that is excessive is read as infinity. -/
theorem Excessive.toDouble (h : Excessive digits e) :
    (decimal negative digits e).toDouble = .infinite negative := by
  have hfar := h.far
  rw [Numeral.toDouble, if_neg, if_pos hfar]
  simp only [Bool.or_eq_true, decide_eq_true_eq, not_or]
  refine ⟨h.ne_zero, ?_⟩
  rw [farExponent] at *
  omega

/-- That zero is the rounding of a negligible decimal. -/
theorem Negligible.rounds (h : Negligible digits e) :
    Double.Rounds negative (digits * 10 ^ e) (.finite negative 0) := by
  refine .finite (by decide) (.of_le ?_)
  rw [Format.middle_zero_binary64]
  rcases h with rfl | hfar
  · rw [Nat.cast_zero, zero_mul]
    positivity
  · have hdigits : (digits : ℚ) ≤ 10 ^ (digitCount digits : Int) := by
      rw [zpow_natCast]
      exact_mod_cast (lt_pow_digitCount digits).le
    rw [farExponent] at hfar
    calc (digits : ℚ) * 10 ^ e ≤ 10 ^ (digitCount digits : Int) * 10 ^ e := by gcongr
      _ = 10 ^ (digitCount digits + e : Int) := (zpow_add₀ (by norm_num) _ _).symm
      _ ≤ 10 ^ (-400 : Int) := zpow_le_zpow_right₀ (by norm_num) hfar.le
      _ ≤ 2 ^ (-1075 : Int) := by
        rw [zpow_neg, zpow_neg]
        exact inv_anti₀ (by positivity) Format.two_pow_le_ten_pow

/-- That infinity is the rounding of an excessive decimal. -/
theorem Excessive.rounds (h : Excessive digits e) :
    Double.Rounds negative (digits * 10 ^ e) (.infinite negative) := by
  have hfar := h.far
  have hdigits : (10 : ℚ) ^ ((digitCount digits - 1 : Nat) : Int) ≤ digits := by
    rw [zpow_natCast]
    exact_mod_cast pow_digitCount_le h.ne_zero
  have hpos : 0 < digitCount digits := Nat.length_toDigits_pos
  rw [farExponent] at hfar
  refine .infinite (.of_ge ?_)
  rw [Format.toRat_infinity_binary64]
  calc (2 : ℚ) ^ (1024 : Int) ≤ 2 ^ (1075 : Int) := zpow_le_zpow_right₀ one_le_two (by norm_num)
    _ ≤ 10 ^ (400 : Int) := Format.two_pow_le_ten_pow
    _ ≤ 10 ^ ((digitCount digits - 1 : Nat) + e : Int) :=
      zpow_le_zpow_right₀ (by norm_num) (by omega)
    _ = 10 ^ ((digitCount digits - 1 : Nat) : Int) * 10 ^ e := zpow_add₀ (by norm_num) _ _
    _ ≤ digits * 10 ^ e := by gcongr

/-! ### The number of a numeral -/

/-- **A numeral is rounded correctly.** -/
theorem denotes_toDouble (n : Numeral) : n.Denotes n.toDouble := by
  cases n with
  | nan => exact .nan
  | infinite negative => exact .infinite
  | decimal negative digits e =>
      refine .decimal ?_
      by_cases hsmall : Negligible digits e
      · rw [hsmall.toDouble]
        exact hsmall.rounds
      by_cases hlarge : Excessive digits e
      · rw [hlarge.toDouble]
        exact hlarge.rounds
      have hne : digits ≠ 0 := fun h => hsmall (.inl h)
      rw [Numeral.toDouble, if_neg (by simpa [Negligible] using hsmall),
        if_neg fun hfar => hlarge ⟨hne, hfar⟩]
      split
      · rename_i he
        lift e to Nat using he
        have h : Double.Rounds negative ((digits * 10 ^ e : Nat) / (1 : Nat))
            (Double.nearest negative (digits * 10 ^ e) 1) := Double.rounds_nearest negative one_pos
        push_cast at h
        rwa [div_one, ← zpow_natCast] at h
      · rename_i he
        obtain ⟨e, rfl⟩ := Int.exists_eq_neg_ofNat (Int.le_of_not_le he)
        have h : Double.Rounds negative (digits / (10 ^ e : Nat))
            (Double.nearest negative digits (10 ^ e)) :=
          Double.rounds_nearest negative (by positivity)
        push_cast at h
        rw [zpow_neg, zpow_natCast, ← div_eq_mul_inv]
        simpa using h

/-- What digits spell is below the power of ten of their number. -/
theorem ofDigits_lt (hds : Digits ds) : ofDigits ds < 10 ^ ds.length := by
  induction ds using List.reverseRecOn with
  | nil => decide
  | append_singleton ds d ih =>
      have hlt := ih fun c hc => hds c (List.mem_append_left _ hc)
      have hd : d.toNat - '0'.toNat ≤ 9 := by
        have hdigit := hds d (by simp)
        rw [isDigit, Bool.and_eq_true, decide_eq_true_iff, decide_eq_true_iff] at hdigit
        have hle : d.toNat ≤ '9'.toNat := hdigit.2
        have hnine : '9'.toNat = '0'.toNat + 9 := by decide
        omega
      rw [ofDigits_concat, List.length_append, List.length_singleton, Nat.pow_succ]
      omega

/-- No more digits are counted than there are. -/
theorem digitCount_ofDigits_le (hds : Digits ds) (hne : ofDigits ds ≠ 0) :
    digitCount (ofDigits ds) ≤ ds.length := by
  have hpos : 0 < ds.length := by
    refine List.length_pos_iff.mpr ?_
    rintro rfl
    exact hne rfl
  exact (Nat.length_toDigits_le_iff (by decide) hpos).mpr (ofDigits_lt hds)

/-- **What is left out of an exponent does not matter** in a text that is not too long: the numeral
is as good as infinite, or as good as zero, with and without it. -/
theorem ReadAs.denotes (h : ReadAs length n numeral) (hlength : length ≤ 65000) :
    n.Denotes numeral.toDouble := by
  cases h with
  | nan => exact .nan
  | infinite => exact .infinite
  | @decimal negative ds places e e' hds hlength' hplaces hclipped =>
      by_cases hne : ofDigits ds = 0
      · rw [Negligible.toDouble (.inl hne)]
        exact .decimal (Negligible.rounds (.inl hne))
      have hcount := digitCount_ofDigits_le hds hne
      have hpos : 0 < digitCount (ofDigits ds) := Nat.length_toDigits_pos
      cases hclipped with
      | within => exact denotes_toDouble _
      | above he he' =>
          have hlarge : ∀ {e : Int}, exponentLimit ≤ e → Excessive (ofDigits ds) (e - places) := by
            intro e he
            refine ⟨hne, ?_⟩
            rw [exponentLimit] at he
            rw [farExponent]
            omega
          rw [(hlarge he').toDouble]
          exact .decimal (hlarge he).rounds
      | below he he' =>
          have hsmall : ∀ {e : Int}, e ≤ -exponentLimit →
              Negligible (ofDigits ds) (e - places) := by
            intro e he
            refine .inr ?_
            rw [exponentLimit] at he
            rw [farExponent]
            omega
          rw [(hsmall he').toDouble]
          exact .decimal (hsmall he).rounds

/-- **What a text spells is rounded correctly**, if it is not too long. -/
theorem Spells.hasValue {s : String} {v : ℚ} (h : Spells s.toList n) (hv : n.value? = some v)
    (hlength : s.length ≤ 65000) : HasValue s v := by
  obtain ⟨numeral, hnumeral, hread⟩ := h.read
  rw [String.ofList_toList] at hnumeral
  exact ⟨n, h, hv, numeral, hnumeral, hread.denotes hlength⟩

end Numeral

end ScriptHost.Number
