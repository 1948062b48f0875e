import ScriptHost.Proofs.Number.Decimals
import ScriptHost.Proofs.Number.Durations

/-!
# The order of durations in seconds

The binary32 seconds of a duration come from four roundings, of which each keeps the order. That
does not settle their sum, since nanoseconds just below a second are rounded to a full one: then the
rounded seconds of a duration and a whole second more are compared with the next second, rounded.
From `2 ^ 24` seconds on that is one tie against another.

What decides it holds of every format (`Format.Rounds.le_of_reflected`): the gaps between patterns
do not shrink, and a pattern wins either both of its ties or none. So a longer duration has no fewer
seconds (`Duration.toSingle_mono`), and no duration has infinitely many
(`Duration.toSingle_lt_infinity`).

## Main definitions

* `Duration.InSeconds` — the seconds of a duration, by the exact values of each step.
-/

namespace ScriptHost

namespace Number

namespace Format

variable {f : Format} {n p q : Nat} {x y : ℚ}

/-! ### Gaps -/

/-- From one pattern to the next it is one place. -/
theorem toRat_succ_sub {k m : Nat} (hm : m < 2 * f.unit) (hk : k = 0 ∨ f.unit ≤ m) :
    f.toRat (k * f.unit + m + 1) - f.toRat (k * f.unit + m) = 2 ^ (f.minExponent + k) := by
  rw [add_assoc, toRat_parts hm.le hk, toRat_parts (by omega) (hk.imp_right (by omega))]
  push_cast
  ring

/-- The gap above a pattern is at least as large as the one below it. -/
theorem gap_le_gap_succ : f.toRat (p + 1) - f.toRat p ≤ f.toRat (p + 2) - f.toRat (p + 1) := by
  obtain ⟨k, m, rfl, hm, hk⟩ := f.exists_parts p
  rcases Nat.lt_or_eq_of_le (Nat.succ_le_of_lt hm) with hnext | hnext
  · rw [toRat_succ_sub hm hk]
    have hsame := toRat_succ_sub (f := f) hnext (hk.imp_right (by omega))
    exact hsame.ge
  · -- The significand has grown out of its places, and the next one has an exponent more.
    have hunit := unit_pos (f := f)
    have hp : k * f.unit + m + 1 = (k + 1) * f.unit + f.unit := by
      rw [Nat.succ_mul]
      omega
    have hgrown := toRat_succ_sub (f := f) (k := k + 1) (m := f.unit) (by omega) (.inr le_rfl)
    rw [← hp] at hgrown
    rw [toRat_succ_sub hm hk, hgrown]
    exact zpow_le_zpow_right₀ one_le_two (by push_cast; omega)

/-- A pattern is the one nearest to its value. -/
theorem Rounds.self (hp : p ≤ f.infinity) : f.Rounds (f.toRat p) p := by
  refine ⟨hp, fun q _ => ⟨fun hlt => .inl ?_, fun h => ?_⟩⟩
  · exact middle_lt_toRat.trans_le ((f.toRat_strictMono).monotone hlt)
  · have hbelow : f.middle q ≤ f.toRat p := by
      rcases h with h | ⟨h, -⟩
      · exact h.le
      · exact h.le
    exact (f.toRat_strictMono).lt_iff_lt.mp (toRat_lt_middle.trans_le hbelow)

/-- **What was rounded up has as much room above.** A value that lies no further above a pattern
than another one, which is rounded to it, lies below is not rounded to a larger pattern: the gap
above is no smaller, and a pattern wins either both of its ties or none. -/
theorem Rounds.le_of_reflected (hp : f.Rounds x p) (hx : 0 ≤ x) (hq : f.Rounds y q)
    (hy : y ≤ f.toRat p + (f.toRat p - x)) : q ≤ p := by
  refine Nat.le_of_not_lt fun hlt => ?_
  have hpq := (hq.lt_iff p (hlt.trans_le hq.le_infinity)).mp hlt
  cases p with
  | zero =>
      have hmiddle := toRat_lt_middle (f := f) (p := 0)
      rw [toRat_zero] at hy hmiddle
      rcases hpq with h | ⟨h, -⟩ <;> linarith
  | succ r =>
      have hgap := gap_le_gap_succ (f := f) (p := r)
      have hrp := (hp.lt_iff r hp.le_infinity).mp (Nat.lt_succ_self r)
      have hmiddles : f.toRat (r + 1) + (f.toRat (r + 1) - f.middle r) ≤ f.middle (r + 1) := by
        rw [middle, middle]
        linarith
      rcases hrp with hr | ⟨hr, hodd⟩
      · rcases hpq with h | ⟨h, -⟩ <;> linarith
      · rcases hpq with h | ⟨-, hodd'⟩
        · linarith
        · omega

/-! ### Whole numbers -/

/-- A whole number is rounded to a whole number. -/
theorem exists_toRat_nearest (hn : 0 < n) (hfinite : f.nearest n 1 < f.infinity) :
    ∃ m : Nat, f.toRat (f.nearest n 1) = m := by
  have hsum := f.minExponent_add_steps n 1
  have hparts : f.toRat (f.nearest n 1) = f.significand n 1 * 2 ^ f.lastPlace n 1 := by
    rw [nearest_eq hn, min_def] at hfinite ⊢
    split at hfinite
    · exact absurd hfinite (Nat.lt_irrefl _)
    · rw [if_neg ‹_›, toRat_parts (significand_le hn one_pos), hsum]
      exact (Nat.eq_zero_or_pos _).imp_right (unit_le_significand hn one_pos)
  rw [hparts]
  rcases le_or_gt 0 (f.lastPlace n 1) with hplace | hplace
  · lift f.lastPlace n 1 to Nat using hplace with e
    exact ⟨f.significand n 1 * 2 ^ e, by push_cast; rfl⟩
  · -- All places of the number are there.
    refine ⟨n, ?_⟩
    rw [significand, scaled, if_neg (Int.not_le.mpr hplace), roundHalfEven_one]
    obtain ⟨e, he⟩ := Int.exists_eq_neg_ofNat hplace.le
    rw [he]
    simp

end Format

namespace Single

variable {x y : Single} {n : Nat}

/-! ### One operation -/

/-- A number of seconds is rounded to a single. -/
theorem rounds_ofNat (n : Nat) : Format.binary32.Rounds n (ofNat n).pattern := by
  have h : Format.binary32.Rounds (n / (1 : Nat)) (ofNat n).pattern :=
    Format.rounds_nearest (by decide) one_pos
  rwa [Nat.cast_one, div_one] at h

/-- So is a sum. -/
theorem rounds_add (x y : Single) :
    Format.binary32.Rounds (x.toRat + y.toRat) (x.add y).pattern := by
  rw [← sum_eq]
  exact Format.rounds_nearest (by decide) (Nat.mul_pos x.quotient_den_pos y.quotient_den_pos)

/-- So is a quotient. -/
theorem rounds_div (x : Single) (hy : 0 < y.toRat) :
    Format.binary32.Rounds (x.toRat / y.toRat) (x.div y).pattern := by
  rw [← ratio_eq]
  exact Format.rounds_nearest (by decide) (Nat.mul_pos x.quotient_den_pos (quotient_num_pos hy))

/-- More seconds are not rounded to less. -/
theorem ofNat_mono {n m : Nat} (h : n ≤ m) : (ofNat n).pattern ≤ (ofNat m).pattern :=
  (rounds_ofNat n).mono (rounds_ofNat m) (by exact_mod_cast h)

/-- The seconds of a duration are not rounded to infinity. -/
theorem pattern_ofNat_lt (hn : n ≤ UInt64.size) :
    (ofNat n).pattern < Format.binary32.infinity :=
  (ofNat_mono hn).trans_lt (by decide)

/-- They are rounded to a whole number. -/
theorem exists_toRat_ofNat (hn : n ≤ UInt64.size) : ∃ m : Nat, (ofNat n).toRat = m := by
  rcases Nat.eq_zero_or_pos n with rfl | hpos
  · exact ⟨0, by rw [ofNat, nearest, toRat, Format.nearest_zero, Format.toRat_zero, Nat.cast_zero]⟩
  · exact Format.exists_toRat_nearest hpos (pattern_ofNat_lt hn)

/-- **A fraction does not carry further than a whole second.** Where whole numbers are two apart and
a tie is met twice, both times it goes the same way. -/
theorem pattern_add_le (hn : n < UInt64.size) (hy : y.toRat ≤ 1) :
    ((ofNat n).add y).pattern ≤ (ofNat (n + 1)).pattern := by
  obtain ⟨m, hm⟩ := exists_toRat_ofNat hn.le
  have hsum := rounds_add (ofNat n) y
  rw [hm] at hsum
  rcases le_or_gt m n with hle | hlt
  · refine hsum.mono (rounds_ofNat (n + 1)) ?_
    push_cast
    gcongr
  · have hup : (n + 1 : ℚ) ≤ m := by exact_mod_cast hlt
    refine ((rounds_ofNat n).le_of_reflected n.cast_nonneg hsum ?_).trans (ofNat_mono n.le_succ)
    rw [← toRat, hm]
    linarith

/-- Adding what is not negative takes nothing away. -/
theorem pattern_le_add (hx : x.pattern ≤ Format.binary32.infinity) :
    x.pattern ≤ (x.add y).pattern :=
  (Format.Rounds.self hx).mono (rounds_add x y) (le_add_of_nonneg_right y.toRat_nonneg)

end Single

end Number

open Number

namespace Duration

variable {d e : Duration} {x y : Single}

/-! ### Durations -/

/-- The seconds of a duration, where the whole seconds, the nanoseconds, a billion, the ratio of the
two and the sum are each rounded to nearest, ties to even. -/
def InSeconds (d : Duration) (x : Single) : Prop :=
  ∃ whole nanos billion fraction : Single,
    Format.binary32.Rounds d.secs.toNat whole.pattern ∧
    Format.binary32.Rounds d.nanos nanos.pattern ∧
    Format.binary32.Rounds nanosPerSec billion.pattern ∧
    Format.binary32.Rounds (nanos.toRat / billion.toRat) fraction.pattern ∧
    Format.binary32.Rounds (whole.toRat + fraction.toRat) x.pattern

/-- The part of a second. -/
def fraction (d : Duration) : Single := (Single.ofNat d.nanos).div (Single.ofNat nanosPerSec)

/-- A duration in seconds is its seconds and its fraction. -/
theorem toSingle_eq (d : Duration) : d.toSingle = (Single.ofNat d.secs.toNat).add d.fraction := rfl

/-- The fraction is the rounding of the nanoseconds by a thousand millions. -/
theorem rounds_fraction (d : Duration) :
    Format.binary32.Rounds ((Single.ofNat d.nanos).toRat / 1000000000) d.fraction.pattern := by
  rw [← Single.toRat_ofNat_nanosPerSec]
  refine Single.rounds_div _ ?_
  rw [Single.toRat_ofNat_nanosPerSec]
  norm_num

/-- **The seconds of a duration are the rounded ones**, step by step. -/
theorem inSeconds_toSingle (d : Duration) : d.InSeconds d.toSingle := by
  refine ⟨_, _, _, d.fraction, Single.rounds_ofNat _, Single.rounds_ofNat _, Single.rounds_ofNat _,
    ?_, Single.rounds_add _ _⟩
  rw [Single.toRat_ofNat_nanosPerSec]
  exact d.rounds_fraction

/-- A part of a second is no more than a second, also if it is rounded up to one. -/
theorem toRat_fraction_le (d : Duration) : d.fraction.toRat ≤ 1 := by
  have hnanos : (Single.ofNat d.nanos).toRat ≤ 1000000000 :=
    Single.toRat_ofNat_nanosPerSec ▸
      (Format.toRat_strictMono _).monotone (Single.ofNat_mono d.nanos_lt.le)
  have hle : d.fraction.pattern ≤ (Single.ofNat 1).pattern := by
    refine d.rounds_fraction.mono (Single.rounds_ofNat 1) ?_
    rw [Nat.cast_one]
    exact (div_le_one (by norm_num)).mpr hnanos
  exact Single.toRat_ofNat_one ▸ (Format.toRat_strictMono _).monotone hle

/-- More nanoseconds are no smaller a fraction. -/
theorem fraction_mono (h : d.nanos ≤ e.nanos) : d.fraction.pattern ≤ e.fraction.pattern := by
  refine d.rounds_fraction.mono e.rounds_fraction ?_
  gcongr
  exact (Format.toRat_strictMono _).monotone (Single.ofNat_mono h)

/-- **A longer duration has no fewer seconds.** -/
theorem toSingle_mono (h : d ≤ e) : d.toSingle.pattern ≤ e.toSingle.pattern := by
  change d.totalNanos ≤ e.totalNanos at h
  have hd := d.nanos_lt
  have he := e.nanos_lt
  have hsecs := e.secs.toNat_lt_size
  rw [toSingle_eq, toSingle_eq]
  rcases Nat.lt_trichotomy d.secs.toNat e.secs.toNat with hlt | heq | hgt
  · calc ((Single.ofNat d.secs.toNat).add d.fraction).pattern
        ≤ (Single.ofNat (d.secs.toNat + 1)).pattern :=
          Single.pattern_add_le d.secs.toNat_lt_size d.toRat_fraction_le
      _ ≤ (Single.ofNat e.secs.toNat).pattern := Single.ofNat_mono hlt
      _ ≤ ((Single.ofNat e.secs.toNat).add e.fraction).pattern :=
          Single.pattern_le_add (Single.pattern_ofNat_lt hsecs.le).le
  · have hnanos : d.nanos ≤ e.nanos := by
      rw [totalNanos, totalNanos, heq] at h
      exact Nat.le_of_add_le_add_left h
    rw [heq]
    refine (Single.rounds_add _ _).mono (Single.rounds_add _ _) ?_
    gcongr
    exact (Format.toRat_strictMono _).monotone (fraction_mono hnanos)
  · have hmore := Nat.mul_le_mul_right nanosPerSec hgt
    rw [totalNanos, totalNanos] at h
    rw [nanosPerSec] at h hmore
    omega

/-- No duration is longer than the longest one. -/
theorem le_max (d : Duration) : d ≤ max := by
  change d.totalNanos ≤ max.totalNanos
  have hsecs := d.secs.toNat_lt_size
  have hnanos := d.nanos_lt
  have hmax : max.totalNanos = UInt64.size * nanosPerSec - 1 := by decide
  rw [hmax, totalNanos, nanosPerSec]
  omega

/-- **No duration has infinitely many seconds.** -/
theorem toSingle_lt_infinity (d : Duration) : d.toSingle.pattern < Format.binary32.infinity :=
  (toSingle_mono d.le_max).trans_lt (by decide)

end Duration

end ScriptHost
