import ScriptHost.Proofs.Module.TimeLimit
import ScriptHost.Proofs.Number.Decimals

/-!
# Which timeouts are accepted

A timeout is a numeral in an argument or a number in the settings, and the two are checked by guards
of their own. They accept the same numbers and make the same durations of them
(`Timeout.parse_eq_ok_iff_check`). Both roundings on the way from a numeral to a duration keep the
order, and the numbers that are accepted have no gaps; so the accepted numerals form an interval, in
which a larger value is never a shorter duration (`Timeout.Fits.between`).

## Main definitions

* `Settings.withTimeout` — settings with another default timeout.
-/

namespace ScriptHost

open Number

/-- The same settings but for the default timeout. -/
def Settings.withTimeout (settings : Settings) (seconds : Double) : Settings :=
  { settings with execution := { settings.execution with defaultTimeout := seconds } }

variable {settings : Settings} {s : String} {x : Double} {d : Duration} {v : ℚ}

/-! ### Durations -/

namespace Duration

variable {k m p q : Nat}

/-- The nanoseconds of a pattern, which may be too many for a duration. -/
def nanosOf (p : Nat) : Nat :=
  roundHalfEven ((Format.binary64.quotient p).1 * nanosPerSec) (Format.binary64.quotient p).2

/-- A finite number of seconds is a duration of its nanoseconds, if there is one. -/
theorem ofSeconds?_finite (p : Nat) : ofSeconds? (.finite false p) = ofNanos? (nanosOf p) := by
  rw [ofSeconds?, if_neg (by simp), nanosOf]

/-- More seconds are no fewer nanoseconds. -/
theorem nanosOf_mono (h : p ≤ q) : nanosOf p ≤ nanosOf q := by
  refine roundHalfEven_mono Format.quotient_den_pos Format.quotient_den_pos ?_
  rw [quotient_mul_nanosPerSec, quotient_mul_nanosPerSec]
  exact mul_le_mul_of_nonneg_right ((Format.toRat_strictMono _).monotone h) (by norm_num)

/-- Fewer nanoseconds are a duration too, and not a longer one. -/
theorem exists_ofNanos?_of_le {e : Duration} (h : k ≤ m) (he : ofNanos? m = some e) :
    ∃ d, ofNanos? k = some d ∧ d ≤ e := by
  have hm : m < UInt64.size * nanosPerSec := by
    by_contra hlarge
    rw [ofNanos?, if_neg hlarge] at he
    cases he
  obtain ⟨d, hd⟩ : ∃ d, ofNanos? k = some d := ⟨_, if_pos (h.trans_lt hm)⟩
  refine ⟨d, hd, ?_⟩
  change d.totalNanos ≤ e.totalNanos
  rwa [totalNanos_of_ofNanos? hd, totalNanos_of_ofNanos? he]

end Duration

/-! ### The two ways in -/

/-- **Which timeouts the settings accept**, if nothing else is wrong with them. -/
theorem Settings.check_withTimeout_iff (hvalid : settings.check = .ok ()) :
    (settings.withTimeout x).check = .ok () ↔
      x.isPositive = true ∧ (Duration.ofSeconds? x).isSome = true := by
  obtain ⟨-, hbudget, hworkers, hjobs, hlanguage⟩ := check_eq_ok_iff.mp hvalid
  rw [check_eq_ok_iff]
  constructor
  · intro h
    exact Bool.and_eq_true_iff.mp h.timeout
  · intro h
    exact ⟨Bool.and_eq_true_iff.mpr h, hbudget, hworkers, hjobs, hlanguage⟩

namespace Timeout

/-- A timeout is read exactly if it is a numeral, allowed, and a duration. -/
theorem parse_eq_ok_iff :
    parse s = .ok d ↔ ∃ numeral, Numeral.parse? s = some numeral ∧
      isAllowed numeral.toDouble = true ∧ Duration.ofSeconds? numeral.toDouble = some d := by
  rw [parse]
  cases Numeral.parse? s with
  | none => simp
  | some numeral =>
      dsimp only
      by_cases hallowed : isAllowed numeral.toDouble = true
      · rw [if_pos hallowed]
        cases hd : Duration.ofSeconds? numeral.toDouble <;> simp [hallowed, hd]
      · rw [if_neg hallowed]
        simp [hallowed]

/-- The two guards differ on infinity, which is no duration. -/
theorem isAllowed_iff_isPositive (h : Duration.ofSeconds? x = some d) :
    isAllowed x = true ↔ x.isPositive = true := by
  cases x with
  | nan | infinite _ => cases h
  | finite negative p => rfl

/-- **An argument is accepted like a setting**, and as the same duration. -/
theorem parse_eq_ok_iff_check (hvalid : settings.check = .ok ()) {numeral : Numeral}
    (hnumeral : Numeral.parse? s = some numeral) :
    parse s = .ok d ↔
      (settings.withTimeout numeral.toDouble).check = .ok () ∧
        (settings.withTimeout numeral.toDouble).execution.timeout = d := by
  have htimeout : (settings.withTimeout numeral.toDouble).execution.timeout
      = (Duration.ofSeconds? numeral.toDouble).getD Duration.max := rfl
  rw [parse_eq_ok_iff, Settings.check_withTimeout_iff hvalid, htimeout]
  constructor
  · rintro ⟨_, heq, hallowed, hd⟩
    obtain rfl := Option.some.inj (hnumeral.symm.trans heq)
    rw [hd]
    exact ⟨⟨(isAllowed_iff_isPositive hd).mp hallowed, rfl⟩, rfl⟩
  · rintro ⟨⟨hpositive, hsome⟩, hd⟩
    obtain ⟨d', hd'⟩ := Option.isSome_iff_exists.mp hsome
    rw [hd', Option.getD_some] at hd
    subst hd
    exact ⟨numeral, hnumeral, (isAllowed_iff_isPositive hd').mpr hpositive, hd'⟩

/-! ### The interval of the accepted values -/

/-- A value is rounded to a positive number of seconds, and that to a duration. -/
structure Fits (v : ℚ) (p : Nat) (d : Duration) : Prop where
  rounds : Format.binary64.Rounds v p
  pos : 0 < p
  finite : p < Format.binary64.infinity
  duration : Duration.ofNanos? (Duration.nanosOf p) = some d

/-- A timeout that fits is positive. -/
theorem Fits.value_pos {p : Nat} (h : Fits v p d) : 0 < v := by
  have hmiddle := (h.rounds.lt_iff 0 (by decide)).mp h.pos
  rw [Format.middle_zero_binary64] at hmiddle
  rcases hmiddle with hlt | ⟨-, hodd⟩
  · exact (zpow_pos two_pos _).trans hlt
  · cases hodd

/-- No timeout is negative. -/
theorem Fits.not_negative {digits p : Nat} {e : Int} (h : Fits v p d)
    (hv : (Numeral.decimal true digits e).value? = some v) : False := by
  have hvalue : -(digits * 10 ^ e : ℚ) = v := Option.some.inj hv
  have hnonneg : (0 : ℚ) ≤ digits * 10 ^ e := by positivity
  have hpos := h.value_pos
  linarith

/-- **When a text is accepted.** Only the exact value of what it spells matters. -/
theorem parse_eq_ok_iff_fits (hs : Numeral.HasValue s v) : parse s = .ok d ↔ ∃ p, Fits v p d := by
  obtain ⟨n, -, hv, numeral, hnumeral, hdenotes⟩ := hs
  have hparse : parse s = .ok d ↔ isAllowed numeral.toDouble = true ∧
      Duration.ofSeconds? numeral.toDouble = some d := by
    simp [parse_eq_ok_iff, hnumeral]
  rw [hparse]
  generalize numeral.toDouble = x at hdenotes
  cases hdenotes with
  | nan | infinite => cases hv
  | @decimal negative digits e _ hrounds =>
      cases negative with
      | true =>
          refine iff_of_false ?_ fun ⟨p, hfits⟩ => hfits.not_negative hv
          rintro ⟨hallowed, -⟩
          cases hrounds <;> cases hallowed
      | false =>
          obtain rfl : (digits * 10 ^ e : ℚ) = v := Option.some.inj hv
          cases hrounds with
          | infinite hrounds =>
              refine iff_of_false (fun h => by cases h.1) fun ⟨p, hfits⟩ => ?_
              exact absurd (hrounds.mono hfits.rounds le_rfl) (Nat.not_le.mpr hfits.finite)
          | @finite p hp hrounds =>
              rw [Duration.ofSeconds?_finite]
              constructor
              · rintro ⟨hallowed, hd⟩
                exact ⟨p, hrounds, by simpa [isAllowed] using hallowed, hp, hd⟩
              · rintro ⟨q, hfits⟩
                obtain rfl : p = q := le_antisymm (hrounds.mono hfits.rounds le_rfl)
                  (hfits.rounds.mono hrounds le_rfl)
                exact ⟨by simpa [isAllowed] using hfits.pos, hfits.duration⟩

/-- **Between two values that fit every value fits**, and the durations are in order. -/
theorem Fits.between {v₁ v₂ : ℚ} {p₁ p₂ p : Nat} {d₁ d₂ : Duration} (h₁ : Fits v₁ p₁ d₁)
    (h₂ : Fits v₂ p₂ d₂) (hrounds : Format.binary64.Rounds v p) (hlow : v₁ ≤ v) (hhigh : v ≤ v₂) :
    ∃ d, Fits v p d ∧ d₁ ≤ d ∧ d ≤ d₂ := by
  have hlow' := h₁.rounds.mono hrounds hlow
  have hhigh' := hrounds.mono h₂.rounds hhigh
  obtain ⟨d, hd, hle⟩ := Duration.exists_ofNanos?_of_le (Duration.nanosOf_mono hhigh') h₂.duration
  obtain ⟨d', hd', hle'⟩ := Duration.exists_ofNanos?_of_le (Duration.nanosOf_mono hlow') hd
  obtain rfl := Option.some.inj (h₁.duration.symm.trans hd')
  exact ⟨d, ⟨hrounds, h₁.pos.trans_le hlow', hhigh'.trans_lt h₂.finite, hd⟩, hle', hle⟩

/-- What is accepted spells a number with a value. -/
theorem exists_value (h : parse s = .ok d) :
    ∃ n v, Numeral.Spells s.toList n ∧ n.value? = some v := by
  obtain ⟨numeral, hnumeral, hallowed, -⟩ := parse_eq_ok_iff.mp h
  rw [← String.ofList_toList (s := s)] at hnumeral
  obtain ⟨n, hn⟩ := Numeral.exists_spells hnumeral
  obtain ⟨numeral', hnumeral', hread⟩ := hn.read
  obtain rfl := Option.some.inj (hnumeral.symm.trans hnumeral')
  cases hread with
  | decimal => exact ⟨_, _, hn, rfl⟩
  | infinite | nan => cases hallowed

/-- **Timeouts are accepted alike in both places, and in order.** A text of the grammar is accepted
as an argument exactly if the number that it is read as is accepted in settings with nothing else
wrong, and both make the same duration of it; for settings that are accepted the longest duration
never stands in. Of two accepted texts the one with the larger exact value is no shorter timeout,
and every text with a value between theirs is accepted, as a duration between theirs. What is
accepted has an exact value, and what has one is read as the number nearest to it, unless it is
extremely long. -/
theorem agree_mono (settings : Settings) (hvalid : settings.check = .ok ()) :
    (∀ s n, Numeral.Spells s.toList n → ∃ numeral, Numeral.parse? s = some numeral ∧ ∀ d,
      parse s = .ok d ↔ (settings.withTimeout numeral.toDouble).check = .ok () ∧
        (settings.withTimeout numeral.toDouble).execution.timeout = d) ∧
    Duration.ofSeconds? settings.execution.defaultTimeout = some settings.execution.timeout ∧
    (∀ s₁ s₂ v₁ v₂ d₁ d₂, Numeral.HasValue s₁ v₁ → Numeral.HasValue s₂ v₂ → v₁ ≤ v₂ →
      parse s₁ = .ok d₁ → parse s₂ = .ok d₂ →
        d₁ ≤ d₂ ∧ ∀ s v, Numeral.HasValue s v → v₁ ≤ v → v ≤ v₂ →
          ∃ d, parse s = .ok d ∧ d₁ ≤ d ∧ d ≤ d₂) ∧
    (∀ s d, parse s = .ok d → ∃ n v, Numeral.Spells s.toList n ∧ n.value? = some v) ∧
    ∀ s n v, Numeral.Spells s.toList n → n.value? = some v → s.length ≤ 65000 →
      Numeral.HasValue s v := by
  refine ⟨fun s n hspells => ?_, (Settings.check_eq_ok_iff.mp hvalid).ofSeconds?.2, ?_,
    fun s d => exists_value, fun s n v hspells hv hlength => ?_⟩
  · obtain ⟨numeral, hnumeral, -⟩ := hspells.read
    rw [String.ofList_toList] at hnumeral
    exact ⟨numeral, hnumeral, fun d => parse_eq_ok_iff_check hvalid hnumeral⟩
  · intro s₁ s₂ v₁ v₂ d₁ d₂ hs₁ hs₂ hle hd₁ hd₂
    obtain ⟨p₁, h₁⟩ := (parse_eq_ok_iff_fits hs₁).mp hd₁
    obtain ⟨p₂, h₂⟩ := (parse_eq_ok_iff_fits hs₂).mp hd₂
    have hbetween : ∀ s v, Numeral.HasValue s v → v₁ ≤ v → v ≤ v₂ →
        ∃ d, parse s = .ok d ∧ d₁ ≤ d ∧ d ≤ d₂ := by
      intro s v hs hlow hhigh
      obtain ⟨p, hp⟩ := Format.exists_rounds (f := Format.binary64) (by decide)
        (h₁.value_pos.le.trans hlow)
      obtain ⟨d, hd, hle, hle'⟩ := h₁.between h₂ hp hlow hhigh
      exact ⟨d, (parse_eq_ok_iff_fits hs).mpr ⟨p, hd⟩, hle, hle'⟩
    refine ⟨?_, hbetween⟩
    obtain ⟨d, hd, hle, -⟩ := hbetween s₂ v₂ hs₂ hle le_rfl
    rw [hd₂] at hd
    rwa [Except.ok.inj hd]
  · exact hspells.hasValue hv hlength

/-- Between a second and a half and ten seconds four seconds are accepted. -/
theorem agree_mono_four :
    let settings : Settings := {}
    let d₁ : Duration := ⟨1, 500000000, by decide⟩
    let d₂ : Duration := .ofSecs 10
    settings.check = .ok () ∧ Numeral.HasValue "1.5" (3 / 2) ∧ Numeral.HasValue "1e1" 10 ∧
      parse "1.5" = .ok d₁ ∧ parse "1e1" = .ok d₂ ∧ Numeral.HasValue "+4.0" 4 ∧
      ∃ d, parse "+4.0" = .ok d ∧ d₁ ≤ d ∧ d ≤ d₂ := by
  intro settings d₁ d₂
  have hvalid : settings.check = .ok () := by decide +kernel
  obtain ⟨-, -, hmono, -, hvalue⟩ := agree_mono settings hvalid
  have hlow : Numeral.Spells "1.5".toList (.decimal false 15 (-1)) :=
    .unsigned .absent (.mk (show Numeral.Digits ['1'] by decide)
      (.point (show Numeral.Digits ['5'] by decide)) (by decide) .absent)
  have hhigh : Numeral.Spells "1e1".toList (.decimal false 1 1) :=
    .unsigned .absent (.mk (show Numeral.Digits ['1'] by decide) .absent (by decide)
      (.marked (.inl rfl) .absent (show Numeral.Digits ['1'] by decide) (by decide)))
  have hfour : Numeral.Spells "+4.0".toList (.decimal false 40 (-1)) :=
    .unsigned .plus (.mk (show Numeral.Digits ['4'] by decide)
      (.point (show Numeral.Digits ['0'] by decide)) (by decide) .absent)
  have hlow' := hvalue _ _ (3 / 2) hlow (by norm_num [Numeral.value?]) (by decide)
  have hhigh' := hvalue _ _ 10 hhigh (by norm_num [Numeral.value?]) (by decide)
  have hfour' := hvalue _ _ 4 hfour (by norm_num [Numeral.value?]) (by decide)
  have hd₁ : parse "1.5" = .ok d₁ := by rfl
  have hd₂ : parse "1e1" = .ok d₂ := by rfl
  obtain ⟨-, hbetween⟩ := hmono _ _ _ _ _ _ hlow' hhigh' (by norm_num) hd₁ hd₂
  exact ⟨hvalid, hlow', hhigh', hd₁, hd₂, hfour', hbetween _ _ hfour' (by norm_num) (by norm_num)⟩

end Timeout

end ScriptHost
