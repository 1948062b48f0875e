import Mathlib.Data.List.Induction
import Mathlib.Data.List.TakeDrop
import Mathlib.Data.List.TakeWhile
import ScriptHost.Number.Decimal

/-!
# The grammar of numerals

The grammar of numerals as a relation between a text and the numeral that it spells, with all digits
of the exponent. The reader accepts exactly the texts of the grammar (`Numeral.isSome_parse?_iff`).
What it reads is the numeral that the text spells, but for an exponent beyond the limit, of which it
only knows that it is beyond (`Numeral.Spells.read`).

## Main definitions

* `Numeral.Spells` — the grammar.
* `Numeral.Clipped` — an exponent, and what is read of it.
* `Numeral.ReadAs` — a numeral, and what is read of it.
-/

namespace ScriptHost.Number.Numeral

variable {cs ds rest signs whole fraction places exponent : List Char} {c : Char}
  {negative : Bool} {e e' : Int} {n numeral : Numeral}

/-! ### The grammar -/

/-- Nothing but digits. -/
def Digits (cs : List Char) : Prop := ∀ c ∈ cs, isDigit c = true

instance (cs : List Char) : Decidable (Digits cs) :=
  decidable_of_iff (cs.all isDigit = true) List.all_eq_true

/-- An optional sign, and whether it is a minus. -/
inductive Sign : List Char → Bool → Prop
  | absent : Sign [] false
  | plus : Sign ['+'] false
  | minus : Sign ['-'] true

/-- An optional point, and the digits behind it. -/
inductive Fraction : List Char → List Char → Prop
  | absent : Fraction [] []
  | point {places : List Char} (hplaces : Digits places) : Fraction ('.' :: places) places

/-- An optional exponent. -/
inductive Exponent : List Char → Int → Prop
  | absent : Exponent [] 0
  | marked {c : Char} {signs ds : List Char} {negative : Bool} (hc : c = 'e' ∨ c = 'E')
    (hsign : Sign signs negative) (hds : Digits ds) (hne : ds ≠ []) :
    Exponent (c :: (signs ++ ds)) (if negative then -(ofDigits ds : Int) else ofDigits ds)

/-- A word for a numeral without digits. -/
inductive Word (negative : Bool) : String → Numeral → Prop
  | inf : Word negative "inf" (.infinite negative)
  | infinity : Word negative "infinity" (.infinite negative)
  | nan : Word negative "nan" .nan

/-- Digits with an optional point and exponent. -/
inductive Unsigned (negative : Bool) : List Char → Numeral → Prop
  | mk {whole fraction places exponent : List Char} {e : Int} (hwhole : Digits whole)
    (hfraction : Fraction fraction places) (hdigits : whole ++ places ≠ [])
    (hexponent : Exponent exponent e) :
    Unsigned negative (whole ++ (fraction ++ exponent))
      (.decimal negative (ofDigits (whole ++ places)) (e - places.length))

/-- The texts that spell a numeral. -/
inductive Spells : List Char → Numeral → Prop
  | unsigned {signs cs : List Char} {negative : Bool} {n : Numeral} (hsign : Sign signs negative)
    (hunsigned : Unsigned negative cs n) : Spells (signs ++ cs) n
  | word {signs cs : List Char} {negative : Bool} {n : Numeral} (hsign : Sign signs negative)
    (hword : Word negative (String.ofList (cs.map Char.toLower)) n) : Spells (signs ++ cs) n

/-! ### What is read -/

/-- An exponent that is at the limit or beyond is only known to be so. -/
inductive Clipped : Int → Int → Prop
  | within {e : Int} : Clipped e e
  | above {e e' : Int} (he : exponentLimit ≤ e) (he' : exponentLimit ≤ e') : Clipped e e'
  | below {e e' : Int} (he : e ≤ -exponentLimit) (he' : e' ≤ -exponentLimit) : Clipped e e'

/-- A numeral that is spelled in a text of some length is read but for its exponent. -/
inductive ReadAs (length : Nat) : Numeral → Numeral → Prop
  | decimal {negative : Bool} {ds : List Char} {places : Nat} {e e' : Int} (hds : Digits ds)
    (hlength : ds.length ≤ length) (hplaces : places ≤ ds.length) (hclipped : Clipped e e') :
    ReadAs length (.decimal negative (ofDigits ds) (e - places))
      (.decimal negative (ofDigits ds) (e' - places))
  | infinite {negative : Bool} : ReadAs length (.infinite negative) (.infinite negative)
  | nan : ReadAs length .nan .nan

/-! ### Digits -/

/-- Digits after digits are digits. -/
theorem Digits.append {cs ds : List Char} (hcs : Digits cs) (hds : Digits ds) :
    Digits (cs ++ ds) := by
  intro c hc
  rcases List.mem_append.mp hc with hc | hc
  · exact hcs c hc
  · exact hds c hc

/-- A text that does not go on with a digit. -/
def Ends (cs : List Char) : Prop := ∀ c ∈ cs.head?, isDigit c = false

/-- The digits in front of a text are read, if no more of them follow. -/
theorem spanDigits_append (hds : Digits ds) (hrest : Ends rest) :
    spanDigits (ds ++ rest) = (ds, rest) := by
  have htake : rest.takeWhile isDigit = [] ∧ rest.dropWhile isDigit = rest := by
    cases rest with
    | nil => simp
    | cons c rest =>
        have hc : isDigit c = false := hrest c rfl
        simp [hc]
  rw [spanDigits, List.span_eq_takeWhile_dropWhile, List.takeWhile_append_of_pos hds,
    List.dropWhile_append_of_pos hds, htake.1, htake.2, List.append_nil]

/-- Nothing is left of digits. -/
theorem spanDigits_of_digits (hds : Digits ds) : spanDigits ds = (ds, []) := by
  have hspan : spanDigits (ds ++ []) = (ds, []) := spanDigits_append hds (by simp [Ends])
  rwa [List.append_nil] at hspan

/-- A text is put together again from its digits and what follows. -/
theorem digits_of_spanDigits (h : spanDigits cs = (ds, rest)) : Digits ds ∧ cs = ds ++ rest := by
  rw [spanDigits, List.span_eq_takeWhile_dropWhile] at h
  obtain ⟨rfl, rfl⟩ := Prod.mk.inj h
  exact ⟨fun c hc => List.mem_takeWhile_imp hc, List.takeWhile_append_dropWhile.symm⟩

/-- One digit more makes ten times the number, and the digit. -/
theorem ofDigits_concat (ds : List Char) (d : Char) :
    ofDigits (ds ++ [d]) = 10 * ofDigits ds + (d.toNat - '0'.toNat) := by
  rw [ofDigits, List.foldl_append]
  rfl

/-- Digit by digit the magnitude of an exponent is that of its digits, until it has reached the
limit. -/
theorem exponentOfDigits_eq_or (ds : List Char) :
    exponentOfDigits ds = ofDigits ds ∨
      exponentLimit ≤ exponentOfDigits ds ∧ exponentLimit ≤ ofDigits ds := by
  induction ds using List.reverseRecOn with
  | nil => exact .inl rfl
  | append_singleton ds d ih =>
      have hread : exponentOfDigits (ds ++ [d]) = if exponentOfDigits ds < exponentLimit then
          10 * exponentOfDigits ds + (d.toNat - '0'.toNat) else exponentOfDigits ds := by
        rw [exponentOfDigits, List.foldl_append]
        rfl
      rw [hread, ofDigits_concat]
      split <;> omega

/-- The exponent that is read is the one that is written, or both are out of reach. -/
theorem clipped_exponentOfDigits (negative : Bool) (ds : List Char) :
    Clipped (if negative then -(ofDigits ds : Int) else ofDigits ds)
      (if negative then -(exponentOfDigits ds : Int) else exponentOfDigits ds) := by
  rcases exponentOfDigits_eq_or ds with heq | ⟨hread, hspelled⟩
  · rw [heq]
    exact .within
  · cases negative with
    | false => exact .above (Int.ofNat_le.mpr hspelled) (Int.ofNat_le.mpr hread)
    | true =>
        exact .below (Int.neg_le_neg (Int.ofNat_le.mpr hspelled))
          (Int.neg_le_neg (Int.ofNat_le.mpr hread))

/-! ### Signs -/

/-- A text that does not go on with a sign. -/
def Bare (cs : List Char) : Prop := ∀ c ∈ cs.head?, c ≠ '+' ∧ c ≠ '-'

/-- A text without a sign is read as positive. -/
theorem sign_of_bare (h : Bare cs) : sign cs = (false, cs) := by
  unfold sign
  split
  · exact absurd rfl (h '-' rfl).2
  · exact absurd rfl (h '+' rfl).1
  · rfl

/-- A sign is read as what it is. -/
theorem Sign.sign (hsign : Sign signs negative) (hrest : Bare rest) :
    sign (signs ++ rest) = (negative, rest) := by
  cases hsign with
  | absent => exact sign_of_bare hrest
  | plus | minus => rfl

/-- A text begins with the sign that is read, which may be none. -/
theorem exists_sign (cs : List Char) :
    ∃ signs, Sign signs (sign cs).1 ∧ cs = signs ++ (sign cs).2 := by
  unfold Numeral.sign
  split
  · exact ⟨['-'], .minus, rfl⟩
  · exact ⟨['+'], .plus, rfl⟩
  · exact ⟨[], .absent, rfl⟩

/-- A text that begins with digits has no sign. -/
theorem Digits.bare_append (hds : Digits ds) (hrest : ds = [] → Bare rest) :
    Bare (ds ++ rest) := by
  cases ds with
  | nil => exact hrest rfl
  | cons d ds =>
      have hd : isDigit d = true := hds d (List.mem_cons_self ..)
      intro c hc
      obtain rfl := Option.some.inj hc
      constructor <;> rintro rfl <;> cases hd

/-- Digits have no sign. -/
theorem Digits.bare (hds : Digits ds) : Bare ds := by
  have hbare : Bare (ds ++ []) := hds.bare_append fun _ => by simp [Bare]
  rwa [List.append_nil] at hbare

/-! ### Exponents -/

/-- An exponent does not go on with a digit. -/
theorem Exponent.ends (h : Exponent cs e) : Ends cs := by
  cases h with
  | absent => simp [Ends]
  | marked hc =>
      intro c' hc'
      obtain rfl := Option.some.inj hc'
      rcases hc with rfl | rfl <;> rfl

/-- An exponent is read up to the limit. -/
theorem Exponent.read (h : Exponent cs e) : ∃ e', exponent? cs = some e' ∧ Clipped e e' := by
  cases h with
  | absent => exact ⟨0, rfl, .within⟩
  | @marked c signs ds negative hc hsign hds hne =>
      refine ⟨_, ?_, clipped_exponentOfDigits negative ds⟩
      rw [exponent?, if_pos (by simpa using hc), hsign.sign hds.bare]
      dsimp only
      rw [spanDigits_of_digits hds]
      exact if_neg (by simpa using hne)

/-- Where an exponent is read, one is written. -/
theorem exists_exponent (h : exponent? cs = some e') : ∃ e, Exponent cs e := by
  cases cs with
  | nil => exact ⟨0, .absent⟩
  | cons c cs =>
      rw [exponent?] at h
      split at h
      · rename_i hc
        obtain ⟨signs, hsign, hcs⟩ := exists_sign cs
        generalize sign cs = signed at h hsign hcs
        obtain ⟨negative, cs'⟩ := signed
        dsimp only at h hsign hcs
        split at h
        · rename_i ds hspan
          obtain ⟨hds, rfl⟩ := digits_of_spanDigits hspan
          split at h
          · cases h
          · rename_i hne
            rw [List.append_nil] at hcs
            rw [hcs]
            exact ⟨_, .marked (by simpa using hc) hsign hds (by simpa using hne)⟩
        · cases h
      · cases h

/-! ### Numerals -/

/-- Nor does a fraction, with the exponent after it. -/
theorem Fraction.ends (h : Fraction fraction places) (hexponent : Exponent exponent e) :
    Ends (fraction ++ exponent) := by
  cases h with
  | absent => exact hexponent.ends
  | point _ => simp [Ends, isDigit]

/-- A text with digits does not begin with a second sign. -/
theorem Unsigned.bare (h : Unsigned negative cs n) : Bare cs := by
  cases h with
  | mk hwhole hfraction hdigits _ =>
      refine hwhole.bare_append fun hnone => ?_
      cases hfraction with
      | absent => exact absurd (by simp [hnone]) hdigits
      | point _ => simp [Bare]

/-- The digits before and behind the point are found. -/
theorem unsigned?_eq (hwhole : Digits whole) (hfraction : Fraction fraction places)
    (hdigits : whole ++ places ≠ []) (hexponent : Exponent exponent e) :
    unsigned? negative (whole ++ (fraction ++ exponent)) = (exponent? exponent).map fun e =>
      .decimal negative (ofDigits (whole ++ places)) (e - places.length) := by
  have hsome : ¬ (whole.isEmpty && places.isEmpty) = true := by simpa using hdigits
  rw [unsigned?, spanDigits_append hwhole (hfraction.ends hexponent)]
  cases hfraction with
  | absent =>
      cases hexponent with
      | absent => simp_all
      | marked hc => rcases hc with rfl | rfl <;> simp_all
  | point hplaces =>
      simp only [List.cons_append, spanDigits_append hplaces hexponent.ends, if_neg hsome]

/-- The places of a fraction are digits. -/
theorem Fraction.digits (h : Fraction fraction places) : Digits places := by
  cases h with
  | absent => simp [Digits]
  | point hplaces => exact hplaces

/-- A fraction has no more places than characters. -/
theorem Fraction.length_le (h : Fraction fraction places) : places.length ≤ fraction.length := by
  cases h with
  | absent => exact le_rfl
  | point _ => exact Nat.le_succ _

/-- **Digits are read with their point**, and the exponent up to the limit. -/
theorem Unsigned.read (h : Unsigned negative cs n) :
    ∃ numeral, unsigned? negative cs = some numeral ∧ ReadAs cs.length n numeral := by
  cases h with
  | mk hwhole hfraction hdigits hexponent =>
      obtain ⟨e', he', hclipped⟩ := hexponent.read
      have hlength := hfraction.length_le
      refine ⟨_, ?_, .decimal (hwhole.append hfraction.digits) ?_ ?_ hclipped⟩
      · rw [unsigned?_eq hwhole hfraction hdigits hexponent, he']
        rfl
      · simp only [List.length_append]
        omega
      · simp only [List.length_append]
        omega

/-- An exponent is read only behind digits. -/
theorem exponent_of_guarded {guard : Bool} {f : Int → Numeral}
    (h : (if guard = true then none else (exponent? cs).map f) = some numeral) :
    guard = false ∧ ∃ e, Exponent cs e := by
  split at h
  · cases h
  · rename_i hguard
    obtain ⟨e', he', -⟩ := Option.map_eq_some_iff.mp h
    exact ⟨Bool.eq_false_iff.mpr hguard, exists_exponent he'⟩

/-- A text that is read as digits is spelled so. -/
theorem exists_unsigned (h : unsigned? negative cs = some numeral) :
    ∃ n, Unsigned negative cs n := by
  rcases hspan : spanDigits cs with ⟨whole, rest⟩
  obtain ⟨hwhole, rfl⟩ := digits_of_spanDigits hspan
  rw [unsigned?, hspan] at h
  dsimp only at h
  -- What follows the digits is a fraction, also where there is no point.
  split at h
  · rename_i r
    rcases hplaces : spanDigits r with ⟨places, exponent⟩
    obtain ⟨hdigits, rfl⟩ := digits_of_spanDigits hplaces
    rw [hplaces] at h
    obtain ⟨hsome, e, he⟩ := exponent_of_guarded h
    exact ⟨_, .mk hwhole (.point hdigits) (by simpa using hsome) he⟩
  · obtain ⟨hsome, e, he⟩ := exponent_of_guarded h
    exact ⟨_, .mk hwhole .absent (by simpa using hsome) he⟩

/-! ### Words -/

/-- What begins a word is a letter. -/
theorem Word.exists_cons {s : String} (h : Word negative s n) :
    ∃ c cs, s.toList = c :: cs ∧ (c = 'i' ∨ c = 'n') := by
  cases h with
  | inf | infinity | nan => exact ⟨_, _, rfl, by decide⟩

/-- A word is read as the number that it stands for. -/
theorem Word.readAs {s : String} {length : Nat} (h : Word negative s n) : ReadAs length n n := by
  cases h <;> constructor

/-- Up to the digits there are no letters. -/
theorem toLower_eq_self (h : c ≤ '9') : c.toLower = c := by
  have hupper : ¬ (c.val ≥ 'A'.val ∧ c.val ≤ 'Z'.val) := by
    rintro ⟨hge, -⟩
    have hle : 'A'.val ≤ '9'.val := UInt32.le_trans hge h
    revert hle
    decide
  exact dif_neg hupper

/-- What begins a word begins nothing else. -/
theorem Word.first (h : Word negative (String.ofList (cs.map Char.toLower)) n) :
    ∃ c rest, cs = c :: rest ∧ isDigit c = false ∧ c ∉ ['.', '+', '-'] := by
  obtain ⟨lower, rest, hlist, hlower⟩ := h.exists_cons
  rw [String.toList_ofList] at hlist
  obtain ⟨c, rest', rfl, rfl, -⟩ := List.map_eq_cons_iff.mp hlist
  have hletter : ¬ c ≤ '9' := by
    intro hc
    rw [toLower_eq_self hc] at hlower
    rcases hlower with rfl | rfl <;> revert hc <;> decide
  refine ⟨c, rest', rfl, by simp [isDigit, hletter], ?_⟩
  intro hc
  simp only [List.mem_cons, List.not_mem_nil, or_false] at hc
  rcases hc with rfl | rfl | rfl <;> exact hletter (by decide)

/-- A word has no sign. -/
theorem Word.bare (h : Word negative (String.ofList (cs.map Char.toLower)) n) :
    Bare cs := by
  obtain ⟨c, rest, rfl, -, hc⟩ := h.first
  intro c' hc'
  obtain rfl := Option.some.inj hc'
  constructor <;> rintro rfl <;> simp at hc

/-- A word is no decimal. -/
theorem Word.unsigned?_eq_none (h : Word negative (String.ofList (cs.map Char.toLower)) n) :
    unsigned? negative cs = none := by
  obtain ⟨c, rest, rfl, hdigit, hc⟩ := h.first
  have hspan : spanDigits ([] ++ c :: rest) = ([], c :: rest) :=
    spanDigits_append (by simp [Digits]) (by simpa [Ends] using hdigit)
  rw [List.nil_append] at hspan
  rw [unsigned?, hspan]
  dsimp only
  split
  · simp_all
  · rfl

/-- **A word is read** in upper and lower case. -/
theorem word?_eq_some_iff :
    word? negative cs = some n ↔ Word negative (String.ofList (cs.map Char.toLower)) n := by
  rw [word?]
  generalize String.ofList (cs.map Char.toLower) = s
  constructor
  · intro h
    split at h <;> cases h
    · exact .inf
    · exact .infinity
    · exact .nan
  · intro h
    cases h <;> rfl

/-! ### The reader -/

/-- A numeral that is read in a text is read in a longer one. -/
theorem ReadAs.mono {length length' : Nat} (h : ReadAs length n numeral) (hle : length ≤ length') :
    ReadAs length' n numeral := by
  cases h with
  | decimal hds hlength hplaces hclipped => exact .decimal hds (hlength.trans hle) hplaces hclipped
  | infinite => exact .infinite
  | nan => exact .nan

/-- **A text of the grammar is read as what it spells**, but for the exponent. -/
theorem Spells.read (h : Spells cs n) :
    ∃ numeral, parse? (String.ofList cs) = some numeral ∧ ReadAs cs.length n numeral := by
  cases h with
  | unsigned hsign hunsigned =>
      obtain ⟨numeral, hnumeral, hread⟩ := hunsigned.read
      refine ⟨numeral, ?_, hread.mono (by simp)⟩
      rw [parse?, String.toList_ofList, hsign.sign hunsigned.bare]
      dsimp only
      rw [hnumeral]
      rfl
  | word hsign hword =>
      refine ⟨n, ?_, hword.readAs⟩
      rw [parse?, String.toList_ofList, hsign.sign hword.bare]
      dsimp only
      rw [hword.unsigned?_eq_none, word?_eq_some_iff.mpr hword]
      rfl

/-- Every text that is read is one of the grammar. -/
theorem exists_spells (h : parse? (String.ofList cs) = some numeral) : ∃ n, Spells cs n := by
  obtain ⟨signs, hsign, hcs⟩ := exists_sign cs
  rw [parse?, String.toList_ofList] at h
  rw [hcs]
  rcases Option.or_eq_some_iff.mp h with hdecimal | ⟨-, hword⟩
  · obtain ⟨n, hn⟩ := exists_unsigned hdecimal
    exact ⟨n, .unsigned hsign hn⟩
  · exact ⟨numeral, .word hsign (word?_eq_some_iff.mp hword)⟩

/-- **The reader accepts the texts of the grammar** and no other ones. -/
theorem isSome_parse?_iff : (parse? (String.ofList cs)).isSome ↔ ∃ n, Spells cs n := by
  constructor
  · intro h
    obtain ⟨numeral, hnumeral⟩ := Option.isSome_iff_exists.mp h
    exact exists_spells hnumeral
  · rintro ⟨n, hn⟩
    obtain ⟨numeral, hnumeral, -⟩ := hn.read
    rw [hnumeral, Option.isSome_some]

/-! ### One reading only -/

/-- Sign and digits of an exponent are found in its text. -/
theorem Exponent.sign_eq (h : Exponent (c :: cs) e) :
    ∃ negative ds, sign cs = (negative, ds) ∧
      e = if negative then -(ofDigits ds : Int) else ofDigits ds := by
  generalize hcs : c :: cs = l at h
  cases h with
  | absent => cases hcs
  | @marked c' signs ds negative hc hsign hds hne =>
      obtain ⟨-, rfl⟩ := List.cons.inj hcs
      exact ⟨negative, ds, hsign.sign hds.bare, rfl⟩

/-- An exponent is written in one way. -/
theorem Exponent.unique (h : Exponent cs e) (h' : Exponent cs e') : e = e' := by
  cases cs with
  | nil => cases h; cases h'; rfl
  | cons c cs =>
      obtain ⟨negative, ds, hsign, rfl⟩ := h.sign_eq
      obtain ⟨negative', ds', hsign', rfl⟩ := h'.sign_eq
      obtain ⟨rfl, rfl⟩ := Prod.mk.inj (hsign.symm.trans hsign')
      rfl

/-- An exponent does not begin like a fraction. -/
theorem Exponent.ne_point (h : Exponent cs e) : cs ≠ '.' :: ds := by
  rintro rfl
  generalize hcs : '.' :: ds = l at h
  cases h with
  | absent => cases hcs
  | marked hc =>
      obtain ⟨rfl, -⟩ := List.cons.inj hcs
      revert hc
      decide

/-- Fraction and exponent are told apart. -/
theorem Fraction.unique {fraction' places' exponent' : List Char} (h : Fraction fraction places)
    (he : Exponent exponent e) (h' : Fraction fraction' places') (he' : Exponent exponent' e')
    (heq : fraction ++ exponent = fraction' ++ exponent') : places = places' ∧ e = e' := by
  cases h with
  | absent =>
      cases h' with
      | absent =>
          obtain rfl : exponent = exponent' := heq
          exact ⟨rfl, he.unique he'⟩
      | point _ => exact absurd heq he.ne_point
  | point hplaces =>
      cases h' with
      | absent => exact absurd heq.symm he'.ne_point
      | point hplaces' =>
          have hrest : places ++ exponent = places' ++ exponent' := (List.cons.inj heq).2
          have hspan := congrArg spanDigits hrest
          rw [spanDigits_append hplaces he.ends, spanDigits_append hplaces' he'.ends] at hspan
          obtain ⟨rfl, rfl⟩ := Prod.mk.inj hspan
          exact ⟨rfl, he.unique he'⟩

/-- A numeral without a sign has one value. -/
theorem Unsigned.unique {n' : Numeral} (h : Unsigned negative cs n)
    (h' : Unsigned negative cs n') : n = n' := by
  generalize hcs : cs = cs' at h'
  cases h with
  | mk hwhole hfraction hdigits he =>
      cases h' with
      | mk hwhole' hfraction' hdigits' he' =>
          have hspan := congrArg spanDigits hcs
          rw [spanDigits_append hwhole (hfraction.ends he),
            spanDigits_append hwhole' (hfraction'.ends he')] at hspan
          obtain ⟨rfl, heq⟩ := Prod.mk.inj hspan
          obtain ⟨rfl, rfl⟩ := hfraction.unique he hfraction' he' heq
          rfl

/-- Digits are no word. -/
theorem Word.not_unsigned {n' : Numeral}
    (h : Word negative (String.ofList (cs.map Char.toLower)) n) : ¬ Unsigned negative cs n' := by
  intro hunsigned
  obtain ⟨numeral, hnumeral, -⟩ := hunsigned.read
  rw [h.unsigned?_eq_none] at hnumeral
  cases hnumeral

/-- What is spelled behind the sign of a text. -/
theorem Spells.behind_sign (h : Spells cs n) :
    Unsigned (sign cs).1 (sign cs).2 n ∨
      Word (sign cs).1 (String.ofList ((sign cs).2.map Char.toLower)) n := by
  cases h with
  | unsigned hsign hunsigned =>
      rw [hsign.sign hunsigned.bare]
      exact .inl hunsigned
  | word hsign hword =>
      rw [hsign.sign hword.bare]
      exact .inr hword

/-- **A text spells one numeral** at most. -/
theorem Spells.unique {n' : Numeral} (h : Spells cs n) (h' : Spells cs n') : n = n' := by
  rcases h.behind_sign with hunsigned | hword <;> rcases h'.behind_sign with hunsigned' | hword'
  · exact hunsigned.unique hunsigned'
  · exact absurd hunsigned hword'.not_unsigned
  · exact absurd hunsigned' hword.not_unsigned
  · have hread := word?_eq_some_iff.mpr hword
    rw [word?_eq_some_iff.mpr hword'] at hread
    exact (Option.some.inj hread).symm

end ScriptHost.Number.Numeral
