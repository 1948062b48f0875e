import ScriptHost.Json
import ScriptHost.Proofs.Number.Decimals

/-!
# The grammar of documents

The grammar of JSON, as a relation between a value, a text that begins with it, and what is left of
the text. Nothing of the layout is in it: blanks may stand between any two pieces, a character may
be written as itself or as an escape, and a number with a fraction or an exponent. A text is still a
document of one value at most (`Json.Document.unique`), since each piece begins differently and ends
where nothing more can belong to it.

## Main definitions

* `Json.Reads` — the grammar, for the five kinds of pieces.
* `Json.Document` — a whole text is a value.
* `Json.Character`, `Json.NumberText` — the characters of strings, and numbers.
-/

namespace ScriptHost.Json

open Number (Numeral)
open Number.Numeral (Digits Fraction Exponent ofDigits isDigit)

variable {cs ds es rest rest' : List Char} {c c' : Char} {n n' : Nat}

/-! ### Blanks -/

/-- The characters that count for nothing between pieces. -/
def blanks : List Char := [' ', '\t', '\n', '\r']

/-- A text with blanks in front. -/
inductive Blanks : List Char → List Char → Prop
  | done {rest : List Char} : Blanks rest rest
  | skip {c : Char} {cs rest : List Char} (hc : c ∈ blanks) (h : Blanks cs rest) :
    Blanks (c :: cs) rest

/-! ### Strings -/

/-- What the letters of escapes stand for. -/
def escapeLetters : List (Char × Char) :=
  [('"', '"'), ('\\', '\\'), ('/', '/'), ('b', '\x08'), ('f', '\x0c'), ('n', '\n'), ('r', '\r'),
    ('t', '\t')]

/-- The digits of hexadecimal numbers by their values. -/
def hexDigits : List Char :=
  ['0', '1', '2', '3', '4', '5', '6', '7', '8', '9', 'a', 'b', 'c', 'd', 'e', 'f']

/-- A hexadecimal digit in lower or upper case, and its value. -/
def HexDigit (c : Char) (n : Nat) : Prop := hexDigits[n]? = some c.toLower

instance (c : Char) (n : Nat) : Decidable (HexDigit c n) :=
  inferInstanceAs (Decidable (hexDigits[n]? = some c.toLower))

/-- A text that begins with four hexadecimal digits. -/
inductive CodeUnit : Nat → List Char → List Char → Prop
  | mk {a b c d : Char} {w x y z : Nat} {rest : List Char} (ha : HexDigit a w) (hb : HexDigit b x)
    (hc : HexDigit c y) (hd : HexDigit d z) :
    CodeUnit (((w * 16 + x) * 16 + y) * 16 + z) (a :: b :: c :: d :: rest) rest

/-- A text that begins with a character of a string. Characters beyond four digits are escaped by
two numbers. -/
inductive Character : Char → List Char → List Char → Prop
  | plain {c : Char} {rest : List Char} (hquote : c ≠ '"') (hbackslash : c ≠ '\\')
    (hcontrol : 0x20 ≤ c.toNat) : Character c (c :: rest) rest
  | letter {mark c : Char} {rest : List Char} (h : (mark, c) ∈ escapeLetters) :
    Character c ('\\' :: mark :: rest) rest
  | unit {n : Nat} {cs rest : List Char} (h : CodeUnit n cs rest) (hn : n < 0xD800 ∨ 0xE000 ≤ n) :
    Character (Char.ofNat n) ('\\' :: 'u' :: cs) rest
  | pair {high low : Nat} {cs ds rest : List Char} (hhigh : high < 0x400) (hlow : low < 0x400)
    (h : CodeUnit (0xD800 + high) cs ('\\' :: 'u' :: ds)) (h' : CodeUnit (0xDC00 + low) ds rest) :
    Character (Char.ofNat (0x10000 + (0x400 * high + low))) ('\\' :: 'u' :: cs) rest

/-- A text that begins with characters of a string and the quotation mark behind them. -/
inductive Characters : List Char → List Char → List Char → Prop
  | close {rest : List Char} : Characters [] ('"' :: rest) rest
  | more {c : Char} {s cs ds rest : List Char} (h : Character c cs ds) (h' : Characters s ds rest) :
    Characters (c :: s) cs rest

/-! ### Numbers -/

/-- The texts of integers: a minus if it is negative, digits without a zero in front, an optional
fraction with digits, and an optional exponent, all of which together have the value. -/
inductive NumberText : List Char → Int → Prop
  | mk {whole fraction places exponent : List Char} {negative : Bool} {e n : Int}
    (hwhole : Digits whole) (hne : whole ≠ []) (hzero : whole.head? = some '0' → whole = ['0'])
    (hfraction : Fraction fraction places) (hplaces : fraction ≠ [] → places ≠ [])
    (hexponent : Exponent exponent e)
    (hvalue : (Numeral.decimal negative (ofDigits (whole ++ places)) (e - places.length)).value?
      = some (n : ℚ)) :
    NumberText ((if negative then ['-'] else []) ++ (whole ++ (fraction ++ exponent))) n

/-! ### Values -/

/-- The kinds of pieces of a document. -/
inductive Kind where
  | value
  /-- A value with blanks around it. -/
  | element
  | elements
  /-- A key, a colon and an element. -/
  | member
  | members

/-- What a piece stands for. -/
@[reducible] def Kind.Meaning : Kind → Type
  | .value | .element => Json
  | .elements => List Json
  | .member => String × Json
  | .members => List (String × Json)

/-- A text that begins with a piece of a document. -/
inductive Reads : (k : Kind) → k.Meaning → List Char → List Char → Prop
  | null {rest : List Char} : Reads .value .null ('n' :: 'u' :: 'l' :: 'l' :: rest) rest
  | true {rest : List Char} : Reads .value (.bool true) ('t' :: 'r' :: 'u' :: 'e' :: rest) rest
  | false {rest : List Char} :
    Reads .value (.bool false) ('f' :: 'a' :: 'l' :: 's' :: 'e' :: rest) rest
  | number {cs ds rest : List Char} {n : Int} (h : NumberText ds n) (hcs : cs = ds ++ rest) :
    Reads .value (.number n) cs rest
  | text {s : String} {cs rest : List Char} (h : Characters s.toList cs rest) :
    Reads .value (.text s) ('"' :: cs) rest
  | emptyList {cs rest : List Char} (h : Blanks cs (']' :: rest)) :
    Reads .value (.list []) ('[' :: cs) rest
  | list {js : List Json} {cs rest : List Char} (h : Reads .elements js cs (']' :: rest)) :
    Reads .value (.list js) ('[' :: cs) rest
  | emptyObject {cs rest : List Char} (h : Blanks cs ('\x7d' :: rest)) :
    Reads .value (.object []) ('\x7b' :: cs) rest
  | object {ms : List (String × Json)} {cs rest : List Char}
    (h : Reads .members ms cs ('\x7d' :: rest)) : Reads .value (.object ms) ('\x7b' :: cs) rest
  | element {j : Json} {cs ds es rest : List Char} (hfront : Blanks cs ds)
    (h : Reads .value j ds es) (hback : Blanks es rest) : Reads .element j cs rest
  | lastElement {j : Json} {cs rest : List Char} (h : Reads .element j cs rest) :
    Reads .elements [j] cs rest
  | moreElements {j : Json} {js : List Json} {cs ds rest : List Char}
    (h : Reads .element j cs (',' :: ds)) (h' : Reads .elements js ds rest) :
    Reads .elements (j :: js) cs rest
  | member {key : String} {j : Json} {cs ds es fs rest : List Char} (hfront : Blanks cs ('"' :: ds))
    (hkey : Characters key.toList ds es) (hback : Blanks es (':' :: fs))
    (h : Reads .element j fs rest) : Reads .member (key, j) cs rest
  | lastMember {m : String × Json} {cs rest : List Char} (h : Reads .member m cs rest) :
    Reads .members [m] cs rest
  | moreMembers {m : String × Json} {ms : List (String × Json)} {cs ds rest : List Char}
    (h : Reads .member m cs (',' :: ds)) (h' : Reads .members ms ds rest) :
    Reads .members (m :: ms) cs rest

/-- A whole text is a value with blanks around it. -/
def Document (s : String) (j : Json) : Prop := Reads .element j s.toList []

/-! ### One reading only -/

/-- A text that does not go on with a blank. -/
def NotBlank (cs : List Char) : Prop := ∀ c ∈ cs.head?, c ∉ blanks

/-- Blanks end where something else begins. -/
theorem Blanks.unique (h : Blanks cs rest) (h' : Blanks cs rest') (hrest : NotBlank rest)
    (hrest' : NotBlank rest') : rest = rest' := by
  induction h with
  | done =>
      cases h' with
      | done => rfl
      | skip hc => exact absurd hc (hrest _ rfl)
  | skip hc _ ih =>
      cases h' with
      | done => exact absurd hc (hrest' _ rfl)
      | skip _ h' => exact ih h' hrest

/-- A hexadecimal digit has one value. -/
theorem HexDigit.unique (h : HexDigit c n) (h' : HexDigit c n') : n = n' := by
  have hnodup : hexDigits.Nodup := by decide
  exact (List.getElem?_inj (List.getElem?_eq_some_iff.mp h).1 hnodup).mp (h.trans h'.symm)

/-- Four hexadecimal digits have one value, and one text follows them. -/
theorem CodeUnit.unique (h : CodeUnit n cs rest) (h' : CodeUnit n' cs rest') :
    n = n' ∧ rest = rest' := by
  cases h with
  | mk ha hb hc hd =>
      cases h' with
      | mk ha' hb' hc' hd' =>
          obtain rfl := ha.unique ha'
          obtain rfl := hb.unique hb'
          obtain rfl := hc.unique hc'
          obtain rfl := hd.unique hd'
          exact ⟨rfl, rfl⟩

/-- A letter stands for one character, and is not the one that announces a number. -/
theorem escapeLetters_unique : ∀ p ∈ escapeLetters, ∀ q ∈ escapeLetters, p.1 = q.1 → p = q := by
  decide

/-- A character of a string is read in one way: an escape is not a plain character, and the two
halves of a pair are no characters by themselves. -/
theorem Character.unique (h : Character c cs rest) (h' : Character c' cs rest') :
    c = c' ∧ rest = rest' := by
  have hu : ∀ p ∈ escapeLetters, p.1 ≠ 'u' := by decide
  cases h with
  | plain hquote hbackslash hcontrol =>
      cases h' with
      | plain => exact ⟨rfl, rfl⟩
      | letter | unit | pair => exact absurd rfl hbackslash
  | letter hletter =>
      cases h' with
      | plain _ hbackslash => exact absurd rfl hbackslash
      | letter hletter' =>
          exact ⟨congrArg Prod.snd (escapeLetters_unique _ hletter _ hletter' rfl), rfl⟩
      | unit | pair => exact absurd rfl (hu _ hletter)
  | unit hunit hn =>
      cases h' with
      | plain _ hbackslash => exact absurd rfl hbackslash
      | letter hletter' => exact absurd rfl (hu _ hletter')
      | unit hunit' =>
          obtain ⟨rfl, rfl⟩ := hunit.unique hunit'
          exact ⟨rfl, rfl⟩
      | pair hhigh _ hunit' =>
          obtain ⟨rfl, -⟩ := hunit.unique hunit'
          omega
  | pair hhigh _ hunit hunit₂ =>
      cases h' with
      | plain _ hbackslash => exact absurd rfl hbackslash
      | letter hletter' => exact absurd rfl (hu _ hletter')
      | unit hunit' hn =>
          obtain ⟨rfl, -⟩ := hunit.unique hunit'
          omega
      | pair hhigh' _ hunit' hunit₂' =>
          obtain ⟨hsame, hds⟩ := hunit.unique hunit'
          obtain rfl : _ = _ := (List.cons.inj (List.cons.inj hds).2).2
          obtain ⟨hsame', rfl⟩ := hunit₂.unique hunit₂'
          exact ⟨by congr 1; omega, rfl⟩

/-- No character of a string begins with a quotation mark. -/
theorem Character.ne_quote (h : Character c ('"' :: cs) rest) : False := by
  cases h with
  | plain hquote => exact hquote rfl

/-- The characters of a string end at the first quotation mark that is not escaped. -/
theorem Characters.unique {s s' : List Char} (h : Characters s cs rest)
    (h' : Characters s' cs rest') : s = s' ∧ rest = rest' := by
  induction h generalizing s' with
  | close =>
      cases h' with
      | close => exact ⟨rfl, rfl⟩
      | more hc => exact hc.ne_quote.elim
  | more hc _ ih =>
      cases h' with
      | close => exact hc.ne_quote.elim
      | more hc' h' =>
          obtain ⟨rfl, rfl⟩ := hc.unique hc'
          obtain ⟨rfl, rfl⟩ := ih h'
          exact ⟨rfl, rfl⟩

/-! ### Where a number ends -/

/-- The characters of numbers. -/
def numberMarks : List Char :=
  ['0', '1', '2', '3', '4', '5', '6', '7', '8', '9', '-', '+', '.', 'e', 'E']

/-- A text that does not go on with a number. -/
def NotNumber (cs : List Char) : Prop := ∀ c ∈ cs.head?, c ∉ numberMarks

/-- Digits are characters of numbers. -/
theorem mem_numberMarks_of_isDigit (h : isDigit c = true) : c ∈ numberMarks := by
  obtain ⟨hle, hge⟩ := Bool.and_eq_true_iff.mp h
  have hvalue : c = Char.ofNat c.toNat := (Char.ofNat_toNat c).symm
  have hle' : 48 ≤ c.toNat := UInt32.le_iff_toNat_le.mp (of_decide_eq_true hle)
  have hge' : c.toNat ≤ 57 := UInt32.le_iff_toNat_le.mp (of_decide_eq_true hge)
  have hdigits : ∀ n < 58, 48 ≤ n → Char.ofNat n ∈ numberMarks := by decide
  rw [hvalue]
  exact hdigits _ (by omega) hle'

/-- So is all that an exponent is written with. -/
theorem Exponent.mem_numberMarks {e : Int} (h : Exponent ds e) : ∀ c ∈ ds, c ∈ numberMarks := by
  cases h with
  | absent => simp
  | @marked c signs digits negative hc hsign hdigits hne =>
      have hmark : c ∈ numberMarks := by rcases hc with rfl | rfl <;> decide
      have hsigns : ∀ c ∈ signs, c ∈ numberMarks := by cases hsign <;> simp [numberMarks]
      intro c' hc'
      rcases List.mem_cons.mp hc' with rfl | hc'
      · exact hmark
      · rcases List.mem_append.mp hc' with hc' | hc'
        · exact hsigns c' hc'
        · exact mem_numberMarks_of_isDigit (hdigits c' hc')

/-- So is all that a fraction is written with. -/
theorem Fraction.mem_numberMarks (h : Fraction ds es) : ∀ c ∈ ds, c ∈ numberMarks := by
  cases h with
  | absent => simp
  | point hplaces =>
      intro c hc
      rcases List.mem_cons.mp hc with rfl | hc
      · decide
      · exact mem_numberMarks_of_isDigit (hplaces c hc)

/-- A number is written with characters of numbers only. -/
theorem NumberText.mem_numberMarks {n : Int} (h : NumberText ds n) : ∀ c ∈ ds, c ∈ numberMarks := by
  cases h with
  | @mk whole fraction places exponent negative e _ hwhole _ _ hfraction _ hexponent _ =>
      have hsign : ∀ c ∈ (if negative then ['-'] else []), c ∈ numberMarks := by
        cases negative <;> simp [numberMarks]
      intro c hc
      simp only [List.mem_append] at hc
      rcases hc with hc | hc | hc | hc
      · exact hsign c hc
      · exact mem_numberMarks_of_isDigit (hwhole c hc)
      · exact Fraction.mem_numberMarks hfraction c hc
      · exact Exponent.mem_numberMarks hexponent c hc

/-- A number is not nothing. -/
theorem NumberText.ne_nil {n : Int} (h : NumberText ds n) : ds ≠ [] := by
  cases h with
  | mk _ hne => simp [hne]

/-- A number does not begin like anything else. -/
theorem NumberText.not_cons {n : Int} (h : NumberText ds n) (hcs : c :: cs = ds ++ rest)
    (hc : c ∉ numberMarks) : False := by
  obtain ⟨d, ds, rfl⟩ := List.exists_cons_of_ne_nil h.ne_nil
  obtain ⟨rfl, -⟩ := List.cons.inj hcs
  exact hc (h.mem_numberMarks c (List.mem_cons_self ..))

/-- The numbers of documents are numerals. -/
theorem NumberText.spells {n : Int} (h : NumberText ds n) :
    ∃ numeral, Numeral.Spells ds numeral ∧ numeral.value? = some (n : ℚ) := by
  cases h with
  | @mk whole fraction places exponent negative e _ hwhole hne _ hfraction _ hexponent hvalue =>
      have hsign : Numeral.Sign (if negative then ['-'] else []) negative := by
        cases negative
        · exact .absent
        · exact .minus
      exact ⟨_, .unsigned hsign (.mk hwhole hfraction (by simp [hne]) hexponent), hvalue⟩

/-- The text of a number has one value. -/
theorem NumberText.unique {n n' : Int} (h : NumberText ds n) (h' : NumberText ds n') : n = n' := by
  obtain ⟨numeral, hspells, hvalue⟩ := h.spells
  obtain ⟨numeral', hspells', hvalue'⟩ := h'.spells
  obtain rfl := hspells.unique hspells'
  exact Int.cast_injective (Option.some.inj (hvalue.symm.trans hvalue'))

/-- A number that is not continued is told from what follows it. -/
theorem append_unique (hds : ∀ c ∈ ds, c ∈ numberMarks) (hes : ∀ c ∈ es, c ∈ numberMarks)
    (hrest : NotNumber rest) (hrest' : NotNumber rest') (heq : ds ++ rest = es ++ rest') :
    ds = es ∧ rest = rest' := by
  have hspan (ds rest : List Char) (hds : ∀ c ∈ ds, c ∈ numberMarks) (hrest : NotNumber rest) :
      (ds ++ rest).takeWhile (· ∈ numberMarks) = ds := by
    rw [List.takeWhile_append_of_pos (by simpa using hds)]
    cases rest with
    | nil => simp
    | cons c rest => simp [hrest c rfl]
  have hsame : ds = es := by
    rw [← hspan ds rest hds hrest, heq, hspan es rest' hes hrest']
  subst hsame
  exact ⟨rfl, List.append_cancel_left heq⟩

/-! ### Where a piece ends -/

/-- A text that goes on with what separates pieces or closes them, or that ends. -/
def Stops (cs : List Char) : Prop := ∀ c ∈ cs.head?, c ∈ [',', ']', '\x7d']

/-- What separates pieces or closes them is no blank. -/
theorem Stops.notBlank (h : Stops cs) : NotBlank cs := by
  have hstops : ∀ c ∈ [',', ']', '\x7d'], c ∉ blanks := by simp [blanks]
  exact fun c hc => hstops c (h c hc)

/-- Neither a blank nor what separates pieces goes on with a number. -/
theorem Stops.notNumber (h : Stops rest) (hblanks : Blanks cs rest) : NotNumber cs := by
  have hstops : ∀ c ∈ [',', ']', '\x7d'], c ∉ numberMarks := by simp [numberMarks]
  have hblank : ∀ c ∈ blanks, c ∉ numberMarks := by simp [blanks, numberMarks]
  cases hblanks with
  | done => exact fun c hc => hstops c (h c hc)
  | skip hc =>
      intro c' hc'
      obtain rfl := Option.some.inj hc'
      exact hblank _ hc

/-- What may follow a piece of a document. -/
def Kind.Ends : Kind → List Char → Prop
  | .value, cs => NotNumber cs
  | .element, cs | .member, cs => Stops cs
  | .elements, cs => cs.head? = some ']'
  | .members, cs => cs.head? = some '\x7d'

/-- A text stops that goes on with what separates pieces or closes them. -/
theorem stops_of_head? (h : cs.head? = some c) (hc : c ∈ [',', ']', '\x7d']) : Stops cs := by
  intro d hd
  obtain rfl := Option.some.inj (h.symm.trans hd)
  exact hc

/-- A value begins neither with a blank nor with what separates or closes pieces. -/
theorem Reads.value_cons {j : Json} (h : Reads .value j cs rest) :
    ∃ c ds, cs = c :: ds ∧ c ∉ blanks ∧ c ≠ ']' := by
  cases h with
  | null | true | false | text _ | emptyList _ | list _ | emptyObject _ | object _ =>
      exact ⟨_, _, rfl, by decide, by decide⟩
  | number hn hcs =>
      have hmarks : ∀ c ∈ numberMarks, c ∉ blanks ∧ c ≠ ']' := by simp [blanks, numberMarks]
      obtain ⟨c, ds, rfl⟩ := List.exists_cons_of_ne_nil hn.ne_nil
      exact ⟨c, _, hcs, hmarks c (hn.mem_numberMarks c (List.mem_cons_self ..))⟩

/-- A value does not begin with a blank. -/
theorem Reads.notBlank {j : Json} (h : Reads .value j cs rest) : NotBlank cs := by
  obtain ⟨c, ds, rfl, hc, -⟩ := h.value_cons
  intro d hd
  obtain rfl := Option.some.inj hd
  exact hc

/-- Nor does a text that begins with another character than one. -/
theorem notBlank_cons (hc : c ∉ blanks) : NotBlank (c :: cs) := by
  intro d hd
  obtain rfl := Option.some.inj hd
  exact hc

/-- Elements are not nothing. -/
theorem Reads.not_closed {js : List Json} (h : Reads .elements js cs rest)
    (hblanks : Blanks cs (']' :: rest')) : False := by
  have helement {j : Json} {rest : List Char} (h : Reads .element j cs rest) : False := by
    cases h with
    | element hfront hv hback =>
        obtain ⟨c, ds, rfl, hc, hne⟩ := hv.value_cons
        obtain ⟨rfl, -⟩ := List.cons.inj
          (hfront.unique hblanks (notBlank_cons hc) (notBlank_cons (by decide)))
        exact hne rfl
  cases h with
  | lastElement h => exact helement h
  | moreElements h => exact helement h

/-- Members are not nothing. -/
theorem Reads.not_closed_object {ms : List (String × Json)} (h : Reads .members ms cs rest)
    (hblanks : Blanks cs ('\x7d' :: rest')) : False := by
  have hmember {m : String × Json} {rest : List Char} (h : Reads .member m cs rest) : False := by
    cases h with
    | member hfront =>
        have heq := hfront.unique hblanks (notBlank_cons (by decide)) (notBlank_cons (by decide))
        exact absurd (List.cons.inj heq).1 (by decide)
  cases h with
  | lastMember h => exact hmember h
  | moreMembers h => exact hmember h

/-- A text begins with nothing that is read so but this, if it ends where the text goes on. -/
def OnlyAs {α : Type} (Reading : α → List Char → List Char → Prop) (Ends : List Char → Prop) (v : α)
    (cs rest : List Char) : Prop :=
  ∀ v' rest', Ends rest → Reading v' cs rest' → Ends rest' → v = v' ∧ rest = rest'

/-- A text begins with no piece of this kind but this one. -/
def Only (k : Kind) (v : k.Meaning) (cs rest : List Char) : Prop :=
  OnlyAs (Reads k) k.Ends v cs rest

section Series

variable {α : Type} {One : α → List Char → List Char → Prop}
  {Many : List α → List Char → List Char → Prop} {x : α} {xs : List α}

/-- Many pieces are the last of them, or one of them, a comma and more. -/
def Separated (One : α → List Char → List Char → Prop)
    (Many : List α → List Char → List Char → Prop) : Prop :=
  ∀ {xs cs rest}, Many xs cs rest → ∃ x, xs = [x] ∧ One x cs rest ∨
    ∃ ys ds, xs = x :: ys ∧ One x cs (',' :: ds) ∧ Many ys ds rest

/-- The elements of a list are separated. -/
theorem separated_elements : Separated (Reads .element) (Reads .elements) := by
  intro js cs rest h
  cases h with
  | lastElement h => exact ⟨_, .inl ⟨rfl, h⟩⟩
  | moreElements h hmore => exact ⟨_, .inr ⟨_, _, rfl, h, hmore⟩⟩

/-- So are the members of an object. -/
theorem separated_members : Separated (Reads .member) (Reads .members) := by
  intro ms cs rest h
  cases h with
  | lastMember h => exact ⟨_, .inl ⟨rfl, h⟩⟩
  | moreMembers h hmore => exact ⟨_, .inr ⟨_, _, rfl, h, hmore⟩⟩

variable (hseparated : Separated One Many) (hc : c = ']' ∨ c = '\x7d')

include hseparated hc

/-- The piece in front of what closes them is the last one. -/
theorem onlyAs_last (h : OnlyAs One Stops x cs rest) :
    OnlyAs Many (fun cs => cs.head? = some c) [x] cs rest := by
  intro xs' rest' hrest h' hrest'
  have hcloses : c ∈ [',', ']', '\x7d'] := by rcases hc with rfl | rfl <;> decide
  have hstops : Stops rest := stops_of_head? hrest hcloses
  obtain ⟨x', ⟨rfl, hx⟩ | ⟨ys, ds, rfl, hx, -⟩⟩ := hseparated h'
  · obtain ⟨rfl, rfl⟩ := h _ _ hstops hx (stops_of_head? hrest' hcloses)
    exact ⟨rfl, rfl⟩
  · obtain ⟨-, rfl⟩ := h _ _ hstops hx (stops_of_head? rfl (by decide))
    rcases hc with rfl | rfl <;> exact absurd (Option.some.inj hrest) (by decide)

/-- After the piece in front of a comma more of them follow. -/
theorem onlyAs_more (h : OnlyAs One Stops x cs (',' :: ds))
    (hmore : OnlyAs Many (fun cs => cs.head? = some c) xs ds rest) :
    OnlyAs Many (fun cs => cs.head? = some c) (x :: xs) cs rest := by
  intro xs' rest' hrest h' hrest'
  have hcloses : c ∈ [',', ']', '\x7d'] := by rcases hc with rfl | rfl <;> decide
  have hcomma (cs : List Char) : Stops (',' :: cs) := stops_of_head? rfl (by decide)
  obtain ⟨x', ⟨rfl, hx⟩ | ⟨ys, ds', rfl, hx, hys⟩⟩ := hseparated h'
  · obtain ⟨-, rfl⟩ := h _ _ (hcomma _) hx (stops_of_head? hrest' hcloses)
    rcases hc with rfl | rfl <;> exact absurd (Option.some.inj hrest') (by decide)
  · obtain ⟨rfl, heq⟩ := h _ _ (hcomma _) hx (hcomma _)
    obtain ⟨-, rfl⟩ := List.cons.inj heq
    obtain ⟨rfl, rfl⟩ := hmore _ _ hrest hys hrest'
    exact ⟨rfl, rfl⟩

end Series

/-- A number is read as what it spells, as far as it goes. -/
theorem only_number {n : Int} (hn : NumberText ds n) :
    Only .value (.number n) (ds ++ rest) rest := by
  intro v' rest' hrest h' hrest'
  generalize hcs : ds ++ rest = cs at h'
  cases h' with
  | number hn' hcs' =>
      obtain ⟨rfl, rfl⟩ := append_unique hn.mem_numberMarks hn'.mem_numberMarks hrest hrest'
        (hcs.trans hcs')
      obtain rfl := hn.unique hn'
      exact ⟨rfl, rfl⟩
  | null | true | false | text _ | emptyList _ | list _ | emptyObject _ | object _ =>
      exact (hn.not_cons hcs.symm (by decide)).elim

/-- A string is read as its characters. -/
theorem only_text {s : String} (hs : Characters s.toList cs rest) :
    Only .value (.text s) ('"' :: cs) rest := by
  intro v' rest' _ h' _
  cases h' with
  | text hs' =>
      obtain ⟨heq, rfl⟩ := hs.unique hs'
      obtain rfl := String.toList_inj.mp heq
      exact ⟨rfl, rfl⟩
  | number hn hcs => exact (hn.not_cons hcs (by decide)).elim

/-- Brackets with nothing between them are the empty list. -/
theorem only_emptyList (hblanks : Blanks cs (']' :: rest)) :
    Only .value (.list []) ('[' :: cs) rest := by
  intro v' rest' _ h' _
  cases h' with
  | emptyList hblanks' =>
      have heq := hblanks.unique hblanks' (notBlank_cons (by decide)) (notBlank_cons (by decide))
      exact ⟨rfl, (List.cons.inj heq).2⟩
  | list helements => exact (helements.not_closed hblanks).elim
  | number hn hcs => exact (hn.not_cons hcs (by decide)).elim

/-- Brackets are read as the list of what stands between them. -/
theorem only_list {js : List Json} (helements : Reads .elements js cs (']' :: rest))
    (h : Only .elements js cs (']' :: rest)) : Only .value (.list js) ('[' :: cs) rest := by
  intro v' rest' _ h' _
  cases h' with
  | emptyList hblanks => exact (helements.not_closed hblanks).elim
  | list helements' =>
      obtain ⟨rfl, heq⟩ := h _ _ rfl helements' rfl
      exact ⟨rfl, (List.cons.inj heq).2⟩
  | number hn hcs => exact (hn.not_cons hcs (by decide)).elim

/-- Braces with nothing between them are the empty object. -/
theorem only_emptyObject (hblanks : Blanks cs ('\x7d' :: rest)) :
    Only .value (.object []) ('\x7b' :: cs) rest := by
  intro v' rest' _ h' _
  cases h' with
  | emptyObject hblanks' =>
      have heq := hblanks.unique hblanks' (notBlank_cons (by decide)) (notBlank_cons (by decide))
      exact ⟨rfl, (List.cons.inj heq).2⟩
  | object hmembers => exact (hmembers.not_closed_object hblanks).elim
  | number hn hcs => exact (hn.not_cons hcs (by decide)).elim

/-- Braces are read as the object of what stands between them. -/
theorem only_object {ms : List (String × Json)} (hmembers : Reads .members ms cs ('\x7d' :: rest))
    (h : Only .members ms cs ('\x7d' :: rest)) : Only .value (.object ms) ('\x7b' :: cs) rest := by
  intro v' rest' _ h' _
  cases h' with
  | emptyObject hblanks => exact (hmembers.not_closed_object hblanks).elim
  | object hmembers' =>
      obtain ⟨rfl, heq⟩ := h _ _ rfl hmembers' rfl
      exact ⟨rfl, (List.cons.inj heq).2⟩
  | number hn hcs => exact (hn.not_cons hcs (by decide)).elim

/-- An element is read as the value in it, with all blanks around it. -/
theorem only_element {j : Json} (hfront : Blanks cs ds) (hvalue : Reads .value j ds es)
    (hback : Blanks es rest) (h : Only .value j ds es) : Only .element j cs rest := by
  intro v' rest' hrest h' hrest'
  cases h' with
  | element hfront' hvalue' hback' =>
      obtain rfl := hfront.unique hfront' hvalue.notBlank hvalue'.notBlank
      obtain ⟨rfl, rfl⟩ := h _ _ (Stops.notNumber hrest hback) hvalue'
        (Stops.notNumber hrest' hback')
      exact ⟨rfl, hback.unique hback' (Stops.notBlank hrest) (Stops.notBlank hrest')⟩

/-- A member is read as its key and its element. -/
theorem only_member {key : String} {j : Json} {fs : List Char} (hfront : Blanks cs ('"' :: ds))
    (hkey : Characters key.toList ds es) (hback : Blanks es (':' :: fs))
    (h : Only .element j fs rest) : Only .member (key, j) cs rest := by
  intro v' rest' hrest h' hrest'
  cases h' with
  | member hfront' hkey' hback' helement' =>
      have hquote := hfront.unique hfront' (notBlank_cons (by decide)) (notBlank_cons (by decide))
      obtain ⟨-, rfl⟩ := List.cons.inj hquote
      obtain ⟨hs, rfl⟩ := hkey.unique hkey'
      obtain rfl := String.toList_inj.mp hs
      have hcolon := hback.unique hback' (notBlank_cons (by decide)) (notBlank_cons (by decide))
      obtain ⟨-, rfl⟩ := List.cons.inj hcolon
      obtain ⟨rfl, rfl⟩ := h _ _ hrest helement' hrest'
      exact ⟨rfl, rfl⟩

/-- Each piece is the only one of its kind that the text begins with. -/
theorem Reads.only {k : Kind} {v : k.Meaning} (h : Reads k v cs rest) : Only k v cs rest := by
  induction h with
  | null =>
      intro v' rest' _ h' _
      cases h' with
      | null => exact ⟨rfl, rfl⟩
      | number hn hcs => exact (hn.not_cons hcs (by decide)).elim
  | true =>
      intro v' rest' _ h' _
      cases h' with
      | true => exact ⟨rfl, rfl⟩
      | number hn hcs => exact (hn.not_cons hcs (by decide)).elim
  | false =>
      intro v' rest' _ h' _
      cases h' with
      | false => exact ⟨rfl, rfl⟩
      | number hn hcs => exact (hn.not_cons hcs (by decide)).elim
  | number hn hcs => exact hcs ▸ only_number hn
  | text hs => exact only_text hs
  | emptyList hblanks => exact only_emptyList hblanks
  | list helements ih => exact only_list helements ih
  | emptyObject hblanks => exact only_emptyObject hblanks
  | object hmembers ih => exact only_object hmembers ih
  | element hfront hvalue hback ih => exact only_element hfront hvalue hback ih
  | lastElement _ ih => exact onlyAs_last separated_elements (.inl rfl) ih
  | moreElements _ _ ih ihmore => exact onlyAs_more separated_elements (.inl rfl) ih ihmore
  | member hfront hkey hback _ ih => exact only_member hfront hkey hback ih
  | lastMember _ ih => exact onlyAs_last separated_members (.inr rfl) ih
  | moreMembers _ _ ih ihmore => exact onlyAs_more separated_members (.inr rfl) ih ihmore

/-- **A text begins with one piece of a kind**, if the piece ends where the text goes on. -/
theorem Reads.unique {k : Kind} {v v' : k.Meaning} (h : Reads k v cs rest)
    (h' : Reads k v' cs rest')
    (hrest : k.Ends rest) (hrest' : k.Ends rest') : v = v' ∧ rest = rest' :=
  h.only v' rest' hrest h' hrest'

/-- **A text is a document of one value** at most. -/
theorem Document.unique {s : String} {j j' : Json} (h : Document s j) (h' : Document s j') :
    j = j' := by
  have hend : Stops [] := by simp [Stops]
  exact (Reads.unique h h' hend hend).1

end ScriptHost.Json
