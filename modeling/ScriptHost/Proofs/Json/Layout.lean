import ScriptHost.Proofs.Json.Grammar

/-!
# The layout of documents

What is printed for a value is a text of the grammar that stands for the value, at every level of
indentation and before every text that follows (`Json.reads_pretty`). So the document of a value is
a document of this value and of no other one (`Json.document_render_iff`).
-/

namespace ScriptHost.Json

open Number (Numeral)
open Number.Numeral (Digits ofDigits isDigit)

variable {cs rest : List Char}

/-! ### Strings -/

/-- The hexadecimal digit of a number is read as the number. -/
theorem hexDigit_hexDigit : ∀ n < 16, HexDigit (hexDigit n) n := by decide

/-- A control character that has no letter is escaped by its number. -/
theorem character_control {c : Char} (hc : c.toNat < 0x20) :
    Character c
      ('\\' :: 'u' :: '0' :: '0' :: hexDigit (c.toNat / 16) :: hexDigit (c.toNat % 16) :: rest)
      rest := by
  have hzero : HexDigit '0' 0 := by decide
  have hunit : CodeUnit (((0 * 16 + 0) * 16 + c.toNat / 16) * 16 + c.toNat % 16)
      ('0' :: '0' :: hexDigit (c.toNat / 16) :: hexDigit (c.toNat % 16) :: rest) rest :=
    .mk hzero hzero (hexDigit_hexDigit _ (by omega)) (hexDigit_hexDigit _ (by omega))
  have hvalue : ((0 * 16 + 0) * 16 + c.toNat / 16) * 16 + c.toNat % 16 = c.toNat := by omega
  rw [hvalue] at hunit
  have h := Character.unit hunit (.inl (by omega))
  rwa [Char.ofNat_toNat] at h

/-- What is written for a character of a string is read as this character. -/
theorem character_escape (c : Char) (rest : List Char) : Character c (escape c ++ rest) rest := by
  unfold escape
  split
  · exact .letter (by decide)
  · exact .letter (by decide)
  · exact .letter (by decide)
  · exact .letter (by decide)
  · exact .letter (by decide)
  · rename_i hquote hbackslash _ _ _
    split
    · rename_i h
      obtain rfl : c = '\x08' := Char.toNat_inj.mp h
      exact .letter (by decide)
    · split
      · rename_i h
        obtain rfl : c = '\x0c' := Char.toNat_inj.mp h
        exact .letter (by decide)
      · split
        · rename_i h
          exact character_control h
        · rename_i h
          exact .plain hquote hbackslash (Nat.not_lt.mp h)

/-- Characters that are escaped one by one are read as they were. -/
theorem characters_flatMap (s rest : List Char) :
    Characters s (s.flatMap escape ++ '"' :: rest) rest := by
  induction s with
  | nil => exact .close
  | cons c s ih =>
      rw [List.flatMap_cons, List.append_assoc]
      exact .more (character_escape c _) ih

/-- A quoted text is its escaped characters between quotation marks. -/
theorem toList_quote (s : String) :
    (quote s).toList = '"' :: (s.toList.flatMap escape ++ ['"']) := by
  rw [quote, String.toList_ofList, List.cons_append]

/-! ### Numbers -/

/-- A digit is a digit of a numeral. -/
theorem isDigit_of_isDigit {c : Char} (h : c.isDigit = true) : isDigit c = true := by
  simpa [Char.isDigit, isDigit, Char.le_def] using h

/-- The digits of a number do not begin with a zero that stands for nothing. -/
theorem toDigits_eq_zero {n : Nat} (h : (Nat.toDigits 10 n).head? = some '0') :
    Nat.toDigits 10 n = ['0'] := by
  induction n using Nat.strongRecOn with
  | ind n ih =>
      rw [Nat.toDigits_eq_if (by decide)] at h ⊢
      split
      · rename_i hlt
        rw [if_pos hlt] at h
        rw [Option.some.inj h]
      · rename_i hge
        rw [if_neg hge, List.head?_append_of_ne_nil _ Nat.toDigits_ne_nil] at h
        have hfront := ih (n / 10) (by omega) h
        have hvalue : Nat.ofDigitChars 10 (Nat.toDigits 10 (n / 10)) 0 = n / 10 :=
          Nat.ofDigitChars_toDigits (by decide) (by decide)
        rw [hfront] at hvalue
        have hzero : Nat.ofDigitChars 10 ['0'] 0 = 0 := by decide
        omega

/-- The digits of a number spell it. -/
theorem ofDigits_toDigits (n : Nat) : ofDigits (Nat.toDigits 10 n) = n := by
  have hvalue : Nat.ofDigitChars 10 (Nat.toDigits 10 n) 0 = n :=
    Nat.ofDigitChars_toDigits (by decide) (by decide)
  rwa [Nat.ofDigitChars_eq_foldl] at hvalue

/-- An integer is written as a number of documents. -/
theorem numberText_toDigits (negative : Bool) (n : Nat) :
    NumberText ((if negative then ['-'] else []) ++ Nat.toDigits 10 n)
      (if negative then -(n : Int) else n) := by
  have h : NumberText ((if negative then ['-'] else []) ++ (Nat.toDigits 10 n ++ ([] ++ [])))
      (if negative then -(n : Int) else n) := by
    refine .mk (fun c hc => ?_) Nat.toDigits_ne_nil toDigits_eq_zero .absent (absurd rfl) .absent ?_
    · exact isDigit_of_isDigit (Nat.isDigit_of_mem_toDigits (by decide) (by decide) hc)
    · rw [List.append_nil, ofDigits_toDigits, Numeral.value?]
      cases negative <;> simp
  rwa [List.append_nil, List.append_nil] at h

/-- A number is written as a number of documents. -/
theorem numberText_toString (n : Int) : NumberText (toString n).toList n := by
  rw [Int.toString_eq_repr]
  cases n with
  | ofNat n =>
      rw [Int.repr, Nat.toList_repr]
      exact numberText_toDigits false n
  | negSucc n =>
      rw [Int.repr, String.toList_append, Nat.toList_repr]
      exact numberText_toDigits true (n + 1)

/-! ### Values -/

/-- A new line is a line break and two blanks for each level. -/
theorem toList_newline (level : Nat) :
    (newline level).toList = '\n' :: List.replicate (2 * level) ' ' := by
  have hpushn (n : Nat) : ("".pushn ' ' n).toList = List.replicate n ' ' := by
    rw [String.pushn_eq_repeat_push]
    induction n with
    | zero => rfl
    | succ n ih => rw [Nat.repeat, String.toList_push, ih, List.replicate_succ']
  rw [newline, String.toList_append, hpushn]
  rfl

/-- A line break and an indentation are blanks. -/
theorem blanks_newline (level : Nat) (rest : List Char) :
    Blanks ((newline level).toList ++ rest) rest := by
  have hspaces (n : Nat) : Blanks (List.replicate n ' ' ++ rest) rest := by
    induction n with
    | zero => exact .done
    | succ n ih =>
        rw [List.replicate_succ, List.cons_append]
        exact .skip (by decide) ih
  rw [toList_newline, List.cons_append]
  exact .skip (by decide) (hspaces _)

mutual

/-- **What is printed for a value is read as this value.** -/
theorem reads_pretty (level : Nat) : (j : Json) → (rest : List Char) →
    Reads .value j ((pretty level j).toList ++ rest) rest
  | .null, rest => by
    rw [pretty]
    exact .null
  | .bool true, rest => by
    rw [pretty]
    exact .true
  | .bool false, rest => by
    rw [pretty]
    exact .false
  | .number n, rest => by
    rw [pretty]
    exact .number (numberText_toString n) rfl
  | .text s, rest => by
    rw [pretty, toList_quote, List.cons_append, List.append_assoc]
    exact .text (characters_flatMap _ _)
  | .list [], rest => by
    rw [pretty]
    exact .emptyList .done
  | .list (x :: xs), rest => by
    rw [pretty]
    simp only [String.toList_append, List.append_assoc]
    exact .list (reads_elements (level + 1) xs (reads_pretty (level + 1) x)
      (blanks_newline level (']' :: rest)) (blanks_newline (level + 1) _))
  | .object [], rest => by
    rw [pretty]
    exact .emptyObject .done
  | .object (m :: ms), rest => by
    rw [pretty]
    simp only [String.toList_append, List.append_assoc]
    exact .object (reads_members (level + 1) ms (reads_member (level + 1) m)
      (blanks_newline level ('\x7d' :: rest)) (blanks_newline (level + 1) _))

/-- The elements of a list, from one that is read as itself up to the bracket behind them. -/
theorem reads_elements (level : Nat) : (js : List Json) → {j : Json} → {cs back rest : List Char} →
    (∀ ds, Reads .value j ((pretty level j).toList ++ ds) ds) → Blanks back (']' :: rest) →
    Blanks cs ((pretty level j).toList ++ ((elements level js).toList ++ back)) →
    Reads .elements (j :: js) cs (']' :: rest)
  | [], _, _, _, _, h, hback, hfront => by
    rw [elements] at hfront
    exact .lastElement (.element hfront (h _) hback)
  | x :: xs, _, _, _, _, h, hback, hfront => by
    rw [elements] at hfront
    simp only [String.toList_append, List.append_assoc] at hfront
    exact .moreElements (.element hfront (h _) .done)
      (reads_elements level xs (reads_pretty level x) hback (blanks_newline level _))

/-- A member with blanks around it. -/
theorem reads_member (level : Nat) : (m : String × Json) → {cs back rest : List Char} →
    Blanks back rest → Blanks cs ((member level m).toList ++ back) → Reads .member m cs rest
  | (key, j), cs, back, rest, hback, hfront => by
    rw [member] at hfront
    simp only [String.toList_append, toList_quote, List.append_assoc, List.cons_append] at hfront
    exact .member hfront (characters_flatMap _ _) .done
      (.element (.skip (by decide) .done) (reads_pretty level j back) hback)

/-- The members of an object, from one that is read as itself up to the brace behind them. -/
theorem reads_members (level : Nat) : (ms : List (String × Json)) → {m : String × Json} →
    {cs back rest : List Char} →
    (∀ {cs back rest : List Char}, Blanks back rest → Blanks cs ((member level m).toList ++ back) →
      Reads .member m cs rest) → Blanks back ('\x7d' :: rest) →
    Blanks cs ((member level m).toList ++ ((members level ms).toList ++ back)) →
    Reads .members (m :: ms) cs ('\x7d' :: rest)
  | [], _, _, _, _, h, hback, hfront => by
    rw [members] at hfront
    exact .lastMember (h hback hfront)
  | x :: xs, _, _, _, _, h, hback, hfront => by
    rw [members] at hfront
    simp only [String.toList_append, List.append_assoc] at hfront
    exact .moreMembers (h .done hfront)
      (reads_members level xs (reads_member level x) hback (blanks_newline level _))

end

/-! ### Documents -/

/-- **The document of a value stands for this value** and for no other one, also with blanks behind
it. -/
theorem document_render_iff {j j' : Json} {back : String} (hback : Blanks back.toList []) :
    Document (j.render ++ back) j' ↔ j' = j := by
  have h : Document (j.render ++ back) j := by
    rw [Document, String.toList_append]
    exact .element .done (reads_pretty 0 j back.toList) hback
  exact ⟨fun h' => h'.unique h, fun heq => heq ▸ h⟩

end ScriptHost.Json
