import Mathlib.Data.List.Basic
import ScriptHost.Proofs.Text.Encoding

/-!
# Lossy decoding

What `Utf8.decodeLossy` makes of any bytes, told without the decoder: each character is written as
its bytes, and where the bytes begin no character the longest run that the beginning of some
character could still be, and at least one byte, is read as one U+FFFD (`Utf8.Reads`). Every
sequence of bytes is read in this way, and in no other (`Utf8.reads_iff`), and a text is read as
itself (`Utf8.decodeLossy_encode`).

The characters are those of `String.utf8EncodeChar`; nothing here depends on the table of lead bytes
that the decoder uses.

## Proof idea

The bytes of a character are a lead byte and what it allows to follow it (`Lead.Allows`), and the
other way round (`spells_iff`). So the decoder goes on as long as the bytes spell the
beginning of a character, and stops where no character goes on (`takes_firstPiece`).
-/

namespace ScriptHost

namespace Utf8

/-! ### Readings -/

/-- The bytes of a character begin with these. -/
def BeginsChar (run : Bytes) : Prop :=
  ∃ c, run <+: String.utf8EncodeChar c

/-- In front of some bytes stands a maximal ill-formed run: no character does, and the run is the
longest beginning of a character that does, or a single byte if there is none. -/
structure IllFormed (run rest : Bytes) : Prop where
  ne_nil : run ≠ []
  no_char : ∀ c, ¬ String.utf8EncodeChar c <+: run ++ rest
  begins : BeginsChar run ∨ run.length = 1
  longest : ∀ beginning, beginning <+: run ++ rest → BeginsChar beginning →
    beginning.length ≤ run.length

/-- **Bytes read as UTF-8**: characters as what they are, and each maximal ill-formed run as one
U+FFFD. -/
inductive Reads : Bytes → List Char → Prop where
  | nil : Reads [] []
  | char (c : Char) {rest : Bytes} {cs : List Char} (h : Reads rest cs) :
    Reads (String.utf8EncodeChar c ++ rest) (c :: cs)
  | illFormed {run rest : Bytes} {cs : List Char} (hrun : IllFormed run rest) (h : Reads rest cs) :
    Reads (run ++ rest) ('\uFFFD' :: cs)

/-! ### Lead bytes -/

/-- The bytes that may follow a lead byte, as far as they go. -/
def Lead.Allows (lead : Lead) : Bytes → Prop
  | [] => True
  | c :: cs => lead.low ≤ c ∧ c ≤ lead.high ∧ ∀ d ∈ cs, isContinuation d

/-- The code point that a lead byte and the bytes after it spell. -/
def codePoint (b : UInt8) (cs : Bytes) : Nat :=
  cs.foldl (fun v c => v * 64 + payload c) (b.toNat % (64 >>> cs.length))

/-- What a lead byte and one more spell. -/
theorem codePoint_one (b c : UInt8) : codePoint b [c] = b.toNat % 32 * 64 + payload c := by
  simp [codePoint]

/-- What a lead byte and two more spell. -/
theorem codePoint_two (b c d : UInt8) :
    codePoint b [c, d] = (b.toNat % 16 * 64 + payload c) * 64 + payload d := by
  simp [codePoint]

/-- What a lead byte and three more spell. -/
theorem codePoint_three (b c d e : UInt8) : codePoint b [c, d, e]
    = ((b.toNat % 8 * 64 + payload c) * 64 + payload d) * 64 + payload e := by
  simp [codePoint]

/-- The continuation bytes by their values. -/
theorem isContinuation_iff {b : UInt8} : isContinuation b ↔ 0x80 ≤ b.toNat ∧ b.toNat ≤ 0xBF := by
  simp [isContinuation, UInt8.le_iff_toNat_le]

/-- What a lead byte with this value announces, in numbers. -/
inductive Lead.Announced (n : Nat) (lead : Lead) : Prop where
  | one (hn : 0xC2 ≤ n ∧ n ≤ 0xDF) (hcount : lead.continuations = 1)
      (hlow : lead.low.toNat = 0x80) (hhigh : lead.high.toNat = 0xBF)
  | two (hn : 0xE0 ≤ n ∧ n ≤ 0xEF) (hcount : lead.continuations = 2)
      (hlow : n = 0xE0 ∧ lead.low.toNat = 0xA0 ∨ n ≠ 0xE0 ∧ lead.low.toNat = 0x80)
      (hhigh : n = 0xED ∧ lead.high.toNat = 0x9F ∨ n ≠ 0xED ∧ lead.high.toNat = 0xBF)
  | three (hn : 0xF0 ≤ n ∧ n ≤ 0xF4) (hcount : lead.continuations = 3)
      (hlow : n = 0xF0 ∧ lead.low.toNat = 0x90 ∨ n ≠ 0xF0 ∧ lead.low.toNat = 0x80)
      (hhigh : n = 0xF4 ∧ lead.high.toNat = 0x8F ∨ n ≠ 0xF4 ∧ lead.high.toNat = 0xBF)

/-- A lead byte announces what its value says. -/
theorem Lead.announced {b : UInt8} {lead : Lead} (h : Lead.of b = some lead) :
    Lead.Announced b.toNat lead := by
  unfold Lead.of at h
  simp only [UInt8.lt_iff_toNat_lt, UInt8.le_iff_toNat_le, ← UInt8.toNat_inj,
    UInt8.reduceToNat] at h
  repeat' split at h
  all_goals
    simp only [Option.some.injEq, reduceCtorEq] at h
    try subst h
  all_goals first
    | refine .one ?_ rfl rfl rfl
    | refine .two ?_ rfl ?_ ?_
    | refine .three ?_ rfl ?_ ?_
  all_goals first
    | omega
    | simp only [UInt8.reduceToNat]; grind

theorem toNat_ofNat {n : Nat} (hn : n < 256) : (UInt8.ofNat n).toNat = n :=
  UInt8.toNat_ofNat_of_lt' hn

/-- All bytes between the first and the last lead byte are lead bytes. -/
theorem Lead.exists_of {n : Nat} (hn : 0xC2 ≤ n ∧ n ≤ 0xF4) :
    ∃ lead, Lead.of (UInt8.ofNat n) = some lead ∧ Lead.Announced n lead := by
  have hb : (UInt8.ofNat n).toNat = n := toNat_ofNat (by omega)
  obtain ⟨lead, hlead⟩ : ∃ lead, Lead.of (UInt8.ofNat n) = some lead := by
    rw [← Option.isSome_iff_exists]
    unfold Lead.of
    simp only [UInt8.lt_iff_toNat_lt, UInt8.le_iff_toNat_le, ← UInt8.toNat_inj,
      UInt8.reduceToNat, hb]
    repeat' split
    all_goals first | rfl | omega
  exact ⟨lead, hlead, hb ▸ Lead.announced hlead⟩

/-- The bytes of a character: a byte of ASCII, or a lead byte and all that it announces. -/
inductive Spells (c : Char) : Bytes → Prop where
  | ascii {b : UInt8} (hb : b.toNat < 0x80) (hc : c.toNat = b.toNat) : Spells c [b]
  | lead {b : UInt8} {cs : Bytes} {lead : Lead} (hlead : Lead.of b = some lead)
      (hallows : lead.Allows cs) (hlength : cs.length = lead.continuations)
      (hc : c.toNat = codePoint b cs) : Spells c (b :: cs)

/-- The bytes that a character is encoded as spell it. -/
theorem spells_encodeChar (c : Char) : Spells c (String.utf8EncodeChar c) := by
  have hvalid : c.toNat < 0xD800 ∨ 0xDFFF < c.toNat ∧ c.toNat < 0x110000 := c.valid
  have hfirst : ∀ v : Nat, (UInt8.ofNat (v % 64 + 128)).toNat = v % 64 + 128 := fun v =>
    toNat_ofNat (by omega)
  unfold String.utf8EncodeChar
  have hv : c.val.toNat = c.toNat := rfl
  simp only [hv]
  generalize hn : c.toNat = v at hvalid
  split
  · have hb : (UInt8.ofNat v).toNat = v := toNat_ofNat (by omega)
    exact .ascii (by omega) (by omega)
  split
  · obtain ⟨lead, hlead, hannounced⟩ := @Lead.exists_of (v / 64 % 32 + 192) (by omega)
    have hb : (UInt8.ofNat (v / 64 % 32 + 192)).toNat = v / 64 % 32 + 192 := toNat_ofNat (by omega)
    refine .lead hlead ⟨?_, ?_, by simp⟩ ?_ ?_
    · rw [UInt8.le_iff_toNat_le, hfirst]
      cases hannounced <;> omega
    · rw [UInt8.le_iff_toNat_le, hfirst]
      cases hannounced <;> omega
    · cases hannounced <;> simp only [List.length_singleton] <;> omega
    · simp only [codePoint_one, payload, hb, hfirst]
      omega
  split
  · obtain ⟨lead, hlead, hannounced⟩ := @Lead.exists_of (v / 4096 % 16 + 224) (by omega)
    have hb : (UInt8.ofNat (v / 4096 % 16 + 224)).toNat = v / 4096 % 16 + 224 :=
      toNat_ofNat (by omega)
    refine .lead hlead ⟨?_, ?_, ?_⟩ ?_ ?_
    · rw [UInt8.le_iff_toNat_le, hfirst]
      cases hannounced <;> omega
    · rw [UInt8.le_iff_toNat_le, hfirst]
      cases hannounced <;> omega
    · rw [List.forall_mem_singleton, isContinuation_iff, hfirst]
      omega
    · cases hannounced <;> simp only [List.length_cons, List.length_nil] <;> omega
    · simp only [codePoint_two, payload, hb, hfirst]
      omega
  · obtain ⟨lead, hlead, hannounced⟩ := @Lead.exists_of (v / 262144 % 8 + 240) (by omega)
    have hb : (UInt8.ofNat (v / 262144 % 8 + 240)).toNat = v / 262144 % 8 + 240 :=
      toNat_ofNat (by omega)
    refine .lead hlead ⟨?_, ?_, ?_⟩ ?_ ?_
    · rw [UInt8.le_iff_toNat_le, hfirst]
      cases hannounced <;> omega
    · rw [UInt8.le_iff_toNat_le, hfirst]
      cases hannounced <;> omega
    · rw [List.forall_mem_cons, List.forall_mem_singleton, isContinuation_iff, isContinuation_iff,
        hfirst, hfirst]
      omega
    · cases hannounced <;> simp only [List.length_cons, List.length_nil] <;> omega
    · simp only [codePoint_three, payload, hb, hfirst]
      omega

/-- A character is encoded as the bytes that spell it, and as no others. -/
theorem spells_iff {c : Char} {bytes : Bytes} :
    Spells c bytes ↔ String.utf8EncodeChar c = bytes := by
  refine ⟨fun h => ?_, fun h => h ▸ spells_encodeChar c⟩
  have hv : c.val.toNat = c.toNat := rfl
  unfold String.utf8EncodeChar
  simp only [hv]
  cases h with
  | @ascii b hb hc =>
      rw [if_pos (by omega), hc, UInt8.ofNat_toNat]
  | @lead b cs lead hlead hallows hlength hc =>
      cases Lead.announced hlead with
      | one hn hcount hlow hhigh =>
          obtain ⟨c₁, rfl⟩ : ∃ c₁, cs = [c₁] := List.length_eq_one_iff.mp (hlength.trans hcount)
          obtain ⟨h₁, h₁', -⟩ := hallows
          rw [UInt8.le_iff_toNat_le] at h₁ h₁'
          simp only [codePoint_one, payload] at hc
          rw [if_neg (by omega), if_pos (by omega)]
          simp only [List.cons.injEq, ← UInt8.toNat_inj, and_true]
          rw [toNat_ofNat (by omega), toNat_ofNat (by omega)]
          omega
      | two hn hcount hlow hhigh =>
          obtain ⟨c₁, c₂, rfl⟩ : ∃ c₁ c₂, cs = [c₁, c₂] :=
            List.length_eq_two.mp (hlength.trans hcount)
          obtain ⟨h₁, h₁', hrest⟩ := hallows
          rw [UInt8.le_iff_toNat_le] at h₁ h₁'
          rw [List.forall_mem_singleton, isContinuation_iff] at hrest
          simp only [codePoint_two, payload] at hc
          rw [if_neg (by omega), if_neg (by omega), if_pos (by omega)]
          simp only [List.cons.injEq, ← UInt8.toNat_inj, and_true]
          rw [toNat_ofNat (by omega), toNat_ofNat (by omega), toNat_ofNat (by omega)]
          omega
      | three hn hcount hlow hhigh =>
          obtain ⟨c₁, c₂, c₃, rfl⟩ : ∃ c₁ c₂ c₃, cs = [c₁, c₂, c₃] :=
            List.length_eq_three.mp (hlength.trans hcount)
          obtain ⟨h₁, h₁', hrest⟩ := hallows
          rw [UInt8.le_iff_toNat_le] at h₁ h₁'
          rw [List.forall_mem_cons, List.forall_mem_singleton, isContinuation_iff,
            isContinuation_iff] at hrest
          simp only [codePoint_three, payload] at hc
          rw [if_neg (by omega), if_neg (by omega), if_neg (by omega)]
          simp only [List.cons.injEq, ← UInt8.toNat_inj, and_true]
          rw [toNat_ofNat (by omega), toNat_ofNat (by omega), toNat_ofNat (by omega),
            toNat_ofNat (by omega)]
          omega

/-- What a lead byte and all that it announces spell is a code point: neither a surrogate nor beyond
the last one. -/
theorem codePoint_toNat {b : UInt8} {cs : Bytes} {lead : Lead} (hlead : Lead.of b = some lead)
    (hallows : lead.Allows cs) (hlength : cs.length = lead.continuations) :
    (Char.ofNat (codePoint b cs)).toNat = codePoint b cs := by
  suffices h : codePoint b cs < 0xD800 ∨ 0xDFFF < codePoint b cs ∧ codePoint b cs < 0x110000 by
    rw [Char.ofNat, dif_pos h]
    rfl
  cases Lead.announced hlead with
  | one hn hcount hlow hhigh =>
      obtain ⟨c₁, rfl⟩ : ∃ c₁, cs = [c₁] := List.length_eq_one_iff.mp (hlength.trans hcount)
      simp only [codePoint_one, payload]
      omega
  | two hn hcount hlow hhigh =>
      obtain ⟨c₁, c₂, rfl⟩ : ∃ c₁ c₂, cs = [c₁, c₂] := List.length_eq_two.mp (hlength.trans hcount)
      obtain ⟨h₁, h₁', -⟩ := hallows
      rw [UInt8.le_iff_toNat_le] at h₁ h₁'
      simp only [codePoint_two, payload]
      omega
  | three hn hcount hlow hhigh =>
      obtain ⟨c₁, c₂, c₃, rfl⟩ : ∃ c₁ c₂ c₃, cs = [c₁, c₂, c₃] :=
        List.length_eq_three.mp (hlength.trans hcount)
      obtain ⟨h₁, h₁', -⟩ := hallows
      rw [UInt8.le_iff_toNat_le] at h₁ h₁'
      simp only [codePoint_three, payload]
      omega

/-- A lead byte and all that it announces spell a character. -/
theorem spells_of_lead {b : UInt8} {cs : Bytes} {lead : Lead} (hlead : Lead.of b = some lead)
    (hallows : lead.Allows cs) (hlength : cs.length = lead.continuations) :
    Spells (Char.ofNat (codePoint b cs)) (b :: cs) :=
  .lead hlead hallows hlength (codePoint_toNat hlead hallows hlength)

/-! ### Beginnings of characters -/

/-- What may follow a lead byte may follow it as far as one looks at it. -/
theorem Lead.Allows.of_append {lead : Lead} {cs ds : Bytes} (h : lead.Allows (cs ++ ds)) :
    lead.Allows cs := by
  cases cs with
  | nil => trivial
  | cons c cs => exact ⟨h.1, h.2.1, fun d hd => h.2.2 d (List.mem_append_left _ hd)⟩

@[simp] theorem Lead.allows_singleton {lead : Lead} {c : UInt8} :
    lead.Allows [c] ↔ lead.low ≤ c ∧ c ≤ lead.high := by
  simp [Lead.Allows]

/-- After the first of them all continuation bytes are alike. -/
theorem Lead.allows_append {lead : Lead} {cs ds : Bytes} (hcs : cs ≠ []) :
    lead.Allows (cs ++ ds) ↔ lead.Allows cs ∧ ∀ d ∈ ds, isContinuation d := by
  cases cs with
  | nil => exact absurd rfl hcs
  | cons c cs =>
      change _ ∧ _ ∧ (∀ d ∈ cs ++ ds, isContinuation d) ↔ _
      rw [List.forall_mem_append]
      simp only [Lead.Allows, and_assoc]

/-- The beginning of what a lead byte announces is the beginning of some character. -/
theorem beginsChar_of_lead {b : UInt8} {cs : Bytes} {lead : Lead} (hlead : Lead.of b = some lead)
    (hallows : lead.Allows cs) (hlength : cs.length ≤ lead.continuations) :
    BeginsChar (b :: cs) := by
  -- What is missing can always be made up.
  obtain ⟨ds, hds, hall⟩ : ∃ ds, lead.Allows (cs ++ ds) ∧
      (cs ++ ds).length = lead.continuations := by
    have hfill : ∀ n, ∀ d ∈ List.replicate n (0x80 : UInt8), isContinuation d := fun n d hd => by
      rw [List.eq_of_mem_replicate hd]
      rfl
    cases cs with
    | nil =>
        have hannounced := Lead.announced hlead
        have hrange : lead.low ≤ lead.high := by
          rw [UInt8.le_iff_toNat_le]
          cases hannounced <;> omega
        refine ⟨lead.low :: List.replicate (lead.continuations - 1) 0x80,
          ⟨UInt8.le_refl _, hrange, hfill _⟩, ?_⟩
        simp only [List.nil_append, List.length_cons, List.length_replicate]
        cases hannounced <;> omega
    | cons c cs =>
        refine ⟨List.replicate (lead.continuations - (c :: cs).length) 0x80,
          (Lead.allows_append (List.cons_ne_nil _ _)).mpr ⟨hallows, hfill _⟩, ?_⟩
        simp only [List.length_append, List.length_replicate]
        omega
  exact ⟨_, ds, (spells_iff.mp (spells_of_lead hlead hds hall)).symm⟩

/-- The beginning of a character begins with a byte of ASCII, or with a lead byte and what it
allows. -/
theorem BeginsChar.cases {b : UInt8} {cs : Bytes} (h : BeginsChar (b :: cs)) :
    b.toNat < 0x80 ∨ ∃ lead, Lead.of b = some lead ∧ lead.Allows cs := by
  obtain ⟨c, hprefix⟩ := h
  have hspells := spells_encodeChar c
  generalize String.utf8EncodeChar c = bytes at hprefix hspells
  cases hspells with
  | ascii hb _ =>
      obtain ⟨rfl, -⟩ := List.cons_prefix_cons.mp hprefix
      exact .inl hb
  | lead hlead hallows _ _ =>
      obtain ⟨rfl, more, rfl⟩ := List.cons_prefix_cons.mp hprefix
      exact .inr ⟨_, hlead, hallows.of_append⟩

/-- What goes on with a byte that a lead byte does not allow is no longer than what came before. -/
theorem Lead.Allows.length_le {lead : Lead} {cs ds rest : Bytes}
    (hstop : ∀ d ∈ rest.head?, ¬ lead.Allows (cs ++ [d])) (hds : ds <+: cs ++ rest)
    (h : lead.Allows ds) : ds.length ≤ cs.length := by
  by_contra hlong
  obtain ⟨es, rfl⟩ := List.prefix_of_prefix_length_le (List.prefix_append cs rest) hds (by omega)
  obtain ⟨more, rfl⟩ := (List.prefix_append_right_inj cs).mp hds
  cases es with
  | nil => simp at hlong
  | cons d es =>
      rw [List.append_cons] at h
      exact hstop d rfl h.of_append

/-! ### The first piece -/

/-- What the decoder takes off some bytes: the bytes of a character, or a maximal ill-formed run. -/
inductive Takes (bytes : Bytes) : Piece × Bytes → Prop where
  | char (c : Char) {rest : Bytes} (hbytes : bytes = String.utf8EncodeChar c ++ rest) :
    Takes bytes (.char c, rest)
  | illFormed {run rest : Bytes} (hbytes : bytes = run ++ rest) (hrun : IllFormed run rest) :
    Takes bytes (.illFormed run, rest)

/-- No lead byte comes before the first. -/
theorem lt_of_lead {b : UInt8} {lead : Lead} (hlead : Lead.of b = some lead) : 0xC2 ≤ b.toNat := by
  cases Lead.announced hlead <;> omega

/-- A character has a byte. -/
theorem encodeChar_ne_nil (c : Char) : String.utf8EncodeChar c ≠ [] := by
  have hspells := spells_encodeChar c
  intro hnil
  rw [hnil] at hspells
  cases hspells

/-- The first character of some bytes is told from them. -/
theorem encodeChar_append_inj {c d : Char} {rest rest' : Bytes}
    (h : String.utf8EncodeChar c ++ rest = String.utf8EncodeChar d ++ rest') :
    c = d ∧ rest = rest' := by
  have hdecode : ∀ (c : Char) (rest : Bytes),
      (String.utf8EncodeChar c ++ rest).toByteArray.utf8DecodeChar? 0 = some c := by
    intro c rest
    rw [List.toByteArray_append]
    exact ByteArray.utf8DecodeChar?_utf8EncodeChar_append
  obtain rfl : c = d := by
    have hc := hdecode c rest
    rw [h, hdecode] at hc
    exact (Option.some.inj hc).symm
  exact ⟨rfl, List.append_cancel_left h⟩

/-- A byte that begins no character is a run of its own. -/
theorem illFormed_of_no_lead {b : UInt8} (hb : ¬ b.toNat < 0x80) (hlead : Lead.of b = none)
    (rest : Bytes) : IllFormed [b] rest := by
  have hnone : ∀ beginning, beginning <+: [b] ++ rest → BeginsChar beginning → beginning = [] := by
    intro beginning hprefix hbegins
    cases beginning with
    | nil => rfl
    | cons b' cs =>
        obtain ⟨rfl, -⟩ := List.cons_prefix_cons.mp hprefix
        rcases hbegins.cases with hascii | ⟨lead, hsome, -⟩
        · exact absurd hascii hb
        · simp [hlead] at hsome
  refine ⟨List.cons_ne_nil _ _, fun c hc => ?_, .inr rfl, fun beginning hprefix hbegins => ?_⟩
  · exact encodeChar_ne_nil c (hnone _ hc ⟨c, List.prefix_refl _⟩)
  · simp [hnone beginning hprefix hbegins]

/-- A lead byte and what it allows, cut short, are a run. -/
theorem illFormed_of_lead {b : UInt8} {cs rest : Bytes} {lead : Lead}
    (hlead : Lead.of b = some lead) (hallows : lead.Allows cs)
    (hlength : cs.length < lead.continuations)
    (hstop : ∀ d ∈ rest.head?, ¬ lead.Allows (cs ++ [d])) : IllFormed (b :: cs) rest := by
  have hb := lt_of_lead hlead
  have hrun := beginsChar_of_lead hlead hallows (Nat.le_of_lt hlength)
  refine ⟨List.cons_ne_nil _ _, fun c hc => ?_, .inl hrun, fun beginning hprefix hbegins => ?_⟩
  · have hspells := spells_encodeChar c
    generalize String.utf8EncodeChar c = bytes at hc hspells
    cases hspells with
    | ascii hb' _ =>
        obtain ⟨rfl, -⟩ := List.cons_prefix_cons.mp hc
        omega
    | lead hlead' hallows' hlength' _ =>
        obtain ⟨rfl, hprefix⟩ := List.cons_prefix_cons.mp hc
        obtain rfl := Option.some.inj (hlead.symm.trans hlead')
        have hle := hallows'.length_le hstop hprefix
        omega
  · cases beginning with
    | nil => simp
    | cons b' ds =>
        obtain ⟨rfl, hds⟩ := List.cons_prefix_cons.mp hprefix
        rcases hbegins.cases with hascii | ⟨lead', hlead', hallows'⟩
        · omega
        · obtain rfl := Option.some.inj (hlead.symm.trans hlead')
          simpa using hallows'.length_le hstop hds

/-- A lead byte announces one to three bytes. -/
theorem one_le_continuations {b : UInt8} {lead : Lead} (hlead : Lead.of b = some lead) :
    1 ≤ lead.continuations ∧ lead.continuations ≤ 3 := by
  cases Lead.announced hlead <;> omega

/-- A lead byte is no byte of ASCII. -/
theorem not_ascii_of_lead {b : UInt8} {lead : Lead} (hlead : Lead.of b = some lead) :
    ¬ b < 0x80 := by
  have hb := lt_of_lead hlead
  rw [UInt8.lt_iff_toNat_lt]
  change ¬ b.toNat < 128
  omega

/-- Bytes go on as a lead byte allows until one of them does not, or as many as one looks at have
been read. -/
theorem Lead.exists_allowed (lead : Lead) (bytes : Bytes) (n : Nat) :
    ∃ cs rest, bytes = cs ++ rest ∧ lead.Allows cs ∧
      (cs.length = n ∨ cs.length < n ∧ ∀ d ∈ rest.head?, ¬ lead.Allows (cs ++ [d])) := by
  induction n with
  | zero => exact ⟨[], bytes, rfl, trivial, .inl rfl⟩
  | succ n ih =>
      obtain ⟨cs, rest, rfl, hallows, hlength | ⟨hlength, hstop⟩⟩ := ih
      · by_cases hmore : ∃ d ∈ rest.head?, lead.Allows (cs ++ [d])
        · obtain ⟨d, hd, hmore⟩ := hmore
          obtain ⟨rest', rfl⟩ := List.head?_eq_some_iff.mp hd
          exact ⟨cs ++ [d], rest', List.append_cons .., hmore, .inl (by simp [hlength])⟩
        · exact ⟨cs, rest, rfl, hallows, .inr ⟨by omega, fun d hd h => hmore ⟨d, hd, h⟩⟩⟩
      · exact ⟨cs, rest, rfl, hallows, .inr ⟨by omega, hstop⟩⟩

/-- Each byte after the first that follows a lead byte is a continuation byte. -/
theorem Lead.allows_snoc {lead : Lead} {cs : Bytes} {d : UInt8} (hcs : cs ≠ [])
    (hallows : lead.Allows cs) : lead.Allows (cs ++ [d]) ↔ isContinuation d := by
  simp [Lead.allows_append hcs, hallows]

/-- A lead byte and all that it announces are a character to the decoder. -/
theorem firstPiece_of_lead {b : UInt8} {cs : Bytes} {lead : Lead} (hlead : Lead.of b = some lead)
    (hallows : lead.Allows cs) (hlength : cs.length = lead.continuations) (rest : Bytes) :
    firstPiece b (cs ++ rest) = (.char (Char.ofNat (codePoint b cs)), rest) := by
  have hb := not_ascii_of_lead hlead
  cases Lead.announced hlead with
  | one hn hcount hlow hhigh =>
      obtain ⟨c₁, rfl⟩ : ∃ c₁, cs = [c₁] := List.length_eq_one_iff.mp (hlength.trans hcount)
      obtain ⟨h₁, h₁', -⟩ := hallows
      simp [firstPiece, hb, hlead, h₁, h₁', hcount, codePoint_one]
  | two hn hcount hlow hhigh =>
      obtain ⟨c₁, c₂, rfl⟩ : ∃ c₁ c₂, cs = [c₁, c₂] := List.length_eq_two.mp (hlength.trans hcount)
      obtain ⟨h₁, h₁', hrest⟩ := hallows
      have h₂ : isContinuation c₂ := hrest c₂ (by simp)
      simp [firstPiece, hb, hlead, h₁, h₁', h₂, hcount, codePoint_two]
  | three hn hcount hlow hhigh =>
      obtain ⟨c₁, c₂, c₃, rfl⟩ : ∃ c₁ c₂ c₃, cs = [c₁, c₂, c₃] :=
        List.length_eq_three.mp (hlength.trans hcount)
      obtain ⟨h₁, h₁', hrest⟩ := hallows
      have h₂ : isContinuation c₂ := hrest c₂ (by simp)
      have h₃ : isContinuation c₃ := hrest c₃ (by simp)
      simp [firstPiece, hb, hlead, h₁, h₁', h₂, h₃, hcount, codePoint_three]

/-- A lead byte and what it allows, cut short, are a run to the decoder. -/
theorem firstPiece_of_stop {b : UInt8} {cs rest : Bytes} {lead : Lead}
    (hlead : Lead.of b = some lead) (hallows : lead.Allows cs)
    (hlength : cs.length < lead.continuations)
    (hstop : ∀ d ∈ rest.head?, ¬ lead.Allows (cs ++ [d])) :
    firstPiece b (cs ++ rest) = (.illFormed (b :: cs), rest) := by
  have hb := not_ascii_of_lead hlead
  have hcount := one_le_continuations hlead
  match cs, hallows with
  | [], _ =>
      cases rest with
      | nil => simp [firstPiece, hb, hlead]
      | cons d rest =>
          have hd := Lead.allows_singleton.not.mp (hstop d rfl)
          rw [Decidable.not_and_iff_or_not] at hd
          simp only [firstPiece, List.nil_append, hlead]
          rw [if_neg hb, if_pos (by simpa using hd)]
  | [c₁], hallows =>
      obtain ⟨h₁, h₁', -⟩ := id hallows
      have hmany : lead.continuations ≠ 1 := by simp at hlength; omega
      cases rest with
      | nil => simp [firstPiece, hb, hlead, h₁, h₁', hmany]
      | cons d rest =>
          have hd := (Lead.allows_snoc (List.cons_ne_nil _ _) hallows).not.mp (hstop d rfl)
          simp [firstPiece, hb, hlead, h₁, h₁', hmany, hd]
  | [c₁, c₂], hallows =>
      obtain ⟨h₁, h₁', hcontinues⟩ := id hallows
      have h₂ : isContinuation c₂ := hcontinues c₂ (by simp)
      have hmany : lead.continuations ≠ 1 ∧ lead.continuations ≠ 2 := by simp at hlength; omega
      cases rest with
      | nil => simp [firstPiece, hb, hlead, h₁, h₁', h₂, hmany]
      | cons d rest =>
          have hd := (Lead.allows_snoc (List.cons_ne_nil _ _) hallows).not.mp (hstop d rfl)
          simp [firstPiece, hb, hlead, h₁, h₁', h₂, hmany, hd]
  | _ :: _ :: _ :: _, _ =>
      simp only [List.length_cons] at hlength
      omega

/-- A byte of ASCII is a character. -/
theorem takes_ascii {b : UInt8} (hb : b < 0x80) (rest : Bytes) :
    Takes (b :: rest) (firstPiece b rest) := by
  have hb' : b.toNat < 128 := UInt8.lt_iff_toNat_lt.mp hb
  have hvalid : b.toNat.isValidChar := .inl (by omega)
  have hvalue : (Char.ofNat b.toNat).toNat = b.toNat := by
    rw [Char.ofNat, dif_pos hvalid]
    rfl
  unfold firstPiece
  rw [if_pos hb]
  refine .char _ ?_
  rw [spells_iff.mp (.ascii hb' hvalue)]
  rfl

/-- **The decoder takes a character where there is one**, and a maximal ill-formed run where there
is none. -/
theorem takes_firstPiece (b : UInt8) (rest : Bytes) : Takes (b :: rest) (firstPiece b rest) := by
  by_cases hb : b < 0x80
  · exact takes_ascii hb rest
  cases hlead : Lead.of b with
  | none =>
      have hb' : ¬ b.toNat < 0x80 := fun h => hb (UInt8.lt_iff_toNat_lt.mpr h)
      have hpiece : firstPiece b rest = (.illFormed [b], rest) := by simp [firstPiece, hb, hlead]
      exact hpiece ▸ .illFormed rfl (illFormed_of_no_lead hb' hlead rest)
  | some lead =>
      -- As many bytes as the lead allows are a character if they are all that it announces.
      obtain ⟨cs, rest, rfl, hallows, hlength | ⟨hlength, hstop⟩⟩ :=
        lead.exists_allowed rest lead.continuations
      · rw [firstPiece_of_lead hlead hallows hlength]
        refine .char _ ?_
        rw [spells_iff.mp (spells_of_lead hlead hallows hlength)]
        rfl
      · rw [firstPiece_of_stop hlead hallows hlength hstop]
        exact .illFormed rfl (illFormed_of_lead hlead hallows hlength hstop)

/-! ### Decoding -/

/-- Where the bytes of a character stand, the decoder takes them. -/
theorem pieces_encodeChar (c : Char) (rest : Bytes) :
    pieces (String.utf8EncodeChar c ++ rest) = .char c :: pieces rest := by
  obtain ⟨b, cs, hc⟩ := List.exists_cons_of_ne_nil (encodeChar_ne_nil c)
  have htakes := takes_firstPiece b (cs ++ rest)
  have hbytes : String.utf8EncodeChar c ++ rest = b :: (cs ++ rest) := by rw [hc]; rfl
  rw [hbytes, pieces]
  generalize firstPiece b (cs ++ rest) = taken at htakes
  cases htakes with
  | char d hd =>
      obtain ⟨rfl, rfl⟩ := encodeChar_append_inj (hbytes.trans hd)
      rfl
  | illFormed hrun hill => exact absurd (hrun ▸ hbytes ▸ List.prefix_append _ _) (hill.no_char c)

/-- The bytes of characters are taken as these characters. -/
theorem pieces_flatMap (cs : List Char) :
    pieces (cs.flatMap String.utf8EncodeChar) = cs.map .char := by
  induction cs with
  | nil => simp [pieces]
  | cons c cs ih => rw [List.flatMap_cons, pieces_encodeChar, ih, List.map_cons]

/-- The bytes of a text are those of its characters. -/
theorem encode_eq_flatMap (s : String) : encode s = s.toList.flatMap String.utf8EncodeChar := by
  rw [encode_eq, ← String.utf8Encode_toList]
  simp [List.utf8Encode]

/-- **A text is read as itself.** -/
theorem decodeLossy_encode (s : String) : decodeLossy (encode s) = s := by
  rw [decodeLossy, encode_eq_flatMap, pieces_flatMap, List.map_map]
  simp [Function.comp_def, Piece.orReplacement]

/-- The bytes of a text are well-formed, and their text is the text. -/
theorem decode?_encode (s : String) : decode? (encode s) = some s := by
  have hchars : (s.toList.map Piece.char).mapM Piece.char? = some s.toList := by
    rw [List.mapM_map]
    exact (List.mapM_pure (m := Option) (f := id)).trans (congrArg some (List.map_id _))
  rw [decode?, encode_eq_flatMap, pieces_flatMap, hchars]
  simp

/-- Bytes whose pieces are characters are the bytes of these. -/
theorem eq_flatMap_of_mapM {bytes : Bytes} {cs : List Char}
    (h : (pieces bytes).mapM Piece.char? = some cs) :
    bytes = cs.flatMap String.utf8EncodeChar := by
  induction bytes using pieces.induct generalizing cs with
  | case1 =>
      rw [pieces] at h
      obtain rfl := Option.some.inj h
      rfl
  | case2 b rest ih =>
      rw [pieces, List.mapM_cons] at h
      obtain ⟨c, hc, h⟩ := Option.bind_eq_some_iff.mp h
      obtain ⟨cs, hcs, h⟩ := Option.bind_eq_some_iff.mp h
      obtain rfl := Option.some.inj h
      have htakes := takes_firstPiece b rest
      have hrest := ih hcs
      generalize firstPiece b rest = taken at htakes hc hrest
      cases htakes with
      | char d hbytes =>
          obtain rfl := Option.some.inj hc
          rw [hbytes, List.flatMap_cons, ← hrest]
      | illFormed _ _ => cases hc

/-- **Bytes have a text exactly if they are the bytes of one.** -/
theorem decode?_eq_some_iff {bytes : Bytes} {s : String} :
    decode? bytes = some s ↔ bytes = encode s := by
  refine ⟨fun h => ?_, fun h => h ▸ decode?_encode s⟩
  obtain ⟨cs, hcs, rfl⟩ := Option.map_eq_some_iff.mp h
  rw [encode_eq_flatMap, String.toList_ofList]
  exact eq_flatMap_of_mapM hcs

/-- Every sequence of bytes reads as the text that the decoder makes of it. -/
theorem reads_decodeLossy (bytes : Bytes) : Reads bytes (decodeLossy bytes).toList := by
  rw [decodeLossy, String.toList_ofList]
  induction bytes using pieces.induct with
  | case1 =>
      rw [pieces]
      exact .nil
  | case2 b rest ih =>
      rw [pieces]
      have htakes := takes_firstPiece b rest
      generalize firstPiece b rest = taken at htakes ih
      cases htakes with
      | char c hbytes => exact hbytes ▸ .char c ih
      | illFormed hbytes hrun => exact hbytes ▸ .illFormed hrun ih

/-- Of two maximal ill-formed runs in front of the same bytes neither is longer. -/
theorem IllFormed.append_inj {run rest run' rest' : Bytes} (h : IllFormed run rest)
    (h' : IllFormed run' rest') (heq : run ++ rest = run' ++ rest') :
    run = run' ∧ rest = rest' := by
  have hle : ∀ {run rest run' rest' : Bytes}, IllFormed run rest → IllFormed run' rest' →
      run ++ rest = run' ++ rest' → run'.length ≤ run.length := by
    intro run rest run' rest' h h' heq
    rcases h'.begins with hbegins | hone
    · exact h.longest run' (heq ▸ List.prefix_append _ _) hbegins
    · exact hone ▸ List.length_pos_of_ne_nil h.ne_nil
  exact List.append_inj heq (Nat.le_antisymm (hle h' h heq.symm) (hle h h' heq))

/-- Bytes read in one way only. -/
theorem Reads.unique {bytes : Bytes} {cs cs' : List Char} (h : Reads bytes cs)
    (h' : Reads bytes cs') : cs = cs' := by
  induction h generalizing cs' with
  | nil =>
      generalize hbytes : ([] : Bytes) = bytes at h'
      cases h' with
      | nil => rfl
      | char c _ => simp [encodeChar_ne_nil c] at hbytes
      | illFormed hrun _ => simp [hrun.ne_nil] at hbytes
  | @char c rest cs _ ih =>
      generalize hbytes : String.utf8EncodeChar c ++ rest = bytes at h'
      cases h' with
      | nil => simp [encodeChar_ne_nil c] at hbytes
      | char d h' =>
          obtain ⟨rfl, rfl⟩ := encodeChar_append_inj hbytes
          rw [ih h']
      | illFormed hrun _ => exact absurd (hbytes ▸ List.prefix_append _ _) (hrun.no_char c)
  | @illFormed run rest cs hrun _ ih =>
      generalize hbytes : run ++ rest = bytes at h'
      cases h' with
      | nil => simp [hrun.ne_nil] at hbytes
      | char d _ => exact absurd (hbytes ▸ List.prefix_append _ _) (hrun.no_char d)
      | illFormed hrun' h' =>
          obtain ⟨rfl, rfl⟩ := hrun.append_inj hrun' hbytes
          rw [ih h']

/-- **Bytes read as the text that the decoder makes of them**, and as no other. -/
theorem reads_iff {bytes : Bytes} {s : String} : Reads bytes s.toList ↔ decodeLossy bytes = s :=
  ⟨fun h => String.toList_inj.mp ((reads_decodeLossy bytes).unique h),
    fun h => h ▸ reads_decodeLossy bytes⟩

end Utf8

end ScriptHost
