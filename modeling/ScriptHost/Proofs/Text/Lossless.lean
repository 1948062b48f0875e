import Mathlib.Data.List.DropRight
import Mathlib.Order.Bounds.Defs
import ScriptHost.Proofs.Text.Cutting
import ScriptHost.Text.Slice

/-!
# What a block keeps of its text

A budget that has room for both fences and an ellipsis is never exceeded, and as much of the text
gets through as it allows: all of it if the whole block fits, else the longest prefix for which the
shortened block fits (`Fence.block_lossless`). Characters have at most four bytes, so a shortened
block leaves at most three bytes of its budget unused.

## Main definitions

* `Fence.inside` — what stands between the fences of a block.
* `Fence.shortened` — a block around the beginning of a text.
* `Fence.Shortens` — how a text that is too long is shortened.
* `Fence.Lossless` — what blocks of one language and budget keep of their texts.

## Positions

A cut counts characters, a slice counts bytes and fails inside a character. Both agree: the cut is
the slice up to the last position within the allowance at which there is a slice
(`isGreatest_boundary`).
-/

namespace ScriptHost

namespace Text

open String (utf8Len)

variable {n : Nat} {cs before after : List Char}

/-- The end of a beginning of a text is a position in it. -/
theorem splitBytes?_append (before after : List Char) :
    splitBytes? (utf8Len before) (before ++ after) = some (before, after) := by
  induction before with
  | nil => cases after <;> rfl
  | cons c before ih =>
      have hpos := c.utf8Size_pos
      rw [List.cons_append, splitBytes?, String.utf8Len_cons, if_neg (by omega),
        if_pos (by omega), Nat.add_sub_cancel, ih]
      rfl

/-- A position is the number of bytes before it. -/
theorem utf8Len_of_splitBytes? (h : splitBytes? n cs = some (before, after)) :
    utf8Len before = n := by
  induction cs generalizing n before after with
  | nil =>
      rw [splitBytes?] at h
      split at h
      · obtain ⟨rfl, rfl⟩ := Prod.mk.inj (Option.some.inj h)
        simp [*]
      · cases h
  | cons c cs ih =>
      rw [splitBytes?] at h
      split at h
      · obtain ⟨rfl, rfl⟩ := Prod.mk.inj (Option.some.inj h)
        simp [*]
      · split at h
        · obtain ⟨⟨rest, tail⟩, hrest, heq⟩ := Option.map_eq_some_iff.mp h
          obtain ⟨rfl, rfl⟩ := Prod.mk.inj heq
          have hlen : utf8Len rest = n - c.utf8Size := ih hrest
          show utf8Len (c :: rest) = n
          rw [String.utf8Len_cons, hlen, Nat.sub_add_cancel ‹_›]
        · cases h

end Text

namespace Fence

open String (utf8Len)
open Text (splitBytes?)

variable {n budget : Nat} {cs part : List Char} {text other language : String}

/-! ### The longest prefix -/

/-- A prefix is within the bytes allowed exactly when it is a prefix of the cut. -/
theorem isPrefix_cut_iff (h : part <+: cs) : part <+: cut n cs ↔ utf8Len part ≤ n := by
  constructor
  · rintro ⟨rest, hrest⟩
    have hcut := utf8Len_cut_le n cs
    rw [← hrest, String.utf8Len_append] at hcut
    omega
  · intro hle
    induction part generalizing n cs with
    | nil => exact List.nil_prefix
    | cons c part ih =>
        obtain ⟨rest, rfl⟩ := h
        rw [String.utf8Len_cons] at hle
        rw [List.cons_append, cut_cons_of_le (by omega)]
        exact List.cons_prefix_cons.mpr ⟨rfl, ih (List.prefix_append part rest) (by omega)⟩

/-- The end of a cut is a position. -/
theorem exists_splitBytes?_cut (n : Nat) (cs : List Char) :
    ∃ rest, splitBytes? (utf8Len (cut n cs)) cs = some (cut n cs, rest) := by
  obtain ⟨rest, hrest⟩ := cut_prefix n cs
  have hsplit := Text.splitBytes?_append (cut n cs) rest
  rw [hrest] at hsplit
  exact ⟨rest, hsplit⟩

/-- It is the last position within the bytes allowed. -/
theorem isGreatest_boundary (n : Nat) (cs : List Char) :
    IsGreatest {i | i ≤ n ∧ (splitBytes? i cs).isSome} (utf8Len (cut n cs)) := by
  constructor
  · obtain ⟨rest, hsplit⟩ := exists_splitBytes?_cut n cs
    exact ⟨utf8Len_cut_le n cs, Option.isSome_of_eq_some hsplit⟩
  · rintro i ⟨hle, hsome⟩
    obtain ⟨⟨before, after⟩, hsplit⟩ := Option.isSome_iff_exists.mp hsome
    have hlen := Text.utf8Len_of_splitBytes? hsplit
    have hbefore : before <+: cs := ⟨after, Text.append_of_splitBytes? hsplit⟩
    obtain ⟨more, hmore⟩ := (isPrefix_cut_iff (n := n) hbefore).mpr (by omega)
    rw [← hmore, String.utf8Len_append]
    omega

/-- A cut that does not keep everything leaves less than one character of what is allowed. -/
theorem allowed_le_of_cut (h : n < utf8Len cs) : n ≤ utf8Len (cut n cs) + 3 := by
  obtain ⟨rest, hrest⟩ := cut_prefix n cs
  cases rest with
  | nil =>
      have hle := utf8Len_cut_le n cs
      rw [List.append_nil] at hrest
      rw [hrest] at hle
      omega
  | cons d rest =>
      have hnext := lt_of_cut_eq hrest.symm
      have hsize := d.utf8Size_le_four
      omega

/-! ### Blocks -/

/-- What stands between the fences of a block. -/
def inside (language block : String) : String :=
  String.ofList ((block.toList.drop (opening language).length).rdrop mark.length)

/-- A block around the beginning of a text. -/
def shortened (kept language : String) : String :=
  opening language ++ kept ++ ellipsis ++ mark

/-- The opening of a block takes four bytes besides the language. -/
theorem utf8ByteSize_opening (language : String) :
    (opening language).utf8ByteSize = 4 + language.utf8ByteSize := by
  have hline : "\n".utf8ByteSize = 1 := rfl
  simp only [opening, String.utf8ByteSize_append, utf8ByteSize_mark, hline]
  omega

/-- A shortened block takes the least size and that of what is kept. -/
theorem utf8ByteSize_shortened (kept language : String) :
    (shortened kept language).utf8ByteSize = leastSize language + kept.utf8ByteSize := by
  simp only [shortened, leastSize, String.utf8ByteSize_append]
  omega

/-- What stands inside a block is its text. -/
theorem inside_append (text language : String) :
    inside language (opening language ++ text ++ mark) = text := by
  simp only [inside, List.rdrop, ← String.length_toList, String.toList_append, List.append_assoc,
    List.drop_left]
  rw [List.length_append, Nat.add_sub_cancel, List.take_left, String.ofList_toList]

/-- Nothing stands inside an empty block. -/
theorem inside_emptyBlock (language : String) : inside language emptyBlock = "" := by
  have hmark : mark.length = 3 := rfl
  have hline : "\n".length = 1 := rfl
  have hempty : emptyBlock.toList.length = 7 := rfl
  have hopening : (opening language).length = 3 + language.length + 1 := by
    rw [opening, String.length_append, String.length_append, hmark, hline]
  rw [inside, List.rdrop, List.length_drop, hopening, hempty, hmark,
    Nat.sub_eq_zero_of_le (by omega), List.take_zero]

/-- How a text that is too long is shortened: the beginning kept is the slice up to the last
position that leaves room for fences and ellipsis, and no longer beginning would fit. -/
structure Shortens (language : String) (budget : Nat) (text kept rest : String) : Prop where
  /-- The text is cut at the last position within the allowance. -/
  boundary : IsGreatest
    {i | i ≤ allowance language budget ∧ (splitBytes? i text.toList).isSome} kept.utf8ByteSize
  /-- The slice up to there does not fail. -/
  sliced : splitBytes? kept.utf8ByteSize text.toList = some (kept.toList, rest.toList)
  /-- The beginning is followed by an ellipsis. -/
  block_eq : block text language budget = shortened kept language
  /-- Every beginning for which the shortened block fits is a beginning of the one kept. -/
  longest : ∀ part : String, part.toList <+: text.toList →
    (shortened part language).utf8ByteSize ≤ budget → part.toList <+: kept.toList
  /-- At most three bytes of the budget are left. -/
  fills : budget ≤ (block text language budget).utf8ByteSize + 3

/-- What blocks of one language and budget keep of their texts. -/
structure Lossless (language : String) (budget : Nat) : Prop where
  /-- No block exceeds the budget. -/
  fits : ∀ text, (block text language budget).utf8ByteSize ≤ budget
  /-- The block of the empty text is that of no other text. -/
  empty : ∀ text, block text language budget = emptyBlock ↔ text = ""
  /-- A text that fits is kept as it is. -/
  whole : ∀ text, text ≠ "" → wholeSize text language ≤ budget →
    block text language budget = opening language ++ text ++ mark
  /-- It is what stands between the fences. -/
  unwrapped : ∀ text, wholeSize text language ≤ budget →
    inside language (block text language budget) = text
  /-- Texts that fit can be told apart. -/
  injective : ∀ text other, wholeSize text language ≤ budget → wholeSize other language ≤ budget →
    block text language budget = block other language budget → text = other
  /-- A text that does not fit is shortened no more than needed. -/
  cut : ∀ text, budget < wholeSize text language →
    ∃ kept rest, Shortens language budget text kept rest

/-- A block is the empty one exactly if its text is empty. -/
theorem block_eq_emptyBlock_iff (text language : String) (budget : Nat) :
    block text language budget = emptyBlock ↔ text = "" := by
  constructor
  · intro h
    by_contra htext
    have hlarger := utf8ByteSize_block_gt language budget htext
    rw [h] at hlarger
    exact Nat.lt_irrefl _ hlarger
  · rintro rfl
    rfl

/-- What stands inside a block of a text that fits is the text. -/
theorem inside_block (h : wholeSize text language ≤ budget) :
    inside language (block text language budget) = text := by
  by_cases htext : text = ""
  · rw [(block_eq_emptyBlock_iff text language budget).mpr htext, inside_emptyBlock, htext]
  · rw [block_of_le htext h, inside_append]

/-- A text that does not fit is shortened no more than needed. -/
theorem shortens_of_lt (hroom : leastSize language ≤ budget)
    (h : budget < wholeSize text language) :
    ∃ kept rest, Shortens language budget text kept rest := by
  have hopening := utf8ByteSize_opening language
  have htext : text ≠ "" := by
    rintro rfl
    simp only [wholeSize, leastSize, utf8ByteSize_mark, utf8ByteSize_ellipsis,
      String.utf8ByteSize_empty] at h hroom
    omega
  have hallowed : allowance language budget + leastSize language = budget := by
    simp only [allowance, leastSize] at hroom ⊢
    omega
  have hlong : allowance language budget < utf8Len text.toList := by
    simp only [wholeSize, leastSize, utf8ByteSize_mark, utf8ByteSize_ellipsis] at h hallowed
    rw [String.utf8Len_toList]
    omega
  obtain ⟨rest, hsplit⟩ := exists_splitBytes?_cut (allowance language budget) text.toList
  have hblock : block text language budget
      = shortened (String.ofList (cut (allowance language budget) text.toList)) language :=
    block_of_lt htext h
  refine ⟨String.ofList (cut (allowance language budget) text.toList), String.ofList rest,
    ?boundary, ?sliced, hblock, ?longest, ?fills⟩
  case boundary =>
    rw [String.utf8ByteSize_ofList]
    exact isGreatest_boundary (allowance language budget) text.toList
  case sliced =>
    rw [String.utf8ByteSize_ofList, String.toList_ofList, String.toList_ofList]
    exact hsplit
  case longest =>
    intro part hpart hfits
    rw [utf8ByteSize_shortened, ← hallowed] at hfits
    rw [String.toList_ofList, isPrefix_cut_iff hpart, String.utf8Len_toList]
    omega
  case fills =>
    have hcut := allowed_le_of_cut hlong
    rw [hblock, utf8ByteSize_shortened, String.utf8ByteSize_ofList]
    omega

/-- **Blocks are lossless within the budget and cut as little as possible beyond it**, if the budget
has room for both fences and an ellipsis. -/
theorem block_lossless (language : String) (budget : Nat)
    (h : 4 + language.utf8ByteSize + 3 + 5 ≤ budget) : Lossless language budget := by
  have hroom : leastSize language ≤ budget := by
    rw [leastSize, utf8ByteSize_opening, utf8ByteSize_mark, utf8ByteSize_ellipsis]
    exact h
  constructor
  case fits => exact fun text => utf8ByteSize_block_le text hroom
  case empty => exact fun text => block_eq_emptyBlock_iff text language budget
  case whole => exact fun text => block_of_le
  case unwrapped => exact fun text => inside_block
  case injective =>
    intro text other htext hother heq
    rw [← inside_block htext, heq, inside_block hother]
  case cut => exact fun text => shortens_of_lt hroom

/-- The smallest budget there is for a language. -/
theorem block_lossless_least :
    4 + "sqf".utf8ByteSize + 3 + 5 ≤ 15 ∧ Lossless "sqf" 15 :=
  ⟨by decide, block_lossless "sqf" 15 (by decide)⟩

end Fence

end ScriptHost
