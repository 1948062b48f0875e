import Mathlib.Data.String.Basic
import ScriptHost.Text.Fence

/-!
# Cut texts and their blocks

What a cut keeps, and when two texts of which one begins with the other give the same block
(`Fence.block_append_eq_iff`). A cut looks no further than the allowance; so whatever follows a text
that is too long by itself leaves no trace in the block.

## Main definitions

* `Fence.wholeSize` — the bytes of a block that holds all of a text.
-/

namespace ScriptHost

namespace Fence

open String (utf8Len)

variable {n budget : Nat} {c d : Char} {cs ds : List Char} {text more language : String}

/-! ### What a cut keeps -/

/-- Characters of one kind take their size as often as they stand there. -/
theorem utf8Len_replicate (n : Nat) (c : Char) :
    utf8Len (List.replicate n c) = n * c.utf8Size := by
  induction n with
  | zero => simp
  | succ n ih => rw [List.replicate_succ, String.utf8Len_cons, ih, Nat.succ_mul]

/-- Counting goes on from any number. -/
theorem countWithin_eq (n count : Nat) (cs : List Char) :
    countWithin n count cs = count + countWithin n 0 cs := by
  induction cs generalizing n count with
  | nil => rfl
  | cons c cs ih =>
      rw [countWithin, countWithin]
      split
      · rw [ih _ (count + 1), ih _ (0 + 1)]
        omega
      · rfl

/-- A character that fits is kept, and what follows it is cut to the bytes that are left. -/
theorem cut_cons_of_le (h : c.utf8Size ≤ n) :
    cut n (c :: cs) = c :: cut (n - c.utf8Size) cs := by
  rw [cut, countWithin, if_pos h, countWithin_eq, Nat.zero_add, Nat.add_comm, List.take_succ_cons,
    cut]

/-- At a character that does not fit the text ends. -/
theorem cut_cons_of_lt (h : n < c.utf8Size) : cut n (c :: cs) = [] := by
  rw [cut, countWithin, if_neg (Nat.not_le.mpr h), List.take_zero]

/-- A cut takes no more bytes than allowed. -/
theorem utf8Len_cut_le (n : Nat) (cs : List Char) : utf8Len (cut n cs) ≤ n := by
  induction cs generalizing n with
  | nil => simp
  | cons c cs ih =>
      rcases Nat.lt_or_ge n c.utf8Size with h | h
      · simp [cut_cons_of_lt h]
      · have hrest := ih (n - c.utf8Size)
        rw [cut_cons_of_le h, String.utf8Len_cons]
        omega

/-- A cut is the longest one: the next character would not fit. -/
theorem lt_of_cut_eq (h : cs = cut n cs ++ d :: ds) : n < utf8Len (cut n cs) + d.utf8Size := by
  induction cs generalizing n with
  | nil => simp at h
  | cons c cs ih =>
      rcases Nat.lt_or_ge n c.utf8Size with hc | hc
      · rw [cut_cons_of_lt hc] at h ⊢
        obtain ⟨rfl, -⟩ := List.cons.inj h
        simpa using hc
      · rw [cut_cons_of_le hc] at h ⊢
        have hrest := ih (List.cons.inj h).2
        rw [String.utf8Len_cons]
        omega

/-- A cut does not depend on what follows a text that is too long by itself. -/
theorem cut_append_of_lt (h : n < utf8Len cs) : cut n (cs ++ ds) = cut n cs := by
  induction cs generalizing n with
  | nil => simp at h
  | cons c cs ih =>
      rw [List.cons_append]
      rcases Nat.lt_or_ge n c.utf8Size with hc | hc
      · rw [cut_cons_of_lt hc, cut_cons_of_lt hc]
      · rw [String.utf8Len_cons] at h
        rw [cut_cons_of_le hc, cut_cons_of_le hc, ih (by omega)]

/-- A text that takes up all that is allowed is what remains of it and whatever follows. -/
theorem cut_append_self (cs ds : List Char) : cut (utf8Len cs) (cs ++ ds) = cs := by
  induction cs with
  | nil =>
      cases ds with
      | nil => rfl
      | cons d ds => exact cut_cons_of_lt d.utf8Size_pos
  | cons c cs ih =>
      rw [List.cons_append, cut_cons_of_le (by simp), String.utf8Len_cons, Nat.add_sub_cancel, ih]

/-! ### Blocks -/

/-- The bytes of a block that holds all of a text. -/
def wholeSize (text language : String) : Nat :=
  (opening language).utf8ByteSize + text.utf8ByteSize + mark.utf8ByteSize

/-- The bytes of a block around an empty rest of a text. -/
def leastSize (language : String) : Nat :=
  (opening language).utf8ByteSize + mark.utf8ByteSize + ellipsis.utf8ByteSize

@[simp] theorem utf8ByteSize_mark : mark.utf8ByteSize = 3 := rfl

@[simp] theorem utf8ByteSize_ellipsis : ellipsis.utf8ByteSize = 5 := rfl

/-- More text makes a block larger by its own size. -/
theorem wholeSize_append (text more language : String) :
    wholeSize (text ++ more) language = wholeSize text language + more.utf8ByteSize := by
  simp only [wholeSize, String.utf8ByteSize_append]
  omega

/-- So a block of more text is larger. -/
theorem wholeSize_append_gt (text language : String) (hmore : more ≠ "") :
    wholeSize text language < wholeSize (text ++ more) language := by
  have hsize : more.utf8ByteSize ≠ 0 := fun h => hmore (String.utf8ByteSize_eq_zero_iff.mp h)
  rw [wholeSize_append]
  omega

/-- A text that fits is shown whole. -/
theorem block_of_le (htext : text ≠ "") (h : wholeSize text language ≤ budget) :
    block text language budget = opening language ++ text ++ mark := by
  rw [wholeSize] at h
  rw [block, if_neg (by simpa using htext), if_pos h]

/-- A text that does not fit is cut, and the cut is marked. -/
theorem block_of_lt (htext : text ≠ "") (h : budget < wholeSize text language) :
    block text language budget
      = opening language ++ String.ofList (cut (allowance language budget) text.toList)
        ++ ellipsis ++ mark := by
  rw [wholeSize] at h
  rw [block, if_neg (by simpa using htext), if_neg (Nat.not_le.mpr h)]

/-- The block of an empty text is smaller than every other one. -/
theorem utf8ByteSize_block_gt (language : String) (budget : Nat) (htext : text ≠ "") :
    emptyBlock.utf8ByteSize < (block text language budget).utf8ByteSize := by
  have hopening : 4 ≤ (opening language).utf8ByteSize := by
    have hline : "\n".utf8ByteSize = 1 := rfl
    simp only [opening, String.utf8ByteSize_append, utf8ByteSize_mark, hline]
    omega
  have hempty : emptyBlock.utf8ByteSize = 7 := rfl
  rcases Nat.lt_or_ge budget (wholeSize text language) with h | h
  · simp only [block_of_lt htext h, String.utf8ByteSize_append, utf8ByteSize_mark,
      utf8ByteSize_ellipsis, hempty]
    omega
  · have hsize : text.utf8ByteSize ≠ 0 := fun h => htext (String.utf8ByteSize_eq_zero_iff.mp h)
    simp only [block_of_le htext h, String.utf8ByteSize_append, utf8ByteSize_mark, hempty]
    omega

/-- **A block fits its budget**, if this has room for the fences and an ellipsis. -/
theorem utf8ByteSize_block_le (text : String) (h : leastSize language ≤ budget) :
    (block text language budget).utf8ByteSize ≤ budget := by
  by_cases htext : text = ""
  · have hline : "\n".utf8ByteSize = 1 := rfl
    have hempty : (block text language budget).utf8ByteSize = 7 := by
      rw [htext]
      rfl
    simp only [leastSize, opening, String.utf8ByteSize_append, utf8ByteSize_mark,
      utf8ByteSize_ellipsis, hline] at h
    omega
  · rcases Nat.lt_or_ge budget (wholeSize text language) with hlong | hfits
    · have hcut := utf8Len_cut_le (allowance language budget) text.toList
      have hroom : allowance language budget + leastSize language = budget := by
        simp only [allowance, leastSize] at h ⊢
        omega
      simp only [leastSize] at hroom
      simp only [block_of_lt htext hlong, String.utf8ByteSize_append, String.utf8ByteSize_ofList]
      omega
    · rw [block_of_le htext hfits, String.utf8ByteSize_append, String.utf8ByteSize_append]
      exact hfits

/-- A block stands between two fences. -/
theorem exists_block_eq (text language : String) (budget : Nat) :
    ∃ body, block text language budget = mark ++ body ++ mark := by
  by_cases htext : text = ""
  · exact ⟨"\n", by rw [htext]; rfl⟩
  · rcases Nat.lt_or_ge budget (wholeSize text language) with hlong | hfits
    · refine ⟨language ++ "\n" ++ String.ofList (cut (allowance language budget) text.toList)
        ++ ellipsis, ?_⟩
      rw [block_of_lt htext hlong, opening]
      simp only [String.append_assoc]
    · refine ⟨language ++ "\n" ++ text, ?_⟩
      rw [block_of_le htext hfits, opening]
      simp only [String.append_assoc]

/-! ### What follows a text -/

/-- Whatever follows a text that is too long by itself leaves no trace in the block. -/
theorem block_append_of_lt (more : String) (htext : text ≠ "")
    (h : budget < wholeSize text language) :
    block (text ++ more) language budget = block text language budget := by
  have hlong : budget < wholeSize (text ++ more) language := by
    rw [wholeSize_append]
    omega
  have hcut : allowance language budget < utf8Len text.toList := by
    have hsize : text.utf8ByteSize ≠ 0 := fun h => htext (String.utf8ByteSize_eq_zero_iff.mp h)
    simp only [wholeSize, allowance, utf8ByteSize_mark, utf8ByteSize_ellipsis,
      String.utf8Len_toList] at h ⊢
    omega
  have hne : text ++ more ≠ "" := by simp [htext]
  rw [block_of_lt hne hlong, block_of_lt htext h, String.toList_append, cut_append_of_lt hcut]

/-- A cut text with an ellipsis is the beginning of that text only if the text itself has an
ellipsis where it was cut, and is cut nowhere else. -/
theorem cut_append_ellipsis_eq_iff :
    String.ofList (cut n (text ++ more).toList) ++ ellipsis = text ↔
      text.utf8ByteSize = n + ellipsis.utf8ByteSize ∧ ∃ kept, text = kept ++ ellipsis := by
  constructor
  · intro h
    have hsize : utf8Len (cut n (text ++ more).toList) + ellipsis.utf8ByteSize
        = text.utf8ByteSize := by
      rw [← String.utf8ByteSize_ofList, ← String.utf8ByteSize_append, h]
    have hnext : (text ++ more).toList
        = cut n (text ++ more).toList ++ '(' :: ("...)".toList ++ more.toList) := by
      conv => lhs; rw [← h]
      simp [ellipsis]
    have hle := utf8Len_cut_le n (text ++ more).toList
    have hlt := lt_of_cut_eq hnext
    have hparen : '('.utf8Size = 1 := rfl
    exact ⟨by omega, _, h.symm⟩
  · rintro ⟨hsize, kept, rfl⟩
    have hkept : n = utf8Len kept.toList := by
      rw [String.utf8ByteSize_append] at hsize
      rw [String.utf8Len_toList]
      omega
    rw [hkept, String.append_assoc, String.toList_append, cut_append_self, String.ofList_toList]

/-- **When what follows a text leaves no trace in the block.** The text is too long by itself; or it
fits to the byte and ends as a cut text would. -/
theorem block_append_eq_iff (htext : text ≠ "") (hmore : more ≠ "")
    (hbudget : leastSize language ≤ budget) :
    block (text ++ more) language budget = block text language budget ↔
      budget < wholeSize text language ∨
        wholeSize text language = budget ∧ ∃ kept, text = kept ++ ellipsis := by
  rcases Nat.lt_or_ge budget (wholeSize text language) with h | h
  · simp only [h, true_or, iff_true]
    exact block_append_of_lt more htext h
  rw [block_of_le htext h]
  have hne : text ++ more ≠ "" := by simp [htext]
  have hgrows := wholeSize_append_gt text language hmore
  rcases Nat.lt_or_ge budget (wholeSize (text ++ more) language) with hlong | hfits
  · rw [block_of_lt hne hlong, String.append_left_inj, String.append_assoc,
      String.append_right_inj, cut_append_ellipsis_eq_iff]
    have hsize : text.utf8ByteSize = allowance language budget + ellipsis.utf8ByteSize ↔
        wholeSize text language = budget := by
      simp only [wholeSize, leastSize, allowance, utf8ByteSize_mark,
        utf8ByteSize_ellipsis] at hbudget ⊢
      omega
    rw [hsize, or_iff_right (Nat.not_lt.mpr h)]
  · rw [block_of_le hne hfits, String.append_left_inj, String.append_right_inj]
    have hlonger : text ++ more ≠ text := by
      intro heq
      rw [heq] at hgrows
      exact Nat.lt_irrefl _ hgrows
    have hroom : wholeSize text language ≠ budget := by omega
    simp [hlonger, hroom, Nat.not_lt.mpr h]

end Fence

end ScriptHost
