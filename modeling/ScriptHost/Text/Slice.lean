/-!
# Slices of texts

Parts of a text between two positions. Positions count UTF-8 bytes, so not every number is the
position of a character.

## Main definitions

* `splitBytes?` — the text before and after a position.
* `slice?` — the text between two positions.

## Main results

* `append_of_splitBytes?` — the two parts of a split are the whole.
-/

namespace ScriptHost.Text

/-- The text before and after a position, if a character begins or the text ends there. -/
def splitBytes? (n : Nat) : List Char → Option (List Char × List Char)
  | [] => if n = 0 then some ([], []) else none
  | c :: cs =>
    if n = 0 then some ([], c :: cs)
    else if c.utf8Size ≤ n then
      (splitBytes? (n - c.utf8Size) cs).map fun r => (c :: r.1, r.2)
    else none

/-- The text between two positions, if both are positions of characters. -/
def slice? (first last : Nat) (cs : List Char) : Option (List Char) :=
  (splitBytes? first cs).bind fun r => (splitBytes? (last - first) r.2).map (·.1)

/-- The text from a position on, if it is the position of a character. -/
def sliceFrom? (first : Nat) (cs : List Char) : Option (List Char) :=
  (splitBytes? first cs).map (·.2)

/-- The two parts of a split are the whole. -/
theorem append_of_splitBytes? {n : Nat} {cs before after : List Char}
    (h : splitBytes? n cs = some (before, after)) : before ++ after = cs := by
  induction cs generalizing n before after with
  | nil =>
    simp only [splitBytes?] at h
    split at h
    · obtain ⟨rfl, rfl⟩ := Prod.mk.inj (Option.some.inj h)
      rfl
    · cases h
  | cons c cs ih =>
    simp only [splitBytes?] at h
    split at h
    · obtain ⟨rfl, rfl⟩ := Prod.mk.inj (Option.some.inj h)
      rfl
    · split at h
      · obtain ⟨⟨b, a⟩, hr, heq⟩ := Option.map_eq_some_iff.1 h
        obtain ⟨rfl, rfl⟩ := Prod.mk.inj heq
        simp [ih hr]
      · cases h

end ScriptHost.Text
