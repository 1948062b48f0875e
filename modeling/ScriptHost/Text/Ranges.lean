/-!
# Ranges of code points

Classes of characters are tables of ranges, both ends included.
-/

namespace ScriptHost.Text

/-- A character whose code point lies in one of the ranges. -/
def inRanges (ranges : List (Nat × Nat)) (c : Char) : Bool :=
  ranges.any fun r => r.1 ≤ c.toNat && c.toNat ≤ r.2

end ScriptHost.Text
