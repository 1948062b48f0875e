/-!
# Fenced messages

Output is sent as a code block: an opening fence with a language name, the text, and a
closing fence. A transport message has a byte budget; when the block would exceed it, the
text is cut and an ellipsis stands for the rest, so that both fences survive.

## Main definitions

* `Fence.block text language budget` — the message.
* `Fence.cut n cs` — the longest prefix of at most `n` bytes.

## Cutting

A cut never falls inside a character. If even the fences and the ellipsis exceed the
budget, nothing of the text is kept and the message is longer than the budget.
-/

namespace ScriptHost.Fence

/-- Three backquotes open and close a block. -/
def mark : String := "```"

/-- Stands for the part of a text that was cut off. -/
def ellipsis : String := "(...)"

/-- The message for an empty text. It names no language: a bare fence with a language name
would show that name as the text. -/
def emptyBlock : String := "```\n```"

/-- The byte budget of one transport message unless a smaller or larger one is set. -/
def messageBudget : Nat := 2000

/-- The opening fence for a language. -/
def opening (language : String) : String :=
  mark ++ language ++ "\n"

/-- How many leading characters of `cs` take at most `n` bytes together, counted on from
`count`. -/
def countWithin (n : Nat) (count : Nat) : List Char → Nat
  | [] => count
  | c :: cs => if c.utf8Size ≤ n then countWithin (n - c.utf8Size) (count + 1) cs else count

/-- The longest prefix of at most `n` bytes. -/
def cut (n : Nat) (cs : List Char) : List Char :=
  cs.take (countWithin n 0 cs)

/-- A cut is a prefix. -/
theorem cut_prefix (n : Nat) (cs : List Char) : cut n cs <+: cs :=
  List.take_prefix _ _

/-- A cut of an empty text is empty. -/
@[simp] theorem cut_nil (n : Nat) : cut n [] = [] := by
  simp [cut]

/-- The bytes left for a cut text between opening fence, ellipsis and closing fence. -/
def allowance (language : String) (budget : Nat) : Nat :=
  budget - ((opening language).utf8ByteSize + mark.utf8ByteSize + ellipsis.utf8ByteSize)

/-- `text` as a code block of at most `budget` bytes. -/
def block (text language : String) (budget : Nat) : String :=
  if text.isEmpty then emptyBlock
  else if (opening language).utf8ByteSize + text.utf8ByteSize + mark.utf8ByteSize ≤ budget then
    opening language ++ text ++ mark
  else
    opening language ++ String.ofList (cut (allowance language budget) text.toList)
      ++ ellipsis ++ mark

end ScriptHost.Fence
