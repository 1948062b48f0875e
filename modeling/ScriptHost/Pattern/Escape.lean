import ScriptHost.Text.Blank

/-!
# Escapes in patterns

A pattern is a regular expression. This module holds the modes a pattern is read in and the
single characters of it, plain or escaped.

## Main definitions

* `Mode` — the modes that flags switch on and off.
* `Item` — what a plain character or an escape stands for.
* `Item.isAllowed` — the items that can be compiled in a mode.
* `readEscape?` — the item after a backslash.

## What can be compiled

There are no tables of Unicode properties and of letter case. So properties are refused
everywhere, the shorthands and word boundaries that would need them are left to the byte mode,
and in the Unicode mode nothing can be matched regardless of case. In the byte mode nothing may
match a part of a character.
-/

namespace ScriptHost.Pattern

/-- How a pattern is read. -/
structure Mode where
  /-- Letters match in either case. -/
  ignoreCase : Bool := false
  /-- A character, not a byte, is the unit. -/
  unicode : Bool := true
  /-- Blanks and comments in the pattern do not count. -/
  verbose : Bool := false
  deriving DecidableEq, Repr

/-- What a character or an escape stands for. -/
inductive Item where
  /-- A character, perhaps written as a byte in two hexadecimal digits. -/
  | literal (c : Char) (asByte : Bool)
  | anyCharacter
  /-- A position in the text. -/
  | anchor
  | wordBoundary
  /-- Digits, blanks or word characters, or all others. -/
  | shorthand (negated : Bool)
  deriving DecidableEq, Repr

/-- A character of seven bits. -/
def isAscii (c : Char) : Bool :=
  c.toNat < 0x80

/-- An item that can be compiled outside of brackets. -/
def Item.isAllowed (m : Mode) : Item → Bool
  | .literal c asByte =>
    if m.unicode then !m.ignoreCase else !asByte || isAscii c
  | .anyCharacter => m.unicode
  | .anchor => true
  | .wordBoundary => !m.unicode
  | .shorthand negated => !m.unicode && !negated

/-! ### Blanks -/

/-- Drops blanks, and comments up to the end of their lines. -/
def dropBlanks (inComment : Bool) : List Char → List Char
  | [] => []
  | c :: cs =>
    if inComment then dropBlanks (c ≠ '\n') cs
    else if Text.isBlank c then dropBlanks false cs
    else if c = '#' then dropBlanks true cs
    else c :: cs

/-- Passes over what does not count in a mode. -/
def skip (m : Mode) (cs : List Char) : List Char :=
  if m.verbose then dropBlanks false cs else cs

/-! ### Escapes -/

/-- The value of a hexadecimal digit. -/
def hexValue? (c : Char) : Option Nat :=
  if '0' ≤ c && c ≤ '9' then some (c.toNat - '0'.toNat)
  else if 'a' ≤ c && c ≤ 'f' then some (c.toNat - 'a'.toNat + 10)
  else if 'A' ≤ c && c ≤ 'F' then some (c.toNat - 'A'.toNat + 10)
  else none

/-- The number that so many hexadecimal digits spell, and what follows them. -/
def readHex? (m : Mode) : Nat → Nat → List Char → Option (Nat × List Char)
  | 0, value, cs => some (value, skip m cs)
  | count + 1, value, cs =>
    match skip m cs with
    | [] => none
    | c :: cs => (hexValue? c).bind fun d => readHex? m count (16 * value + d) cs

/-- The character of a code point in hexadecimal digits, and what follows them. -/
def readCodePoint? (m : Mode) (count : Nat) (cs : List Char) : Option (Item × List Char) :=
  (readHex? m count 0 cs).bind fun r =>
    if r.1.isValidChar then some (.literal (Char.ofNat r.1) (count = 2), r.2) else none

/-- The letters of control characters. -/
def controlLetters : List (Char × Char) :=
  [('a', '\x07'), ('f', '\x0c'), ('t', '\t'), ('n', '\n'), ('r', '\r'), ('v', '\x0b')]

/-- A character that a backslash in front makes plain. -/
def isEscapable (c : Char) : Bool :=
  isAscii c && !c.isAlphanum && c ≠ '<' && c ≠ '>'

/-- The item after a backslash, and what follows it. Back references and properties cannot be
compiled, and other letters have no meaning. -/
def readEscape? (m : Mode) : List Char → Option (Item × List Char)
  | [] => none
  | c :: cs =>
    if isEscapable c then some (.literal c false, cs)
    else
      match controlLetters.lookup c with
      | some control => some (.literal control false, cs)
      | none =>
        match c with
        | 'x' => readCodePoint? m 2 cs
        | 'u' => readCodePoint? m 4 cs
        | 'U' => readCodePoint? m 8 cs
        | 'd' | 's' | 'w' => some (.shorthand false, cs)
        | 'D' | 'S' | 'W' => some (.shorthand true, cs)
        | 'A' | 'z' => some (.anchor, cs)
        | 'b' | 'B' | '<' | '>' => some (.wordBoundary, cs)
        | _ => none

end ScriptHost.Pattern
