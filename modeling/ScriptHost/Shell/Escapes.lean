import ScriptHost.Text.Octets

/-!
# Escapes in what is printed

A backslash and a letter or octal digits stand for a character in what `echo` and `printf`
print.

## Main definitions

* `Escapes.one` — the character of one escape.
* `Escapes.printed` — a text with its escapes replaced, up to one that ends printing.
-/

namespace ScriptHost.Shell.Escapes

/-- An octal digit. -/
def isOctal (c : Char) : Bool :=
  '0' ≤ c && c ≤ '7'

/-- The character of up to three octal digits, and what follows them. -/
def octal (cs : List Char) : Char × List Char :=
  let digits := (cs.take 3).takeWhile isOctal
  let value := digits.foldl (fun n c => 8 * n + (c.toNat - '0'.toNat)) 0
  (Char.ofNat (value % 256), cs.drop digits.length)

/-- The character that a letter after a backslash stands for. -/
def letter? (c : Char) : Option Char :=
  [('a', '\x07'), ('b', '\x08'), ('e', '\x1b'), ('f', '\x0c'), ('n', '\n'), ('r', '\r'),
    ('t', '\t'), ('v', '\x0b'), ('\\', '\\')].lookup c

/-- The character that stands for what follows a backslash, and the rest. A backslash that begins
no escape stands for itself. -/
def one (cs : List Char) : Char × List Char :=
  match cs with
  | [] => ('\\', [])
  | c :: rest =>
    if isOctal c then octal cs
    else
      match letter? c with
      | some x => (x, rest)
      | none => ('\\', cs)

/-- Characters with their escapes replaced, and whether printing goes on after them. The escape
`\c` ends it. An octal escape may have a zero in front of its digits. -/
def printedFrom : Nat → List Char → List Char × Bool
  | 0, _ => ([], true)
  | fuel + 1, cs =>
    match cs with
    | [] => ([], true)
    | '\\' :: 'c' :: _ => ([], false)
    | '\\' :: rest =>
      let digits := match rest with
        | '0' :: c :: more => if isOctal c then c :: more else rest
        | _ => rest
      let (c, rest) := one digits
      let (later, goesOn) := printedFrom fuel rest
      (c :: later, goesOn)
    | c :: rest =>
      let (later, goesOn) := printedFrom fuel rest
      (c :: later, goesOn)

/-- A text with its escapes replaced, and whether printing goes on after it. -/
def printed (s : Octets) : Octets × Bool :=
  let (cs, goesOn) := printedFrom (s.length + 1) s.toList
  (String.ofList cs, goesOn)

/-- What is printed for words with blanks between them. -/
def words : List Octets → Octets × Bool
  | [] => ("", true)
  | [w] => printed w
  | w :: rest =>
    let (first, goesOn) := printed w
    if goesOn then
      let (later, goesOn) := words rest
      (first ++ " " ++ later, goesOn)
    else (first, false)

end ScriptHost.Shell.Escapes
