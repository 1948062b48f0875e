/-!
# JSON documents

The values a report is printed as, and their layout: two spaces of indentation, one member
or element per line, empty lists and objects without a line break.

## Escapes

Quotation marks and backslashes are preceded by a backslash. Of the control characters
below U+0020 five have letters (`\b`, `\t`, `\n`, `\f`, `\r`); the others are written as
`\u` and four lower-case hexadecimal digits. All other characters stand for themselves.
-/

namespace ScriptHost

/-- A JSON value; members of an object keep their order. -/
inductive Json where
  | null
  | bool (b : Bool)
  | number (n : Int)
  | text (s : String)
  | list (elements : List Json)
  | object (members : List (String × Json))

namespace Json

/-- A lower-case hexadecimal digit. -/
def hexDigit (n : Nat) : Char :=
  if n < 10 then Char.ofNat ('0'.toNat + n) else Char.ofNat ('a'.toNat + (n - 10))

/-- A character inside a string literal. -/
def escape (c : Char) : List Char :=
  match c with
  | '"' => ['\\', '"']
  | '\\' => ['\\', '\\']
  | '\n' => ['\\', 'n']
  | '\r' => ['\\', 'r']
  | '\t' => ['\\', 't']
  | c =>
    if c.toNat = 0x08 then ['\\', 'b']
    else if c.toNat = 0x0C then ['\\', 'f']
    else if c.toNat < 0x20 then
      ['\\', 'u', '0', '0', hexDigit (c.toNat / 16), hexDigit (c.toNat % 16)]
    else [c]

/-- A string literal. -/
def quote (s : String) : String :=
  String.ofList ('"' :: s.toList.flatMap escape ++ ['"'])

/-- A line break and the indentation of a level. -/
def newline (level : Nat) : String :=
  "\n" ++ "".pushn ' ' (2 * level)

mutual

/-- The layout of a value whose members are indented to `level + 1`. -/
def pretty (level : Nat) : Json → String
  | .null => "null"
  | .bool b => if b then "true" else "false"
  | .number n => toString n
  | .text s => quote s
  | .list [] => "[]"
  | .list (x :: xs) =>
    "[" ++ newline (level + 1) ++ pretty (level + 1) x ++ elements (level + 1) xs
      ++ newline level ++ "]"
  | .object [] => "\x7b\x7d"
  | .object (m :: ms) =>
    "\x7b" ++ newline (level + 1) ++ member (level + 1) m ++ members (level + 1) ms
      ++ newline level ++ "\x7d"

/-- The elements of a list after the first. -/
def elements (level : Nat) : List Json → String
  | [] => ""
  | x :: xs => "," ++ newline level ++ pretty level x ++ elements level xs

/-- A member of an object. -/
def member (level : Nat) : String × Json → String
  | (key, value) => quote key ++ ": " ++ pretty level value

/-- The members of an object after the first. -/
def members (level : Nat) : List (String × Json) → String
  | [] => ""
  | m :: ms => "," ++ newline level ++ member level m ++ members level ms

end

/-- The document of a value. -/
def render (j : Json) : String :=
  pretty 0 j

end Json

end ScriptHost
