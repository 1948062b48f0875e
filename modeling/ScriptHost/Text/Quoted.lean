import ScriptHost.Text.Visible

/-!
# Quoted text

A text between double quotes, on one line, for diagnostics. Tabs, line ends, NUL, double
quotes and backslashes have short escapes; any other character that is not visible is written as
its code point in lower-case hexadecimal between braces.
-/

namespace ScriptHost.Text.Quoted

/-- The lower-case hexadecimal digits of a number, at least one. -/
def hexDigits (n : Nat) : String :=
  String.ofList (Nat.toDigits 16 n)

/-- A character inside a quoted text. -/
def escape (c : Char) : String :=
  match c with
  | '\x00' => "\\0"
  | '\t' => "\\t"
  | '\r' => "\\r"
  | '\n' => "\\n"
  | '\\' => "\\\\"
  | '"' => "\\\""
  | c => if isVisible c then c.toString else "\\u\x7b" ++ hexDigits c.toNat ++ "\x7d"

/-- The text in double quotes, with escapes. -/
def encode (s : String) : String :=
  "\"" ++ String.join (s.toList.map escape) ++ "\""

end ScriptHost.Text.Quoted
