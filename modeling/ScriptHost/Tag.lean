import ScriptHost.Failure

/-!
# Languages and type tags

A module is told the language of a source by one byte. Two languages have names; any other
ASCII character names its own byte, which the module may refuse.

## Main definitions

* `Tag.ofLanguage` — the tag of a language name.
* `Tag.fenceLanguage` — the name in the code fence of its output.
-/

namespace ScriptHost

/-- The byte that selects a module's mode of interpretation. -/
structure Tag where
  byte : UInt8
  deriving DecidableEq, Repr

namespace Tag

/-- Script source. -/
def script : Tag := ⟨0x73⟩

/-- The compiled dialect. -/
def compiled : Tag := ⟨0x63⟩

/-- The tag of a language name. Names are told apart without regard to ASCII case; a single
ASCII character stands for its own byte, in its own case. -/
def ofLanguage (language : String) : Except Failure Tag :=
  match language.toLower with
  | "sqf" | "script" => .ok script
  | "sqc" | "compiled" => .ok compiled
  | _ =>
    match language.toList with
    | [c] =>
      if c.toNat < 0x80 then .ok ⟨c.toNat.toUInt8⟩ else .error (.unsupportedLanguage language)
    | _ => .error (.unsupportedLanguage language)

/-- The language name in the code fence of a tag's output. -/
def fenceLanguage (t : Tag) : String :=
  if t = script then "sqf" else if t = compiled then "sqc" else ""

/-- The tag as the Latin-1 character of its byte. -/
def display (t : Tag) : String :=
  (Char.ofNat t.byte.toNat).toString

end Tag

end ScriptHost
