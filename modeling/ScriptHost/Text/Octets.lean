import ScriptHost.Text.Utf8

/-!
# Texts of octets

Programs of the system handle bytes that need not be UTF-8. A text of octets is a string in
which every character stands for one byte, so that ASCII literals, comparisons and pattern
matching work on it as on any string.

## Main definitions

* `Octets.ofBytes`, `Octets.toBytes` — between bytes and texts of octets.
* `Octets.ofText`, `Octets.toText` — between texts and texts of octets.
-/

namespace ScriptHost

/-- A text whose characters stand for bytes. -/
abbrev Octets := String

namespace Octets

/-- The text of octets that stands for bytes. -/
def ofBytes (b : Bytes) : Octets :=
  String.ofList (b.map fun x => Char.ofNat x.toNat)

/-- The bytes that a text of octets stands for. -/
def toBytes (s : Octets) : Bytes :=
  s.toList.map fun c => UInt8.ofNat c.toNat

/-- The octets of a text in UTF-8. -/
def ofText (s : String) : Octets :=
  ofBytes (Utf8.encode s)

/-- The text that octets spell in UTF-8, with replacement characters where they spell none. -/
def toText (s : Octets) : String :=
  Utf8.decodeLossy (toBytes s)

end Octets

end ScriptHost
