/-!
# UTF-8

Byte sequences and their text. `Utf8.pieces` cuts any byte sequence into characters and
maximal ill-formed runs; strict and lossy decoding are two readings of that cut.

## Main definitions

* `Utf8.encode` — the bytes of a text.
* `Utf8.pieces` — characters and maximal ill-formed runs, in order.
* `Utf8.decode?` — the text, if every piece is a character.
* `Utf8.decodeLossy` — the text with one U+FFFD per ill-formed run.

## Ill-formed runs

A run is the longest prefix of a well-formed character that the bytes still spell, and at
least one byte. So `F0 9F 98` followed by `41` is one run, while `C0 80` is two: `C0`
begins no character.
-/

namespace ScriptHost

/-- A sequence of bytes, first byte first. -/
abbrev Bytes := List UInt8

namespace Utf8

/-- The bytes of a text. -/
def encode (s : String) : Bytes :=
  s.toUTF8.toList

/-- A piece of a byte sequence: one character, or one maximal ill-formed run. -/
inductive Piece where
  | char (c : Char)
  | illFormed (run : Bytes)
  deriving DecidableEq, Repr

/-- What a lead byte announces: how many continuation bytes follow, and the range of the
first of them. The ranges leave out overlong forms, surrogates and everything above
U+10FFFF. -/
structure Lead where
  continuations : Nat
  low : UInt8
  high : UInt8
  deriving DecidableEq, Repr

/-- The announcement of a lead byte; `none` for a byte that begins no multi-byte
character. -/
def Lead.of (b : UInt8) : Option Lead :=
  if b < 0xC2 then none
  else if b ≤ 0xDF then some ⟨1, 0x80, 0xBF⟩
  else if b = 0xE0 then some ⟨2, 0xA0, 0xBF⟩
  else if b ≤ 0xEC then some ⟨2, 0x80, 0xBF⟩
  else if b = 0xED then some ⟨2, 0x80, 0x9F⟩
  else if b ≤ 0xEF then some ⟨2, 0x80, 0xBF⟩
  else if b = 0xF0 then some ⟨3, 0x90, 0xBF⟩
  else if b ≤ 0xF3 then some ⟨3, 0x80, 0xBF⟩
  else if b = 0xF4 then some ⟨3, 0x80, 0x8F⟩
  else none

/-- Any continuation byte. -/
def isContinuation (b : UInt8) : Bool :=
  0x80 ≤ b && b ≤ 0xBF

/-- The six bits a continuation byte carries. -/
def payload (b : UInt8) : Nat :=
  b.toNat % 64

/-- The first piece of `b :: rest`, with the bytes that follow it. -/
def firstPiece (b : UInt8) (rest : Bytes) : Piece × Bytes :=
  if b < 0x80 then (.char (Char.ofNat b.toNat), rest)
  else
    match Lead.of b, rest with
    | none, rest => (.illFormed [b], rest)
    | some _, [] => (.illFormed [b], [])
    | some lead, c₁ :: r₁ =>
      if !(lead.low ≤ c₁ && c₁ ≤ lead.high) then (.illFormed [b], c₁ :: r₁)
      else if lead.continuations = 1 then
        (.char (Char.ofNat (b.toNat % 32 * 64 + payload c₁)), r₁)
      else
        match r₁ with
        | [] => (.illFormed [b, c₁], [])
        | c₂ :: r₂ =>
          if !isContinuation c₂ then (.illFormed [b, c₁], c₂ :: r₂)
          else if lead.continuations = 2 then
            (.char (Char.ofNat ((b.toNat % 16 * 64 + payload c₁) * 64 + payload c₂)), r₂)
          else
            match r₂ with
            | [] => (.illFormed [b, c₁, c₂], [])
            | c₃ :: r₃ =>
              if !isContinuation c₃ then (.illFormed [b, c₁, c₂], c₃ :: r₃)
              else
                (.char (Char.ofNat
                  (((b.toNat % 8 * 64 + payload c₁) * 64 + payload c₂) * 64 + payload c₃)), r₃)

/-- The bytes after the first piece are no longer than those after the first byte. -/
theorem length_firstPiece_le (b : UInt8) (rest : Bytes) :
    (firstPiece b rest).2.length ≤ rest.length := by
  unfold firstPiece
  split
  · simp
  · split
    · simp
    · simp
    · split
      · simp
      · split
        · simp
        · split
          · simp
          · split
            · simp
            · split
              · simp; omega
              · split
                · simp
                · split
                  · simp
                  · simp; omega

/-- Characters and maximal ill-formed runs, in order. -/
def pieces : Bytes → List Piece
  | [] => []
  | b :: rest => (firstPiece b rest).1 :: pieces (firstPiece b rest).2
termination_by bytes => bytes.length
decreasing_by
  have := length_firstPiece_le b rest
  simp only [List.length_cons]
  omega

/-- The character a piece stands for when ill-formed runs are replaced. -/
def Piece.orReplacement : Piece → Char
  | .char c => c
  | .illFormed _ => Char.ofNat 0xFFFD

/-- The character of a well-formed piece. -/
def Piece.char? : Piece → Option Char
  | .char c => some c
  | .illFormed _ => none

/-- The text of the bytes, each maximal ill-formed run replaced by U+FFFD. -/
def decodeLossy (bytes : Bytes) : String :=
  String.ofList ((pieces bytes).map Piece.orReplacement)

/-- The text of the bytes, if they are well-formed. -/
def decode? (bytes : Bytes) : Option String :=
  ((pieces bytes).mapM Piece.char?).map String.ofList

end Utf8

end ScriptHost
