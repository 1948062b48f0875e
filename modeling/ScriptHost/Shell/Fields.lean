import ScriptHost.Shell.Script
import ScriptHost.Text.Octets

/-!
# Fields

The expansion of a word is a text of which some spans fall into fields at their separators.
This module holds such texts and how they fall apart.

## Main definitions

* `Atom`, `Span` — an expanded word.
* `Fields.split` — the fields of an expanded word.
* `Atom.text`, `Atom.pattern` — a field as a text, and as a pattern for paths.

## Separators

A blank among the separators separates fields only once however often it is repeated, and
not at all at the start. Any other separator ends a field each time, together with the
blanks around it. Where only so many fields are wanted, the last one keeps its separators,
except for blanks at its end, and for one other separator if nothing follows it.
-/

namespace ScriptHost.Shell

/-- What an expanded word is made of. -/
inductive Atom where
  | char (c : Char) (quoted : Bool)
  /-- A quotation mark. -/
  | mark
  /-- The end of one of several arguments. -/
  | gap
  deriving DecidableEq, Repr

namespace Atom

/-- The text of atoms. -/
def text (atoms : List Atom) : Octets :=
  String.ofList (atoms.filterMap fun a =>
    match a with
    | .char c _ => some c
    | _ => none)

/-- The atoms of a text. -/
def ofText (s : Octets) (quoted : Bool) : List Atom :=
  s.toList.map (.char · quoted)

/-- The pattern that atoms spell: what is quoted stands for itself. A backslash that came from a
value quotes what follows it. -/
def pattern : List Atom → List Char
  | .char '\\' false :: .char c true :: rest => '\\' :: c :: pattern rest
  | .char c true :: rest => '\\' :: c :: pattern rest
  | .char c false :: rest => c :: pattern rest
  | .mark :: rest | .gap :: rest => pattern rest
  | [] => []

end Atom

/-- How a span falls into fields. -/
inductive Splitting where
  /-- Not at all. -/
  | whole
  /-- At its separators. -/
  | fields
  /-- Between arguments only. -/
  | arguments
  deriving DecidableEq, Repr

/-- A part of an expanded word. -/
structure Span where
  splitting : Splitting
  /-- Characters of the script itself. -/
  literal : Bool
  atoms : List Atom
  deriving DecidableEq, Repr

namespace Span

/-- The atoms of spans. -/
def allAtoms (spans : List Span) : List Atom :=
  spans.flatMap (·.atoms)

/-- The text of spans. -/
def text (spans : List Span) : Octets :=
  Atom.text (allAtoms spans)

end Span

namespace Fields

/-- Fields in the making. -/
structure Progress where
  /-- The complete fields, the last one first. -/
  complete : List (List Atom)
  /-- The field in the making, its last atom first. -/
  current : List Atom
  /-- A blank has just ended a field. -/
  afterBlank : Bool
  /-- The span is made of arguments. -/
  inArguments : Bool
  /-- The span before it was made of arguments. -/
  afterArguments : Bool
  /-- How many fields are still wanted, unless that does not matter. -/
  wanted : Option Nat
  /-- How much of the last field is kept for sure. -/
  kept : Option Nat

/-- Before anything is split. -/
def Progress.start (wanted : Option Nat) : Progress :=
  ⟨[], [], false, false, false, wanted, none⟩

namespace Progress

/-- An atom that belongs to the field in the making. -/
def extend (p : Progress) (a : Atom) : Progress :=
  { p with current := a :: p.current }

/-- A field ends. -/
def finish (p : Progress) : Progress :=
  { p with complete := p.current.reverse :: p.complete, current := [] }

/-- An atom of the last field that is wanted. -/
def extendLast (p : Progress) (a : Atom) (separates isBlank : Bool) : Progress :=
  let kept :=
    if isBlank then p.kept.orElse fun _ => some p.current.length
    else if separates && p.afterBlank then p.kept
    else none
  { p with kept := kept, afterBlank := p.afterBlank && isBlank }.extend a

/-- A separator. -/
def separate (p : Progress) (a : Atom) (isBlank : Bool) : Progress :=
  let afterBlank :=
    if p.afterArguments || p.inArguments then p.afterBlank else isBlank
  if p.current.isEmpty && afterBlank then { p with afterBlank := false }
  else
    let p := { p with afterBlank := afterBlank }
    match p.wanted with
    | some 1 => { p with wanted := some 0, kept := some p.current.length }.extend a
    | some n => { p with wanted := some (n - 1) }.finish
    | none => p.finish

/-- An atom of a span that is split. -/
def step (separators : List Char) (p : Progress) (a : Atom) : Progress :=
  let separates := match a with
    | .gap => true
    | .char c _ => !p.inArguments && separators.contains c
    | .mark => false
  let isBlank := separates && match a with
    | .char c _ => c = ' ' || c = '\t' || c = '\n'
    | _ => true
  if p.wanted = some 0 then p.extendLast a separates isBlank
  else if p.afterBlank then
    if isBlank then p
    else if separates then { p with afterBlank := false }
    else { p with afterBlank := false }.extend a
  else if separates then p.separate a isBlank
  else { p with afterBlank := false }.extend a

/-- A span. -/
def span (separators : List Char) (p : Progress) (s : Span) : Progress :=
  match s.splitting with
  | .whole => s.atoms.foldl extend p
  | splitting =>
    s.atoms.foldl (step separators)
      { p with
        afterBlank := false
        afterArguments := p.inArguments
        inArguments := splitting = .arguments }

/-- All fields, with the one in the making unless it is empty. -/
def fields (p : Progress) : List (List Atom) :=
  let last := p.current.reverse
  if p.inArguments then (last :: p.complete).reverse
  else
    let last := match p.kept with
      | some n => last.take n
      | none => last
    if last.isEmpty then p.complete.reverse else (last :: p.complete).reverse

end Progress

/-- The fields of an expanded word, as many as are wanted at most. -/
def split (separators : List Char) (wanted : Option Nat) (spans : List Span) : List (List Atom) :=
  (spans.foldl (Progress.span separators) (.start wanted)).fields

end Fields

end ScriptHost.Shell
