import ScriptHost.Toml.Assembly
import ScriptHost.Toml.Scalar

/-!
# TOML documents

Reads a whole document: one statement a line, with comments, blank lines and an optional
byte order mark.

## Main definitions

* `key` — a dotted key.
* `value` — any value; arrays and inline tables nest at most 79 deep.
* `parse?` — the table of a document.

## Fuel

Readers of nested values take a fuel of at least the number of characters left: a level of an
array takes two steps, and it has two brackets.
-/

namespace ScriptHost.Toml

/-- The nesting at which values are refused, and the number of parts at which dotted keys
are. -/
def nestingLimit : Nat := 80

/-! ### Keys -/

/-- A character of a bare key. -/
def isBareKey (c : Char) : Bool :=
  ('a' ≤ c && c ≤ 'z') || ('A' ≤ c && c ≤ 'Z') || ('0' ≤ c && c ≤ '9') || c = '-' || c = '_'

/-- One part of a key: bare or quoted. -/
def keyPart : Reader String
  | '"' :: cs => basicString ('"' :: cs)
  | '\'' :: cs => literalString ('\'' :: cs)
  | cs =>
    match cs.span isBareKey with
    | ([], _) => none
    | (name, cs) => some (String.ofList name, cs)

/-- The parts of a dotted key, with spaces around each. -/
def keyParts : Nat → Reader (List String)
  | 0, _ => none
  | fuel + 1, cs => do
    let (part, cs) ← keyPart (skipSpaces cs)
    match skipSpaces cs with
    | '.' :: cs =>
      let (parts, cs) ← keyParts fuel cs
      some (part :: parts, cs)
    | cs => some ([part], cs)

/-- A dotted key: what precedes its last part, and that part. -/
def key : Reader (List String × String) := fun cs => do
  let (parts, cs) ← keyParts nestingLimit cs
  let last ← parts.getLast?
  if parts.length < nestingLimit then some ((parts.dropLast, last), cs) else none

/-! ### Trivia -/

/-- Drops a comment, if the text begins with one. -/
def skipComment : List Char → List Char
  | '#' :: cs => cs.dropWhile isPlain
  | cs => cs

/-- The rest of a line after a statement: spaces and a comment, up to the line end or the
end of the text. -/
def restOfLine (cs : List Char) : Option (List Char) :=
  match skipComment (skipSpaces cs) with
  | [] => some []
  | cs => (lineEnd cs).map (·.2)

/-- Drops comments, each to the end of its line, and the spaces and line ends after them. -/
def skipComments : Nat → List Char → List Char
  | fuel + 1, '#' :: cs =>
    match lineEnd (cs.dropWhile isPlain) with
    | some (_, rest) => skipComments fuel (skipSpacesAndLines rest)
    | none => '#' :: cs
  | _, cs => cs

/-- Drops spaces, line ends and comments between the elements of an array. A comment has to
end its line. -/
def skipTrivia (cs : List Char) : List Char :=
  match skipSpacesAndLines cs with
  | '#' :: rest => skipComments (rest.length + 1) ('#' :: rest)
  | rest => rest

/-! ### Values -/

mutual

/-- A value at some depth of nesting. -/
def value (fuel depth : Nat) (cs : List Char) : Option (Value × List Char) :=
  match fuel, cs with
  | 0, _ => none
  | _, [] => none
  | fuel + 1, c :: cs =>
    if c = '"' || c = '\'' then (string (c :: cs)).map fun r => (.string r.1, r.2)
    else if c = '[' then
      if nestingLimit ≤ depth + 1 then none
      else (array fuel (depth + 1) cs).map fun r => (.array r.1, r.2)
    else if c = '\x7b' then
      if nestingLimit ≤ depth + 1 then none
      else
        match skipSpaces cs with
        | '\x7d' :: cs => some (.table [], cs)
        | cs => do
          let (ms, cs) ← inlineMembers fuel (depth + 1) [] cs
          some (.table (finishMembers ms), cs)
    else if c = 't' || c = 'f' then (boolean (c :: cs)).map fun r => (.boolean r.1, r.2)
    else
      match dateTime (c :: cs) with
      | some (text, cs) => some (.dateTime text, cs)
      | none =>
        match float (c :: cs) with
        | some (x, cs) => some (.float x, cs)
        | none => (integer (c :: cs)).map fun r => (.integer r.1, r.2)

/-- The elements of an array, after its opening bracket. A comma may follow the last one. -/
def array (fuel depth : Nat) (cs : List Char) : Option (List Value × List Char) :=
  match fuel with
  | 0 => none
  | fuel + 1 =>
    match skipTrivia cs with
    | ']' :: cs => some ([], cs)
    | cs => do
      let (v, cs) ← value fuel depth cs
      match skipTrivia cs with
      | ',' :: cs =>
        let (vs, cs) ← array fuel depth cs
        some (v :: vs, cs)
      | ']' :: cs => some ([v], cs)
      | _ => none

/-- The members of an inline table, after those read so far. -/
def inlineMembers (fuel depth : Nat) (ms : Members) (cs : List Char) :
    Option (Members × List Char) :=
  match fuel with
  | 0 => none
  | fuel + 1 => do
    let ((path, name), cs) ← key cs
    let (_, cs) ← exactly '=' cs
    let (v, cs) ← value fuel depth (skipSpaces cs)
    let ms ← ms.assign path name v
    match skipSpaces cs with
    | ',' :: cs => inlineMembers fuel depth ms cs
    | '\x7d' :: cs => some (ms, cs)
    | _ => none

end

/-! ### Statements -/

/-- A header that opens a table. -/
def tableHeader (d : Draft) (cs : List Char) : Option (Draft × List Char) := do
  let ((path, name), cs) ← key cs
  let (_, cs) ← exactly ']' cs
  let d ← d.openTable path name
  some (d, cs)

/-- A header that opens an element of an array of tables. -/
def elementHeader (d : Draft) (cs : List Char) : Option (Draft × List Char) := do
  let ((path, name), cs) ← key cs
  let (_, cs) ← exactly ']' cs
  let (_, cs) ← exactly ']' cs
  let d ← d.openElement path name
  some (d, cs)

/-- A member of the open table. -/
def member (fuel : Nat) (d : Draft) (cs : List Char) : Option (Draft × List Char) := do
  let ((path, name), cs) ← key cs
  let (_, cs) ← exactly '=' cs
  let (v, cs) ← value fuel 0 (skipSpaces cs)
  let d ← d.assign path name v
  some (d, cs)

/-- The statement at the start of a line, if the line has one. -/
def statement (fuel : Nat) (d : Draft) : List Char → Option (Draft × List Char)
  | [] => some (d, [])
  | '#' :: cs => some (d, '#' :: cs)
  | '\n' :: cs => some (d, '\n' :: cs)
  | '\r' :: cs => some (d, '\r' :: cs)
  | '[' :: '[' :: cs => elementHeader d cs
  | '[' :: cs => tableHeader d cs
  | cs => member fuel d cs

/-- All lines of a document. -/
def lines : Nat → Draft → List Char → Option Draft
  | 0, _, _ => none
  | fuel + 1, d, cs => do
    let (d, cs) ← statement fuel d (skipSpaces cs)
    let cs ← restOfLine cs
    if cs.isEmpty then some d else lines fuel d cs

/-- Drops a byte order mark. -/
def skipMark : List Char → List Char
  | '\uFEFF' :: cs => cs
  | cs => cs

/-- The table of a document; none if the text is no document. -/
def parse? (s : String) : Option Table := do
  let cs := skipMark s.toList
  let d ← lines (cs.length + 1) .empty cs
  let ms ← d.close
  some (finishMembers ms)

end ScriptHost.Toml
