import ScriptHost.Number.Decimal
import ScriptHost.Pattern.Reader
import ScriptHost.Text.Blank
import ScriptHost.Text.Slice

/-!
# Log filters

What is logged is chosen by a filter: a level, or a target with an optional level, or spans
and fields in brackets, as in `target[span{field=value}]=level`. Here only the question is
answered whether a text is a filter at all.

## Main definitions

* `isLevel` — the names and numbers of levels.
* `isField` — a field with an optional value.
* `check` — a text is a filter, or what is wrong with it.

## Positions

Blanks around a filter are passed over, but names and levels are taken from the whole text, at the
positions that they have without the leading blanks. Positions count UTF-8 bytes. So a level
after an equals sign is only recognised if no blank stands in front of the filter, and a position
may turn out to lie in the middle of a character.
-/

namespace ScriptHost.LogFilter

/-! ### Levels and fields -/

/-- The names of the levels. -/
def levelNames : List String := ["error", "warn", "info", "debug", "trace", "off"]

/-- A decimal numeral, which may begin with a plus sign, of a number up to five. -/
def isLevelNumber (cs : List Char) : Bool :=
  let digits := if cs.head? = some '+' then cs.drop 1 else cs
  !digits.isEmpty && digits.all Char.isDigit && ((String.ofList digits).toNat?.getD 6) ≤ 5

/-- The text of a level: a name in any ASCII case, a number, or nothing. -/
def isLevel (cs : List Char) : Bool :=
  cs.isEmpty || isLevelNumber cs || levelNames.contains (String.ofList cs).toLower

/-- What a field may be compared with: a number, or the texts of a pattern. -/
def isValue (cs : List Char) : Bool :=
  (Number.Numeral.parse? (String.ofList cs)).isSome || Pattern.isValid cs

/-- A field, perhaps with a value between its equals sign and another one. -/
def isField (cs : List Char) : Bool :=
  match cs.dropWhile (· ≠ '=') with
  | [] => !cs.isEmpty
  | _ :: value => isValue (value.takeWhile (· ≠ '='))

/-! ### Filters -/

/-- What is wrong with a text as a filter. -/
inductive Fault where
  | malformed
  /-- A name or a level begins or ends in the middle of a character. -/
  | torn
  deriving DecidableEq, Repr

/-- How far a filter has been read. Names and levels begin at a position. -/
inductive Reading where
  | start
  /-- In a level or a target. -/
  | name (first : Nat)
  | span (first : Nat)
  | field (first : Nat)
  /-- After the fields of a span. -/
  | fields
  /-- After a span. -/
  | target
  | level (first : Nat)
  | complete
  deriving DecidableEq, Repr

/-- A character that a level or a target may begin with. -/
def isNameStart (c : Char) : Bool :=
  c = '-' || c = ':' || c = '_' || Text.isAlphanumeric c

/-- Goes on if a part of the text is what it should be. -/
def expectPart (part : Option (List Char)) (isRight : List Char → Bool) (next : Reading) :
    Except Fault Reading :=
  match part with
  | none => .error .torn
  | some cs => if isRight cs then .ok next else .error .malformed

/-- Any text will do for a name. -/
def isName (_ : List Char) : Bool := true

/-- One more character of a filter, at a position. -/
def step (whole : List Char) (r : Reading) (i : Nat) (c : Char) : Except Fault Reading :=
  match r with
  | .start =>
    if c = '[' then .ok (.span (i + 1))
    else if isNameStart c then .ok (.name i)
    else .error .malformed
  | .name first =>
    if c = '=' then expectPart (Text.slice? first i whole) isName (.level (i + 1))
    else if c = '[' then expectPart (Text.slice? first i whole) isName (.span (i + 1))
    else if c = ',' then expectPart (Text.sliceFrom? first whole) isName .complete
    else .ok r
  | .span first =>
    if c = ']' then expectPart (Text.slice? first i whole) isName .target
    else if c = '{' then expectPart (Text.slice? first i whole) isName (.field (i + 1))
    else .ok r
  | .field first =>
    if c = '}' then expectPart (Text.slice? first i whole) isField .fields
    else if c = ',' then expectPart (Text.slice? first i whole) isField (.field (i + 1))
    else .ok r
  | .fields => if c = ']' then .ok .target else .error .malformed
  | .target => if c = '=' then .ok (.level (i + 1)) else .error .malformed
  | .level first =>
    if c = ',' then expectPart (Text.slice? first i whole) isLevel .complete else .ok r
  | .complete => .error .malformed

/-- Reads the characters of a filter from a position on. -/
def read (whole : List Char) (r : Reading) (i : Nat) : List Char → Except Fault Reading
  | [] => .ok r
  | c :: cs =>
    match step whole r i c with
    | .ok r => read whole r (i + c.utf8Size) cs
    | .error e => .error e

/-- The end of a filter. -/
def finish (whole : List Char) : Reading → Except Fault Reading
  | .name first => expectPart (Text.sliceFrom? first whole) isName .complete
  | .level first => expectPart (Text.sliceFrom? first whole) isLevel .complete
  | .target | .complete => .ok .complete
  | .start | .span _ | .field _ | .fields => .error .malformed

/-- What is wrong with a text as a filter, if anything. -/
def check (s : String) : Except Fault Unit :=
  match read s.toList .start 0 (Text.trim s).toList with
  | .ok r => (finish s.toList r).map fun _ => ()
  | .error e => .error e

end ScriptHost.LogFilter
