import ScriptHost.Number.Decimal
import ScriptHost.Toml.Value

/-!
# Scalars of TOML

Readers for strings, numbers, date-times and booleans. A reader takes characters from the
front of a text and answers what it read with the rest, or nothing if the text does not
begin that way.

## Main definitions

* `Reader` — the type of readers.
* `basicString`, `literalString` and their multi-line forms.
* `integer`, `float`, `dateTime`, `boolean`.
-/

namespace ScriptHost.Toml

open Number

/-- Reads something from the front of a text. -/
abbrev Reader (α : Type) := List Char → Option (α × List Char)

/-! ### Characters -/

/-- A character that a comment or a literal string may hold: anything but controls; a tab
is no control here. -/
def isPlain (c : Char) : Bool :=
  c = '\t' || (0x20 ≤ c.toNat && c.toNat ≠ 0x7F)

/-- A space or a tab. -/
def isSpace (c : Char) : Bool :=
  c = ' ' || c = '\t'

/-- Drops spaces and tabs. -/
def skipSpaces (cs : List Char) : List Char :=
  cs.dropWhile isSpace

/-- A line end: LF or CR LF. -/
def lineEnd : Reader Unit
  | '\n' :: cs => some ((), cs)
  | '\r' :: '\n' :: cs => some ((), cs)
  | _ => none

/-- Drops spaces, tabs and line ends. -/
def skipSpacesAndLines : List Char → List Char
  | ' ' :: cs => skipSpacesAndLines cs
  | '\t' :: cs => skipSpacesAndLines cs
  | '\n' :: cs => skipSpacesAndLines cs
  | '\r' :: '\n' :: cs => skipSpacesAndLines cs
  | cs => cs

/-- The value of a hexadecimal digit. -/
def hexValue? (c : Char) : Option Nat :=
  if '0' ≤ c && c ≤ '9' then some (c.toNat - '0'.toNat)
  else if 'a' ≤ c && c ≤ 'f' then some (c.toNat - 'a'.toNat + 10)
  else if 'A' ≤ c && c ≤ 'F' then some (c.toNat - 'A'.toNat + 10)
  else none

/-! ### Strings -/

/-- The character with a code point written as `count` hexadecimal digits; surrogates are
none. -/
def codePoint (count : Nat) : Reader Char := fun cs =>
  match (cs.take count).mapM hexValue? with
  | some ds =>
    let n := ds.foldl (fun n d => 16 * n + d) 0
    if ds.length = count && (n < 0xD800 || (0xE000 ≤ n && n < 0x110000)) then
      some (Char.ofNat n, cs.drop count)
    else none
  | none => none

/-- The character of an escape, after its backslash. -/
def escape : Reader Char
  | 'b' :: cs => some ('\x08', cs)
  | 't' :: cs => some ('\t', cs)
  | 'n' :: cs => some ('\n', cs)
  | 'f' :: cs => some ('\x0c', cs)
  | 'r' :: cs => some ('\r', cs)
  | '"' :: cs => some ('"', cs)
  | '\\' :: cs => some ('\\', cs)
  | 'u' :: cs => codePoint 4 cs
  | 'U' :: cs => codePoint 8 cs
  | _ => none

/-- The rest of a basic string, after its opening quote. What was read so far comes in
reverse. The fuel is at least the number of characters. -/
def basicBody (fuel : Nat) (read : List Char) (cs : List Char) : Option (String × List Char) :=
  match fuel, cs with
  | 0, _ => none
  | _, [] => none
  | _, '"' :: cs => some (String.ofList read.reverse, cs)
  | fuel + 1, '\\' :: cs =>
    match escape cs with
    | some (c, cs) => basicBody fuel (c :: read) cs
    | none => none
  | fuel + 1, c :: cs => if isPlain c then basicBody fuel (c :: read) cs else none

/-- A string in double quotes on one line. -/
def basicString : Reader String
  | '"' :: cs => basicBody (cs.length + 1) [] cs
  | _ => none

/-- A string in single quotes on one line. -/
def literalString : Reader String
  | '\'' :: cs =>
    match cs.span fun c => c ≠ '\'' && isPlain c with
    | (body, '\'' :: cs) => some (String.ofList body, cs)
    | _ => none
  | _ => none

/-- Drops one line end, if the text begins with one. -/
def dropLineEnd (cs : List Char) : List Char :=
  match lineEnd cs with
  | some (_, cs) => cs
  | none => cs

/-- The end of a multi-line string at a run of quotes: three close it, and up to two more
before them belong to the string. The answer is what the run adds to the string, and whether
it closes. -/
def closing (quote : Char) (cs : List Char) : List Char × Bool × List Char :=
  let run := cs.takeWhile (· = quote)
  let cs := cs.dropWhile (· = quote)
  if run.length < 3 then (run, false, cs)
  else
    let own := min 2 (run.length - 3)
    (List.replicate own quote, true, List.replicate (run.length - 3 - own) quote ++ cs)

/-- A line end escaped by a backslash, after the backslash: spaces, a line end, and all
spaces and line ends after it. -/
def escapedLineEnd (cs : List Char) : Option (List Char) :=
  (lineEnd (skipSpaces cs)).map fun r => skipSpacesAndLines r.2

/-- The rest of a multi-line basic string, after its opening quotes. -/
def multiBasicBody (fuel : Nat) (read : List Char) (cs : List Char) :
    Option (String × List Char) :=
  match fuel, cs with
  | 0, _ => none
  | _, [] => none
  | fuel + 1, '"' :: cs =>
    match closing '"' ('"' :: cs) with
    | (own, true, cs) => some (String.ofList (own ++ read).reverse, cs)
    | (own, false, cs) => multiBasicBody fuel (own ++ read) cs
  | fuel + 1, '\\' :: cs =>
    match escapedLineEnd cs with
    | some cs => multiBasicBody fuel read cs
    | none =>
      match escape cs with
      | some (c, cs) => multiBasicBody fuel (c :: read) cs
      | none => none
  | fuel + 1, c :: cs =>
    match lineEnd (c :: cs) with
    | some (_, cs) => multiBasicBody fuel ('\n' :: read) cs
    | none => if isPlain c then multiBasicBody fuel (c :: read) cs else none

/-- The rest of a multi-line literal string, after its opening quotes. -/
def multiLiteralBody (fuel : Nat) (read : List Char) (cs : List Char) :
    Option (String × List Char) :=
  match fuel, cs with
  | 0, _ => none
  | _, [] => none
  | fuel + 1, '\'' :: cs =>
    match closing '\'' ('\'' :: cs) with
    | (own, true, cs) => some (String.ofList (own ++ read).reverse, cs)
    | (own, false, cs) => multiLiteralBody fuel (own ++ read) cs
  | fuel + 1, c :: cs =>
    match lineEnd (c :: cs) with
    | some (_, cs) => multiLiteralBody fuel ('\n' :: read) cs
    | none => if isPlain c then multiLiteralBody fuel (c :: read) cs else none

/-- A string in any of its four forms. A line end right after three opening quotes does not
belong to the string. -/
def string : Reader String
  | '"' :: '"' :: '"' :: cs => multiBasicBody (cs.length + 1) [] (dropLineEnd cs)
  | '\'' :: '\'' :: '\'' :: cs => multiLiteralBody (cs.length + 1) [] (dropLineEnd cs)
  | '"' :: cs => basicString ('"' :: cs)
  | cs => literalString cs

/-! ### Numbers -/

/-- Digits of one kind with single underscores between them, underscores left out. -/
def digitRun (isDigit : Char → Bool) (cs : List Char) : Option (List Char × List Char) :=
  match cs with
  | c :: cs => if isDigit c then some (go [c] cs) else none
  | [] => none
where
  go (read : List Char) : List Char → List Char × List Char
    | '_' :: c :: cs => if isDigit c then go (c :: read) cs else (read.reverse, '_' :: c :: cs)
    | c :: cs => if isDigit c then go (c :: read) cs else (read.reverse, c :: cs)
    | [] => (read.reverse, [])

/-- An optional sign, as written. -/
def signText : List Char → List Char × List Char
  | '+' :: cs => (['+'], cs)
  | '-' :: cs => (['-'], cs)
  | cs => ([], cs)

/-- Decimal digits with an optional sign: a lone zero, or digits that do not begin with
one. -/
def signedDigits (cs : List Char) : Option (List Char × List Char) :=
  match signText cs with
  | (sign, '0' :: cs) => some (sign ++ ['0'], cs)
  | (sign, cs) => (digitRun Numeral.isDigit cs).map fun r => (sign ++ r.1, r.2)

/-- An exponent, as written. -/
def exponentText : List Char → Option (List Char × List Char)
  | c :: cs =>
    if c = 'e' || c = 'E' then
      match signText cs with
      | (sign, cs) => (digitRun Numeral.isDigit cs).map fun r => ('e' :: sign ++ r.1, r.2)
    else none
  | [] => none

/-- A fraction, as written. -/
def fractionText : List Char → Option (List Char × List Char)
  | '.' :: cs => (digitRun Numeral.isDigit cs).map fun r => ('.' :: r.1, r.2)
  | _ => none

/-- A decimal float, as written: digits with a fraction, an exponent, or both. -/
def floatText (cs : List Char) : Option (List Char × List Char) := do
  let (whole, cs) ← signedDigits cs
  match fractionText cs with
  | some (fraction, cs) =>
    match exponentText cs with
    | some (exponent, cs) => some (whole ++ fraction ++ exponent, cs)
    | none => some (whole ++ fraction, cs)
  | none =>
    let (exponent, cs) ← exponentText cs
    some (whole ++ exponent, cs)

/-- A float in digits. One that is too large is refused; one that is too small a negative
number is minus infinity. -/
def decimalFloat : Reader Double := fun cs => do
  let (text, cs) ← floatText cs
  let numeral ← Numeral.parse? (String.ofList text)
  match numeral.toDouble with
  | .infinite false => none
  | x => some (x, cs)

/-- An infinity or NaN with an optional sign. -/
def specialFloat : Reader Double := fun cs =>
  match signText cs with
  | (sign, 'i' :: 'n' :: 'f' :: cs) => some (.infinite (sign = ['-']), cs)
  | (_, 'n' :: 'a' :: 'n' :: cs) => some (.nan, cs)
  | _ => none

/-- A float. -/
def float : Reader Double := fun cs =>
  (decimalFloat cs).or (specialFloat cs)

/-- An integer of 64 bits. -/
def inRange? (n : Int) : Option Int :=
  if Int64.minValue.toInt ≤ n && n ≤ Int64.maxValue.toInt then some n else none

/-- The number that digits of some base spell. -/
def ofBase (base : Nat) (ds : List Char) : Nat :=
  ds.foldl (fun n d => base * n + (hexValue? d).getD 0) 0

/-- Digits after a prefix that names their base. -/
def basedInteger (base : Nat) : Reader Int := fun cs => do
  let (ds, cs) ← digitRun (fun c => (hexValue? c).any (· < base)) cs
  let n ← inRange? (ofBase base ds)
  some (n, cs)

/-- An integer: decimal with an optional sign, or hexadecimal, octal or binary without. -/
def integer : Reader Int
  | '0' :: 'x' :: cs => basedInteger 16 cs
  | '0' :: 'o' :: cs => basedInteger 8 cs
  | '0' :: 'b' :: cs => basedInteger 2 cs
  | cs => do
    let (text, cs) ← signedDigits cs
    let (negative, ds) := Numeral.sign text
    let n := Numeral.ofDigits ds
    let n ← inRange? (if negative then -(n : Int) else n)
    some (n, cs)

/-! ### Date-times -/

/-- A number of exactly `count` digits between two bounds. -/
def fixedNumber (count low high : Nat) : Reader Nat := fun cs =>
  let ds := cs.take count
  let n := Numeral.ofDigits ds
  if ds.length = count && ds.all Numeral.isDigit && low ≤ n && n ≤ high then
    some (n, cs.drop count)
  else none

/-- A given character. -/
def exactly (c : Char) : Reader Unit
  | d :: cs => if d = c then some ((), cs) else none
  | [] => none

/-- The days of a month. -/
def daysIn (year month : Nat) : Nat :=
  if month = 2 then
    if year % 4 = 0 && (year % 100 ≠ 0 || year % 400 = 0) then 29 else 28
  else if month = 4 || month = 6 || month = 9 || month = 11 then 30 else 31

/-- A number with leading zeros. -/
def padded (width n : Nat) : String :=
  let ds := Nat.toDigits 10 n
  String.ofList (List.replicate (width - ds.length) '0' ++ ds)

/-- A date, in its normal text. -/
def date : Reader String := fun cs => do
  let (year, cs) ← fixedNumber 4 0 9999 cs
  let (_, cs) ← exactly '-' cs
  let (month, cs) ← fixedNumber 2 1 12 cs
  let (_, cs) ← exactly '-' cs
  let (day, cs) ← fixedNumber 2 1 31 cs
  if day ≤ daysIn year month then
    some (padded 4 year ++ "-" ++ padded 2 month ++ "-" ++ padded 2 day, cs)
  else none

/-- A fraction of a second in its normal text: nine digits count, and zeros at their end are
dropped. -/
def secondFraction (cs : List Char) : Option (String × List Char) :=
  match cs with
  | '.' :: cs =>
    match cs.span Numeral.isDigit with
    | ([], _) => none
    | (ds, cs) =>
      let kept := ((ds.take 9).reverse.dropWhile (· = '0')).reverse
      some (if kept.isEmpty then "" else "." ++ String.ofList kept, cs)
  | cs => some ("", cs)

/-- A time of day, in its normal text. -/
def time : Reader String := fun cs => do
  let (hour, cs) ← fixedNumber 2 0 23 cs
  let (_, cs) ← exactly ':' cs
  let (minute, cs) ← fixedNumber 2 0 59 cs
  let (_, cs) ← exactly ':' cs
  let (second, cs) ← fixedNumber 2 0 60 cs
  let (fraction, cs) ← secondFraction cs
  some (padded 2 hour ++ ":" ++ padded 2 minute ++ ":" ++ padded 2 second ++ fraction, cs)

/-- An offset from universal time, in its normal text; none if there is none. -/
def offset (cs : List Char) : Option (String × List Char) :=
  match cs with
  | 'Z' :: cs => some ("Z", cs)
  | 'z' :: cs => some ("Z", cs)
  | c :: cs =>
    if c = '+' || c = '-' then do
      let (hour, cs) ← fixedNumber 2 0 23 cs
      let (_, cs) ← exactly ':' cs
      let (minute, cs) ← fixedNumber 2 0 59 cs
      let sign := if c = '-' && 0 < hour + minute then "-" else "+"
      some (sign ++ padded 2 hour ++ ":" ++ padded 2 minute, cs)
    else some ("", c :: cs)
  | [] => some ("", [])

/-- The time and offset after a date, with the mark between them. -/
def timeAfterDate (cs : List Char) : Option (String × List Char) :=
  match cs with
  | c :: cs =>
    if c = 'T' || c = 't' || c = ' ' then do
      let (t, cs) ← time cs
      let (o, cs) ← offset cs
      some ("T" ++ t ++ o, cs)
    else none
  | [] => none

/-- A date with or without a time, or a time alone, in its normal text. -/
def dateTime : Reader String := fun cs =>
  match date cs with
  | some (d, cs) =>
    match timeAfterDate cs with
    | some (t, cs) => some (d ++ t, cs)
    | none => some (d, cs)
  | none => time cs

/-! ### Booleans -/

/-- A boolean. -/
def boolean : Reader Bool
  | 't' :: 'r' :: 'u' :: 'e' :: cs => some (true, cs)
  | 'f' :: 'a' :: 'l' :: 's' :: 'e' :: cs => some (false, cs)
  | _ => none

end ScriptHost.Toml
