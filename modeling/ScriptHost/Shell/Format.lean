import ScriptHost.Number.Decimal
import ScriptHost.Shell.Escapes
import ScriptHost.Shell.Numeral

/-!
# Formats

Texts are formatted by a format in which `%` begins a conversion: flags, a width, a
precision and a letter. A format is used again as long as it takes arguments and any are
left, and where arguments are missing it goes on with empty ones.

## Main definitions

* `Format.Spec` — a conversion without its letter.
* `Format.print` — what is printed, and what is wrong with the arguments.

## Numbers

An argument that is a quotation mark and a character is the code of the character. Other
arguments are numerals; what follows the digits is complained of, and does not count.
-/

namespace ScriptHost.Shell.Format

open ScriptHost.Number (Double)

/-- A conversion without its letter. -/
structure Spec where
  flags : List Char
  width : Nat
  precision : Option Nat
  deriving DecidableEq, Repr

namespace Spec

/-- A flag is set. -/
def has (s : Spec) (flag : Char) : Bool :=
  s.flags.contains flag

/-- A text at its place in a field. -/
def place (s : Spec) (text : List Char) : List Char :=
  let blanks := List.replicate (s.width - text.length) ' '
  if s.has '-' then text ++ blanks else blanks ++ text

/-- Digits behind a sign at their place in a field. Zeros may fill the field. -/
def placeNumber (s : Spec) (sign digits : List Char) (fillsZeros : Bool) : List Char :=
  if s.has '0' && !s.has '-' && fillsZeros then
    sign ++ List.replicate (s.width - sign.length - digits.length) '0' ++ digits
  else s.place (sign ++ digits)

/-- A text, of which the precision is the longest piece. -/
def text (s : Spec) (t : List Char) : List Char :=
  s.place (match s.precision with
    | some n => t.take n
    | none => t)

/-- Digits with zeros in front as the precision asks. No digits are left of zero if the precision
is zero. -/
def padDigits (s : Spec) (n : Nat) (digits : List Char) : List Char :=
  match s.precision with
  | some 0 => if n = 0 then [] else digits
  | some p => List.replicate (p - digits.length) '0' ++ digits
  | none => digits

/-- The sign in front of a number. -/
def sign (s : Spec) (negative : Bool) : List Char :=
  if negative then ['-'] else if s.has '+' then ['+'] else if s.has ' ' then [' '] else []

/-- A number with a sign. -/
def signed (s : Spec) (n : Int) : List Char :=
  s.placeNumber (s.sign (n < 0)) (s.padDigits n.natAbs (Nat.toDigits 10 n.natAbs))
    s.precision.isNone

/-- A number without a sign, in the base of a letter. -/
def unsigned (s : Spec) (letter : Char) (n : Nat) : List Char :=
  let base := if letter = 'o' then 8 else if letter = 'u' then 10 else 16
  let digits := Nat.toDigits base n
  let digits := s.padDigits n (if letter = 'X' then digits.map Char.toUpper else digits)
  let needsZero := letter = 'o' && s.has '#' && digits.head? ≠ some '0'
  let digits := if needsZero then '0' :: digits else digits
  let mark := if s.has '#' && n ≠ 0 then
      if letter = 'x' then ['0', 'x'] else if letter = 'X' then ['0', 'X'] else []
    else []
  s.placeNumber mark digits s.precision.isNone

end Spec

/-! ### Fractions -/

/-- The digits of a quotient rounded to a number of places, whole and after the point. -/
def fixedDigits (num den places : Nat) : List Char × List Char :=
  let scaled := Number.roundHalfEven (num * Nat.pow 10 places) den
  let digits := Nat.toDigits 10 scaled
  let digits := List.replicate (places + 1 - digits.length) '0' ++ digits
  (digits.take (digits.length - places), digits.drop (digits.length - places))

/-- The exponent of the first decimal digit of a quotient that is not zero. -/
def decimalExponent (num den : Nat) : Int :=
  let guess : Int := (Nat.toDigits 10 num).length - (Nat.toDigits 10 den).length
  let reaches := fun (e : Int) =>
    if 0 ≤ e then decide (den * Nat.pow 10 e.toNat ≤ num)
    else decide (den ≤ num * Nat.pow 10 (-e).toNat)
  if reaches guess then guess else guess - 1

/-- The significant digits of a quotient, so many after the first one, and the exponent of the
first one. -/
def scientificDigits (num den places : Nat) : List Char × Int :=
  if num = 0 then (List.replicate (places + 1) '0', 0)
  else
    let e := decimalExponent num den
    let round := fun (e : Int) =>
      let shift := (places : Int) - e
      if 0 ≤ shift then Number.roundHalfEven (num * Nat.pow 10 shift.toNat) den
      else Number.roundHalfEven num (den * Nat.pow 10 (-shift).toNat)
    let digits := Nat.toDigits 10 (round e)
    if digits.length = places + 1 then (digits, e) else (Nat.toDigits 10 (round (e + 1)), e + 1)

/-- A point and the digits after it, if there are any. -/
def fraction (s : Spec) (digits : List Char) : List Char :=
  if digits.isEmpty && !s.has '#' then [] else '.' :: digits

/-- An exponent of at least two digits. -/
def exponent (letter : Char) (e : Int) : List Char :=
  let digits := Nat.toDigits 10 e.natAbs
  letter :: (if e < 0 then '-' else '+') ::
    (List.replicate (2 - digits.length) '0' ++ digits)

/-- Digits without the zeros at their end. -/
def withoutZeros (digits : List Char) : List Char :=
  (digits.reverse.dropWhile (· = '0')).reverse

/-- The digits of a fraction as a letter asks. -/
def fractionDigits (s : Spec) (letter : Char) (num den : Nat) : List Char :=
  let places := s.precision.getD 6
  match letter with
  | 'f' =>
    let (whole, after) := fixedDigits num den places
    whole ++ fraction s after
  | 'e' =>
    let (digits, e) := scientificDigits num den places
    digits.take 1 ++ fraction s (digits.drop 1) ++ exponent 'e' e
  | _ =>
    let places := if places = 0 then 1 else places
    let (digits, e) := scientificDigits num den (places - 1)
    let short := fun (ds : List Char) => if s.has '#' then ds else withoutZeros ds
    if e < -4 || (places : Int) ≤ e then
      digits.take 1 ++ fraction s (short (digits.drop 1)) ++ exponent 'e' e
    else
      let (whole, after) := fixedDigits num den ((places : Int) - 1 - e).toNat
      whole ++ fraction s (short after)

/-- The digits of a finite number in base sixteen: a leading one unless it is tiny, the digits after
the point, and an exponent of two. -/
def hexadecimalDigits (s : Spec) (pattern : Nat) : List Char :=
  let unit := Nat.pow 2 52
  let biased := pattern / unit
  let mantissa := pattern % unit
  let places := s.precision.getD 13
  let lead := if biased = 0 then 0 else 1
  let rounded :=
    if places < 13 then
      Number.roundHalfEven (lead * unit + mantissa) (Nat.pow 16 (13 - places))
    else (lead * unit + mantissa) * Nat.pow 16 (places - 13)
  let after := Nat.toDigits 16 (rounded % Nat.pow 16 places)
  let after :=
    if places = 0 then [] else List.replicate (places - after.length) '0' ++ after
  let after := if s.precision.isNone then withoutZeros after else after
  let e : Int := if pattern = 0 then 0 else if biased = 0 then -1022 else biased - 1023
  Nat.toDigits 10 (rounded / Nat.pow 16 places) ++ fraction s after
    ++ 'p' :: (if e < 0 then '-' else '+') :: Nat.toDigits 10 e.natAbs

/-- A number with a fraction. -/
def Spec.double (s : Spec) (letter : Char) (x : Double) : List Char :=
  let raise := fun (cs : List Char) => if letter.isUpper then cs.map Char.toUpper else cs
  match x with
  | .nan => s.place (raise ['n', 'a', 'n'])
  | .infinite negative => s.place (s.sign negative ++ raise ['i', 'n', 'f'])
  | .finite negative pattern =>
    if letter = 'a' || letter = 'A' then
      s.placeNumber (s.sign negative ++ raise ['0', 'x']) (raise (hexadecimalDigits s pattern)) true
    else
      let (num, den) := Number.Format.binary64.quotient pattern
      s.placeNumber (s.sign negative) (raise (fractionDigits s letter.toLower num den)) true

/-! ### Arguments -/

/-- What printing has to keep in mind. -/
structure State where
  /-- What was printed, the last character first. -/
  output : List Char
  arguments : List Octets
  /-- What was complained of, the last complaint first. -/
  complaints : List Octets

/-- Why printing stops before the end of the format. -/
inductive Stop where
  /-- An escape in an argument asked for it. -/
  | asked
  | refused (words : Octets)

/-- A step of printing. -/
abbrev Step := ExceptT Stop (StateM State)

/-- Prints characters. -/
def emit (cs : List Char) : Step Unit :=
  modify fun s => { s with output := cs.reverse ++ s.output }

/-- The next argument, if any is left. -/
def argument? : Step (Option Octets) := do
  let s ← get
  set { s with arguments := s.arguments.drop 1 }
  return s.arguments.head?

/-- Complains of an argument. -/
def complain (words : Octets) : Step Unit :=
  modify fun s => { s with complaints := words :: s.complaints }

/-- Complains of what follows a number in an argument. -/
def check (text : Octets) (rest : List Char) (fits : Bool) : Step Unit := do
  if !rest.isEmpty then
    complain (text ++ (if rest.length = text.length then ": expected numeric value"
      else ": not completely converted"))
  else if !fits then complain (text ++ ": Numerical result out of range")

/-- The code of the character that an argument quotes. -/
def quotedCode? (text : Octets) : Option Nat :=
  match text.toList with
  | '"' :: rest | '\'' :: rest => some ((rest.head?.map Char.toNat).getD 0)
  | _ => none

/-- The next argument as an integer. -/
def integer (low high : Int) : Step Int := do
  match ← argument? with
  | none => return 0
  | some text =>
    match quotedCode? text with
    | some n => return n
    | none =>
      match Numeral.read 0 text.toList with
      | some (n, rest) =>
        check text rest (low ≤ n && n ≤ high)
        return max low (min high n)
      | none =>
        check text text.toList true
        return 0

/-- The next argument as an integer with a sign. -/
def signedArgument : Step Int :=
  integer Numeral.bounds.1 Numeral.bounds.2

/-- The next argument as an integer without a sign; one with a minus wraps around. -/
def unsignedArgument : Step Nat := do
  let n ← integer (-(UInt64.size : Int) + 1) (UInt64.size - 1)
  return (n % (UInt64.size : Int)).toNat

/-- A number that was read, and whether it fits: it is neither too large nor too small. -/
structure ReadDouble where
  value : Double
  fits : Bool

/-- A number that was read as digits, of which some are not zero or all are. -/
def ReadDouble.ofValue (isZero : Bool) (x : Double) : ReadDouble where
  value := x
  fits := isZero || match x with
    | .finite _ pattern => Nat.pow 2 52 ≤ pattern
    | _ => false

/-- The number that characters begin with in base sixteen, behind `0x`: digits that may have a
point in them, and an exponent of two. -/
def readHexadecimal (negative : Bool) (cs : List Char) : Option (ReadDouble × List Char) :=
  let (whole, rest) := Numeral.digits 16 cs
  let (after, rest) := match rest with
    | '.' :: more => if whole.isEmpty && (Numeral.digits 16 more).1.isEmpty then ([], rest)
      else Numeral.digits 16 more
    | rest => ([], rest)
  if whole.isEmpty && after.isEmpty then none
  else
    let (e, rest) := match rest with
      | 'p' :: more | 'P' :: more =>
        match Numeral.read 10 more with
        | some (e, more) => (max (-5000) (min 5000 e), more)
        | none => (0, rest)
      | rest => (0, rest)
    let num := Numeral.value 16 (whole ++ after)
    let e := e - 4 * (after.length : Int)
    let x :=
      if 0 ≤ e then Double.nearest negative (num * Nat.pow 2 e.toNat) 1
      else Double.nearest negative num (Nat.pow 2 (-e).toNat)
    some (.ofValue (num = 0) x, rest)

/-- The number that characters begin with, and the rest. -/
def readDouble (cs : List Char) : Option (ReadDouble × List Char) :=
  let cs := cs.dropWhile Numeral.isBlank
  let (negative, body) := match cs with
    | '-' :: body => (true, body)
    | '+' :: body => (false, body)
    | body => (false, body)
  let hexadecimal := match body with
    | '0' :: 'x' :: digits | '0' :: 'X' :: digits => readHexadecimal negative digits
    | _ => none
  hexadecimal.orElse fun _ =>
    (List.range cs.length).reverse.findSome? fun n =>
      (Number.Numeral.parse? (String.ofList (cs.take (n + 1)))).map fun x =>
        let digits := (body.takeWhile fun c => c ≠ 'e' && c ≠ 'E').filter Char.isDigit
        let isZero := digits.all (· = '0')
        (.ofValue isZero x.toDouble, cs.drop (n + 1))

/-- The next argument as a number with a fraction. -/
def doubleArgument : Step Double := do
  match ← argument? with
  | none => return .finite false 0
  | some text =>
    match quotedCode? text with
    | some n => return .ofInt n
    | none =>
      match readDouble text.toList with
      | some (x, rest) =>
        check text rest x.fits
        return x.value
      | none =>
        check text text.toList true
        return .finite false 0

/-! ### Formats -/

/-- A width or a precision: digits, or an asterisk for the next argument. -/
def size (cs : List Char) : Step (Option Int × List Char) := do
  match cs with
  | '*' :: rest => return (some (← signedArgument), rest)
  | cs =>
    let digits := cs.takeWhile Char.isDigit
    if digits.isEmpty then return (none, cs)
    else return (some (Numeral.value 10 (Numeral.digits 10 digits).1), cs.drop digits.length)

/-- A conversion after its percent sign, without its letter. -/
def spec (cs : List Char) : Step (Spec × List Char) := do
  let isFlag := fun (c : Char) => ['#', '-', '+', ' ', '0'].contains c
  let flags := cs.takeWhile isFlag
  let (width, rest) ← size (cs.drop flags.length)
  let flags := if (width.getD 0) < 0 then '-' :: flags else flags
  let width := (width.getD 0).natAbs
  match rest with
  | '.' :: rest =>
    let (precision, rest) ← size rest
    let precision := match precision with
      | none => some 0
      | some p => if p < 0 then none else some p.toNat
    return (⟨flags, width, precision⟩, rest)
  | rest => return (⟨flags, width, none⟩, rest)

/-- Carries out a conversion. -/
def convert (s : Spec) (letter : Char) (written : List Char) : Step Unit := do
  match letter with
  | 'b' =>
    let (text, goesOn) := Escapes.printed ((← argument?).getD "")
    emit (s.text text.toList)
    if !goesOn then throw .asked
  | 'c' => emit (s.place [(((← argument?).getD "").toList.head?).getD '\x00'])
  | 's' => emit (s.text ((← argument?).getD "").toList)
  | 'd' | 'i' => emit (s.signed (← signedArgument))
  | 'o' | 'u' | 'x' | 'X' => emit (s.unsigned letter (← unsignedArgument))
  | 'a' | 'A' | 'e' | 'E' | 'f' | 'F' | 'g' | 'G' => emit (s.double letter (← doubleArgument))
  | _ => throw (.refused (String.ofList ('%' :: written) ++ ": invalid directive"))

/-- The format once. -/
def once : Nat → List Char → Step Unit
  | 0, _ => return ()
  | fuel + 1, cs => do
    match cs with
    | [] => return ()
    | '\\' :: rest =>
      let (c, rest) := Escapes.one rest
      emit [c]
      once fuel rest
    | '%' :: '%' :: rest =>
      emit ['%']
      once fuel rest
    | '%' :: rest =>
      let (s, after) ← spec rest
      match after with
      | [] => throw (.refused "missing format character")
      | letter :: after =>
        convert s letter (rest.take (rest.length - after.length))
        once fuel after
    | c :: rest =>
      emit [c]
      once fuel rest

/-- The format as often as it takes arguments and any are left. -/
def repeated (format : List Char) : Nat → Step Unit
  | 0 => return ()
  | n + 1 => do
    let before := (← get).arguments.length
    once (format.length + 1) format
    let left := (← get).arguments.length
    if left < before && 0 < left then repeated format n

/-- What comes of printing. -/
structure Printed where
  output : Octets
  complaints : List Octets
  /-- Why it stopped early because of the format. -/
  refusal : Option Octets

/-- What a format prints with arguments. -/
def print (format : Octets) (arguments : List Octets) : Printed :=
  let (result, s) := ((repeated format.toList (arguments.length + 1)).run).run ⟨[], arguments, []⟩
  { output := String.ofList s.output.reverse
    complaints := s.complaints.reverse
    refusal := match result with
      | .error (.refused words) => some words
      | _ => none }

end ScriptHost.Shell.Format
