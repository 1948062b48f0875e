import ScriptHost.Shell.Escapes
import ScriptHost.Shell.Glob
import ScriptHost.Utility.Texts

/-!
# Utilities about lines

Utilities that order the lines of their inputs, drop repeated ones, cut pieces out of each,
and replace characters.
-/

namespace ScriptHost.Utility

open Shell

/-! ### Order -/

/-- The number that a line begins with: its sign, the digits before the point without leading zeros,
and those behind it. -/
structure LineNumber where
  negative : Bool
  whole : Nat
  fraction : List Nat
  deriving DecidableEq

/-- The number that a line begins with, which is zero if it begins with none. -/
def LineNumber.ofLine (line : Octets) : LineNumber :=
  let cs := line.toList.dropWhile fun c => c = ' ' || c = '\t'
  let (negative, cs) := match cs with
    | '-' :: cs => (true, cs)
    | cs => (false, cs)
  let (whole, rest) := Numeral.digits 10 cs
  let fraction := match rest with
    | '.' :: rest => (Numeral.digits 10 rest).1
    | _ => []
  let fraction := (fraction.reverse.dropWhile (· = 0)).reverse
  let value := Numeral.value 10 whole
  ⟨negative && (value ≠ 0 || !fraction.isEmpty), value, fraction⟩

/-- A number is at most another one. -/
def LineNumber.le (a b : LineNumber) : Bool :=
  let atMost := fun (x y : LineNumber) =>
    if x.whole = y.whole then !(y.fraction < x.fraction) else x.whole ≤ y.whole
  match a.negative, b.negative with
  | true, false => true
  | false, true => false
  | false, false => atMost a b
  | true, true => atMost b a

/-- How lines are compared. -/
structure LineOrder where
  numeric : Bool
  foldsCase : Bool
  reversed : Bool
  /-- Equal lines keep their places. -/
  stable : Bool
  /-- The fields that are compared, counted from one; up to the end without a last one. -/
  key : Option (Nat × Option Nat)
  /-- What separates fields; blanks if there is none. -/
  separator : Option Char

/-- The fields of a line. Without a separator each begins with the blanks in front of it. -/
def keyFields (separator : Option Char) (line : List Char) : List (List Char) :=
  match separator with
  | some c => (String.ofList line).splitOn (String.singleton c) |>.map String.toList
  | none => grouped line.length line
where
  grouped : Nat → List Char → List (List Char)
    | 0, _ => []
    | fuel + 1, cs =>
      if cs.isEmpty then []
      else
        let isBlank := fun (c : Char) => c = ' ' || c = '\t'
        let blanks := cs.takeWhile isBlank
        let rest := cs.drop blanks.length
        let word := rest.takeWhile (!isBlank ·)
        (blanks ++ word) :: grouped fuel (rest.drop word.length)

namespace LineOrder

/-- The part of a line that is compared. -/
def keyOf (o : LineOrder) (line : Octets) : Octets :=
  match o.key with
  | none => line
  | some (first, last) =>
    let fields := keyFields o.separator line.toList
    let chosen := match last with
      | some last => (fields.take last).drop (first - 1)
      | none => fields.drop (first - 1)
    let between := o.separator.toList
    String.ofList (between.intercalate chosen)

/-- A line is at most another one by their keys. -/
def keyLe (o : LineOrder) (a b : Octets) : Bool :=
  let a := o.keyOf a
  let b := o.keyOf b
  if o.numeric then (LineNumber.ofLine a).le (.ofLine b)
  else if o.foldsCase then !(b.toUpper < a.toUpper)
  else !(b < a)

/-- A line comes before another one or is as good as it. Lines with equal keys are compared as a
whole. -/
def le (o : LineOrder) (a b : Octets) : Bool :=
  let below := o.keyLe a b
  let above := o.keyLe b a
  if below && above then o.stable || (if o.reversed then !(a < b) else !(b < a))
  else if o.reversed then above
  else below

end LineOrder

/-- Lines of which each has another key than the one before it. -/
def withoutEqual (o : LineOrder) : List Octets → List Octets
  | a :: b :: rest =>
    if o.keyLe a b && o.keyLe b a then withoutEqual o (a :: rest)
    else a :: withoutEqual o (b :: rest)
  | rest => rest
  termination_by lines => lines.length

/-- The fields that a key names: numbers with an optional end. -/
def key? (text : Octets) : Option (Nat × Option Nat) :=
  let number := fun (t : Octets) => count? (String.ofList (t.toList.takeWhile Char.isDigit))
  match text.splitOn "," with
  | [first] => (number first).map fun n => (n, none)
  | [first, last] => do
    let n ← number first
    let m ← number last
    some (n, some m)
  | _ => none

/-- Puts the lines of inputs in order. -/
def sort : Task Nat := do
  let o : Options := {
    letters := "bcdfgik:mno:rst:uz"
    long := [("ignore-case", 'f'), ("numeric-sort", 'n'), ("reverse", 'r'), ("unique", 'u'),
      ("key", 'k'), ("output", 'o'), ("field-separator", 't'), ("stable", 's'), ("check", 'c')]
    status := 2 }
  let (given, paths) ← o.ofArguments
  let keyLetters := ((value? given 'k').getD "").toList
  let order : LineOrder := {
    numeric := has given 'n' || has given 'g' || keyLetters.contains 'n'
    foldsCase := has given 'f' || keyLetters.contains 'f'
    reversed := has given 'r' || keyLetters.contains 'r'
    stable := has given 's' || has given 'u'
    key := (value? given 'k').bind key?
    separator := (value? given 't').bind fun t => t.toList.head? }
  let contents ← (if paths.isEmpty then ["-"] else paths).mapM fun path => do
    match ← input path with
    | .ok content => pure content
    | .error e =>
      complain ((if e = .isDirectory then "read failed: " else "cannot read: ")
        ++ quotedIfNeeded path ++ ": " ++ reason e)
      quit 2
  let lines := contents.flatMap bareLines
  if has given 'c' then
    let disorder := (lines.zip lines.tail).find? fun p => !order.le p.1 p.2
    match disorder with
    | some p =>
      let place := (lines.zip lines.tail).findIdx fun q => !order.le q.1 q.2
      complain (paths.head?.getD "-" ++ ":" ++ toString (place + 2) ++ ": disorder: " ++ p.2)
      return 1
    | none => return 0
  else
    let sorted := lines.mergeSort order.le
    let shown := ofLines (if has given 'u' then withoutEqual order sorted else sorted)
    match value? given 'o' with
    | none =>
      say shown
      return 0
    | some path =>
      match ← change fun t cwd =>
          t.writeFile cwd (Octets.toText path) false (Octets.toBytes shown) with
      | .ok () => return 0
      | .error e =>
        complainOf ("open failed: " ++ quotedIfNeeded path) e
        return 2

/-! ### Repetition -/

/-- Lines that are next to each other and equal, with how many they are. -/
def runs (isSame : Octets → Octets → Bool) : List Octets → List (Octets × Nat)
  | [] => []
  | line :: rest =>
    match runs isSame rest with
    | (other, n) :: later =>
      if isSame line other then (line, n + 1) :: later else (line, 1) :: (other, n) :: later
    | [] => [(line, 1)]

/-- Drops lines that are equal to the one before them. -/
def uniq : Task Nat := do
  let o : Options := {
    letters := "cdiuf:s:w:z"
    long := [("count", 'c'), ("repeated", 'd'), ("unique", 'u'), ("ignore-case", 'i')] }
  let (given, paths) ← o.ofArguments
  let isSame := fun (a b : Octets) =>
    if has given 'i' then a.toUpper == b.toUpper else a == b
  match ← input (paths.head?.getD "-") with
  | .error e =>
    complainOf (quotedIfNeeded (paths.head?.getD "-")) e
    return 1
  | .ok content =>
    let shown := (runs isSame (bareLines content)).filter fun r =>
      (!has given 'd' || 1 < r.2) && (!has given 'u' || r.2 = 1)
    let text := ofLines (shown.map fun r =>
      if has given 'c' then inField 7 r.2 ++ " " ++ r.1 else r.1)
    match paths[1]? with
    | none =>
      say text
      return 0
    | some path =>
      match ← change fun t cwd =>
          t.writeFile cwd (Octets.toText path) false (Octets.toBytes text) with
      | .ok () => return 0
      | .error e =>
        complainOf (quotedIfNeeded path) e
        return 1

/-! ### Pieces -/

/-- Places in a line: from one number to another, or to the end. -/
structure Places where
  first : Nat
  last : Option Nat

/-- A place is among others. -/
def Places.holds (p : Places) (n : Nat) : Bool :=
  p.first ≤ n && (match p.last with
    | some m => n ≤ m
    | none => true)

/-- The places that a text names. -/
def places? (text : Octets) : Option (List Places) :=
  ((text.splitOn ",").mapM fun (part : Octets) =>
    match part.splitOn "-" with
    | [n] => (count? n).bind fun n => if n = 0 then none else some ⟨n, some n⟩
    | ["", m] => (count? m).map fun m => ⟨1, some m⟩
    | [n, ""] => (count? n).map fun n => ⟨n, none⟩
    | [n, m] => do
      let n ← count? n
      let m ← count? m
      if n = 0 || m < n then none else some (Places.mk n (some m))
    | _ => none)

/-- The items at certain places. -/
def chosen {α : Type} (places : List Places) (items : List α) : List α :=
  ((List.range items.length).zip items).filterMap fun x =>
    if places.any (·.holds (x.1 + 1)) then some x.2 else none

/-- Prints pieces of each line. -/
def cut : Task Nat := do
  let o : Options := {
    letters := "b:c:d:f:nsz"
    long := [("bytes", 'b'), ("characters", 'c'), ("delimiter", 'd'), ("fields", 'f'),
      ("only-delimited", 's')] }
  let (given, paths) ← o.ofArguments
  let bytes := (value? given 'b').orElse fun _ => value? given 'c'
  let fields := value? given 'f'
  let delimiter := (value? given 'd').getD "\t"
  match bytes.orElse fun _ => fields with
  | none => misused 1 "you must specify a list of bytes, characters, or fields"
  | some list =>
    if bytes.isSome && fields.isSome then misused 1 "only one list may be specified"
    if 1 < delimiter.length then misused 1 "the delimiter must be a single character"
    match places? list with
    | none =>
      misused 1 ("invalid " ++ (if bytes.isSome then "byte or character position"
        else "field value") ++ " " ++ quoted list)
    | some places =>
      let delimiter := if delimiter.isEmpty then "\x00" else delimiter
      let piece := fun (line : Octets) =>
        if bytes.isSome then some (String.ofList (chosen places line.toList))
        else if !line.contains (delimiter.toList.head?.getD '\t') then
          if has given 's' then none else some line
        else some (delimiter.intercalate (chosen places (line.splitOn delimiter)))
      eachInput paths fun _ content => say (ofLines ((bareLines content).filterMap piece))

/-! ### Characters -/

/-- The characters that a set spells: escapes, ranges and named classes. -/
def characterSet : Nat → List Char → List Char
  | 0, _ => []
  | fuel + 1, cs =>
    let all := (List.range 256).map Char.ofNat
    match cs with
    | [] => []
    | '[' :: ':' :: rest =>
      let name := String.ofList (rest.takeWhile (· ≠ ':'))
      match Glob.classes.lookup name with
      | some f => all.filter f ++ characterSet fuel (rest.drop (name.length + 2))
      | none => '[' :: characterSet fuel (':' :: rest)
    | '\\' :: rest =>
      let (c, rest) := match rest with
        | [] => ('\\', [])
        | c :: more =>
          if Escapes.isOctal c then Escapes.octal rest
          else ((Escapes.letter? c).getD c, more)
      c :: characterSet fuel rest
    | c :: '-' :: d :: rest =>
      all.filter (fun x => c ≤ x && x ≤ d) ++ characterSet fuel rest
    | c :: rest => c :: characterSet fuel rest

/-- Characters of which those in a set are not repeated. -/
def squeezed (set : Char → Bool) : List Char → List Char
  | c :: d :: rest =>
    if c = d && set c then squeezed set (d :: rest) else c :: squeezed set (d :: rest)
  | rest => rest
  termination_by cs => cs.length

/-- Replaces, drops or squeezes characters. -/
def tr : Task Nat := do
  let o : Options := {
    letters := "cCdst"
    long := [("complement", 'c'), ("delete", 'd'), ("squeeze-repeats", 's')]
    inFront := true }
  let (given, sets) ← o.ofArguments
  let complements := has given 'c' || has given 'C'
  let spelled := fun (s : Octets) => characterSet (s.length + 1) s.toList
  match sets with
  | [] => misused 1 "missing operand"
  | first :: others =>
    let needsTwo := !has given 'd' && !has given 's'
    if needsTwo && others.isEmpty then misused 1 ("missing operand after " ++ quoted first)
    let one := spelled first
    let two := (others.head?.map spelled).getD []
    let isOne := fun (c : Char) => one.contains c != complements
    let replaced := fun (c : Char) =>
      if !isOne c then c
      else if complements then two.getLast?.getD c
      else
        let place := one.idxOf c
        (two[place]?.orElse fun _ => two.getLast?).getD c
    match ← input "-" with
    | .error e =>
      complainOf "read error" e
      return 1
    | .ok content =>
      let cs := content.toList
      let cs :=
        if has given 'd' then cs.filter (!isOne ·)
        else if others.isEmpty then cs
        else cs.map replaced
      let last := if others.isEmpty then isOne else fun c => two.contains c
      say (String.ofList (if has given 's' then squeezed last cs else cs))
      return 0

end ScriptHost.Utility
