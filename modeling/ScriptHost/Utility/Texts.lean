import ScriptHost.Shell.Numeral
import ScriptHost.Utility.Basic

/-!
# Utilities about texts

Utilities that print texts, or parts of them, or count what they are made of.
-/

namespace ScriptHost.Utility

open Shell

/-! ### Lines -/

/-- The lines of a text, each with its end; the last one may have none. -/
def linesOf : List Char → List (List Char)
  | [] => []
  | c :: cs =>
    if c = '\n' then ['\n'] :: linesOf cs
    else
      match linesOf cs with
      | [] => [[c]]
      | line :: rest => (c :: line) :: rest

/-- A line without its end. -/
def bare (line : List Char) : List Char :=
  if line.getLast? = some '\n' then line.dropLast else line

/-- The lines of a text without their ends. -/
def bareLines (text : Octets) : List Octets :=
  (linesOf text.toList).map fun l => String.ofList (bare l)

/-- A text of lines. -/
def ofLines (lines : List Octets) : Octets :=
  String.join (lines.map (· ++ "\n"))

/-- A number without a sign. -/
def count? (text : Octets) : Option Nat :=
  if text ≠ "" && text.toList.all Char.isDigit then text.toNat? else none

/-! ### Whole texts -/

/-- The options of `cat` that change what is printed. -/
structure CatStyle where
  numbersAll : Bool
  numbersFilled : Bool
  showsEnds : Bool
  showsTabs : Bool
  squeezes : Bool
  showsOthers : Bool

/-- A byte as it is shown where all bytes are to be seen. -/
def visible (c : Char) : List Char :=
  let low := fun (n : Nat) =>
    if n < 32 then ['^', Char.ofNat (n + 64)]
    else if n = 127 then ['^', '?']
    else [Char.ofNat n]
  if c = '\n' || c = '\t' then [c]
  else if c.toNat < 128 then low c.toNat
  else 'M' :: '-' :: low (c.toNat - 128)

/-- A number in a field that is filled with blanks in front. -/
def inField (width n : Nat) : Octets :=
  let digits := toString n
  "".pushn ' ' (width - digits.length) ++ digits

/-- A line as it is printed. -/
def CatStyle.line (style : CatStyle) (line : List Char) : List Char :=
  (bare line).flatMap (fun c =>
    if c = '\t' then (if style.showsTabs then ['^', 'I'] else [c])
    else if style.showsOthers then visible c
    else [c])
  ++ (if line.getLast? = some '\n' then (if style.showsEnds then ['$', '\n'] else ['\n']) else [])

/-- The lines of all inputs as they are printed. -/
def CatStyle.lines (style : CatStyle) : Nat → Bool → List (List Char) → List Char
  | _, _, [] => []
  | n, afterEmpty, line :: rest =>
    let isEmpty := line = ['\n']
    if style.squeezes && afterEmpty && isEmpty then style.lines n true rest
    else
      let numbered := if style.numbersFilled then !isEmpty else style.numbersAll
      let lead := if numbered then (inField 6 n ++ "\t").toList else []
      lead ++ style.line line ++ style.lines (if numbered then n + 1 else n) isEmpty rest

/-- Prints inputs one after another. -/
def cat : Task Nat := do
  let o : Options := {
    letters := "AbeEnstTuv"
    long := [("show-all", 'A'), ("number-nonblank", 'b'), ("show-ends", 'E'), ("number", 'n'),
      ("squeeze-blank", 's'), ("show-tabs", 'T'), ("show-nonprinting", 'v')] }
  let (given, paths) ← o.ofArguments
  let any := fun (cs : List Char) => cs.any (has given)
  let style : CatStyle := {
    numbersAll := any ['n']
    numbersFilled := any ['b']
    showsEnds := any ['A', 'e', 'E']
    showsTabs := any ['A', 't', 'T']
    squeezes := any ['s']
    showsOthers := any ['A', 'e', 't', 'v'] }
  eachInput paths fun _ content =>
    if given.isEmpty then say content
    else say (String.ofList (style.lines 1 false (linesOf content.toList)))

/-- Prints its input and writes it to files. -/
def tee : Task Nat := do
  let o : Options := { letters := "aip", long := [("append", 'a'), ("ignore-interrupts", 'i')] }
  let (given, paths) ← o.ofArguments
  let content ← input "-"
  let text := match content with
    | .ok text => text
    | .error _ => ""
  say text
  let statuses ← paths.mapM fun path => do
    match ← change fun t cwd =>
        t.writeFile cwd (Octets.toText path) (has given 'a') (Octets.toBytes text) with
    | .ok () => return 0
    | .error e =>
      complainOf (quotedIfNeeded path) e
      return 1
  return if statuses.all (· = 0) then 0 else 1

/-! ### Parts of texts -/

/-- Which part of a text is meant. -/
structure Portion where
  /-- Bytes are counted and not lines. -/
  bytes : Bool
  /-- The number is counted from the other end. -/
  fromOther : Bool
  number : Nat

/-- The first items, or all but the last. -/
def front {α : Type} (fromOther : Bool) (n : Nat) (items : List α) : List α :=
  if fromOther then items.take (items.length - n) else items.take n

/-- The last items, or those from a place on. -/
def back {α : Type} (fromOther : Bool) (n : Nat) (items : List α) : List α :=
  if fromOther then items.drop (n - 1) else items.drop (items.length - n)

/-- The part at the front of a text. -/
def Portion.front (p : Portion) (text : Octets) : Octets :=
  if p.bytes then String.ofList (Utility.front p.fromOther p.number text.toList)
  else String.ofList (Utility.front p.fromOther p.number (linesOf text.toList)).flatten

/-- The part at the back of a text. -/
def Portion.back (p : Portion) (text : Octets) : Octets :=
  if p.bytes then String.ofList (Utility.back p.fromOther p.number text.toList)
  else String.ofList (Utility.back p.fromOther p.number (linesOf text.toList)).flatten

/-- The part that a number with a sign in front means. -/
def portion? (bytes : Bool) (otherSign plainSign : Char) (text : Octets) : Option Portion :=
  match text.toList with
  | c :: cs =>
    if c = otherSign then (count? (String.ofList cs)).map fun n => ⟨bytes, true, n⟩
    else if c = plainSign then (count? (String.ofList cs)).map fun n => ⟨bytes, false, n⟩
    else (count? text).map fun n => ⟨bytes, false, n⟩
  | [] => none

/-- Arguments in which a number behind a dash, or behind the sign for the other end, is the number
of an option. -/
def withNumberOption (signs : List Char) (arguments : List Octets) : List Octets :=
  match arguments with
  | a :: rest =>
    match a.toList with
    | c :: cs =>
      if signs.contains c && (count? (String.ofList cs)).isSome then
        "-n" :: (if c = '-' then String.ofList cs else a) :: rest
      else arguments
    | [] => arguments
  | [] => []

/-- Prints a part of each input. -/
def printParts (otherSign plainSign : Char) (signs : List Char) (part : Portion → Octets → Octets) :
    Task Nat := do
  let o : Options := {
    letters := "n:c:qvz"
    long := [("lines", 'n'), ("bytes", 'c'), ("quiet", 'q'), ("silent", 'q'), ("verbose", 'v')] }
  let arguments := withNumberOption signs (← get).arguments
  let (given, paths) ← o.read (arguments.length + 1) arguments
  let chosen := (given.filter fun g => g.1 = 'n' || g.1 = 'c').getLast?.getD ('n', "10")
  match portion? (chosen.1 = 'c') otherSign plainSign chosen.2 with
  | none =>
    fail 1 ("invalid number of " ++ (if chosen.1 = 'c' then "bytes" else "lines") ++ ": "
      ++ quoted chosen.2)
  | some p =>
    let paths := if paths.isEmpty then ["-"] else paths
    let headed := (1 < paths.length && !has given 'q') || has given 'v'
    let (_, status) ← paths.foldlM (fun (state : Bool × Nat) path => do
      match ← input path with
      | .ok content =>
        if headed then
          let name := if path = "-" then "standard input" else path
          say ((if state.1 then "" else "\n") ++ "==> " ++ name ++ " <==\n")
        say (part p content)
        return (false, state.2)
      | .error e =>
        if e = .isDirectory then complainOf ("error reading " ++ quoted path) e
        else complainOf ("cannot open " ++ quoted path ++ " for reading") e
        return (state.1, 1)) (true, 0)
    return status

/-- Prints the front of inputs. -/
def head : Task Nat :=
  printParts '-' '+' ['-'] Portion.front

/-- Prints the back of inputs. -/
def tail : Task Nat :=
  printParts '+' '-' ['-', '+'] Portion.back

/-! ### Counting -/

/-- What a text is made of: lines, words, bytes, and the length of the longest line. -/
structure Counts where
  lines : Nat
  words : Nat
  bytes : Nat
  longest : Nat

/-- The counts of two texts together. -/
def Counts.add (a b : Counts) : Counts :=
  ⟨a.lines + b.lines, a.words + b.words, a.bytes + b.bytes, max a.longest b.longest⟩

/-- The number of runs of characters that are no blanks. -/
def wordCount : Bool → List Char → Nat
  | _, [] => 0
  | inWord, c :: cs =>
    if Numeral.isBlank c then wordCount false cs
    else if inWord then wordCount true cs
    else wordCount true cs + 1

/-- The counts of a text. -/
def Counts.ofText (text : Octets) : Counts :=
  let cs := text.toList
  ⟨cs.count '\n', wordCount false cs, cs.length,
    ((linesOf cs).map fun l => (bare l).length).foldl max 0⟩

/-- Counts what inputs are made of. -/
def wc : Task Nat := do
  let o : Options := {
    letters := "clLmw"
    long := [("bytes", 'c'), ("lines", 'l'), ("max-line-length", 'L'), ("chars", 'm'),
      ("words", 'w')] }
  let (given, paths) ← o.ofArguments
  let shown := if given.isEmpty then ['l', 'w', 'c'] else given.map (·.1)
  let columns := fun (c : Counts) =>
    [('l', c.lines), ('w', c.words), ('m', c.bytes), ('c', c.bytes), ('L', c.longest)].filterMap
      fun x => if shown.contains x.1 then some x.2 else none
  let single := paths.length ≤ 1 && (columns (.ofText "")).length = 1
  let results ← (if paths.isEmpty then ["-"] else paths).mapM fun path => do
    return (path, ← input path)
  let known := results.filterMap fun x =>
    match x.2 with
    | .ok content => some (Counts.ofText content)
    | .error _ => none
  let total := known.foldl Counts.add ⟨0, 0, 0, 0⟩
  let isStream := paths.isEmpty || paths.contains "-"
  let width :=
    if single then 1 else if isStream then 7 else (toString total.bytes).length
  let line := fun (c : Counts) (name : Octets) =>
    " ".intercalate ((columns c).map (inField width)) ++ name ++ "\n"
  let statuses ← results.mapM fun x => do
    match x.2 with
    | .ok content =>
      say (line (.ofText content) (if paths.isEmpty then "" else " " ++ x.1))
      return 0
    | .error e =>
      complainOf (quotedIfNeeded x.1) e
      if e = .isDirectory then say (line (.ofText "") (" " ++ x.1))
      return 1
  if 1 < paths.length then say (line total " total")
  return if statuses.all (· = 0) then 0 else 1

/-! ### Numbers -/

/-- The numbers from one to another in steps. -/
def stepsFrom (first step last : Int) : List Int :=
  if step = 0 then []
  else
    let span := if 0 < step then last - first else first - last
    if span < 0 then []
    else (List.range ((span / step.natAbs).toNat + 1)).map fun (n : Nat) => first + step * (n : Int)

/-- Prints the numbers from one to another. -/
def seq : Task Nat := do
  let arguments := (← get).arguments
  let (separator, wide, numbers) := match arguments with
    | "-s" :: s :: rest => (s, false, rest)
    | "-w" :: rest => ("\n", true, rest)
    | rest => ("\n", false, rest)
  needed 1 numbers
  let ns ← numbers.mapM fun text => do
    match Numeral.whole? 10 text with
    | some n => pure n
    | none => misused 1 ("invalid floating point argument: " ++ quoted text)
  let values ← match ns with
    | [last] => pure (stepsFrom 1 1 last)
    | [first, last] => pure (stepsFrom first 1 last)
    | [first, step, last] =>
      if step = 0 then misused 1 ("invalid Zero increment value: " ++ quoted (toString step))
      else pure (stepsFrom first step last)
    | _ => misused 1 ("extra operand " ++ quoted (numbers[3]?.getD ""))
  let texts := values.map toString
  let width := if wide then (texts.map String.length).foldl max 0 else 0
  let padded := texts.map fun t => "".pushn '0' (width - t.length) ++ t
  if !padded.isEmpty then say (separator.intercalate padded ++ "\n")
  return 0

end ScriptHost.Utility
