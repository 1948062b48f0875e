import ScriptHost.Utility.Expression
import ScriptHost.Utility.Texts

/-!
# Looking for lines

The utility that prints the lines of its inputs in which an expression matches.
-/

namespace ScriptHost.Utility

open Shell

/-- How lines are looked for. -/
structure LineSearch where
  expressions : List Expression
  foldsCase : Bool
  wholeLines : Bool
  wholeWords : Bool
  inverted : Bool

namespace LineSearch

/-- A character of a word. -/
def isWordChar (c : Char) : Bool :=
  c.isAlphanum || c = '_'

/-- A piece of a line is a word, or words. -/
def isWord (f : Expression.Found) : Bool :=
  !(f.before.getLast?.any isWordChar) && !(f.after.head?.any isWordChar)

/-- The pieces of a line that expressions match from a place on. None is empty. -/
def piecesFrom (s : LineSearch) : Nat → Expression.Place → List (List Char)
  | 0, _ => []
  | fuel + 1, p =>
    let found := s.expressions.filterMap fun e =>
      (Expression.searchFrom s.foldsCase e p (p.rest.length + 1)).bind fun f =>
        if s.wholeWords && !isWord f then none else some f
    let better := fun (f g : Expression.Found) =>
      if f.before.length = g.before.length then decide (g.matched.length ≤ f.matched.length)
      else decide (f.before.length ≤ g.before.length)
    match (found.mergeSort better).head? with
    | none => []
    | some f =>
      let skipped := f.before.length - p.before.length
      if f.matched.isEmpty then
        if f.after.isEmpty then [] else s.piecesFrom fuel (p.advance (skipped + 1))
      else f.matched :: s.piecesFrom fuel (p.advance (skipped + f.matched.length))

/-- An expression matches in a line from a place on, as a word if that is wanted. -/
def wordFrom (s : LineSearch) (e : Expression) : Nat → Expression.Place → Bool
  | 0, _ => false
  | fuel + 1, p =>
    match Expression.searchFrom s.foldsCase e p (p.rest.length + 1) with
    | none => false
    | some f =>
      isWord f ||
        (!f.after.isEmpty && s.wordFrom e fuel (p.advance (f.before.length - p.before.length + 1)))

/-- A line is one of those that are looked for. -/
def selects (s : LineSearch) (line : Octets) : Bool :=
  let cs := line.toList
  let one := fun (e : Expression) =>
    let e := if s.wholeLines then .sequence .lineStart (.sequence e .lineEnd) else e
    if s.wholeWords && !s.wholeLines then s.wordFrom e (cs.length + 1) ⟨[], cs, []⟩
    else (Expression.search s.foldsCase e cs).isSome
  s.expressions.any one != s.inverted

end LineSearch

/-- The expressions that patterns are, one on each line. -/
def readPatterns (extended fixed : Bool) (patterns : List Octets) : Task (List Expression) :=
  (patterns.flatMap fun p => p.splitOn "\n").mapM fun p => do
    if fixed then return .ofText p.toList
    else
      match Expression.read extended p.toList with
      | .ok e => return e
      | .error problem => fail 2 problem.message

/-- The options of `grep`. -/
def grepOptions : Options where
  letters := "EFGHLce:f:hilm:noqrsvwxyz"
  long := [("extended-regexp", 'E'), ("fixed-strings", 'F'), ("basic-regexp", 'G'),
    ("regexp", 'e'), ("file", 'f'), ("ignore-case", 'i'), ("invert-match", 'v'), ("count", 'c'),
    ("files-with-matches", 'l'), ("files-without-match", 'L'), ("line-number", 'n'),
    ("only-matching", 'o'), ("quiet", 'q'), ("silent", 'q'), ("no-messages", 's'),
    ("word-regexp", 'w'), ("line-regexp", 'x'), ("no-filename", 'h'), ("with-filename", 'H'),
    ("max-count", 'm')]
  status := 2

/-- The patterns among options and arguments, and the paths. -/
def grepPatterns (given : List (Char × Octets)) (arguments : List Octets) :
    Task (List Octets × List Octets) := do
  let written := (given.filter (·.1 = 'e')).map (·.2)
  let files := (given.filter (·.1 = 'f')).map (·.2)
  let read ← files.mapM fun path => do
    match ← input path with
    | .ok content => return bareLines content
    | .error e =>
      complainOf (quotedIfNeeded path) e
      quit 2
  if written.isEmpty && files.isEmpty then
    match arguments with
    | pattern :: paths => return ([pattern], paths)
    | [] =>
      modify fun r => r.say 2 "Usage: grep [OPTION]... PATTERNS [FILE]...\n"
      usage 2
  else return (written ++ read.flatten, arguments)

/-- The lines for one input. -/
def grepLines (given : List (Char × Octets)) (s : LineSearch) (lead : Octets)
    (lines : List (Nat × Octets)) : Octets :=
  let numbered := fun (n : Nat) => lead ++ (if has given 'n' then toString (n + 1) ++ ":" else "")
  ofLines (lines.flatMap fun x =>
    if has given 'o' then
      (s.piecesFrom (x.2.length + 1) ⟨[], x.2.toList, []⟩).map fun piece =>
        numbered x.1 ++ String.ofList piece
    else [numbered x.1 ++ x.2])

/-- Prints the lines in which an expression matches. -/
def grep : Task Nat := do
  let (given, arguments) ← grepOptions.ofArguments
  let (patterns, paths) ← grepPatterns given arguments
  let s : LineSearch := {
    expressions := ← readPatterns (has given 'E') (has given 'F') patterns
    foldsCase := has given 'i' || has given 'y'
    wholeLines := has given 'x'
    wholeWords := has given 'w'
    inverted := has given 'v' }
  let most := (value? given 'm').bind count?
  let named := (1 < paths.length || has given 'H') && !has given 'h'
  let results ← (if paths.isEmpty then ["-"] else paths).mapM fun path => do
    let name := if path = "-" then "(standard input)" else path
    match ← input path with
    | .error e =>
      if !has given 's' then
        if e = .isDirectory then complain (path ++ ": Is a directory")
        else complainOf path e
      return if e = .isDirectory then some false else none
    | .ok content =>
      let lines := bareLines content
      let selected := ((List.range lines.length).zip lines).filter fun x => s.selects x.2
      let selected := match most with
        | some n => selected.take n
        | none => selected
      let lead := if named then name ++ ":" else ""
      if has given 'q' then pure ()
      else if has given 'l' then say (if selected.isEmpty then "" else name ++ "\n")
      else if has given 'L' then say (if selected.isEmpty then name ++ "\n" else "")
      else if has given 'c' then say (lead ++ toString selected.length ++ "\n")
      else say (grepLines given s lead selected)
      return some !selected.isEmpty
  let any := results.any (· = some true)
  if any && has given 'q' then return 0
  else if results.any Option.isNone then return 2
  else return if any then 0 else 1

end ScriptHost.Utility
