/-!
# Shell scripts

A script is a tree of commands. The words of its commands are lists of parts, because
quotes, parameters and substitutions may stand anywhere in a word, and since a substitution
holds a script of its own, words and scripts are defined together.

## Main definitions

* `Part`, `Word` — what a word is made of.
* `Redirect` — a stream that a command uses in place of one it would have had.
* `Script` — a script.
* `Word.plain?`, `Word.assignment?` — words that the grammar treats specially.

## Lines

Commands that can fail know the line they begin on. A function knows the line of its
parentheses.
-/

namespace ScriptHost.Shell

/-- What a dollar sign may name. -/
inductive Parameter where
  | variable (name : String)
  /-- The name of the script, or one of its arguments. -/
  | positional (n : Nat)
  | argumentCount
  /-- All arguments, as separate fields where that is possible. -/
  | separateArguments
  /-- All arguments, joined where they are quoted. -/
  | joinedArguments
  | processNumber
  /-- The status of the last command. -/
  | lastStatus
  /-- The process number of the last command in the background. -/
  | lastBackground
  /-- The letters of the options that are on. -/
  | options
  deriving DecidableEq, Repr

/-- What a redirection does with a file. -/
inductive FileUse where
  | read
  | write
  /-- Writes even to a file that is protected from being overwritten. -/
  | overwrite
  | append
  | readWrite
  deriving DecidableEq, Repr

/-- The end of a value where something is cut off. -/
inductive Side where
  | front
  | back
  deriving DecidableEq, Repr

mutual

/-- A part of a word. -/
inductive Part where
  | char (c : Char) (quoted : Bool)
  /-- A quotation mark. It stands for nothing, but a word with one is not empty. -/
  | mark
  | parameter (p : Parameter) (use : Use) (quoted : Bool)
  /-- What a script prints. -/
  | output (script : Script) (quoted : Bool)
  /-- The number that an arithmetic expression comes to. -/
  | arithmetic (expression : List Part) (quoted : Bool)

/-- What is done with the value of a parameter. With `ifEmpty` an empty value counts as
none. -/
inductive Use where
  | value
  | length
  /-- A word in place of no value. -/
  | default (ifEmpty : Bool) (word : List Part)
  /-- A word in place of no value, and the parameter gets it as its value. -/
  | assign (ifEmpty : Bool) (word : List Part)
  /-- It is an error to have no value. -/
  | demand (ifEmpty : Bool) (message : List Part)
  /-- A word in place of a value. -/
  | alternative (ifEmpty : Bool) (word : List Part)
  /-- The value without the longest or the shortest piece at one end that matches. -/
  | trim (side : Side) (longest : Bool) (pattern : List Part)
  /-- Something that there is no such use for. -/
  | unknown

/-- A redirection of a stream. -/
inductive Redirect where
  | file (stream : Nat) (use : FileUse) (path : List Part)
  /-- The stream becomes another name for the one whose number is the source, or is closed. -/
  | duplicate (stream : Nat) (source : List Part)
  /-- The stream reads a text of the script itself, which has a number. -/
  | document (stream : Nat) (number : Nat)

/-- A script. -/
inductive Script where
  | nothing
  /-- Assignments, and a command with its arguments. -/
  | simple (line : Nat) (assignments words : List (List Part)) (redirects : List Redirect)
  | redirected (line : Nat) (body : Script) (redirects : List Redirect)
  /-- A script in a process of its own. -/
  | subshell (line : Nat) (body : Script) (redirects : List Redirect)
  /-- A script in a process of its own that nobody waits for. -/
  | background (line : Nat) (body : Script) (redirects : List Redirect)
  /-- What each prints is what the next one reads. -/
  | pipeline (first : Script) (rest : Stages)
  | negated (body : Script)
  | sequence (first second : Script)
  /-- The second only if the first succeeds. -/
  | both (first second : Script)
  /-- The second only if the first fails. -/
  | either (first second : Script)
  | conditional (condition yes no : Script)
  /-- Repeats as long as the condition succeeds, or as long as it fails if `inverted`. -/
  | loop (inverted : Bool) (condition body : Script)
  /-- Once for each field of the words. -/
  | each (line : Nat) (name : String) (words : List (List Part)) (body : Script)
  /-- The first arm that has a pattern for the subject. -/
  | choice (line : Nat) (subject : List Part) (arms : Arms)
  /-- Gives a script a name. -/
  | function (name : String) (line : Nat) (body : Script)

/-- The later commands of a pipeline. -/
inductive Stages where
  | last (body : Script)
  | next (body : Script) (rest : Stages)

/-- The arms of a choice. -/
inductive Arms where
  | none
  | arm (patterns : List (List Part)) (body : Script) (rest : Arms)

end

/-- A word of a script. -/
abbrev Word := List Part

/-! ### Names -/

/-- A letter or an underscore. -/
def isNameStart (c : Char) : Bool :=
  c.isAlpha || c = '_'

/-- A letter, a digit or an underscore. -/
def isNameChar (c : Char) : Bool :=
  isNameStart c || c.isDigit

/-- The name that characters begin with, which is empty if they begin with none. -/
def leadingName (cs : List Char) : List Char :=
  match cs with
  | c :: _ => if isNameStart c then cs.takeWhile isNameChar else []
  | [] => []

/-- A text is a name. -/
def isName (s : String) : Bool :=
  s ≠ "" && leadingName s.toList = s.toList

/-! ### Special words -/

namespace Word

/-- The character of a part that is one outside of quotes. -/
def bareChar? : Part → Option Char
  | .char c false => some c
  | _ => none

/-- The text of a word that is nothing but characters outside of quotes. -/
def plain? (w : Word) : Option String :=
  (w.mapM bareChar?).map String.ofList

/-- The characters outside of quotes that a word begins with. -/
def bareFront (w : Word) : List Char :=
  (w.map bareChar?).takeWhile Option.isSome |>.filterMap id

/-- The variable that a word assigns to. -/
def assignment? (w : Word) : Option String :=
  let front := bareFront w
  let name := leadingName front
  if !name.isEmpty && front[name.length]? = some '=' then some (String.ofList name) else none

/-- The word has a quotation mark or a quoted character. -/
def isQuoted (w : Word) : Bool :=
  w.any fun part =>
    match part with
    | .mark | .char _ true => true
    | _ => false

/-- The characters of a word in which nothing is substituted. -/
def characters (w : Word) : List Char :=
  w.filterMap fun part =>
    match part with
    | .char c _ => some c
    | _ => none

end Word

end ScriptHost.Shell
