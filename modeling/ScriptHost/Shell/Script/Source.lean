import ScriptHost.Shell.Script.Token

/-!
# The text of a script while it is read

Reading consumes characters and counts lines. A backslash at the end of a line joins the
line to the next one everywhere except between single quotes.

## Main definitions

* `Source` — what is left to be read, and what reading has to keep in mind.
* `Reader` — a step of reading.
* `peek`, `advance` — the next character, and the step over it.
-/

namespace ScriptHost.Shell

/-- A text in the script that a redirection announced and that begins on a later line. -/
structure Announcement where
  number : Nat
  /-- The line that ends the text. -/
  closer : List Char
  dropTabs : Bool
  /-- Nothing is substituted in the text. -/
  literal : Bool

/-- The text of a script while it is read. -/
structure Source where
  rest : List Char
  line : Nat
  /-- A token that was read too early. -/
  held : Option Token
  announced : List Announcement
  /-- The announced texts that were read, by number. -/
  documents : List (Nat × Word)
  /-- The number for the next text that is announced. -/
  nextDocument : Nat
  aliases : List (String × String)
  /-- The aliases whose text is being read, each with the length of what follows the text. -/
  expanding : List (String × Nat)

namespace Source

/-- A text before anything of it is read. -/
def ofText (text : List Char) : Source where
  rest := text
  line := 1
  held := none
  announced := []
  documents := []
  nextDocument := 0
  aliases := []
  expanding := []

/-- Nothing is left. -/
def isAtEnd (s : Source) : Bool :=
  match s.held with
  | some .endOfInput => true
  | _ => false

/-- More steps than reading the text may take. -/
def fuel (s : Source) : Nat :=
  (4 * s.rest.length + 16) * s.aliases.foldl (fun n a => n + a.2.length) 1

end Source

/-- A step of reading. -/
abbrev Reader := StateT Source (Except SyntaxError)

namespace Reader

/-- Reading ends because of a problem on the current line. -/
def refuse {α : Type} (problem : SyntaxProblem) : Reader α := do
  throw ⟨(← get).line, problem⟩

/-- A token that cannot stand here. -/
def unexpected {α : Type} (found : Token) : Reader α :=
  refuse (.unexpected found.description none)

/-- A token that stands where another one is expected. -/
def unexpectedFor {α : Type} (found expected : Token) : Reader α :=
  refuse (.unexpected found.description (some expected.description))

/-! ### Characters -/

/-- The next character as it stands in the text. -/
def peekRaw : Reader (Option Char) := do
  return (← get).rest.head?

/-- What is left after joined lines, and how many lines were joined. -/
def joinLines : List Char → Nat → List Char × Nat
  | '\\' :: '\n' :: cs, n => joinLines cs (n + 1)
  | cs, n => (cs, n)

/-- The next character. -/
def peek : Reader (Option Char) := do
  let s ← get
  let (rest, joined) := joinLines s.rest 0
  set { s with rest := rest, line := s.line + joined }
  return rest.head?

/-- Steps over a character. -/
def advance : Reader Unit :=
  modify fun s =>
    match s.rest with
    | [] => s
    | c :: cs => { s with rest := cs, line := if c = '\n' then s.line + 1 else s.line }

/-- Steps over a character if it is the next one, and says whether it was. -/
def takes (c : Char) : Reader Bool := do
  if (← peek) = some c then
    advance
    return true
  else return false

/-- What is left after blanks, joined lines and a comment, and how many lines were joined. A
comment reaches to the end of its line and no further. -/
def skipBlanks : Bool → List Char → Nat → List Char × Nat
  | true, '\n' :: cs, n => ('\n' :: cs, n)
  | true, _ :: cs, n => skipBlanks true cs n
  | true, [], n => ([], n)
  | false, '\\' :: '\n' :: cs, n => skipBlanks false cs (n + 1)
  | false, c :: cs, n =>
    if c = ' ' || c = '\t' then skipBlanks false cs n
    else if c = '#' then skipBlanks true cs n
    else (c :: cs, n)
  | false, [], n => ([], n)

/-- Steps over blanks and comments. -/
def skip : Reader Unit :=
  modify fun s =>
    let (rest, joined) := skipBlanks false s.rest 0
    { s with rest := rest, line := s.line + joined }

/-- The characters up to the first one that is not wanted. -/
def takeWhile (p : Char → Bool) : Nat → Reader (List Char)
  | 0 => return []
  | fuel + 1 => do
    match ← peek with
    | some c =>
      if p c then
        advance
        return c :: (← takeWhile p fuel)
      else return []
    | none => return []

end Reader

end ScriptHost.Shell
