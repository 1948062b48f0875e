import ScriptHost.Shell.Script.Words

/-!
# Reading scripts

Scripts are read one line at a time, or as many lines as a command takes: what follows is
read only after the command was carried out, so that a mistake further down does not keep
the lines above it from being carried out.

## Grammar

```
list      ::= joined ((; | & | line end) joined)*
joined    ::= pipeline ((&& | ||) pipeline)*
pipeline  ::= !? command (| command)*
command   ::= compound redirect* | simple | name () command
compound  ::= if … fi | while … done | until … done | for … done | case … esac
            | ( list ) | { list }
```

## Main definitions

* `Expectation` — what the next token may be taken for.
* `Script.nextLine` — the next commands of a script.
-/

namespace ScriptHost.Shell

/-- The commands of the shell whose failure ends it, and after which no function is named. -/
def specialCommands : List String :=
  [".", ":", "break", "continue", "eval", "exec", "exit", "export", "local", "readonly",
    "return", "set", "shift", "times", "trap", "unset"]

/-- What the next token may be taken for. -/
structure Expectation where
  /-- Line ends before it are passed over. -/
  anyLine : Bool := false
  keywords : Bool := false
  aliases : Bool := false
  /-- Nothing is substituted in it. -/
  literal : Bool := false

namespace Expectation

/-- The start of a command, possibly on a later line. -/
def command : Expectation := { anyLine := true, keywords := true, aliases := true }

end Expectation

/-- The end of a list of commands. -/
inductive ListKind where
  /-- It ends with its line. -/
  | line
  /-- It ends before a closing token, and is not empty. -/
  | body
  /-- It ends before a closing token. -/
  | open
  deriving DecidableEq, Repr

namespace Reader

/-! ### Tokens -/

/-- The token of an operator that may be doubled. -/
def doubled (c : Char) (one two : Token) : Reader Token := do
  advance
  if ← takes c then return two else return one

/-- The operator of a redirection, and the stream it is about unless a number is in front. -/
def redirectOperator : Reader (Nat × RedirectOperator) := do
  if ← takes '>' then
    if ← takes '>' then return (1, .file .append)
    else if ← takes '|' then return (1, .file .overwrite)
    else if ← takes '&' then return (1, .duplicate)
    else return (1, .file .write)
  else
    advance
    if ← takes '<' then return (0, .document (← takes '-'))
    else if ← takes '&' then return (0, .duplicate)
    else if ← takes '>' then return (0, .file .readWrite)
    else return (0, .file .read)

/-- A word, or a redirection if the word is a digit at most and an angle follows at once. -/
def wordOrRedirect (nested : Nested) (literal : Bool) : Reader Token := do
  let w ← parts nested (if literal then .bareLiteral else .bare)
  let c ← peek
  if c = some '<' || c = some '>' then
    match w with
    | [] =>
      let (stream, operator) ← redirectOperator
      return .redirect stream operator
    | [.char d false] =>
      if d.isDigit then
        let (_, operator) ← redirectOperator
        return .redirect (d.toNat - '0'.toNat) operator
      else return .word w
    | _ => return .word w
  else return .word w

/-- The next token, in which no keyword is recognized. -/
def rawToken (nested : Nested) (literal : Bool) : Reader Token := do
  match (← get).held with
  | some t =>
    modify fun s => { s with held := none }
    return t
  | none =>
    skip
    match ← peekRaw with
    | none => return .endOfInput
    | some '\n' =>
      advance
      return .lineEnd
    | some '&' => doubled '&' .ampersand .andAnd
    | some '|' => doubled '|' .pipe .orOr
    | some ';' => doubled ';' .semicolon .armEnd
    | some '(' =>
      advance
      return .openParen
    | some ')' =>
      advance
      return .closeParen
    | some _ => wordOrRedirect nested literal

/-- Keeps a token for the next time. -/
def hold (t : Token) : Reader Unit :=
  modify fun s => { s with held := some t }

/-- Replaces an alias by its text, unless the alias is just being replaced. -/
def replaceAlias (name : String) : Reader Bool := do
  let s ← get
  let expanding := s.expanding.filter fun e => e.2 ≤ s.rest.length
  if expanding.any (·.1 = name) then return false
  else
    match s.aliases.lookup name with
    | none => return false
    | some text =>
      set { s with
        rest := text.toList ++ s.rest
        expanding := (name, s.rest.length) :: expanding }
      return true

/-- The next token. -/
def tokenFrom (nested : Nested) (e : Expectation) : Nat → Reader Token
  | 0 => return .endOfInput
  | fuel + 1 => do
    match ← rawToken nested e.literal with
    | .lineEnd =>
      if e.anyLine then
        documents nested
        tokenFrom nested e fuel
      else return .lineEnd
    | .word w =>
      match Word.plain? w with
      | none => return .word w
      | some text =>
        match if e.keywords then Keyword.ofText? text else none with
        | some k => return .keyword k
        | none =>
          if e.aliases && (← replaceAlias text) then tokenFrom nested e fuel
          else return .word w
    | t => return t

/-- The next token. -/
def token (nested : Nested) (e : Expectation) : Reader Token := do
  tokenFrom nested e (← get).fuel

/-- The next token has to be a certain keyword. -/
def expectKeyword (nested : Nested) (k : Keyword) (e : Expectation) : Reader Unit := do
  let t ← token nested e
  match t with
  | .keyword k' => if k' = k then return () else unexpectedFor t (.keyword k)
  | t => unexpectedFor t (.keyword k)

/-! ### Redirections -/

/-- The target of a redirection. -/
def redirectTarget (nested : Nested) (stream : Nat) (operator : RedirectOperator) :
    Reader Redirect := do
  let literal := match operator with
    | .document _ => true
    | _ => false
  match ← token nested { literal := literal } with
  | .word w =>
    match operator with
    | .file use => return .file stream use w
    | .duplicate => return .duplicate stream w
    | .document dropTabs =>
      let s ← get
      let announcement : Announcement :=
        ⟨s.nextDocument, Word.characters w, dropTabs, Word.isQuoted w⟩
      set { s with
        announced := s.announced ++ [announcement]
        nextDocument := s.nextDocument + 1 }
      return .document stream announcement.number
  | t => unexpected t

/-- The redirections after a compound command. What follows the command may be a keyword; what
follows a redirection may not. -/
def redirects (nested : Nested) (e : Expectation) : Nat → Reader (List Redirect)
  | 0 => return []
  | fuel + 1 => do
    match ← token nested e with
    | .redirect stream operator =>
      let r ← redirectTarget nested stream operator
      return r :: (← redirects nested {} fuel)
    | t =>
      hold t
      return []

/-! ### Parts of commands -/

/-- The words of a loop, up to the end of the line or a semicolon. -/
def loopWords (nested : Nested) : Nat → Reader (List Word)
  | 0 => return []
  | fuel + 1 => do
    match ← token nested {} with
    | .word w => return w :: (← loopWords nested fuel)
    | .lineEnd | .semicolon => return []
    | t => unexpected t

/-- The patterns of an arm, of which the first one was read, up to a closing parenthesis. -/
def armPatterns (nested : Nested) : Nat → Reader (List Word)
  | 0 => return []
  | fuel + 1 => do
    match ← token nested {} with
    | .pipe =>
      let t ← token nested {}
      let rest ← armPatterns nested fuel
      match t with
      | .word w => return w :: rest
      | _ => return rest
    | .closeParen => return []
    | t => unexpectedFor t .closeParen

/-- What a simple command is made of so far, each list in reverse. -/
structure Simple where
  assignments : List Word := []
  words : List Word := []
  redirects : List Redirect := []

/-- A word of one name that may be given to a function. -/
def functionName? (c : Simple) : Option Word :=
  match c with
  | ⟨[], [w], []⟩ => some w
  | _ => none

/-- The name of a function. -/
def functionName (w : Word) : Reader String :=
  match Word.plain? w with
  | some name =>
    if isName name && !specialCommands.contains name then return name else refuse .functionName
  | none => refuse .functionName

/-- The commands one after another. -/
def append (first : Option Script) (second : Script) : Script :=
  match first with
  | none => second
  | some first => .sequence first second

/-- A command in the background. -/
def inBackground (line : Nat) (s : Script) : Script :=
  match s with
  | .redirected line body redirects => .background line body redirects
  | s => .background line s []

/-! ### Commands -/

mutual

/-- What reads scripts inside words. -/
def nestedReader (fuel : Nat) : Nested :=
  match fuel with
  | 0 => ⟨return .nothing, return .nothing⟩
  | fuel + 1 =>
    { whole := do return (← list fuel .open none).getD .nothing
      parenthesized := do
        let script ← list fuel .open none
        let nested := nestedReader fuel
        match ← token nested {} with
        | .closeParen =>
          let s ← get
          set { s with rest := [] }
          documents nested
          modify fun t => { t with rest := s.rest }
          return script.getD .nothing
        | t => unexpectedFor t .closeParen }

/-- The commands up to the end of a list, after those that were read. -/
def list (fuel : Nat) (kind : ListKind) (before : Option Script) : Reader (Option Script) :=
  match fuel with
  | 0 => return before
  | fuel + 1 => do
    let nested := nestedReader fuel
    let t ← token nested { Expectation.command with anyLine := kind ≠ .line }
    match t with
    | .lineEnd =>
      documents nested
      return some (before.getD .nothing)
    | .endOfInput =>
      documents nested
      hold t
      return before
    | t =>
      hold t
      if t.isCloser && (kind = .open || (kind = .body && before.isSome)) then return before
      else
        let command ← joined fuel
        let line := (← get).line
        let t ← token nested {}
        let command := match t with
          | .ampersand => inBackground line command
          | _ => command
        let commands := append before command
        match t with
        | .endOfInput =>
          documents nested
          hold t
          return some commands
        | .lineEnd =>
          hold t
          list fuel kind (some commands)
        | .ampersand | .semicolon => list fuel kind (some commands)
        | t =>
          if kind = .line then unexpected t
          else
            hold t
            return some commands

/-- Pipelines joined by `&&` and `||`. -/
def joined (fuel : Nat) : Reader Script :=
  match fuel with
  | 0 => return .nothing
  | fuel + 1 => do
    joinedFrom fuel (← pipeline fuel {})

/-- What follows a pipeline. -/
def joinedFrom (fuel : Nat) (first : Script) : Reader Script :=
  match fuel with
  | 0 => return first
  | fuel + 1 => do
    match ← token (nestedReader fuel) {} with
    | .andAnd => joinedFrom fuel (.both first (← pipeline fuel .command))
    | .orOr => joinedFrom fuel (.either first (← pipeline fuel .command))
    | t =>
      hold t
      return first

/-- Commands of which each reads what the one before it prints. -/
def pipeline (fuel : Nat) (e : Expectation) : Reader Script :=
  match fuel with
  | 0 => return .nothing
  | fuel + 1 => do
    let nested := nestedReader fuel
    match ← token nested e with
    | .keyword .negation =>
      return .negated (← piped fuel { keywords := true, aliases := true })
    | t =>
      hold t
      piped fuel {}

/-- A command, and those it is piped to. -/
def piped (fuel : Nat) (e : Expectation) : Reader Script :=
  match fuel with
  | 0 => return .nothing
  | fuel + 1 => do
    let first ← command fuel e
    match ← token (nestedReader fuel) {} with
    | .pipe => return .pipeline first (← stages fuel)
    | t =>
      hold t
      return first

/-- The commands after a pipe. -/
def stages (fuel : Nat) : Reader Stages :=
  match fuel with
  | 0 => return .last .nothing
  | fuel + 1 => do
    let first ← command fuel .command
    match ← token (nestedReader fuel) {} with
    | .pipe => return .next first (← stages fuel)
    | t =>
      hold t
      return .last first

/-- A list of commands that is not empty. -/
def body (fuel : Nat) : Reader Script :=
  match fuel with
  | 0 => return .nothing
  | fuel + 1 => do return (← list fuel .body none).getD .nothing

/-- A command. -/
def command (fuel : Nat) (e : Expectation) : Reader Script :=
  match fuel with
  | 0 => return .nothing
  | fuel + 1 => do
    let nested := nestedReader fuel
    let line := (← get).line
    let t ← token nested e
    let finish := fun (script : Script) => do
      match ← redirects nested { keywords := true, aliases := true } (fuel + 1) with
      | [] => return script
      | rs =>
        match script with
        | .subshell line inner _ => return .subshell line inner rs
        | script => return .redirected line script rs
    match t with
    | .keyword .ifWord =>
      let script ← conditional fuel
      finish script
    | .keyword .whileWord | .keyword .untilWord =>
      let condition ← body fuel
      expectKeyword nested .doWord {}
      let repeated ← body fuel
      expectKeyword nested .doneWord {}
      let inverted := match t with
        | .keyword .untilWord => true
        | _ => false
      finish (.loop inverted condition repeated)
    | .keyword .forWord =>
      let script ← each fuel line
      finish script
    | .keyword .caseWord =>
      match ← token nested {} with
      | .word subject =>
        expectKeyword nested .inWord .command
        let arms ← arms fuel
        finish (.choice line subject arms)
      | t => unexpectedFor t (.word [])
    | .openParen =>
      let inner ← body fuel
      match ← token nested {} with
      | .closeParen => finish (.subshell line inner [])
      | t => unexpectedFor t .closeParen
    | .keyword .openBrace =>
      let inner ← body fuel
      expectKeyword nested .closeBrace {}
      finish inner
    | .word _ | .redirect .. =>
      hold t
      simple fuel (← get).line {}
    | t => unexpected t

/-- A conditional after its first word. -/
def conditional (fuel : Nat) : Reader Script :=
  match fuel with
  | 0 => return .nothing
  | fuel + 1 => do
    let nested := nestedReader fuel
    let condition ← body fuel
    expectKeyword nested .thenWord {}
    let yes ← body fuel
    match ← token nested {} with
    | .keyword .elifWord => return .conditional condition yes (← conditional fuel)
    | .keyword .elseWord =>
      let no ← body fuel
      expectKeyword nested .fiWord {}
      return .conditional condition yes no
    | .keyword .fiWord => return .conditional condition yes .nothing
    | t => unexpectedFor t (.keyword .fiWord)

/-- A loop over words after its first word. Without words it is over all arguments. -/
def each (fuel : Nat) (line : Nat) : Reader Script :=
  match fuel with
  | 0 => return .nothing
  | fuel + 1 => do
    let nested := nestedReader fuel
    let name ← match ← token nested {} with
      | .word w =>
        match Word.plain? w with
        | some name => if isName name then pure name else refuse .loopVariable
        | none => refuse .loopVariable
      | _ => refuse .loopVariable
    let words ← match ← token nested .command with
      | .keyword .inWord => loopWords nested (fuel + 1)
      | t => do
        match t with
        | .semicolon => pure ()
        | t => hold t
        pure [[.mark, .parameter .separateArguments .value true, .mark]]
    expectKeyword nested .doWord .command
    let repeated ← body fuel
    expectKeyword nested .doneWord {}
    return .each line name words repeated

/-- The arms of a choice, with its last word. -/
def arms (fuel : Nat) : Reader Arms :=
  match fuel with
  | 0 => return .none
  | fuel + 1 => do
    let nested := nestedReader fuel
    match ← token nested { anyLine := true, keywords := true } with
    | .keyword .esacWord => return .none
    | t =>
      let first ← match t with
        | .openParen => token nested {}
        | t => pure t
      let later ← armPatterns nested (fuel + 1)
      let patterns := match first with
        | .word w => w :: later
        | .keyword k => k.text.toList.map (Part.char · false) :: later
        | _ => later
      let script := (← list fuel .open none).getD .nothing
      match ← token nested { anyLine := true, keywords := true } with
      | .keyword .esacWord => return .arm patterns script .none
      | .armEnd => return .arm patterns script (← arms fuel)
      | t => unexpectedFor t .armEnd

/-- The rest of a simple command, or of the definition of a function. -/
def simple (fuel : Nat) (line : Nat) (c : Simple) : Reader Script :=
  match fuel with
  | 0 => return .nothing
  | fuel + 1 => do
    let nested := nestedReader fuel
    let finish := fun (t : Token) => do
      hold t
      return Script.simple line c.assignments.reverse c.words.reverse c.redirects.reverse
    match ← token nested { aliases := c.words.isEmpty } with
    | .word w =>
      if c.words.isEmpty && (Word.assignment? w).isSome then
        simple fuel line { c with assignments := w :: c.assignments }
      else simple fuel line { c with words := w :: c.words }
    | .redirect stream operator =>
      let r ← redirectTarget nested stream operator
      simple fuel line { c with redirects := r :: c.redirects }
    | .openParen =>
      match functionName? c with
      | none => finish .openParen
      | some w =>
        match ← token nested {} with
        | .closeParen =>
          let name ← functionName w
          let line ← do pure (← get).line
          return .function name line (← command fuel .command)
        | t => unexpectedFor t .closeParen
    | t => finish t

end

end Reader

/-! ### Lines -/

namespace Script

/-- The next commands of a script, none at its end. -/
def nextLine : Reader (Option Script) := do
  Reader.list (← get).fuel .line none

/-- A whole text in which substitutions are made. Its closer is none that a line can be. -/
def wholeText : Reader Word := do
  Reader.parts (Reader.nestedReader (← get).fuel) (.document ['\n'] false false)

end Script

end ScriptHost.Shell
