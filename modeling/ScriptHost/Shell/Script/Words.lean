import ScriptHost.Shell.Script.Source

/-!
# Reading the words of scripts

A word is read character by character in a context, which says what is special and where
the word ends. Substitutions are read where they stand; what reads the script inside one is
passed in.

## Main definitions

* `Context` — where a character stands.
* `Nested` — what reads scripts inside words.
* `Reader.parts` — the parts of a word up to the end of its context.
* `Reader.document` — a text that a redirection announced.
-/

namespace ScriptHost.Shell

/-- Where the characters of a word stand. -/
inductive Context where
  /-- Outside of quotes, up to a blank or an operator. -/
  | bare
  /-- The same where nothing is substituted. -/
  | bareLiteral
  /-- In the braces of a substitution that is outside of quotes. -/
  | bareBraces
  | quotes
  /-- In the braces of a substitution that is inside of quotes. -/
  | quotedBraces
  /-- In quotes within braces. -/
  | innerQuotes
  /-- In quotes where nothing is substituted. -/
  | literalQuotes
  /-- In a text of the script, possibly at the start of a line. -/
  | document (closer : List Char) (dropTabs : Bool) (atLineStart : Bool)
  /-- In an arithmetic expression, with so many open parentheses. -/
  | arithmetic (depth : Nat)
  deriving DecidableEq, Repr

namespace Context

/-- Characters count as quoted. -/
def isQuoted : Context → Bool
  | .bare | .bareLiteral | .bareBraces => false
  | _ => true

/-- In quotes a backslash only quotes these characters, and stands for itself elsewhere. -/
def isEscapable (ctx : Context) (c : Char) : Bool :=
  if c = '\\' || c = '$' || c = '\x60' then true
  else if c = '"' then
    match ctx with
    | .document .. => false
    | _ => true
  else if c = '}' then ctx = .quotedBraces || ctx = .innerQuotes
  else false

/-- A character that ends a word which is not in braces. -/
def isDelimiter (c : Char) : Bool :=
  [' ', '\t', '\n', '&', '|', ';', '(', ')', '<', '>'].contains c

/-- The context after a quotation mark that opens quotes. -/
def inQuotes? : Context → Option Context
  | .bare => some .quotes
  | .bareLiteral => some .literalQuotes
  | .bareBraces | .quotedBraces => some .innerQuotes
  | _ => none

/-- A quotation mark closes quotes. -/
def isInQuotes (ctx : Context) : Bool :=
  ctx = .quotes || ctx = .innerQuotes || ctx = .literalQuotes

/-- Nothing is substituted. -/
def isLiteral (ctx : Context) : Bool :=
  ctx = .bareLiteral || ctx = .literalQuotes

/-- The context in the braces of a substitution. -/
def braces (ctx : Context) : Context :=
  if ctx.isQuoted then .quotedBraces else .bareBraces

end Context

/-- What reads scripts inside words. -/
structure Nested where
  /-- A script up to the closing parenthesis, which is consumed. -/
  parenthesized : Reader Script
  /-- A script that is all there is left. -/
  whole : Reader Script

namespace Reader

/-! ### Texts within texts -/

/-- Reads another text from its first line, and goes on afterwards. -/
def within {α : Type} (text : List Char) (reader : Reader α) : Reader α := do
  let outer ← get
  set { outer with rest := text, line := 1, held := none, announced := [], expanding := [] }
  let result ← reader
  modify fun s => { s with
    rest := outer.rest, line := outer.line, held := none
    announced := outer.announced, expanding := outer.expanding }
  return result

/-- Reads a script whose announced texts have to end with it. -/
def enclosed {α : Type} (reader : Reader α) : Reader α := do
  let outer ← get
  set { outer with held := none, announced := [] }
  let result ← reader
  modify fun s => { s with held := none, announced := outer.announced }
  return result

/-- The text up to a closing backquote. A backslash in front of another backslash, a backquote
or a dollar sign is dropped, in quotes also one in front of a quotation mark. -/
def backquoted (inQuotes : Bool) : Nat → Reader (List Char)
  | 0 => refuse .openBackquotes
  | fuel + 1 => do
    match ← peek with
    | none => refuse .openBackquotes
    | some '\x60' =>
      advance
      return []
    | some '\\' =>
      advance
      match ← peekRaw with
      | none => refuse .openBackquotes
      | some c =>
        advance
        let rest ← backquoted inQuotes fuel
        if c = '\\' || c = '\x60' || c = '$' || (inQuotes && c = '"') then return c :: rest
        else return '\\' :: c :: rest
    | some c =>
      advance
      return c :: (← backquoted inQuotes fuel)

/-- The characters up to a closing single quote. -/
def singleQuoted : Nat → Reader (List Part)
  | 0 => refuse .openQuote
  | fuel + 1 => do
    match ← peekRaw with
    | none => refuse .openQuote
    | some c =>
      advance
      if c = '\'' then return [.mark]
      else return .char c true :: (← singleQuoted fuel)

/-! ### Parameters -/

/-- The parameter that a special character names. -/
def specialParameter? (c : Char) : Option Parameter :=
  match c with
  | '@' => some .separateArguments
  | '*' => some .joinedArguments
  | '#' => some .argumentCount
  | '?' => some .lastStatus
  | '-' => some .options
  | '$' => some .processNumber
  | '!' => some .lastBackground
  | _ => none

/-- The value of decimal digits. -/
def decimal (digits : List Char) : Nat :=
  digits.foldl (fun n c => 10 * n + (c.toNat - '0'.toNat)) 0

/-- A parameter that is named by letters or by digits, if the next character begins one. -/
def namedParameter? (fuel : Nat) : Reader (Option Parameter) := do
  match ← peek with
  | some c =>
    if isNameStart c then return some (.variable (String.ofList (← takeWhile isNameChar fuel)))
    else if c.isDigit then return some (.positional (decimal (← takeWhile Char.isDigit fuel)))
    else return none
  | none => return none

/-- The rest of a text in braces begins with something that is asked of a parameter. -/
inductive Question where
  /-- Nothing: the braces are closed. -/
  | closed
  | length
  | word (make : Word → Use) (ctx : Context)
  | unknown

/-- What is asked of a parameter in braces after its name. -/
def question (ctx : Context) : Reader Question := do
  let c ← peek
  let ifEmpty ← takes ':'
  let c ← if ifEmpty then peek else pure c
  let words := fun (make : Word → Use) => do
    advance
    return Question.word make ctx.braces
  match c with
  | some '}' => if ifEmpty then words fun _ => .unknown else advance; return .closed
  | some '-' => words (.default ifEmpty)
  | some '=' => words (.assign ifEmpty)
  | some '?' => words (.demand ifEmpty)
  | some '+' => words (.alternative ifEmpty)
  | some '%' =>
    if ifEmpty then words fun _ => .unknown
    else do
      advance
      return .word (.trim .back (← takes '%')) .bareBraces
  | some '#' =>
    if ifEmpty then words fun _ => .unknown
    else do
      advance
      return .word (.trim .front (← takes '#')) .bareBraces
  | some _ => words fun _ => .unknown
  | none => return .unknown

/-- The parameter at the start of braces, and what is asked of it. A number sign in front of a
parameter asks for the length of its value, unless it is a parameter itself. -/
def braced (ctx : Context) (fuel : Nat) : Reader (Parameter × Question) := do
  let missing : Parameter × Question := (.argumentCount, .unknown)
  match ← namedParameter? fuel with
  | some p => return (p, ← question ctx)
  | none =>
    match ← peek with
    | none | some '}' => return missing
    | some '#' => do
      advance
      match ← namedParameter? fuel with
      | some p => return (p, if (← peek) = some '}' then .length else .unknown)
      | none =>
        match ← peek with
        | some c => do
          let before ← get
          advance
          if c ≠ '}' && (← peek) = some '}' then
            match specialParameter? c with
            | some p => return (p, .length)
            | none => return missing
          else do
            set before
            return (.argumentCount, ← question ctx)
        | none => return missing
    | some c =>
      advance
      match specialParameter? c with
      | some p => return (p, ← question ctx)
      | none => return missing

/-! ### Words -/

/-- The text of a script ends here: its closer stands on a line of its own, or nothing is
left. -/
def endsDocument (closer : List Char) (dropTabs : Bool) : Reader Bool := do
  if dropTabs then modify fun s => { s with rest := s.rest.dropWhile (· = '\t') }
  let s ← get
  if s.rest.isEmpty then return true
  else if closer.isPrefixOf s.rest then
    match s.rest.drop closer.length with
    | [] =>
      set { s with rest := [] }
      return true
    | '\n' :: rest =>
      set { s with rest := rest, line := s.line + 1 }
      return true
    | _ => return false
  else return false

/-- The context is closed by the end of the script. -/
def endOfText (ctx : Context) : Reader (List Part) :=
  match ctx with
  | .bare | .bareLiteral | .document .. => return []
  | .bareBraces => refuse .openBraces
  | .arithmetic _ => refuse .openArithmetic
  | .quotes | .quotedBraces | .innerQuotes | .literalQuotes => refuse .openQuote

mutual

/-- The parts of a word up to the end of its context. A closing character is consumed, one
that ends a bare word is not. -/
def partsFrom (nested : Nested) (ctx : Context) : Nat → Reader (List Part)
  | 0 => return []
  | fuel + 1 => do
    if let .document closer dropTabs true := ctx then
      if ← endsDocument closer dropTabs then return []
    let ctx := match ctx with
      | .document closer dropTabs _ => .document closer dropTabs false
      | ctx => ctx
    let literal := fun (c : Char) (ctx' : Context) => do
      advance
      return .char c ctx.isQuoted :: (← partsFrom nested ctx' fuel)
    match ← peek with
    | none => endOfText ctx
    | some '\\' =>
      advance
      match ← peekRaw with
      | none => return .char '\\' true :: (← partsFrom nested ctx fuel)
      | some c =>
        advance
        let rest ← partsFrom nested ctx fuel
        if ctx.isQuoted && !ctx.isEscapable c then return .char '\\' true :: .char c true :: rest
        else return .char c true :: rest
    | some '\'' =>
      if ctx.isQuoted then literal '\'' ctx
      else do
        advance
        let inside ← singleQuoted ((← get).rest.length + 1)
        return .mark :: inside ++ (← partsFrom nested ctx fuel)
    | some '"' =>
      match ctx.inQuotes? with
      | some inner => do
        advance
        let inside ← partsFrom nested inner fuel
        return .mark :: inside ++ .mark :: (← partsFrom nested ctx fuel)
      | none =>
        if ctx.isInQuotes then do
          advance
          return []
        else literal '"' ctx
    | some '$' =>
      if ctx.isLiteral then literal '$' ctx
      else do
        advance
        let part ← substitution nested ctx fuel
        return part :: (← partsFrom nested ctx fuel)
    | some '\x60' =>
      if ctx.isLiteral then literal '\x60' ctx
      else do
        advance
        let text ← backquoted ctx.isQuoted ((← get).rest.length + 1)
        let script ← within text nested.whole
        return .output script ctx.isQuoted :: (← partsFrom nested ctx fuel)
    | some '}' =>
      if ctx = .bareBraces || ctx = .quotedBraces then do
        advance
        return []
      else literal '}' ctx
    | some c =>
      match ctx with
      | .bare | .bareLiteral => if Context.isDelimiter c then return [] else literal c ctx
      | .document closer dropTabs _ => literal c (.document closer dropTabs (c = '\n'))
      | .arithmetic depth =>
        if c = '(' then literal c (.arithmetic (depth + 1))
        else if c ≠ ')' then literal c ctx
        else if 0 < depth then literal c (.arithmetic (depth - 1))
        else do
          advance
          if ← takes ')' then return []
          else return .char ')' true :: (← partsFrom nested ctx fuel)
      | _ => literal c ctx

/-- What a dollar sign stands for, which is itself if nothing else. -/
def substitution (nested : Nested) (ctx : Context) : Nat → Reader Part
  | 0 => return .char '$' ctx.isQuoted
  | fuel + 1 => do
    match ← peek with
    | some '(' =>
      advance
      if ← takes '(' then
        return .arithmetic (← partsFrom nested (.arithmetic 0) fuel) ctx.isQuoted
      else return .output (← enclosed nested.parenthesized) ctx.isQuoted
    | some '{' =>
      advance
      let (parameter, asked) ← braced ctx (fuel + 1)
      match asked with
      | .closed => return .parameter parameter .value ctx.isQuoted
      | .length =>
        advance
        return .parameter parameter .length ctx.isQuoted
      | .word make inner =>
        return .parameter parameter (make (← partsFrom nested inner fuel)) ctx.isQuoted
      | .unknown =>
        let _ ← partsFrom nested ctx.braces fuel
        return .parameter parameter .unknown ctx.isQuoted
    | some c =>
      if isNameStart c then
        let name ← takeWhile isNameChar (fuel + 1)
        return .parameter (.variable (String.ofList name)) .value ctx.isQuoted
      else if c.isDigit then
        advance
        return .parameter (.positional (c.toNat - '0'.toNat)) .value ctx.isQuoted
      else
        match specialParameter? c with
        | some p =>
          advance
          return .parameter p .value ctx.isQuoted
        | none => return .char '$' ctx.isQuoted
    | none => return .char '$' ctx.isQuoted

end

/-- The parts of a word up to the end of its context. -/
def parts (nested : Nested) (ctx : Context) : Reader (List Part) := do
  partsFrom nested ctx (2 * (← get).rest.length + 4)

/-! ### Texts of the script -/

/-- The lines of a text in which nothing is substituted. -/
def literalDocument (closer : List Char) (dropTabs : Bool) : Nat → Reader (List Part)
  | 0 => return []
  | fuel + 1 => do
    if ← endsDocument closer dropTabs then return []
    else
      let s ← get
      let line := s.rest.takeWhile (· ≠ '\n')
      let rest := s.rest.drop line.length
      set { s with rest := rest }
      let lineEnd := rest.take 1
      advance
      return (line ++ lineEnd).map (.char · true) ++ (← literalDocument closer dropTabs fuel)

/-- The next announced text. -/
def document (nested : Nested) (a : Announcement) : Reader Word := do
  if a.literal then literalDocument a.closer a.dropTabs ((← get).rest.length + 1)
  else parts nested (.document a.closer a.dropTabs true)

/-- All announced texts. -/
def documentsFrom (nested : Nested) : List Announcement → Reader Unit
  | [] => return ()
  | a :: rest => do
    let word ← document nested a
    modify fun s => { s with documents := (a.number, word) :: s.documents }
    documentsFrom nested rest

/-- The texts that were announced before the end of a line. -/
def documents (nested : Nested) : Reader Unit := do
  let announced := (← get).announced
  modify fun s => { s with announced := [] }
  documentsFrom nested announced

end Reader

end ScriptHost.Shell
