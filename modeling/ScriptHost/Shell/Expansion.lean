import ScriptHost.Shell.Arithmetic
import ScriptHost.Shell.Fields
import ScriptHost.Shell.Glob
import ScriptHost.Shell.Session

/-!
# The expansion of words

A word is expanded part by part: parameters give their values, scripts what they print,
arithmetic expressions their numbers, and a tilde a home directory. What comes of it is
split into fields, and the fields that are patterns give way to the paths they fit.

## Main definitions

* `expandParts` — the expansion of a word before it is split.
* `fieldsOf`, `textOf`, `patternOf` — a word as arguments, as one text, and as a pattern.
-/

namespace ScriptHost.Shell

/-- What a word is expanded for. -/
structure Purpose where
  /-- Several fields may come of it. -/
  isArgument : Bool
  /-- A tilde may also follow the first equals sign or a colon. -/
  isAssignment : Bool
  /-- Blanks of the script itself separate fields: the word stands for a value. -/
  isValue : Bool
  deriving DecidableEq, Repr

namespace Purpose

/-- Arguments of a command. -/
def argument : Purpose := ⟨true, false, false⟩

/-- One text. -/
def text : Purpose := ⟨false, false, false⟩

/-- The value of an assignment. -/
def assignment : Purpose := ⟨false, true, false⟩

end Purpose

/-! ### Parameters -/

/-- How a parameter is written. -/
def Parameter.written : Parameter → String
  | .variable name => name
  | .positional n => toString n
  | .argumentCount => "#"
  | .separateArguments => "@"
  | .joinedArguments => "*"
  | .processNumber => "$"
  | .lastStatus => "?"
  | .lastBackground => "!"
  | .options => "-"

/-- The options of a shell and their letters. -/
def optionLetters : List (String × Char) := [
  ("errexit", 'e'), ("noglob", 'f'), ("ignoreeof", 'I'), ("interactive", 'i'), ("monitor", 'm'),
  ("noexec", 'n'), ("stdin", 's'), ("xtrace", 'x'), ("verbose", 'v'), ("vi", 'V'),
  ("emacs", 'E'), ("noclobber", 'C'), ("allexport", 'a'), ("notify", 'b'), ("nounset", 'u'),
  ("privileged", 'p')]

namespace Session

/-- What stands between arguments that are put together: nothing, a character, or the end of an
argument. -/
def joint (s : Session) (p : Parameter) (isArgument quoted : Bool) : List Atom :=
  if quoted && isArgument && p = .separateArguments then [.gap]
  else
    match s.separators? with
    | none => [.char ' ' quoted]
    | some separators =>
      if isArgument && !quoted then [.gap] else (separators.head?.map (.char · quoted)).toList

/-- The atoms of a parameter, if it has a value. -/
def atoms? (s : Session) (p : Parameter) (isArgument quoted : Bool) : Option (List Atom) :=
  let text := fun (t : Octets) => Atom.ofText t quoted
  match p with
  | .variable name => (s.value? name).map text
  | .positional 0 => some (text s.name)
  | .positional (n + 1) => (s.arguments[n]?).map text
  | .argumentCount => some (text (toString s.arguments.length))
  | .processNumber => some (text (toString s.shownProcess))
  | .lastStatus => some (text (toString s.status))
  | .lastBackground => s.background.map fun n => text (toString n)
  | .options =>
    some (text (String.ofList
      ((optionLetters.filter fun o => s.has o.1).map (·.2)).reverse))
  | .separateArguments | .joinedArguments =>
    some ((s.joint p isArgument quoted).intercalate (s.arguments.map text))

/-- How the value of a parameter is split. -/
def splitting (s : Session) (p : Parameter) (quoted : Bool) : Splitting :=
  if !quoted then .fields
  else if p = .separateArguments && !s.arguments.isEmpty then .arguments
  else .whole

end Session

/-- Refuses a parameter that has no value. -/
def refuseUnset {α : Type} (p : Parameter) (message : Octets) : Act α :=
  fail (p.written ++ ": " ++ message)

/-- What is said of a parameter that has no value. -/
def unsetMessage : Octets := "parameter not set"

/-! ### Tildes -/

/-- The home directories of users. -/
def homes : List (String × Octets) := [
  ("root", "/root"), ("daemon", "/usr/sbin"), ("bin", "/bin"), ("sys", "/dev"),
  ("sync", "/bin"), ("games", "/usr/games"), ("man", "/var/cache/man"), ("lp", "/var/spool/lpd"),
  ("mail", "/var/mail"), ("news", "/var/spool/news"), ("uucp", "/var/spool/uucp"),
  ("proxy", "/bin"), ("www-data", "/var/www"), ("backup", "/var/backups"),
  ("list", "/var/list"), ("irc", "/run/ircd"), ("nobody", "/nonexistent")]

/-- The name after a tilde: the characters outside of quotes up to a slash, or up to a colon in
an assignment. None if anything else stands in it. -/
def tildeName? (purpose : Purpose) : List Part → Option (List Char)
  | [] => some []
  | .char c false :: rest =>
    if c = '/' || (c = ':' && purpose.isAssignment) then some []
    else (tildeName? purpose rest).map (c :: ·)
  | _ => none

/-- The home directory of a user. -/
def Session.home? (s : Session) (user : List Char) : Option Octets :=
  if user.isEmpty then s.value? "HOME" else homes.lookup (String.ofList user)

/-! ### Words -/

/-- What runs a script in a process of its own and tells what it prints. -/
abbrev OutputOf := Script → Act Octets

/-- A span of characters of the script itself, in front of other spans. -/
def consLiteral (splitting : Splitting) (a : Atom) : List Span → List Span
  | s :: rest =>
    if s.literal && s.splitting = splitting then { s with atoms := a :: s.atoms } :: rest
    else ⟨splitting, true, [a]⟩ :: s :: rest
  | [] => [⟨splitting, true, [a]⟩]

/-- The text without the line ends at its end, and without NUL. -/
def withoutLastLines (t : Octets) : Octets :=
  String.ofList ((t.toList.filter (· ≠ '\x00')).reverse.dropWhile (· = '\n')).reverse

/-- A value that stands for a part of a word. -/
def valueSpan (t : Octets) (quoted : Bool) : Span :=
  ⟨if quoted then .whole else .fields, false, Atom.ofText t quoted⟩

/-- The number that an arithmetic expression comes to. -/
def calculate (expression : Octets) : Act Octets := do
  let s ← get
  match Arithmetic.evaluate s.value? expression with
  | .error problem => fail (problem.message expression)
  | .ok (n, assigned) =>
    assigned.forM fun a => assign a.1 (toString a.2.toInt)
    return toString n.toInt

/-- The value of a parameter that gets a word as its value. -/
def assigned (purpose : Purpose) (p : Parameter) (quoted : Bool) (word : Act (List Span)) :
    Act (List Span) := do
  setVariable p.written (some (Span.text (← word))) false false
  let s ← get
  return [⟨s.splitting p quoted, false, (s.atoms? p purpose.isArgument quoted).getD []⟩]

/-- The refusal of a parameter without a value, in the words of the script if it has any. -/
def refused (p : Parameter) (ifEmpty hasWords : Bool) (message : Act (List Span)) :
    Act (List Span) := do
  let spans ← message
  if hasWords then refuseUnset p (Span.text spans)
  else refuseUnset p (unsetMessage ++ if ifEmpty then " or null" else "")

mutual

/-- The expansion of parts, of which some at the front may be skipped. A tilde at the front may
stand for a home directory. -/
def expandParts (outputOf : OutputOf) (purpose : Purpose) (skipped : Nat)
    (tilde afterEquals : Bool) :
    List Part → Act (List Span)
  | [] => return []
  | part :: rest => do
    match skipped with
    | n + 1 => expandParts outputOf purpose n false afterEquals rest
    | 0 =>
      match part with
      | .char c quoted =>
        let s ← get
        let home := if tilde && c = '~' && !quoted then
            (tildeName? purpose rest).bind fun user =>
              (s.home? user).map fun home => (home, user.length)
          else none
        match home with
        | some (home, length) =>
          let later ← expandParts outputOf purpose length false afterEquals rest
          return ⟨.whole, false, Atom.ofText home true⟩ :: later
        | none =>
          let equals := c = '=' && !quoted
          let tilde := purpose.isAssignment &&
            ((equals && !afterEquals) || (c = ':' && !quoted))
          let later ← expandParts outputOf purpose 0 tilde (afterEquals || equals) rest
          return consLiteral (if purpose.isValue && !quoted then .fields else .whole)
            (.char c quoted) later
      | .mark =>
        match rest with
        | .parameter .separateArguments .value true :: .mark :: _ =>
          let s ← get
          let atoms := (s.atoms? .separateArguments purpose.isArgument true).getD []
          let later ← expandParts outputOf purpose 2 false afterEquals rest
          return ⟨s.splitting .separateArguments true, false, atoms⟩ :: later
        | _ =>
          return consLiteral .whole .mark (← expandParts outputOf purpose 0 false afterEquals rest)
      | part =>
        let spans ← expandPart outputOf purpose part
        return spans ++ (← expandParts outputOf purpose 0 false afterEquals rest)

/-- The expansion of a part. -/
def expandPart (outputOf : OutputOf) (purpose : Purpose) : Part → Act (List Span)
  | .char c quoted => return [⟨.whole, true, [.char c quoted]⟩]
  | .mark => return [⟨.whole, true, [.mark]⟩]
  | .output script quoted => do
    return [valueSpan (withoutLastLines (← outputOf script)) quoted]
  | .arithmetic expression quoted => do
    let spans ← expandParts outputOf .text 0 false false expression
    return [valueSpan (← calculate (Span.text spans)) quoted]
  | .parameter p use quoted => expandUse outputOf purpose p quoted use

/-- The expansion of a parameter. -/
def expandUse (outputOf : OutputOf) (purpose : Purpose) (p : Parameter) (quoted : Bool) :
    Use → Act (List Span)
  | .value => do
    let s ← get
    let atoms := s.atoms? p purpose.isArgument quoted
    if atoms.isNone && s.has "nounset" then refuseUnset p unsetMessage
    else return [⟨s.splitting p quoted, false, atoms.getD []⟩]
  | .length => do
    let s ← get
    let atoms := s.atoms? p purpose.isArgument quoted
    if atoms.isNone && s.has "nounset" then refuseUnset p unsetMessage
    else return [valueSpan (toString (atoms.getD []).length) quoted]
  | .default ifEmpty word => do
    let s ← get
    match s.atoms? p purpose.isArgument quoted with
    | some atoms =>
      if ifEmpty && atoms.isEmpty then
        expandParts outputOf { purpose with isValue := true } 0 true false word
      else return [⟨s.splitting p quoted, false, atoms⟩]
    | none => expandParts outputOf { purpose with isValue := true } 0 true false word
  | .alternative ifEmpty word => do
    let s ← get
    match s.atoms? p purpose.isArgument quoted with
    | some atoms =>
      if ifEmpty && atoms.isEmpty then return [⟨s.splitting p quoted, false, []⟩]
      else expandParts outputOf { purpose with isValue := true } 0 true false word
    | none => return [⟨s.splitting p quoted, false, []⟩]
  | .assign ifEmpty word => do
    let s ← get
    match s.atoms? p purpose.isArgument quoted with
    | some atoms =>
      if ifEmpty && atoms.isEmpty then
        assigned purpose p quoted (expandParts outputOf .text 0 true false word)
      else return [⟨s.splitting p quoted, false, atoms⟩]
    | none => assigned purpose p quoted (expandParts outputOf .text 0 true false word)
  | .demand ifEmpty message => do
    let s ← get
    match s.atoms? p purpose.isArgument quoted with
    | some atoms =>
      if ifEmpty && atoms.isEmpty then
        refused p ifEmpty (!message.isEmpty) (expandParts outputOf .text 0 true false message)
      else return [⟨s.splitting p quoted, false, atoms⟩]
    | none => refused p ifEmpty (!message.isEmpty) (expandParts outputOf .text 0 true false message)
  | .trim side longest pattern => do
    let s ← get
    match s.atoms? p purpose.isArgument quoted with
    | some atoms =>
      let spans ← expandParts outputOf .text 0 true false pattern
      let items := Glob.items (Atom.pattern (Span.allAtoms spans))
      let text := (Atom.text atoms).toList
      let cut := match side with
        | .front => Glob.trimFront items longest text
        | .back => Glob.trimBack items longest text
      return [⟨s.splitting p quoted, false, cut.map (.char · quoted)⟩]
    | none =>
      if s.has "nounset" then refuseUnset p unsetMessage
      else return [⟨s.splitting p quoted, false, []⟩]
  | .unknown => fail "Bad substitution"

end

/-! ### What words are expanded for -/

/-- The paths that a field fits if it is a pattern, or its text. -/
def Session.pathsOf (s : Session) (field : List Atom) : List Octets :=
  let paths :=
    if s.has "noglob" then []
    else
      Glob.paths s.toRunning.names (fun p => (s.toRunning.entry? p).isSome) (Atom.pattern field)
  if paths.isEmpty then [Atom.text field] else paths

/-- A word as arguments. -/
def fieldsOf (outputOf : OutputOf) (w : Word) : Act (List Octets) := do
  let spans ← expandParts outputOf .argument 0 true false w
  let s ← get
  let separators := s.separators?.getD Session.defaultSeparators
  return (Fields.split separators none spans).flatMap s.pathsOf

/-- A word as one text. -/
def textOf (outputOf : OutputOf) (w : Word) : Act Octets := do
  return Span.text (← expandParts outputOf .text 0 true false w)

/-- An assignment as one text. -/
def assignmentOf (outputOf : OutputOf) (w : Word) : Act Octets := do
  return Span.text (← expandParts outputOf .assignment 0 false false w)

/-- A text of the script, in which a tilde stands for itself. -/
def documentOf (outputOf : OutputOf) (w : Word) : Act Octets := do
  return Span.text (← expandParts outputOf .text 0 false false w)

/-- A word as a pattern. -/
def patternOf (outputOf : OutputOf) (w : Word) : Act (List Glob.Item) := do
  return Glob.items (Atom.pattern (Span.allAtoms (← expandParts outputOf .text 0 true false w)))

end ScriptHost.Shell
