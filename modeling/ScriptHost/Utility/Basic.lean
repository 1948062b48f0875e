import ScriptHost.Shell.Kernel

/-!
# Tasks of utilities

A utility of the system is a small program with one task: it looks at its options, reads and
writes files and streams, and says what is wrong under its own name.

## Main definitions

* `Task` — what a utility does.
* `say`, `complain`, `options` — printing, messages and options.
* `quoted`, `quotedIfNeeded` — names in messages.

## Names in messages

A name is quoted so that a shell reads it back: with single quotes, or with double quotes
if it holds single quotes and nothing that might be special in double ones. What is not
printable ASCII stands as an escape behind a dollar sign.
-/

namespace ScriptHost.Utility

open Shell

/-- What a utility does. It may end early with a status. -/
abbrev Task := ExceptT Nat (StateM Running)

/-! ### Names -/

/-- A character that is printed as it is. -/
def isPrintable (c : Char) : Bool :=
  ' ' ≤ c && c ≤ '~'

/-- The escape for a character that is not printed as it is. -/
def escape (c : Char) : List Char :=
  match [('\x07', 'a'), ('\x08', 'b'), ('\x0c', 'f'), ('\n', 'n'), ('\r', 'r'), ('\t', 't'),
      ('\x0b', 'v')].lookup c with
  | some letter => ['\\', letter]
  | none =>
    let digits := Nat.toDigits 8 c.toNat
    '\\' :: List.replicate (3 - digits.length) '0' ++ digits

/-- The characters of a name between single quotes. `escaped` says that an escape was opened before
them. -/
def quotedFrom (escaped : Bool) : List Char → List Char
  | [] => []
  | c :: cs =>
    if isPrintable c then
      let opened := if escaped then ['\'', '\''] else []
      let shown := if c = '\'' then ['\'', '\\', '\'', '\''] else [c]
      opened ++ shown ++ quotedFrom false cs
    else
      let opened := if escaped then [] else ['\'', '$', '\'']
      opened ++ escape c ++ quotedFrom true cs

/-- A character that stands for itself in double quotes of any kind. -/
def isPlainInDouble (c : Char) : Bool :=
  c.isAlphanum || [' ', '\'', '%', '+', ',', '-', '.', '/', ':', ']', '_'].contains c

/-- A name in quotes. -/
def quoted (name : Octets) : Octets :=
  let cs := name.toList
  if cs.contains '\'' && cs.all isPlainInDouble then
    "\"" ++ name ++ "\""
  else "'" ++ String.ofList (quotedFrom false cs) ++ "'"

/-- A character that a shell would not take for itself. -/
def isSpecial (c : Char) : Bool :=
  !isPrintable c || [' ', '!', '"', '$', '&', '\'', '(', ')', '*', ':', ';', '<', '=', '>', '?',
    '[', '\\', '^', '\x60', '|'].contains c

/-- A name, in quotes if a shell would not read it as it is. -/
def quotedIfNeeded (name : Octets) : Octets :=
  let special := match name.toList with
    | [] => true
    | [c] => isSpecial c || ['{', '}', '#', '~'].contains c
    | c :: cs => isSpecial c || c = '#' || c = '~' || cs.any isSpecial
  if special then quoted name else name

/-! ### Streams -/

/-- Ends with a status. -/
def quit {α : Type} (status : Nat) : Task α := throw status

/-- Says what is wrong. -/
def complain (words : Octets) : Task Unit :=
  modify fun r => r.say 2 (r.name ++ ": " ++ words ++ "\n")

/-- The text of an error, without its number. -/
def reason (e : OsError) : Octets :=
  match e with
  | .number n => OsError.text n
  | e => e.message

/-- Says what is wrong, and why. -/
def complainOf (words : Octets) (e : OsError) : Task Unit :=
  complain (words ++ ": " ++ reason e)

/-- Says what is wrong and ends with a status. -/
def fail {α : Type} (status : Nat) (words : Octets) : Task α := do
  complain words
  quit status

/-- Says where help is to be found, and ends with a status. -/
def usage {α : Type} (status : Nat) : Task α := do
  modify fun r => r.say 2 ("Try '" ++ r.name ++ " --help' for more information.\n")
  quit status

/-- Says what is wrong with the arguments, and ends with a status. -/
def misused {α : Type} (status : Nat) (words : Octets) : Task α := do
  complain words
  usage status

/-- Prints on the standard output. -/
def say (text : Octets) : Task Unit := do
  if text.isEmpty then return ()
  match (← get).write 1 text with
  | .ok r => set r
  | .error e =>
    complainOf "write error" e
    quit 1

/-- What a path names as input: a file, or the standard input for a dash. -/
def input (path : Octets) : Task (Except OsError Octets) := do
  let r ← get
  if path = "-" then
    match r.readAll 0 with
    | .ok (content, r) =>
      set r
      return .ok (Octets.ofBytes content)
    | .error e => return .error e
  else
    match r.openToRead path with
    | .error e => return .error e
    | .ok (channel, r) =>
      set r
      match r.kernel.waiting channel with
      | .ok content =>
        set { r with kernel := r.kernel.consume channel content.length }
        return .ok (Octets.ofBytes content)
      | .error e => return .error e

/-- Does something with the content of each input, of which the standard input is the only one if
none is given. Inputs that cannot be read are complained of, and the status tells of that. -/
def eachInput (paths : List Octets) (act : Octets → Octets → Task Unit) : Task Nat := do
  let statuses ← (if paths.isEmpty then ["-"] else paths).mapM fun path => do
    match ← input path with
    | .ok content =>
      act path content
      return 0
    | .error e =>
      complainOf (quotedIfNeeded path) e
      return 1
  return if statuses.all (· = 0) then 0 else 1

/-- The tree of files after a change, or what speaks against it. -/
def change (f : FileTree → Location → Except OsError FileTree) : Task (Except OsError Unit) := do
  let r ← get
  match f r.kernel.files r.cwd with
  | .ok files =>
    set { r with kernel := { r.kernel with files := files } }
    return .ok ()
  | .error e => return .error e

/-! ### Options -/

/-- The letters of options, each with a colon behind it if it takes an argument, and the long names
of some of them. -/
structure Options where
  letters : String
  long : List (String × Char) := []
  /-- Nothing after the first argument is an option. -/
  inFront : Bool := false
  /-- The status where options are misused. -/
  status : Nat := 1

namespace Options

/-- A letter takes an argument. -/
def takes (o : Options) (c : Char) : Bool :=
  ((o.letters.toList.dropWhile (· ≠ c)).drop 1).head? = some ':'

/-- The letters of an argument. The last of them may take the next argument. -/
def cluster (o : Options) : List Char → List Octets → Task (List (Char × Octets) × List Octets)
  | [], rest => return ([], rest)
  | c :: cs, rest => do
    if c = ':' || !o.letters.toList.contains c then
      misused o.status ("invalid option -- '" ++ String.singleton c ++ "'")
    else if o.takes c then
      if !cs.isEmpty then return ([(c, String.ofList cs)], rest)
      else
        match rest with
        | value :: rest => return ([(c, value)], rest)
        | [] => misused o.status ("option requires an argument -- '" ++ String.singleton c ++ "'")
    else
      let (later, rest) ← cluster o cs rest
      return ((c, "") :: later, rest)

/-- The option of a long name, which may be cut short if it stays clear. -/
def longOption (o : Options) (text : Octets) (rest : List Octets) :
    Task ((Char × Octets) × List Octets) := do
  let name := String.ofList (text.toList.takeWhile (· ≠ '='))
  let value? := if name.length = text.length then none
    else some (String.ofList (text.toList.drop (name.length + 1)))
  let fits := match o.long.find? (·.1 = name) with
    | some l => [l]
    | none => o.long.filter fun l => l.1.startsWith name
  match fits.map (·.2) |>.eraseDups with
  | [c] =>
    let full := (fits.head?.map (·.1)).getD name
    match o.takes c, value? with
    | true, some value => return ((c, value), rest)
    | true, none =>
      match rest with
      | value :: rest => return ((c, value), rest)
      | [] => misused o.status ("option '--" ++ full ++ "' requires an argument")
    | false, some _ => misused o.status ("option '--" ++ full ++ "' doesn't allow an argument")
    | false, none => return ((c, ""), rest)
  | [] => misused o.status ("unrecognized option '--" ++ name ++ "'")
  | _ => misused o.status ("option '--" ++ name ++ "' is ambiguous")

/-- The options among arguments, and the other arguments. -/
def read (o : Options) : Nat → List Octets → Task (List (Char × Octets) × List Octets)
  | 0, args => return ([], args)
  | fuel + 1, args => do
    match args with
    | [] => return ([], [])
    | a :: rest =>
      match a.toList with
      | ['-', '-'] => return ([], rest)
      | '-' :: '-' :: cs =>
        let (option, rest) ← o.longOption (String.ofList cs) rest
        let (options, args) ← read o fuel rest
        return (option :: options, args)
      | '-' :: c :: cs =>
        let (given, rest) ← o.cluster (c :: cs) rest
        let (options, args) ← read o fuel rest
        return (given ++ options, args)
      | _ =>
        if o.inFront then return ([], a :: rest)
        else
          let (options, args) ← read o fuel rest
          return (options, a :: args)

/-- The options among the arguments of the utility, and the other arguments. -/
def ofArguments (o : Options) : Task (List (Char × Octets) × List Octets) := do
  let arguments := (← get).arguments
  o.read (arguments.length + 1) arguments

end Options

/-- One of the options is given. -/
def has (given : List (Char × Octets)) (c : Char) : Bool :=
  given.any (·.1 = c)

/-- The argument of an option that was given last. -/
def value? (given : List (Char × Octets)) (c : Char) : Option Octets :=
  (given.filter (·.1 = c)).getLast?.map (·.2)

/-- The arguments, of which there has to be one. -/
def needed (status : Nat) (arguments : List Octets) : Task Unit :=
  if arguments.isEmpty then misused status "missing operand" else return ()

/-- The status of a task that may end early, and the program after it. -/
def Task.finish (task : Task Nat) (r : Running) : Ending × Kernel :=
  match task.run.run r with
  | (.ok status, r) => (.exited status, r.kernel)
  | (.error status, r) => (.exited status, r.kernel)

end ScriptHost.Utility
