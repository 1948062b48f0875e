import ScriptHost.Shell.Engine

/-!
# Variables and options

The commands of the shell that change variables, arguments and options, and that read
input into variables.
-/

namespace ScriptHost.Shell.Builtin

/-- A text in quotes that reads back as one word. Single quotes in it stand between double ones. -/
def quoteFrom : Nat → List Char → List Char
  | 0, _ => []
  | fuel + 1, cs =>
    let plain := cs.takeWhile (· ≠ '\'')
    let rest := cs.drop plain.length
    let marks := rest.takeWhile (· = '\'')
    let first := '\'' :: plain ++ ['\'']
    if marks.isEmpty then first
    else
      let rest := rest.drop marks.length
      first ++ '"' :: marks ++ '"' :: (if rest.isEmpty then [] else quoteFrom fuel rest)

/-- A text in quotes that reads back as one word. -/
def quote (text : Octets) : Octets :=
  String.ofList (quoteFrom (text.length + 1) text.toList)

/-- The text before the first equals sign, and the text after it if there is one. -/
def splitAssignment (text : Octets) : String × Option Octets :=
  let name := text.toList.takeWhile (· ≠ '=')
  let rest := text.toList.drop name.length
  (String.ofList name, if rest.isEmpty then none else some (String.ofList (rest.drop 1)))

/-- Lines for variables in the order of their names. Those without a value may be shown too. -/
def listing (lead : Octets) (vs : List Variable) (all : Bool) : Octets :=
  let shown := vs.filterMap fun v =>
    match v.value with
    | some value => some (v.name, lead ++ v.name ++ "=" ++ quote value ++ "\n")
    | none => if all then some (v.name, lead ++ v.name ++ "\n") else none
  String.join ((shown.mergeSort fun a b => !(b.1 < a.1)).map (·.2))

/-- Gives properties to variables, with or without values, or lists the variables that have
them. -/
def mark (command : String) (exported readonly : Bool) (arguments : List Octets) : Act Nat := do
  let (given, names) ← options "p" arguments
  if given.isEmpty && !names.isEmpty then
    names.forM fun text => do
      let (name, value) := splitAssignment text
      match value, (← get).binding? name with
      | none, some v =>
        modify (·.putVariable
          { v with exported := v.exported || exported, readonly := v.readonly || readonly })
      | value, _ => setVariable name value exported readonly
    return 0
  else
    let vs := (← get).bindings.filter fun v => (exported && v.exported) || (readonly && v.readonly)
    print (listing (command ++ " ") vs true)

/-- Makes variables those of a function. -/
def makeLocal (arguments : List Octets) : Act Nat := do
  if (← get).scopes.isEmpty then fail "not in a function"
  arguments.forM fun text => do
    if text = "-" then
      modify fun s =>
        match s.scopes with
        | scope :: scopes => { s with scopes := (.options s.options :: scope) :: scopes }
        | [] => s
    else
      let (name, value) := splitAssignment text
      keep name
      match value with
      | some value => assign name value
      | none =>
        if ((← get).binding? name).isNone then setVariable name none false false
  return 0

/-- Takes variables or functions away. -/
def unsetAll (arguments : List Octets) : Act Nat := do
  let (given, names) ← options "vf" arguments
  let functions := (given.getLast?.map (·.1)) = some 'f'
  names.forM fun name =>
    if functions then
      modify fun s => { s with functions := s.functions.filter (·.1 ≠ name) }
    else unset name
  return 0

/-! ### Options -/

/-- The options in the order of listings, those without a letter at the end. -/
def optionNames : List String :=
  optionLetters.map (·.1) ++ ["nolog", "debug"]

/-- Turns an option on or off. -/
def setOption (on : Bool) (name : String) : Act Unit :=
  modify fun s => { s with
    options := if on then name :: s.options.filter (· ≠ name) else s.options.filter (· ≠ name) }

/-- Turns the option of a letter on or off. -/
def setLetter (on : Bool) (c : Char) : Act Unit := do
  match optionLetters.find? fun o => o.2 = c with
  | some o => setOption on o.1
  | none => fail ("Illegal option -" ++ String.singleton c)

/-- All options as a list, or as the commands that set them. -/
def optionListing (on : Bool) (s : Session) : Octets :=
  if on then
    "Current option settings\n" ++ String.join (optionNames.map fun o =>
      o ++ "".pushn ' ' (16 - o.length) ++ (if s.has o then "on\n" else "off\n"))
  else
    String.join (optionNames.map fun o => "set " ++ (if s.has o then "-o " else "+o ") ++ o ++ "\n")

/-- The letters of an argument with options, and the arguments after it. A letter `o` takes the
name of an option from there. -/
def setLetters (on : Bool) : List Char → List Octets → Act (List Octets)
  | [], rest => return rest
  | 'o' :: cs, rest => do
    match rest with
    | [] =>
      let _ ← print (optionListing on (← get))
      setLetters on cs []
    | name :: rest =>
      if optionNames.contains name then setOption on name
      else fail ("Illegal option -o " ++ name)
      setLetters on cs rest
  | c :: cs, rest => do
    setLetter on c
    setLetters on cs rest

/-- Options at the front of arguments, and the arguments after them if those are to be set. -/
def setOptions : Nat → List Octets → Act (Option (List Octets))
  | 0, _ => return none
  | fuel + 1, args => do
    match args with
    | [] => return none
    | a :: rest =>
      match a.toList with
      | ['-'] =>
        setOption false "xtrace"
        setOption false "verbose"
        return if rest.isEmpty then none else some rest
      | ['-', '-'] => return some rest
      | '-' :: cs => setOptions fuel (← setLetters true cs rest)
      | '+' :: cs => setOptions fuel (← setLetters false cs rest)
      | _ => return some args

/-- Gives the shell other arguments. -/
def setArguments (arguments : List Octets) : Act Unit :=
  modify fun s => { s with arguments := arguments, optionProgress := ⟨1, none⟩ }

/-- Sets options and arguments, or lists the variables. -/
def set_ (arguments : List Octets) : Act Nat := do
  if arguments.isEmpty then print (listing "" (← get).bindings false)
  else
    let rest ← setOptions (arguments.length + 1) arguments
    rest.forM setArguments
    return 0

/-- Drops arguments at the front. -/
def shift (arguments : List Octets) : Act Nat := do
  let n ← match arguments with
    | [] => pure 1
    | a :: _ => number a
  let s ← get
  if s.arguments.length < n then fail "can't shift that many"
  else
    setArguments (s.arguments.drop n)
    return 0

/-! ### Input -/

/-- The characters of a line up to its end, how many bytes it takes, and whether its end was
found. Unless the line is raw, a backslash quotes the character after it, and one at the end of
the line joins it to the next one. -/
def readLine (raw : Bool) : List Char → Nat → List Atom × Nat × Bool
  | [], n => ([], n, false)
  | '\n' :: _, n => ([], n + 1, true)
  | '\x00' :: cs, n => readLine raw cs (n + 1)
  | '\\' :: cs, n =>
    if raw then
      let (atoms, n, ended) := readLine raw cs (n + 1)
      (.char '\\' false :: atoms, n, ended)
    else
      match cs with
      | [] => ([], n + 1, false)
      | '\n' :: cs => readLine raw cs (n + 2)
      | c :: cs =>
        let (atoms, n, ended) := readLine raw cs (n + 2)
        (.char c true :: atoms, n, ended)
  | c :: cs, n =>
    let (atoms, n, ended) := readLine raw cs (n + 1)
    (.char c false :: atoms, n, ended)

/-- The spans of a line: what is quoted is not split. -/
def lineSpans : List Atom → List Span
  | [] => []
  | a :: rest =>
    let splitting : Splitting := match a with
      | .char _ true => .whole
      | _ => .fields
    match lineSpans rest with
    | s :: spans =>
      if s.splitting = splitting then { s with atoms := a :: s.atoms } :: spans
      else ⟨splitting, false, [a]⟩ :: s :: spans
    | [] => [⟨splitting, false, [a]⟩]

/-- Gives variables the fields of a line in order; those that get none become empty. -/
def assignFields : List Octets → List (List Atom) → Act Unit
  | [], _ => return ()
  | name :: names, fields => do
    assign name (Atom.text (fields.head?.getD []))
    assignFields names (fields.drop 1)

/-- Reads a line into variables. The last one gets what is left of the line. -/
def read (arguments : List Octets) : Act Nat := do
  let (given, names) ← options "p:r" arguments
  if names.isEmpty then fail "arg count"
  let s ← get
  let content := match s.toRunning.waiting 0 with
    | .ok b => (Octets.ofBytes b).toList
    | .error _ => []
  let (atoms, count, ended) := readLine (given.any (·.1 = 'r')) content 0
  set { s with toRunning := s.toRunning.consume 0 count }
  let separators := s.separators?.getD Session.defaultSeparators
  assignFields names (Fields.split separators (some names.length) (lineSpans atoms))
  return if ended then 0 else 1

/-! ### Options of scripts -/

/-- What came of looking for an option. -/
structure OptionFound where
  /-- What the variable gets. -/
  letter : Char
  /-- The argument of the option; none means that the variable for it is unset. -/
  argument : Option Octets
  complaint : Option Octets
  progress : OptionProgress
  ended : Bool

/-- The next option of arguments. `place` is how far the argument before the next one was read. -/
def nextOption (known : List Char) (arguments : List Octets) (p : OptionProgress) : OptionFound :=
  let silent := known.head? = some ':'
  let before := arguments[p.next - 2]?
  let left := match p.offset, before with
    | some n, some a => if 2 ≤ p.next then a.toList.drop n else []
    | _, _ => []
  let stop := fun (next : Nat) => OptionFound.mk '?' none none ⟨next, none⟩ true
  let go := fun (c : Char) (cs : List Char) (next : Nat) (offset : Nat) =>
    let after := (known.dropWhile (· ≠ c)).drop 1
    let place : OptionProgress := ⟨next, if cs.isEmpty then none else some offset⟩
    if c = ':' || !known.contains c then
      if silent then OptionFound.mk '?' (some (String.singleton c)) none place false
      else OptionFound.mk '?' none (some ("Illegal option -" ++ String.singleton c)) place false
    else if after.head? = some ':' then
      if !cs.isEmpty then OptionFound.mk c (some (String.ofList cs)) none ⟨next, none⟩ false
      else
        match arguments[next - 1]? with
        | some value => OptionFound.mk c (some value) none ⟨next + 1, none⟩ false
        | none =>
          if silent then OptionFound.mk ':' (some (String.singleton c)) none ⟨next, none⟩ false
          else
            OptionFound.mk '?' none (some ("No arg for -" ++ String.singleton c ++ " option"))
              ⟨next, none⟩ false
    else OptionFound.mk c (some "") none place false
  match left with
  | c :: cs => go c cs p.next ((p.offset.getD 0) + 1)
  | [] =>
    match arguments[p.next - 1]? with
    | none => stop p.next
    | some a =>
      match a.toList with
      | ['-', '-'] => stop (p.next + 1)
      | '-' :: c :: cs => go c cs (p.next + 1) 2
      | _ => stop p.next

/-- Looks for the next option among arguments. -/
def getopts (arguments : List Octets) : Act Nat := do
  match arguments with
  | known :: name :: rest =>
    let s ← get
    let scanned := if rest.isEmpty then s.arguments else rest
    let f := nextOption known.toList scanned s.optionProgress
    f.complaint.forM fun words => complain (words ++ "\n")
    if !f.ended then
      match f.argument with
      | some a => assign "OPTARG" a
      | none => unset "OPTARG"
    assign "OPTIND" (toString f.progress.next)
    assign name (String.singleton f.letter)
    modify fun s => { s with optionProgress := f.progress }
    return if f.ended then 1 else 0
  | _ => fail "Usage: getopts optstring var [arg...]"

end ScriptHost.Shell.Builtin
