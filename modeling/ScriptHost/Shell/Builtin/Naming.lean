import ScriptHost.Shell.Builtin.Variables
import ScriptHost.Shell.Search

/-!
# What names mean

The commands of the shell that tell what a name stands for, and that make names stand for
texts.
-/

namespace ScriptHost.Shell.Builtin

/-- The commands that the shell carries out itself, beyond the special ones. -/
def ordinaryCommands : List String :=
  ["[", "alias", "bg", "cd", "chdir", "command", "echo", "false", "fg", "getopts", "hash", "jobs",
    "kill", "printf", "pwd", "read", "test", "true", "type", "ulimit", "umask", "unalias", "wait"]

/-! ### Tables by names -/

/-- The place of a name in a table with so many rows. -/
def row (rows : Nat) (name : Octets) : Nat :=
  let codes := name.toList.map Char.toNat
  codes.foldl (· + ·) (16 * codes.head?.getD 0) % rows

/-- Entries row by row, in each row as they came. -/
def byRow {α : Type} (rows : Nat) (entries : List (String × α)) : List (String × α) :=
  entries.mergeSort fun a b => row rows a.1 ≤ row rows b.1

/-! ### Aliases -/

/-- An alias as it is listed. -/
def aliasLine (a : String × String) : Octets :=
  a.1 ++ "=" ++ quote a.2 ++ "\n"

/-- The rows of the table of aliases. -/
def aliasRows : Nat := 39

/-- Sets an alias. -/
def setAlias (name text : Octets) : Act Unit :=
  modify fun s => { s with
    aliases :=
      if s.aliases.any (·.1 = name) then
        s.aliases.map fun a => if a.1 = name then (name, text) else a
      else s.aliases ++ [(name, text)] }

/-- The name and the text of an argument that sets an alias. -/
def aliasSetting? (argument : Octets) : Option (Octets × Octets) :=
  match argument.toList with
  | [] => none
  | c :: cs =>
    let name := cs.takeWhile (· ≠ '=')
    if name.length = cs.length then none
    else some (String.ofList (c :: name), String.ofList (cs.drop (name.length + 1)))

/-- Sets an alias, or lists one. -/
def aliasOne (argument : Octets) : Act Nat := do
  match aliasSetting? argument with
  | some (name, text) =>
    setAlias name text
    return 0
  | none =>
    match (← get).aliases.lookup argument with
    | some text => print (aliasLine (argument, text))
    | none =>
      complain ("alias: " ++ argument ++ " not found\n")
      return 1

/-- Sets aliases or lists them. -/
def alias_ (arguments : List Octets) : Act Nat := do
  if arguments.isEmpty then
    print (String.join ((byRow aliasRows (← get).aliases).map aliasLine))
  else
    let statuses ← arguments.mapM aliasOne
    return if statuses.all (· = 0) then 0 else 1

/-- Takes aliases away. -/
def unalias (arguments : List Octets) : Act Nat := do
  let (given, names) ← options "a" arguments
  if !given.isEmpty then
    modify fun s => { s with aliases := [] }
    return 0
  else
    let statuses ← names.mapM fun name => do
      if (← get).aliases.any (·.1 = name) then
        modify fun s => { s with aliases := s.aliases.filter (·.1 ≠ name) }
        return 0
      else
        complain ("unalias: " ++ name ++ " not found\n")
        return 1
    return if statuses.all (· = 0) then 0 else 1

/-! ### Descriptions -/

/-- The path of a program, for a description. -/
def describedPath? (s : Session) (path : Option Octets) (name : Octets) : Option Octets :=
  if name.contains '/' then (s.toRunning.entry? name).map fun _ => name
  else
    match s.programsOn (path.getD s.pathText) name with
    | .ok found => found.head?
    | .error _ => none

/-- What a name stands for, in full or as what would be used; none if it stands for nothing. -/
def description? (s : Session) (path : Option Octets) (full : Bool) (name : Octets) :
    Option Octets :=
  let shown := fun (words : Octets) => some ((if full then name ++ words else name) ++ "\n")
  if (Keyword.ofText? name).isSome then shown " is a shell keyword"
  else
    match s.aliases.lookup name with
    | some text =>
      if full then some (name ++ " is an alias for " ++ text ++ "\n")
      else some ("alias " ++ aliasLine (name, text))
    | none =>
      if s.functions.any (·.1 = name) then shown " is a shell function"
      else if specialCommands.contains name then shown " is a special shell builtin"
      else if ordinaryCommands.contains name then shown " is a shell builtin"
      else
        let tracked := if path.isNone then s.found.lookup name else none
        match tracked, describedPath? s path name with
        | some place, _ => some (if full then name ++ " is a tracked alias for " ++ place ++ "\n"
          else place ++ "\n")
        | none, some place => some (if full then name ++ " is " ++ place ++ "\n" else place ++ "\n")
        | none, none => none

/-- Tells what a name stands for. -/
def describe (path : Option Octets) (full : Bool) (name : Octets) : Act Nat := do
  match description? (← get) path full name with
  | some text => print text
  | none =>
    let _ ← print (if full then name ++ ": not found\n" else "")
    return 127

/-- Tells what names stand for. -/
def type_ (arguments : List Octets) : Act Nat := do
  let statuses ← arguments.mapM (describe none true)
  return if statuses.all (· = 0) then 0 else 127

/-- Tells what a name stands for, if an option asks for that. -/
def command (arguments : List Octets) : Act Nat := do
  let (given, names) ← options "pvV" arguments
  let has := fun (c : Char) => given.any (·.1 = c)
  match names with
  | name :: _ =>
    if has 'v' || has 'V' then
      describe (if has 'p' then some Session.defaultPath else none) (has 'V') name
    else return 0
  | [] => return 0

/-! ### Remembered programs -/

/-- The rows of the table of remembered programs. -/
def programRows : Nat := 31

/-- Looks for a program and remembers where it is. -/
def remember (name : Octets) : Act Nat := do
  let s ← get
  let isCommand := s.functions.any (·.1 = name) || specialCommands.contains name
    || ordinaryCommands.contains name
  if isCommand || name.contains '/' then return 0
  else return if (← findProgram none name).isSome then 0 else 1

/-- Lists the programs that are remembered, forgets them, or looks for some. -/
def hash (arguments : List Octets) : Act Nat := do
  let (given, names) ← options "r" arguments
  if !given.isEmpty then
    modify fun s => { s with found := [] }
    return 0
  else if names.isEmpty then
    print (String.join ((byRow programRows (← get).found).map fun f => f.2 ++ "\n"))
  else
    let statuses ← names.mapM remember
    return if statuses.all (· = 0) then 0 else 1

end ScriptHost.Shell.Builtin
