import ScriptHost.Shell.Execution

/-!
# The shell as a program

A shell takes its script from an argument, from a file, or from its standard input.

## Main definitions

* `Session.begin` — a session before its first command.
* `shell` — the shell.
-/

namespace ScriptHost.Shell

/-! ### Beginning -/

/-- The variable and the value that an entry of an environment gives to a shell, unless its name is
none for a shell. -/
def imported? (entry : Octets) : Option (String × Octets) :=
  let (name, value) := Builtin.splitAssignment entry
  match value with
  | some value => if isName name then some (name, value) else none
  | none => none

/-- The variables of a shell before it looks at its environment. -/
def firstVariables : List Variable :=
  let own := fun (name : String) (value : Octets) => Variable.mk name (some value) false false
  [own "PATH" Session.defaultPath, own "PS1" "# ", own "PS2" "> ", own "PS4" "+ "]

/-- The path of the working directory. What the environment says about it counts if it is true. -/
def Running.firstWorkingPath (r : Running) (said : Option Octets) : Octets :=
  match said with
  | some path =>
    match r.lookUp path with
    | .ok (l, _) => if path.toList.head? = some '/' && l = r.cwd then path else pathOf r.cwd
    | .error _ => pathOf r.cwd
  | none => pathOf r.cwd

/-- The session with the value of a variable, which may have properties already. -/
def Session.giveValue (s : Session) (exported : Bool) (name : String) (value : Octets) : Session :=
  let old := (s.binding? name).getD ⟨name, none, false, false⟩
  s.putVariable { old with value := some value, exported := old.exported || exported }

/-- A session before its first command. -/
def Session.begin (r : Running) : Session :=
  let s : Session := {
    toRunning := r
    shownProcess := r.process
    workingPath := ""
    bindings := firstVariables
    scopes := [], functions := [], aliases := [], traps := [], options := []
    status := 0, substituted := 0, line := 0, reached := 0, command := none
    loops := 0, skip := .nothing, savedStatus := none
    documents := [], nextDocument := 0
    jobs := [], background := none
    optionProgress := ⟨1, none⟩
    found := [] }
  let s := (r.environment.filterMap imported?).foldl (fun s v => s.giveValue true v.1 v.2) s
  let s := s.giveValue false "IFS" (String.ofList Session.defaultSeparators)
  let s := s.giveValue false "OPTIND" "1"
  let s := s.giveValue false "PPID" (toString r.parent)
  let path := r.firstWorkingPath (s.value? "PWD")
  { s.giveValue true "PWD" path with workingPath := path }

/-! ### Arguments -/

/-- What the arguments of a shell ask for: a script that is an argument, or not; and the arguments
after the options. -/
structure Invocation where
  takesText : Bool
  rest : List Octets

/-- The letters of an argument with options. -/
def invocationLetters (on : Bool) : List Char → Invocation → Act Invocation
  | [], i => return i
  | 'c' :: cs, i => invocationLetters on cs { i with takesText := true }
  | 'l' :: cs, i => invocationLetters on cs i
  | c :: cs, i => do
    let rest ← Builtin.setLetters on [c] i.rest
    invocationLetters on cs { i with rest := rest }

/-- What the arguments of a shell ask for. -/
def invocation : Nat → Invocation → Act Invocation
  | 0, i => return i
  | fuel + 1, i => do
    match i.rest with
    | [] => return i
    | a :: rest =>
      match a.toList with
      | ['-'] | ['-', '-'] => return { i with rest := rest }
      | '-' :: cs => invocation fuel (← invocationLetters true cs { i with rest := rest })
      | '+' :: cs => invocation fuel (← invocationLetters false cs { i with rest := rest })
      | _ => return i

/-! ### Scripts -/

/-- Runs a script from the standard input. -/
def runInput (e : Engine) : Act Nat := do
  let s ← get
  match s.toRunning.readAll 0 with
  | .ok (content, r) =>
    set { s with toRunning := r }
    runFile e (Octets.ofBytes content)
  | .error _ => return 0

/-- Runs a script in a file, whose path is the name of the shell then. -/
def runPath (e : Engine) (path : Octets) (arguments : List Octets) : Act Nat := do
  let s ← get
  match s.toRunning.openToRead path with
  | .error problem => fail (openRefusal path false problem)
  | .ok (channel, r) =>
    let text := match r.kernel.waiting channel with
      | .ok b => Octets.ofBytes b
      | .error _ => ""
    let kernel := r.kernel.consume channel text.length
    set { s with toRunning := { r with kernel := kernel, name := path, arguments := arguments } }
    runFile e text

/-- What a shell does with its arguments. -/
def runInvocation (e : Engine) (arguments : List Octets) : Act Nat := do
  let i ← invocation (arguments.length + 1) ⟨false, arguments⟩
  let readsInput := (← get).has "stdin"
  let give := fun (name : Option Octets) (arguments : List Octets) =>
    modify fun (s : Session) =>
      { s with toRunning := { s.toRunning with
        name := name.getD s.name, arguments := arguments } }
  if i.takesText then
    match i.rest with
    | [] => fail "-c requires an argument"
    | text :: rest =>
      give rest.head? (rest.drop 1)
      let status ← runText e { last := !readsInput } text
      if readsInput then runInput e else return status
  else
    match i.rest with
    | path :: rest =>
      if readsInput then
        give none i.rest
        runInput e
      else runPath e path rest
    | [] =>
      give none []
      modify fun s => { s with options := "stdin" :: s.options.filter (· ≠ "stdin") }
      runInput e

/-- The shell. -/
def shell (e : Engine) (r : Running) : Ending × Kernel :=
  finish e (runInvocation e r.arguments) (.begin r)

end ScriptHost.Shell
