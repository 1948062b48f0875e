import ScriptHost.Shell.Builtin

/-!
# Carrying out scripts

A script is carried out command by command. Loops, functions and files may be left early;
then the commands that follow are passed over until their end is reached. Where the option
for it is on, a command that fails ends the shell, unless its status is looked at.

## Main definitions

* `Words.peel` — the command that the words of a simple command name.
* `runSimple` — carries out a simple command.
* `Script.execute` — carries out a script.

## Simple commands

The words are expanded first, then the redirections and the assignments. A function comes
before a command of the shell, and that before a program. The assignments of a special
command of the shell, and those without a command, stay; others are undone afterwards.
-/

namespace ScriptHost.Shell

/-! ### Words -/

/-- The fields of the first word that has any, and the words after it. -/
def firstFields (outputOf : OutputOf) : List Word → Act (List Octets × List Word)
  | [] => return ([], [])
  | w :: rest => do
    match ← fieldsOf outputOf w with
    | [] => firstFields outputOf rest
    | fields => return (fields, rest)

/-- The words of a command while it is found out what the command is. -/
structure Words where
  /-- Words in front that are passed over if a command follows. -/
  passed : List Octets
  /-- The words after them that are expanded. -/
  fields : List Octets
  rest : List Word
  /-- No function is meant. -/
  plain : Bool
  /-- The search path that is used in place of the one of the shell. -/
  path : Option Octets

namespace Words

/-- Words of which none are expanded. -/
def ofRest (rest : List Word) : Words := ⟨[], [], rest, false, none⟩

/-- The words with at least one that is expanded, if there is one. -/
def expanded (outputOf : OutputOf) (w : Words) : Act Words := do
  if !w.fields.isEmpty then return w
  else
    let (fields, rest) ← firstFields outputOf w.rest
    return { w with fields := fields, rest := rest }

/-- The words after the first one is passed over. -/
def pass (w : Words) : Words :=
  { w with passed := w.passed ++ w.fields.take 1, fields := w.fields.drop 1 }

/-- Passes over the options of `command` that say where to look for a program. Says whether a
command follows, and not a wish for a description. -/
def passOptions (outputOf : OutputOf) : Nat → Words → Act (Words × Bool)
  | 0, w => return (w, false)
  | fuel + 1, w => do
    let w ← w.expanded outputOf
    match w.fields with
    | [] => return (w, false)
    | option :: _ =>
      match option.toList with
      | ['-', '-'] =>
        let w ← w.pass.expanded outputOf
        return (w, !w.fields.isEmpty)
      | '-' :: c :: cs =>
        if (c :: cs).all (· = 'p') then
          passOptions outputOf fuel { w.pass with path := some Session.defaultPath }
        else return (w, false)
      | _ => return (w, true)

/-- The words from the command on that is meant: `command` in front of others only says that they
name no function. -/
def peel (outputOf : OutputOf) : Nat → Words → Act Words
  | 0, w => return w
  | fuel + 1, w => do
    let isFunction := !w.plain && (← get).functions.any fun f => some f.1 = w.fields.head?
    if w.fields.head? = some "command" && !isFunction then
      let (next, found) ← passOptions outputOf fuel w.pass
      if found then peel outputOf fuel { next with passed := [], plain := true }
      else return { next with passed := [], fields := next.passed ++ next.fields }
    else return w

/-- More words than are looked at in front of a command. -/
def maxPassed : Nat := 4096

end Words

/-- The fields of a word, which may be an assignment if that is wanted. -/
def argumentsOf (outputOf : OutputOf) (assigning : Bool) (w : Word) : Act (List Octets) := do
  if assigning && (Word.assignment? w).isSome then return [← assignmentOf outputOf w]
  else fieldsOf outputOf w

/-! ### Simple commands -/

/-- What the name of a command means. -/
inductive Meaning where
  | function (f : Function)
  /-- The command that replaces the shell, or changes its streams. -/
  | exec
  /-- A command of the shell. -/
  | builtin (run : List Octets → Act Nat)
  | program

/-- What a name means as a command. -/
def meaningOf (e : Engine) (m : Manner) (s : Session) (plain : Bool) (name : Octets) : Meaning :=
  match if plain then none else s.functions.lookup name with
  | some f => .function f
  | none =>
    if name = "exec" then .exec
    else
      match builtin? e m name with
      | some run => .builtin run
      | none => .program

/-- Calls a function. Its arguments are those of the shell as long as it runs. -/
def callFunction (e : Engine) (m : Manner) (f : Function) (arguments : List Octets) : Act Nat := do
  let old ← get
  set { old with arguments := arguments, optionProgress := ⟨1, none⟩, loops := 0 }
  let _ ← ensuring (e.execute f.body { tested := m.tested }) fun s => { s with
    arguments := old.arguments, optionProgress := old.optionProgress, loops := old.loops }
  modify (·.returned)
  return (← get).status

/-- Carries out a command of the shell, which messages name meanwhile. -/
def runNamed (name : Octets) (isSpecial : Bool) (act : Act Nat) : Act Nat := do
  let old := (← get).command
  modify fun s => { s with command := some name }
  let act := ensuring act fun s => { s with command := old }
  if isSpecial then act else caught act

/-- Carries out a command with its arguments. -/
def runMeaning (e : Engine) (m : Manner) (isSpecial : Bool) (path : Option Octets) (name : Octets)
    (arguments : List Octets) : Meaning → Act Nat
  | .function f => callFunction e m f arguments
  | .exec =>
    runNamed name isSpecial
      (match arguments with
      | [] => return 0
      | program :: arguments => become e program arguments)
  | .builtin run => runNamed name isSpecial (run arguments)
  | .program => do
    if name.contains '/' then runProgram e m name arguments []
    else
      match ← findProgram path name with
      | some paths => runProgram e m name arguments paths
      | none => return 127

/-- Makes assignments, for a scope or for good. The answer is how they are shown. -/
def assignWords (outputOf : OutputOf) (isLocal exports : Bool) (ws : List Word) :
    Act (List Octets) :=
  ws.mapM fun w => do
    let text ← assignmentOf outputOf w
    let (name, value) := Builtin.splitAssignment text
    if isLocal then keep name
    setVariable name value (isLocal || exports) false
    return text

/-- What stands in front of a command that is shown before it is carried out. -/
def traceLead (outputOf : OutputOf) : Act Octets := do
  let s ← get
  let text := ((s.value? "PS4").getD "").toList
  match Script.wholeText.run (.ofText text) with
  | .ok (w, _) => documentOf outputOf w
  | .error _ => return String.ofList text

/-- Shows a command before it is carried out, if that is wanted. -/
def trace (outputOf : OutputOf) (channel : Option Nat) (texts : List Octets) : Act Unit := do
  if (← get).has "xtrace" then
    let line := (← traceLead outputOf) ++ " ".intercalate texts ++ "\n"
    modify fun s =>
      match channel.map fun c => s.kernel.write c (Octets.toBytes line) with
      | some (.ok kernel) => { s with kernel := kernel }
      | _ => s

/-- Carries out a simple command. -/
def runSimple (e : Engine) (m : Manner) (line : Nat) (assignments words : List Word)
    (redirects : List Redirect) : Act Nat := do
  let out := outputOf e
  modify fun s => { s with line := line, substituted := 0 }
  let start ← (Words.ofRest words).expanded out
  let isSpecial := start.fields.head?.any specialCommands.contains
  let w ← start.peel out Words.maxPassed
  let s ← get
  let meaning := w.fields.head?.map fun name => meaningOf e m s w.plain name
  let isExec := match meaning with
    | some .exec => true
    | _ => false
  let assigning := match meaning with
    | some (.builtin _) => w.fields.head?.any assigningCommands.contains
    | _ => false
  let fields := w.fields ++ (← w.rest.mapM (argumentsOf out assigning)).flatten
  let redirects ← ready out redirects
  let errors := (← get).toRunning.channel? 2
  let refused : Act Nat := if isSpecial then giveUp 2 else return 2
  let stays := isSpecial || fields.isEmpty
  let run : Act Nat := do
    let shown ← assignWords out (!stays) (isExec && 1 < fields.length) assignments
    trace out errors (shown ++ fields)
    match meaning, fields with
    | some meaning, name :: arguments => runMeaning e m isSpecial w.path name arguments meaning
    | _, _ => return (← get).substituted
  if isExec then
    let status ← caught do
      redirect out redirects
      return 0
    if status = 0 then run else refused
  else redirected out redirects (if stays then run else inScope run) refused

/-! ### Loops -/

/-- The end of a turn of a loop. What is passed over for this loop is so no more, and the answer
tells what that was; loops around it may go on to be left. -/
def endTurn : Act Skip := do
  let s ← get
  match s.skip with
  | .break n =>
    set { s with skip := if n ≤ 1 then .nothing else .break (n - 1) }
    return .break 1
  | .continue n =>
    if n ≤ 1 then
      set { s with skip := .nothing }
      return .continue 1
    else
      set { s with skip := .continue (n - 1) }
      return .break 1
  | skip => return skip

/-- A loop goes on after a turn. -/
def Skip.goesOn : Skip → Bool
  | .nothing | .continue _ => true
  | _ => false

/-- Does something as one more loop. -/
def inLoop (act : Act Nat) : Act Nat := do
  modify fun s => { s with loops := s.loops + 1 }
  let status ← act
  modify fun s => { s with loops := s.loops - 1 }
  return status

/-- A turn for each value of a variable. -/
def eachTurn (name : String) (body : Act Nat) : List Octets → Nat → Act Nat
  | [], status => return status
  | value :: rest, _ => do
    assign name value
    let status ← body
    if (← endTurn).goesOn then eachTurn name body rest status else return status

/-- Turns as long as a condition succeeds, or fails if inverted. -/
def turns (inverted : Bool) (condition body : Act Nat) : Nat → Nat → Act Nat
  | 0, _ => throw (.gone (.killed 9))
  | fuel + 1, status => do
    let tested ← condition
    match ← endTurn with
    | .nothing =>
      if (tested = 0) = inverted then return status
      else
        let status ← body
        if (← endTurn).goesOn then turns inverted condition body fuel status else return status
    | .continue _ => turns inverted condition body fuel status
    | .return => return tested
    | _ => return status

/-- More turns than any loop takes. -/
def maxTurns : Nat := 1000000000

/-! ### Processes -/

/-- Carries out a part of a script in a process of its own. If nothing follows, this process is as
good as another. -/
def runSubshell (e : Engine) (m : Manner) (redirects : List ReadyRedirect) (body : Act Nat) :
    Act Nat := do
  let act : Act Nat := do
    redirect (outputOf e) redirects
    body
  if m.last && !(← get).hasTraps then
    let status ← act
    modify fun s => { s with status := status }
    throw .over
  else
    let ending ← inChild e id act
    awaited ending

/-- Starts a part of a script in a process of its own that reads nothing and that nobody waits
for. -/
def runBackground (e : Engine) (redirects : List ReadyRedirect) (body : Act Nat) : Act Nat := do
  let number ← newProcess
  let s ← get
  let act : Act Nat := do
    redirect (outputOf e) redirects
    body
  let child := s.forked number
  let (input, kernel) := child.kernel.addChannel ⟨.device .null, .reading⟩
  let child := { child with toRunning := child.toRunning.setStream 0 (some input) }
  let job : Job := ⟨number, .waiting fun kernel => finish e act { child with kernel := kernel }⟩
  set { s with kernel := kernel, jobs := s.jobs ++ [job], background := some number }
  return 0

/-- A process of a pipeline. -/
def runStage (e : Engine) (reader writer : Option Nat) (body : Act Nat) : Act Ending :=
  inChild e
    (fun s =>
      let r := match reader with
        | some c => s.toRunning.setStream 0 (some c)
        | none => s.toRunning
      { s with toRunning := match writer with
        | some c => r.setStream 1 (some c)
        | none => r })
    body

/-- A new buffer between two processes of a pipeline. -/
def newBuffer : Act (Nat × Nat) := do
  let s ← get
  let (reader, writer, kernel) := s.kernel.addBuffer []
  set { s with kernel := kernel }
  return (reader, writer)

/-! ### Scripts -/

/-- Carries out a command between looking after signals, and ends the shell if the command fails
where that is wanted. Without an answer the status stays what it is. -/
def guarded (e : Engine) (m : Manner) (isChecked : Bool) (act : Act (Option Nat)) : Act Nat := do
  if (← get).has "noexec" then return (← get).status
  else
    heedSignals e
    let exits := isChecked && !m.tested && (← get).has "errexit"
    let answer ← act
    modify fun s => { s with status := answer.getD s.status }
    heedSignals e
    if exits && answer ≠ some 0 then
      modify fun s => { s with savedStatus := none }
      throw .over
    else return (← get).status

/-- The command that messages are about begins on a line. -/
def atLine (line : Nat) : Act Unit :=
  modify fun s => { s with line := line }

mutual

/-- Carries out a script. -/
def Script.execute (e : Engine) : Script → Manner → Act Nat
  | .nothing, _ => return (← get).status
  | .simple line assignments words redirects, m =>
    guarded e m true do
      return some (← runSimple e m line assignments words redirects)
  | .redirected line body redirects, m =>
    let inner := body.execute e { tested := m.tested }
    guarded e m false do
      atLine line
      let redirects ← ready (outputOf e) redirects
      return some (← redirected (outputOf e) redirects inner (return 2))
  | .subshell line body redirects, m =>
    let inner := body.execute e { m with last := true }
    guarded e m true do
      atLine line
      let redirects ← ready (outputOf e) redirects
      return some (← runSubshell e m redirects inner)
  | .background line body redirects, m =>
    let inner := body.execute e { last := true }
    guarded e m true do
      atLine line
      let redirects ← ready (outputOf e) redirects
      return some (← runBackground e redirects inner)
  | .pipeline first rest, m =>
    let inner := first.execute e { m with last := true }
    let later := rest.execute e m
    guarded e m true do
      let (reader, writer) ← newBuffer
      let ending ← runStage e none (some writer) inner
      let endings ← later reader
      return some (← (ending :: endings).foldlM (fun _ ending => awaited ending) 0)
  | .negated body, m =>
    let inner := body.execute e { tested := true }
    guarded e m false do
      return some (if (← inner) = 0 then 1 else 0)
  | .sequence first second, m =>
    let one := first.execute e { tested := m.tested }
    let two := second.execute e m
    guarded e m false do
      let _ ← one
      if (← get).isOnCourse then return some (← two) else return none
  | .both first second, m =>
    let one := first.execute e { tested := true }
    let two := second.execute e m
    guarded e m false do
      let status ← one
      if status = 0 && (← get).isOnCourse then return some (← two) else return none
  | .either first second, m =>
    let one := first.execute e { tested := true }
    let two := second.execute e m
    guarded e m false do
      let status ← one
      if status ≠ 0 && (← get).isOnCourse then return some (← two) else return none
  | .conditional condition yes no, m =>
    let test := condition.execute e { tested := true }
    let one := yes.execute e m
    let two := no.execute e m
    let isEmpty := match no with
      | .nothing => true
      | _ => false
    guarded e m false do
      let status ← test
      if !(← get).isOnCourse then return none
      else if status = 0 then return some (← one)
      else if isEmpty then return some 0
      else return some (← two)
  | .loop inverted condition body, m =>
    let test := condition.execute e { tested := true }
    let inner := body.execute e { tested := m.tested }
    guarded e m false do
      return some (← inLoop (turns inverted test inner maxTurns 0))
  | .each line name words body, m =>
    let inner := body.execute e { tested := m.tested }
    guarded e m false do
      atLine line
      let fields ← words.mapM (fieldsOf (outputOf e))
      return some (← inLoop (eachTurn name inner fields.flatten 0))
  | .choice line subject arms, m =>
    let chosen := arms.execute e m
    guarded e m false do
      atLine line
      let text ← textOf (outputOf e) subject
      return some (← chosen text.toList)
  | .function name line body, m =>
    guarded e m false do
      modify fun s => { s with
        functions := (name, ⟨line, body⟩) :: s.functions.filter (·.1 ≠ name) }
      return some 0

/-- Carries out the later commands of a pipeline, of which the first one reads from a channel. The
answer is how each of them ended. -/
def Stages.execute (e : Engine) : Stages → Manner → Nat → Act (List Ending)
  | .last body, m, reader => do
    let inner := body.execute e { m with last := true }
    return [← runStage e (some reader) none inner]
  | .next body rest, m, reader => do
    let inner := body.execute e { m with last := true }
    let later := rest.execute e m
    let (next, writer) ← newBuffer
    let ending ← runStage e (some reader) (some writer) inner
    return ending :: (← later next)

/-- Carries out the first arm that has a pattern for a text. -/
def Arms.execute (e : Engine) : Arms → Manner → List Char → Act Nat
  | .none, _, _ => return 0
  | .arm patterns body rest, m, text => do
    let inner := body.execute e m
    let later := rest.execute e m
    let fits ← patterns.anyM fun p => do
      return Glob.accepts (← patternOf (outputOf e) p) text
    if !fits then later text
    else
      match body with
      | .nothing => return 0
      | _ => inner

end

end ScriptHost.Shell
