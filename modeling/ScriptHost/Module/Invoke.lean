import ScriptHost.Module.Slot
import ScriptHost.Report
import ScriptHost.Request

/-!
# One execution

Runs one request on the loaded module: an instance is made for it, given the configuration
if there is one, called, asked for its status, and destroyed. Every line logged between the
first and the last of these belongs to the request.

## Main definitions

* `Native.invoke` — one execution.
* `Native.invoking` — the same, entry by entry.

## Early ends

* With no module loaded, or a source of `2 ^ 32` bytes or more, no entry is made.
* If the module hands back no instance, nothing follows.
* If the module answers a configuration with a status other than zero, the source is not run
  and that status is the outcome. The instance is destroyed all the same.
-/

namespace ScriptHost

namespace Native

variable {W : Type}

/-- What a source of `2 ^ 32` bytes or more is answered with. -/
def tooLarge (size : Nat) : Failure :=
  .userCode .preprocessingFailed ("source is too large (" ++ toString size ++ " bytes)")

/-- Makes an instance with a bound on its runtime. -/
def enterCreate (m : LoadedModule W) (maxRuntime : Number.Single) (n : Native W) :
    (List Record × Option Instance) × Native W :=
  let (answer, world) := m.entry.create maxRuntime n.world
  (answer, { n with world := world }.note (.create m.handle maxRuntime answer.1 answer.2))

/-- Gives an instance its configuration. -/
def enterLoadConfig (m : LoadedModule W) (i : Instance) (config : Bytes) (n : Native W) :
    (List Record × Int32) × Native W :=
  let length := UInt32.ofNat config.length
  let (answer, world) := m.entry.loadConfig i config length n.world
  (answer, { n with world := world }.note
    (.loadConfig m.handle i config length answer.1 answer.2))

/-- Runs the source of a request on an instance. -/
def enterCall (m : LoadedModule W) (i : Instance) (request : Request) (n : Native W) :
    (List Record × Int32) × Native W :=
  let code := Utf8.encode request.source
  let arguments : CallArguments := ⟨none, request.tag.byte, code, UInt32.ofNat code.length⟩
  let (answer, world) := m.entry.call i arguments n.world
  (answer, { n with world := world }.note (.call m.handle i arguments answer.1 answer.2))

/-- Asks an instance for its status. -/
def enterStatus (m : LoadedModule W) (i : Instance) (n : Native W) :
    (List Record × Int32) × Native W :=
  let (answer, world) := m.entry.status i n.world
  (answer, { n with world := world }.note (.status m.handle i answer.1 answer.2))

/-- Destroys an instance. -/
def enterDestroy (m : LoadedModule W) (i : Instance) (n : Native W) : List Record × Native W :=
  let (records, world) := m.entry.destroy i n.world
  (records, { n with world := world }.note (.destroy m.handle i records))

/-- Runs the source of a request and asks for the status, whose answer is not used. -/
def runSource (m : LoadedModule W) (i : Instance) (request : Request) (n : Native W) :
    (List Record × Int32) × Native W :=
  let (called, n) := n.enterCall m i request
  let (asked, n) := n.enterStatus m i
  ((called.1 ++ asked.1, called.2), n)

/-- What happens on an instance between its making and its destruction. -/
def useInstance (m : LoadedModule W) (i : Instance) (request : Request) (config : Option Bytes)
    (n : Native W) : (List Record × Int32) × Native W :=
  match config with
  | none => n.runSource m i request
  | some config =>
    let (configured, n) := n.enterLoadConfig m i config
    if configured.2 = 0 then
      let (ran, n) := n.runSource m i request
      ((configured.1 ++ ran.1, ran.2), n)
    else (configured, n)

/-- Runs a request on a module. -/
def runOn (m : LoadedModule W) (request : Request) (config : Option Bytes) (n : Native W) :
    Except Failure Invocation × Native W :=
  let ((created, made), n) := n.enterCreate m request.timeout.toSingle
  match made with
  | none => (.error .instanceCreation, n)
  | some i =>
    let (used, n) := n.useInstance m i request config
    let (destroyed, n) := n.enterDestroy m i
    (.ok ⟨Record.lines (created ++ used.1 ++ destroyed), used.2⟩, n)

/-- Runs a request on the loaded module. -/
def invoke (request : Request) (config : Option Bytes) (n : Native W) :
    Except Failure Invocation × Native W :=
  match n.slot.loaded with
  | none => (.error .notReady, n)
  | some m =>
    let size := request.source.utf8ByteSize
    if UInt32.size ≤ size then (.error (tooLarge size), n)
    else n.runOn m request config

/-! ### Entry by entry -/

/-- Runs the source of a request and asks for the status. -/
def runningSource (m : LoadedModule W) (i : Instance) (request : Request) :
    Work (Native W) (List Record × Int32) := do
  let called ← .ask (enterCall m i request)
  let asked ← .ask (enterStatus m i)
  return (called.1 ++ asked.1, called.2)

/-- What happens on an instance between its making and its destruction. -/
def usingInstance (m : LoadedModule W) (i : Instance) (request : Request)
    (config : Option Bytes) : Work (Native W) (List Record × Int32) :=
  match config with
  | none => runningSource m i request
  | some config => do
    let configured ← .ask (enterLoadConfig m i config)
    if configured.2 = 0 then
      let ran ← runningSource m i request
      return (configured.1 ++ ran.1, ran.2)
    else return configured

/-- Runs a request on a module. -/
def runningOn (m : LoadedModule W) (request : Request) (config : Option Bytes) :
    Work (Native W) Invocation := do
  let (created, made) ← .ask (enterCreate m request.timeout.toSingle)
  match made with
  | none => .fail .instanceCreation
  | some i =>
    let used ← usingInstance m i request config
    let destroyed ← .ask (enterDestroy m i)
    return ⟨Record.lines (created ++ used.1 ++ destroyed), used.2⟩

/-- Runs a request on the module that is loaded when it begins. -/
def invoking (request : Request) (config : Option Bytes) : Work (Native W) Invocation := do
  match ← .look fun n => n.slot.loaded with
  | none => .fail .notReady
  | some m =>
    let size := request.source.utf8ByteSize
    if UInt32.size ≤ size then .fail (tooLarge size)
    else runningOn m request config

/-! ### In one go -/

/-- Running a source act by act comes to what it does in one go. -/
theorem run_runningSource (m : LoadedModule W) (i : Instance) (request : Request) (n : Native W) :
    (runningSource m i request).run n
      = (.ok (n.runSource m i request).1, (n.runSource m i request).2) := rfl

/-- So does using an instance. -/
theorem run_usingInstance (m : LoadedModule W) (i : Instance) (request : Request)
    (config : Option Bytes) (n : Native W) :
    (usingInstance m i request config).run n
      = (.ok (n.useInstance m i request config).1, (n.useInstance m i request config).2) := by
  cases config with
  | none => exact run_runningSource m i request n
  | some config =>
      have hconfigured : (Work.ask (enterLoadConfig m i config)).run n
        = (.ok (n.enterLoadConfig m i config).1, (n.enterLoadConfig m i config).2) := rfl
      rw [usingInstance, Work.run_bind_ok hconfigured]
      by_cases hstatus : (n.enterLoadConfig m i config).1.2 = 0
      · rw [if_pos hstatus, Work.run_bind_ok (run_runningSource m i request _)]
        simp [useInstance, hstatus, pure, Work.run]
      · simp [useInstance, hstatus, pure, Work.run]

/-- So does all that is done with a module. -/
theorem run_runningOn (m : LoadedModule W) (request : Request) (config : Option Bytes)
    (n : Native W) :
    (runningOn m request config).run n
      = (.ofExcept (n.runOn m request config).1, (n.runOn m request config).2) := by
  have hcreated : (Work.ask (enterCreate m request.timeout.toSingle)).run n
    = (.ok (n.enterCreate m request.timeout.toSingle).1,
      (n.enterCreate m request.timeout.toSingle).2) := rfl
  rw [runningOn, Work.run_bind_ok hcreated, runOn]
  rcases n.enterCreate m request.timeout.toSingle with ⟨⟨created, - | i⟩, n'⟩
  · rfl
  · dsimp only
    rw [Work.run_bind_ok (run_usingInstance m i request config n')]
    rfl

/-- In one go, the acts of an execution are the execution. -/
theorem run_invoking (request : Request) (config : Option Bytes) (n : Native W) :
    (invoking request config).run n
      = (.ofExcept (n.invoke request config).1, (n.invoke request config).2) := by
  have hlooked : (Work.look fun n : Native W => n.slot.loaded).run n = (.ok n.slot.loaded, n) := rfl
  rw [invoking, Work.run_bind_ok hlooked, invoke]
  cases n.slot.loaded with
  | none => rfl
  | some m =>
      dsimp only
      split
      · rfl
      · exact run_runningOn m request config n

end Native

end ScriptHost
