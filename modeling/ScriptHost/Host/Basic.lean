import ScriptHost.Gate.Basic
import ScriptHost.Module.Invoke
import ScriptHost.Platform

/-!
# The host

A host answers demands: to execute a source on the loaded module, to load or release a
module, to rebuild it from its sources. Any number of callers may have demands at the same
time; all that touch the module pass one gate, and rebuilds wait for each other.

The host is a machine that takes one `Event` at a time. The events are all that callers and
workers can do, and any list of them is a possible run; an event that is not possible in the
current state changes nothing.

## Main definitions

* `Demand`, `Reply` — what callers ask for and get.
* `Host` — the settings, the gate with the module behind it, and the rebuilds.
* `Host.step`, `Host.run` — one event, and a list of them.
* `Host.answer?` — what a caller has got.

## Rebuilds

A rebuild holds a lock of its own from its first announcement to its last. Its legs are done
by a worker outside the gate; only the loading of the new module passes the gate, as one
operation. A caller that goes away lets go of the lock at once, while a worker that has
begun a leg finishes it.
-/

namespace ScriptHost

/-- What a caller asks for. -/
inductive Demand where
  /-- Load the module of the settings. -/
  | start
  | load (path : Path)
  | unload
  | reload (path : Path)
  /-- Execute a source in a language, or in the default one. -/
  | execute (language : Option String) (source : String) (timeout : Option Duration)
  | executeRequest (request : Request)
  /-- Tell whether a module is loaded. -/
  | ready
  | rebuild
  /-- Pass the gate without touching the module, and end in a given way. -/
  | visit (outcome : Outcome Unit)

/-- What a caller gets. -/
inductive Reply where
  | done
  | ready (loaded : Bool)
  | report (report : Report)
  | progress (progress : Progress)
  deriving DecidableEq, Repr

namespace Host

/-- How far a rebuild has come. -/
inductive Phase where
  /-- The caller has no rebuild. -/
  | absent
  /-- The rebuild waits for another one to end. -/
  | waiting
  /-- A worker is at a leg: the deeds it still has to do, and the legs after it. -/
  | working (progress : Progress) (stage : Stage) (left : List Deed) (later : List Leg)
  /-- The worker failed at a leg and its caller does not know yet. -/
  | stopped (progress : Progress) (stage : Stage) (cause : Failure)
  /-- The new module is to be loaded. -/
  | reloading (progress : Progress)
  | ended (progress : Progress)
  /-- The caller went away, and no worker is busy for it. -/
  | abandoned
  /-- The caller went away while a worker was at a leg. -/
  | orphaned (left : List Deed)
  deriving DecidableEq, Repr

/-- What callers and workers do. -/
inductive Event where
  /-- A caller asks for the first time. -/
  | arrive (t : Ticket) (demand : Demand)
  /-- A caller looks whether it can go on. -/
  | poll (t : Ticket)
  /-- A caller goes away. -/
  | drop (t : Ticket)
  /-- The worker behind the gate does its next act. -/
  | work
  /-- The worker of a rebuild does its next deed. -/
  | advance (t : Ticket)

end Host

/-- A host and everything it works on. -/
structure Host (W : Type) where
  settings : Settings
  /-- What is passed to the module before every call. -/
  moduleConfig : Option Bytes
  platform : Platform W
  gate : Gate (Native W) Reply
  /-- Held by the rebuild that is under way. -/
  rebuilding : Lock
  phase : Ticket → Host.Phase
  /-- The demands that were refused on arrival. -/
  refused : Ticket → Option Failure
  /-- The deeds of all rebuilds, oldest first. -/
  deeds : List (Ticket × Deed)
  /-- What the caller of a rebuild was shown of its progress, oldest first. -/
  shown : Ticket → List Progress

namespace Host

variable {W : Type}

/-- A host before anybody came, with no module loaded. -/
def init (settings : Settings) (moduleConfig : Option Bytes) (platform : Platform W) (world : W) :
    Host W where
  settings := settings
  moduleConfig := moduleConfig
  platform := platform
  gate := .init (.init settings.module.path world)
  rebuilding := .free
  phase := fun _ => .absent
  refused := fun _ => none
  deeds := []
  shown := fun _ => []

/-- The module and its surroundings. -/
def native (h : Host W) : Native W :=
  h.gate.state

/-- The host with another state outside. -/
def withWorld (h : Host W) (world : W) : Host W :=
  { h with gate := { h.gate with state := { h.gate.state with world := world } } }

/-- The host with a rebuild in another phase. -/
def setPhase (h : Host W) (t : Ticket) (p : Phase) : Host W :=
  { h with phase := fun u => if u = t then p else h.phase u }

/-- The rebuild whose phase was set is in it. -/
@[simp] theorem phase_setPhase_self (h : Host W) (t : Ticket) (p : Phase) :
    (h.setPhase t p).phase t = p := by
  simp [setPhase]

/-- The other rebuilds stay where they are. -/
theorem phase_setPhase_of_ne (h : Host W) {t u : Ticket} (p : Phase) (hu : u ≠ t) :
    (h.setPhase t p).phase u = h.phase u := by
  simp [setPhase, hu]

/-- Shows a caller the progress of its rebuild. -/
def present (h : Host W) (t : Ticket) (p : Progress) : Host W :=
  { h with shown := fun u => if u = t then h.shown u ++ [p] else h.shown u }

/-! ### Operations behind the gate -/

/-- Work that has no result of its own. -/
def passing (w : Work (Native W) Unit) : Operation (Native W) Reply :=
  .work do
    w
    return .done

/-- Loads a module. -/
def loading (h : Host W) (path : Path) : Operation (Native W) Reply :=
  passing (Native.loading h.platform.load path)

/-- Swaps a module in. -/
def reloading (h : Host W) (path : Path) : Operation (Native W) Reply :=
  passing (Native.reloading h.platform.load path)

/-- Releases the module. -/
def unloading : Operation (Native W) Reply :=
  passing Native.unloading

/-- Executes a request. -/
def executing (h : Host W) (request : Request) : Operation (Native W) Reply :=
  .work do
    let i ← Native.invoking request h.moduleConfig
    return .report (Report.ofInvocation i request.tag h.settings.execution.outputBudget)

/-- Tells whether a module is loaded. -/
def asking : Operation (Native W) Reply :=
  .glance fun n => .ready n.slot.ready

/-- The request that a source stands for, with the defaults of the settings. -/
def requestFor (h : Host W) (language : Option String) (source : String)
    (timeout : Option Duration) : Except Failure Request :=
  Request.forLanguage (language.getD h.settings.execution.defaultLanguage) source
    (timeout.getD h.settings.execution.timeout)

/-- Passes an operation to the gate. -/
def submit (h : Host W) (t : Ticket) (op : Operation (Native W) Reply) : Host W :=
  { h with gate := h.gate.arrive t op }

/-! ### Rebuilds -/

/-- Announces something to the caller of a rebuild. -/
def announce (h : Host W) (t : Ticket) (p : Progress) (stage : Stage) (message : String) :
    Host W × Progress :=
  let p := p.push stage message
  (h.present t p, p)

/-- Goes on with the next leg, or with the loading of the module after the last one. -/
def proceed (h : Host W) (t : Ticket) (p : Progress) : List Leg → Host W
  | leg :: later =>
    let (h, p) := h.announce t p leg.stage leg.announcement
    h.setPhase t (.working p leg.stage leg.deeds later)
  | [] =>
    let (h, p) := h.announce t p .reload reloadAnnouncement
    (h.setPhase t (.reloading p)).submit t (h.reloading h.settings.module.path)

/-- Ends a rebuild with a progress that has an outcome. -/
def conclude (h : Host W) (t : Ticket) (p : Progress) : Host W :=
  { (h.present t p).setPhase t (.ended p) with rebuilding := h.rebuilding.withdraw t }

/-- Begins a rebuild. -/
def beginRebuild (h : Host W) (t : Ticket) : Host W :=
  h.proceed t .empty h.settings.rebuild.plan

/-- The caller of a rebuild looks at the loading of the new module. -/
def pollReload (h : Host W) (t : Ticket) (p : Progress) : Host W :=
  let h := { h with gate := h.gate.poll t }
  match h.gate.answer? t with
  | none => h
  | some (.ok _) => h.conclude t p.succeed
  | some (.error _) => h.conclude t (p.fail .reload reloadReason)

/-- The worker of a rebuild does a deed; after a failure it stops. -/
def perform (h : Host W) (t : Ticket) (deed : Deed) : Except Failure Unit × Host W :=
  let (outcome, world) := h.platform.perform h.settings.rebuild deed h.native.world
  (outcome.toExcept, { h.withWorld world with deeds := h.deeds ++ [(t, deed)] })

/-! ### Events -/

/-- The caller has not been here before. -/
def isNew (h : Host W) (t : Ticket) : Bool :=
  (match h.gate.phase t with
    | .absent => true
    | _ => false)
  && h.phase t = .absent && (h.refused t).isNone

/-- A new caller asks for a rebuild. -/
def arriveRebuild (h : Host W) (t : Ticket) : Host W :=
  let h := { h with rebuilding := h.rebuilding.request t }
  if h.rebuilding.isHeldBy t then h.beginRebuild t else h.setPhase t .waiting

/-- A new caller asks for something. -/
def accept (h : Host W) (t : Ticket) : Demand → Host W
  | .start => h.submit t (h.loading h.settings.module.path)
  | .load path => h.submit t (h.loading path)
  | .unload => h.submit t unloading
  | .reload path => h.submit t (h.reloading path)
  | .execute language source timeout =>
    match h.requestFor language source timeout with
    | .ok request => h.submit t (h.executing request)
    | .error e => { h with refused := fun u => if u = t then some e else h.refused u }
  | .executeRequest request => h.submit t (h.executing request)
  | .ready => h.submit t asking
  | .rebuild => h.arriveRebuild t
  | .visit outcome => h.submit t (passing (.task fun n => (outcome, n)))

/-- A caller asks for the first time. -/
def arrive (h : Host W) (t : Ticket) (demand : Demand) : Host W :=
  if h.isNew t then h.accept t demand else h

/-- A caller looks whether it can go on. -/
def poll (h : Host W) (t : Ticket) : Host W :=
  match h.phase t with
  | .absent => { h with gate := h.gate.poll t }
  | .waiting => if h.rebuilding.isHeldBy t then h.beginRebuild t else h
  | .working p _ [] later => h.proceed t p later
  | .stopped p stage cause => h.conclude t (p.fail stage cause.message)
  | .reloading p => h.pollReload t p
  | _ => h

/-- A caller goes away. -/
def drop (h : Host W) (t : Ticket) : Host W :=
  let leave := fun (p : Phase) =>
    { h.setPhase t p with gate := h.gate.drop t, rebuilding := h.rebuilding.withdraw t }
  match h.phase t with
  | .absent => { h with gate := h.gate.drop t }
  | .waiting | .stopped .. | .reloading _ => leave .abandoned
  | .working _ _ left _ => leave (.orphaned left)
  | .ended _ | .abandoned | .orphaned _ => h

/-- The worker behind the gate does its next act. -/
def work (h : Host W) : Host W :=
  { h with gate := h.gate.work }

/-- The worker of a rebuild does its next deed. -/
def advance (h : Host W) (t : Ticket) : Host W :=
  match h.phase t with
  | .working p stage (deed :: left) later =>
    match h.perform t deed with
    | (.ok (), h) => h.setPhase t (.working p stage left later)
    | (.error cause, h) => h.setPhase t (.stopped p stage cause)
  | .orphaned (deed :: left) =>
    match h.perform t deed with
    | (.ok (), h) => h.setPhase t (.orphaned left)
    | (.error _, h) => h.setPhase t .abandoned
  | _ => h

/-- One event. -/
def step (h : Host W) : Event → Host W
  | .arrive t demand => h.arrive t demand
  | .poll t => h.poll t
  | .drop t => h.drop t
  | .work => h.work
  | .advance t => h.advance t

/-- Events one after another. -/
def run (h : Host W) (events : List Event) : Host W :=
  events.foldl step h

/-- What a caller has got. -/
def answer? (h : Host W) (t : Ticket) : Option (Except Failure Reply) :=
  match h.refused t, h.phase t with
  | some e, _ => some (.error e)
  | none, .ended p => some (.ok (.progress p))
  | none, .absent => h.gate.answer? t
  | none, _ => none

end Host

end ScriptHost
