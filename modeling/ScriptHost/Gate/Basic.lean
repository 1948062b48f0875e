import ScriptHost.Gate.Lock
import ScriptHost.Gate.Work

/-!
# The gate

Operations on a shared state pass a gate one at a time, in the order in which their callers
first asked. An operation that does work is handed to a worker together with the gate: the
worker does its acts one by one, and the gate opens again after the last of them, whether or
not the caller still waits. A glance at the state is over as soon as it is admitted.

The gate is a machine that takes one `Event` at a time. The events are all that callers and
the worker can do, and any list of them is a possible run; an event that is not possible in
the current state changes nothing.

## Main definitions

* `Operation` — work or a glance.
* `Gate` — the state, the lock, and how far each caller has come.
* `Gate.step`, `Gate.run` — one event, and a list of them.
-/

namespace ScriptHost

/-- Something to be done with the state behind a gate. -/
inductive Operation (σ α : Type) where
  /-- Work on the state. It may change the state also if it fails or panics. -/
  | work (w : Work σ α)
  /-- A short look at the state. -/
  | glance (f : σ → α)

namespace Gate

/-- How far a caller has come. -/
inductive Phase (σ α : Type) where
  /-- The caller has not asked yet. -/
  | absent
  /-- The caller waits for the gate, or has been granted it and does not know yet. -/
  | queued (op : Operation σ α)
  /-- The worker has the caller's work; this much of it is left. -/
  | running (left : Work σ α)
  /-- The worker has the work of a caller that went away. -/
  | orphaned (left : Work σ α)
  /-- The work is done and its result waits for the caller. -/
  | finished (result : Except Failure α)
  /-- The caller has its answer. -/
  | answered (result : Except Failure α)
  /-- The caller went away without an answer. -/
  | abandoned

/-- What callers and the worker do. -/
inductive Event (σ α : Type) where
  /-- A caller asks for the first time. -/
  | arrive (t : Ticket) (op : Operation σ α)
  /-- A caller looks whether it can go on. -/
  | poll (t : Ticket)
  /-- The worker does the next act of the work it has, or, after the last, hands back the gate. -/
  | work
  /-- A caller goes away. -/
  | drop (t : Ticket)

/-- The work a worker has for a caller. -/
def Phase.work? {σ α : Type} : Phase σ α → Option (Work σ α)
  | .running left | .orphaned left => some left
  | _ => none

/-- The caller's work has come as far as what is left. -/
def Phase.proceed {σ α : Type} (left : Work σ α) : Phase σ α → Phase σ α
  | .running _ => .running left
  | .orphaned _ => .orphaned left
  | p => p

/-- The caller's work is done. -/
def Phase.complete {σ α : Type} (outcome : Outcome α) : Phase σ α → Phase σ α
  | .running _ => .finished outcome.toExcept
  | .orphaned _ => .abandoned
  | p => p

end Gate

/-- A gate with the state behind it. -/
structure Gate (σ α : Type) where
  state : σ
  lock : Lock
  phase : Ticket → Gate.Phase σ α
  /-- Those admitted so far, in order. -/
  admitted : List Ticket

namespace Gate

variable {σ α : Type}

/-- A free gate before anybody came. -/
def init (state : σ) : Gate σ α :=
  ⟨state, .free, fun _ => .absent, []⟩

/-- The gate with a caller in another phase. -/
def setPhase (g : Gate σ α) (t : Ticket) (p : Phase σ α) : Gate σ α :=
  { g with phase := fun u => if u = t then p else g.phase u }

/-- The caller whose phase was set is in it. -/
@[simp] theorem phase_setPhase_self (g : Gate σ α) (t : Ticket) (p : Phase σ α) :
    (g.setPhase t p).phase t = p := by
  simp [setPhase]

/-- The other callers stay where they are. -/
theorem phase_setPhase_of_ne (g : Gate σ α) {t u : Ticket} (p : Phase σ α) (h : u ≠ t) :
    (g.setPhase t p).phase u = g.phase u := by
  simp [setPhase, h]

@[simp] theorem state_setPhase (g : Gate σ α) (t : Ticket) (p : Phase σ α) :
    (g.setPhase t p).state = g.state := rfl

@[simp] theorem lock_setPhase (g : Gate σ α) (t : Ticket) (p : Phase σ α) :
    (g.setPhase t p).lock = g.lock := rfl

@[simp] theorem admitted_setPhase (g : Gate σ α) (t : Ticket) (p : Phase σ α) :
    (g.setPhase t p).admitted = g.admitted := rfl

/-- Nobody holds the gate. -/
def isFree (g : Gate σ α) : Bool :=
  g.lock.holder.isNone

/-- The holder of the gate begins: work goes to the worker, a glance is over at once. -/
def enter (g : Gate σ α) (t : Ticket) (op : Operation σ α) : Gate σ α :=
  let g := { g with admitted := g.admitted ++ [t] }
  match op with
  | .work w => g.setPhase t (.running w)
  | .glance f => { g.setPhase t (.answered (.ok (f g.state))) with lock := g.lock.release }

/-- A caller asks for the first time. -/
def arrive (g : Gate σ α) (t : Ticket) (op : Operation σ α) : Gate σ α :=
  match g.phase t with
  | .absent =>
    let g := { g with lock := g.lock.request t }
    if g.lock.isHeldBy t then g.enter t op else g.setPhase t (.queued op)
  | _ => g

/-- A caller looks whether it can go on. -/
def poll (g : Gate σ α) (t : Ticket) : Gate σ α :=
  match g.phase t with
  | .queued op => if g.lock.isHeldBy t then g.enter t op else g
  | .finished result => g.setPhase t (.answered result)
  | _ => g

/-- The caller whose work the worker has, and what is left of it. -/
def busy? (g : Gate σ α) : Option (Ticket × Work σ α) :=
  g.lock.holder.bind fun t => (g.phase t).work?.map fun left => (t, left)

/-- The worker does the next act of the work it has. After the last act the outcome is there for
the caller, and the gate opens for the next. -/
def work (g : Gate σ α) : Gate σ α :=
  match g.busy? with
  | none => g
  | some (t, .act change rest) =>
    { g.setPhase t ((g.phase t).proceed (rest g.state)) with state := change g.state }
  | some (t, .done outcome) =>
    { g.setPhase t ((g.phase t).complete outcome) with lock := g.lock.release }

/-- A caller goes away. Its place in the queue is given up; work that has begun goes on. -/
def drop (g : Gate σ α) (t : Ticket) : Gate σ α :=
  match g.phase t with
  | .queued _ => { g.setPhase t .abandoned with lock := g.lock.withdraw t }
  | .running left => g.setPhase t (.orphaned left)
  | .finished _ => g.setPhase t .abandoned
  | _ => g

/-- One event. -/
def step (g : Gate σ α) : Event σ α → Gate σ α
  | .arrive t op => g.arrive t op
  | .poll t => g.poll t
  | .work => g.work
  | .drop t => g.drop t

/-- Events one after another. -/
def run (g : Gate σ α) (events : List (Event σ α)) : Gate σ α :=
  events.foldl step g

/-- The answer a caller has. -/
def answer? (g : Gate σ α) (t : Ticket) : Option (Except Failure α) :=
  match g.phase t with
  | .answered result => some result
  | _ => none

/-- The line that a debugging print shows of a gate: whether it is in use. -/
def describe (g : Gate σ α) : String :=
  "ExecutionGate \x7b held: " ++ (if g.isFree then "false" else "true") ++ " \x7d"

end Gate

end ScriptHost
