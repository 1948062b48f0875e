/-!
# Fair locks

A lock that is handed on in the order of arrival. Whoever asks for it gets a place; a lock
that is let go passes to the first place in the queue at once, before anybody else can ask
for it.

## Main definitions

* `Lock.request`, `Lock.release`, `Lock.withdraw` — the three things that happen to a lock.
-/

namespace ScriptHost

/-- A place in a queue. Every caller has its own. -/
abbrev Ticket := Nat

/-- A lock with its holder and those who wait for it, the first to come in front. -/
structure Lock where
  holder : Option Ticket
  waiting : List Ticket
  deriving DecidableEq, Repr

namespace Lock

/-- Nobody holds the lock or waits for it. -/
def free : Lock := ⟨none, []⟩

/-- A caller asks for the lock and gets it if it is free. -/
def request (l : Lock) (t : Ticket) : Lock :=
  match l.holder with
  | none => ⟨some t, l.waiting⟩
  | some h => ⟨some h, l.waiting ++ [t]⟩

/-- The holder lets go, and the next in the queue holds the lock. -/
def release (l : Lock) : Lock :=
  match l.waiting with
  | [] => ⟨none, []⟩
  | t :: ts => ⟨some t, ts⟩

/-- A caller gives up its place, or the lock if it holds it. -/
def withdraw (l : Lock) (t : Ticket) : Lock :=
  if l.holder = some t then l.release else ⟨l.holder, l.waiting.filter (· ≠ t)⟩

/-- A caller holds the lock. -/
def isHeldBy (l : Lock) (t : Ticket) : Bool :=
  l.holder = some t

end Lock

end ScriptHost
