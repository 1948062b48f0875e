import ScriptHost.Failure

/-!
# Work

Work on a state that others share is done act by act. Between two acts of one worker others
may do theirs, so nothing that was found before an act needs to be true after it, unless
somebody sees to it.

## Main definitions

* `Work` — acts in order, each chosen by what the acts before it found.
* `Work.task`, `Work.ask`, `Work.look` — work of a single act.
* `Work.run` — all acts in one go, with nobody else about.
-/

namespace ScriptHost

/-- Work on a state `σ`. -/
inductive Work (σ α : Type) where
  /-- Nothing is left to do. -/
  | done (outcome : Outcome α)
  /-- An act changes the state, and what it found decides what is left to do. -/
  | act (change : σ → σ) (rest : σ → Work σ α)

namespace Work

variable {σ α β : Type}

/-- One work after another. A failure or a panic ends both. -/
def bind : Work σ α → (α → Work σ β) → Work σ β
  | .done (.ok a), k => k a
  | .done (.failed e), _ => .done (.failed e)
  | .done .panicked, _ => .done .panicked
  | .act change rest, k => .act change fun s => (rest s).bind k

instance : Monad (Work σ) where
  pure a := .done (.ok a)
  bind := Work.bind

/-- Fails without an act. -/
def fail (e : Failure) : Work σ α :=
  .done (.failed e)

/-- A single act that decides how the work ends. -/
def task (f : σ → Outcome α × σ) : Work σ α :=
  .act (fun s => (f s).2) fun s => .done (f s).1

/-- A single act with an answer. -/
def ask (f : σ → α × σ) : Work σ α :=
  task fun s => (.ok (f s).1, (f s).2)

/-- A look at the state. -/
def look (f : σ → α) : Work σ α :=
  ask fun s => (f s, s)

/-- All acts in one go: how the work ends, and the state it leaves. -/
def run : Work σ α → σ → Outcome α × σ
  | .done outcome, s => (outcome, s)
  | .act change rest, s => (rest s).run (change s)

/-- A single act in one go is the act. -/
@[simp] theorem run_task (f : σ → Outcome α × σ) (s : σ) : (task f).run s = f s := rfl

/-- Work that was done leads on to the work that follows it. -/
theorem run_bind_ok {w : Work σ α} {s s' : σ} {a : α} (h : w.run s = (.ok a, s'))
    (k : α → Work σ β) : (w >>= k).run s = (k a).run s' := by
  induction w generalizing s with
  | done outcome =>
      obtain ⟨rfl, rfl⟩ := Prod.mk.inj h
      rfl
  | act change rest ih => exact ih s h

end Work

end ScriptHost
