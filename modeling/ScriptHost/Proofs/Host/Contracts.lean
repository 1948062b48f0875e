import ScriptHost.Proofs.Gate.Contract
import ScriptHost.Proofs.Host.Step
import ScriptHost.Proofs.Module.Acts

/-!
# Contracts of a host

A contract is kept by every run of a host, if it does not mind what happens to the world outside,
and allows what the host submits (`Host.keeps_run`). The acts it may speak of are those of the
worker behind the gate: they are the only ones that touch the module (`Host.actsOf`).
-/

namespace ScriptHost

namespace Host

variable {W : Type} {h : Host W}

/-- The act of the worker behind the gate in an event. -/
def acts (h : Host W) : Event → List (Gate.Act (Native W))
  | .work => h.gate.acts .work
  | _ => []

/-- The acts of the worker behind the gate in a run. -/
def actsOf (h : Host W) : List Event → List (Gate.Act (Native W))
  | [] => []
  | e :: events => h.acts e ++ (h.step e).actsOf events

/-- The acts of one run after another are those of the first and then those of the second. -/
theorem actsOf_append (h : Host W) (before after : List Event) :
    h.actsOf (before ++ after) = h.actsOf before ++ (h.run before).actsOf after := by
  induction before generalizing h with
  | nil => rfl
  | cons e before ih =>
      simp only [List.cons_append, actsOf, ih, List.append_assoc]
      rfl

/-- **A contract is kept by every run of a host**, if it does not mind the world and allows what
new callers of the gate come with. -/
theorem keeps_run {c : Gate.Contract (Native W) Reply} {as : List (Gate.Act (Native W))}
    (hrest : ∀ as ts n world, c.rest as ts n → c.rest as ts (n.withWorld world))
    (hgoing : ∀ as ts t w n world, c.going as ts t w n → c.going as ts t w (n.withWorld world))
    {events : List Event}
    (hallowed : ∀ before e after t op, events = before ++ e :: after →
      (h.run before).Submits e t op → (h.run before).gate.phase t = .absent → c.allowed t op)
    (hk : Gate.Keeps c as h.gate) : Gate.Keeps c (as ++ h.actsOf events) (h.run events).gate := by
  induction events generalizing h as with
  | nil => simpa [actsOf, run] using hk
  | cons e events ih =>
      have hstep : Gate.Keeps c (as ++ h.acts e) (h.step e).gate := by
        have hno : e ≠ .work → as ++ h.acts e = as := by
          intro he
          cases e <;> first | exact List.append_nil as | exact absurd rfl he
        have he := (h.steps e).gate
        generalize (h.step e).gate = g at he
        cases he with
        | world he world =>
            rw [hno he]
            exact hk.withState (fun ts => hrest _ _ _ world) (fun ts t w => hgoing _ _ _ _ _ world)
        | submit hop =>
            rw [hno (by cases hop <;> simp)]
            exact hk.arrive (hallowed [] e events _ _ rfl hop)
        | poll he t => exact (hno he).symm ▸ hk.poll t
        | drop he t => exact (hno he).symm ▸ hk.drop t
        | work he => exact he ▸ hk.work
      have hlast := ih (fun before e' after t op heq => hallowed (e :: before) e' after t op
        (by rw [heq]; rfl)) hstep
      rwa [List.append_assoc] at hlast

end Host

end ScriptHost
