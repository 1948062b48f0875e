import ScriptHost.Proofs.Host.Executions
import ScriptHost.Proofs.Host.Quiet

/-!
# The moment of admission

A caller is admitted in one event of a run (`Host.Admits`). Nobody is worked for at that moment, and
its work begins with the slot and the trace as they are (`Host.Admits.running`). From then on it can
be followed to wherever it has come (`Host.underway_of_admits`). What is known of executions is
known of one that is admitted then, from what is in the slot (`Host.execution_of_admits`); also
while it is under way, and after its caller has gone away.

## Main definitions

* `Host.Admits` — a caller is admitted in an event.
* `Host.pursuit` — the contract of one caller's work, followed from where it began.
-/

namespace ScriptHost

variable {W : Type}

namespace Host

variable {h : Host W} {t u : Ticket} {e : Event} {before after events : List Event}
  {w : Work (Native W) Reply}

/-- The caller is admitted in this event. -/
structure Admits (h : Host W) (e : Event) (t : Ticket) : Prop where
  not_before : t ∉ h.gate.admitted
  after : t ∈ (h.step e).gate.admitted

/-- Whoever is admitted in the end is admitted in one of the events. -/
theorem exists_admits (hnot : t ∉ h.gate.admitted) (hmem : t ∈ (h.run events).gate.admitted) :
    ∃ before e after, events = before ++ e :: after ∧ (h.run before).Admits e t := by
  induction events generalizing h with
  | nil => exact absurd hmem hnot
  | cons e events ih =>
      by_cases hnow : t ∈ (h.step e).gate.admitted
      · exact ⟨[], e, events, rfl, hnot, hnow⟩
      · obtain ⟨before, e', after, rfl, hadmits⟩ := ih hnow hmem
        exact ⟨e :: before, e', after, rfl, hadmits⟩

namespace Admits

/-- Whoever is admitted enters with what it comes with or came with, and finds everything as it is.
-/
theorem enters (ha : h.Admits e t) : ∃ k op, (h.step e).gate = Gate.enter k t op ∧
    k.admitted = h.gate.admitted ∧ k.state = h.native ∧ h.acts e = [] ∧
    (h.Submits e t op ∨ h.gate.phase t = .queued op) := by
  have hafter := ha.after
  rw [(h.exactly e).gate, gateAfter] at hafter ⊢
  cases hg : h.gateEvent? e with
  | none =>
      rw [hg] at hafter
      exact absurd hafter ha.not_before
  | some e' =>
      rw [hg] at hafter
      dsimp only at hafter ⊢
      rcases Gate.admitted_step_or_enter h.gate e' with
        heq | ⟨k, u, op, heq, hadmitted, hstate, hcomes⟩
      · rw [heq] at hafter
        exact absurd hafter ha.not_before
      · obtain rfl : t = u := by
          rw [heq, Gate.admitted_enter, hadmitted] at hafter
          simpa [ha.not_before] using hafter
        have hacts : h.acts e = [] := by
          cases e with
          | work =>
              obtain rfl : .work = e' := Option.some.inj hg
              simp at hcomes
          | arrive _ _ | poll _ | drop _ | advance _ => rfl
        refine ⟨k, op, heq, hadmitted, hstate, hacts, ?_⟩
        rcases hcomes with rfl | ⟨-, hqueued⟩
        · exact .inl (submits_of_gateEvent? hg)
        · exact .inr hqueued

/-- At most one caller is admitted in an event. -/
theorem admitted_eq (ha : h.Admits e t) : (h.step e).gate.admitted = h.gate.admitted ++ [t] := by
  obtain ⟨k, op, heq, hadmitted, -⟩ := ha.enters
  rw [heq, Gate.admitted_enter, hadmitted]

/-- Nobody is worked for when somebody is admitted. -/
theorem not_inFlight (ha : h.Admits e t) (hg : h.gate.Orderly) (u : Ticket) :
    ¬ h.gate.InFlight u := by
  intro hu
  have hafter := ha.after
  rw [(h.exactly e).gate, gateAfter] at hafter
  cases hge : h.gateEvent? e with
  | none =>
      rw [hge] at hafter
      exact ha.not_before hafter
  | some e' =>
      rw [hge] at hafter
      dsimp only at hafter
      rw [Gate.admitted_step_of_inFlight hg hu] at hafter
      exact ha.not_before hafter

end Admits

section

variable {settings : Settings} {moduleConfig : Option Bytes} {platform : Platform W} {world : W}

/-- **Whoever is admitted with work begins it then**, with the slot and the trace as they are. -/
theorem Admits.running
    (hadmits : ((init settings moduleConfig platform world).run before).Admits e t)
    (hop : (init settings moduleConfig platform world).Brings (before ++ e :: after) t (.work w)) :
    let h := (init settings moduleConfig platform world).run before
    (h.step e).gate.phase t = .running w ∧ (h.step e).native = h.native ∧ h.acts e = [] := by
  intro h
  obtain ⟨k, op, heq, -, hstate, hacts, hcomes⟩ := hadmits.enters
  have hbrings :
      (init settings moduleConfig platform world).Brings (before ++ e :: after) t op := by
    rcases hcomes with hsubmits | hqueued
    · exact hsubmits.brings rfl
    · have hk := keeps_ledger settings moduleConfig platform world before
      exact (hk.waiting t op hqueued).1.append _
  obtain rfl := hbrings.unique hop
  refine ⟨?_, ?_, hacts⟩
  · rw [heq]
    exact Gate.phase_setPhase_self _ _ _
  · rw [native, heq]
    exact hstate

end

/-! ### From there on -/

/-- The contract of one caller's work, followed from where it began: while it is in the hands of the
worker it has come to the state that there is, and later it has come to where it was left. -/
def pursuit (t : Ticket) (w : Work (Native W) Reply) (hgrows : GrowingOperation (.work w))
    (n₀ : Native W) : Gate.Contract (Native W) Reply where
  allowed _ _ := True
  rest as ts _ := t ∈ ts ∧ ∃ n, Underway as n₀.trace t w n₀ n
  going as ts u left n :=
    (u = t ∧ Underway as n₀.trace t w n₀ n ∧ w.left (found as t) = left) ∨
      (u ≠ t ∧ t ∈ ts ∧ ∃ n', Underway as n₀.trace t w n₀ n')
  ended _ _ _ _ := True
  enter := by
    rintro as ts u w' n ⟨ht, hw⟩ - hu
    exact .inr ⟨fun heq => hu (heq ▸ ht), ht, hw⟩
  glance := by
    rintro as ts u f n ⟨ht, hw⟩ - -
    exact ⟨⟨List.mem_append_left _ ht, hw⟩, trivial⟩
  act := by
    rintro as ts u change next n (⟨rfl, hw, hleft⟩ | ⟨hu, ht, n', hw⟩)
    · obtain ⟨hnow, hrest⟩ := hw.act hgrows hleft
      exact .inl ⟨rfl, hnow, hrest⟩
    · exact .inr ⟨hu, ht, n', hw.concat_of_ne hu⟩
  done := by
    rintro as ts u outcome n (⟨rfl, hw, -⟩ | ⟨-, ht, hw⟩)
    · exact ⟨⟨by simp, n, hw⟩, trivial⟩
    · exact ⟨⟨List.mem_append_left _ ht, hw⟩, trivial⟩
  later _ := trivial

section

variable {settings : Settings} {moduleConfig : Option Bytes} {platform : Platform W} {world : W}

/-- Work is followed from the event in which its caller is admitted. -/
theorem Admits.keeps_pursuit
    (hadmits : ((init settings moduleConfig platform world).run before).Admits e t)
    (hop : (init settings moduleConfig platform world).Brings (before ++ e :: after) t (.work w)) :
    let h := init settings moduleConfig platform world
    Gate.Keeps (pursuit t w hop.growing (h.run before).native) (h.actsOf before)
      ((h.run before).step e).gate := by
  intro h
  obtain ⟨hphase, hnative, hacts⟩ := hadmits.running hop
  have hk : Gate.Keeps (ledger (h.Brings (before ++ [e]))) (h.actsOf (before ++ [e]))
      (h.run (before ++ [e])).gate := keeps_ledger settings moduleConfig platform world _
  rw [run_append] at hk
  have hreach : (h.run before).Reachable := ⟨_, _, _, _, _, rfl⟩
  have hledger := (keeps_ledger settings moduleConfig platform world before).rest
    (hadmits.not_inFlight hreach.orderly)
  have hwork : (((h.run before).step e).gate.phase t).work? = some w := by rw [hphase]; rfl
  have hnone : ∀ a ∈ h.actsOf before, a.ticket ≠ t :=
    fun a ha hat => hadmits.not_before (hat ▸ hledger.acted a ha)
  refine ⟨hk.orderly, fun _ _ _ => trivial, fun hidle => ?_, fun u v hv => ?_, fun u r hr => ?_⟩
  · exact absurd (Option.isSome_of_mem hwork) (hidle t)
  · obtain rfl : u = t :=
      hk.orderly.eq_of_inFlight (Option.isSome_of_mem hv) (Option.isSome_of_mem hwork)
    obtain rfl : w = v := Option.some.inj (hwork.symm.trans hv)
    refine ⟨_, hadmits.admitted_eq, .inl ⟨rfl, ?_, ?_⟩⟩
    · change Underway _ _ _ _ _ ((h.run before).step e).native
      rw [hnative]
      exact .begin hledger.tidy hnone w
    · rw [found_eq_nil hnone, Work.left_nil]
  · obtain ⟨ts, us, hts, -⟩ := hk.ended u r hr
    exact ⟨ts, us, hts, trivial⟩

/-- **Whoever was admitted with work** has begun it with what was there at that moment. -/
theorem underway_of_admits
    (hadmits : ((init settings moduleConfig platform world).run before).Admits e t)
    (hop : (init settings moduleConfig platform world).Brings (before ++ e :: after) t (.work w)) :
    let h := init settings moduleConfig platform world
    let n₀ := (h.run before).native
    ∃ n, Underway (h.actsOf (before ++ e :: after)) n₀.trace t w n₀ n := by
  intro h n₀
  obtain ⟨-, -, hacts⟩ := hadmits.running hop
  have hsame : h.actsOf (before ++ e :: after)
      = h.actsOf before ++ ((h.run before).step e).actsOf after := by
    rw [actsOf_append, actsOf, hacts, List.nil_append]
  have hk : Gate.Keeps (pursuit t w hop.growing n₀) (h.actsOf (before ++ e :: after))
      (((h.run before).step e).run after).gate := by
    rw [hsame]
    refine keeps_run (fun _ _ _ _ => id) ?_ (fun _ _ _ _ _ _ _ _ => trivial)
      (hadmits.keeps_pursuit hop)
    rintro as ts u left n world' (⟨rfl, hw, hleft⟩ | ⟨hu, ht, hw⟩)
    · exact .inl ⟨rfl, hw.withWorld world', hleft⟩
    · exact .inr ⟨hu, ht, hw⟩
  rcases hk.rest_or_going with ⟨-, hw⟩ | ⟨ts, u, left, -, -, ⟨-, hw, -⟩ | ⟨-, -, hw⟩⟩
  · exact hw
  · exact ⟨_, hw⟩
  · exact hw

variable {request : Request}

/-- Whoever asked for an execution, and is answered, was admitted in an event. -/
theorem exists_admits_of_answered {r : Except Failure Reply}
    (hasks : (init settings moduleConfig platform world).Asks events t request)
    (hr : ((init settings moduleConfig platform world).run events).gate.phase t = .answered r) :
    ∃ before e after, events = before ++ e :: after ∧
      ((init settings moduleConfig platform world).run before).Admits e t := by
  obtain ⟨us, vs, _, _, _, hadmitted, -⟩ :=
    worked_of_answered settings moduleConfig platform world hr hasks.brings
  refine exists_admits (List.not_mem_nil) ?_
  rw [hadmitted]
  exact List.mem_append_right _ List.mem_cons_self

/-- **What is known of executions is known of one that is admitted**, from what is in the slot at
that moment. -/
theorem execution_of_admits {property : List ScriptHost.Event → Except Failure Invocation → Prop}
    (hasks : (init settings moduleConfig platform world).Asks (before ++ e :: after) t request)
    (hadmits : ((init settings moduleConfig platform world).run before).Admits e t)
    (hproperty : Native.Executions request moduleConfig
      ((init settings moduleConfig platform world).run before).native property) :
    let h := init settings moduleConfig platform world
    let events := before ++ e :: after
    ∃ made result, property made result ∧ madeBy (h.actsOf events) t <+: made ∧
      ∀ r, (h.run events).gate.phase t = .answered r → madeBy (h.actsOf events) t = made ∧
        r = result.map fun i =>
          .report (Report.ofInvocation i request.tag settings.execution.outputBudget) := by
  intro h events
  obtain ⟨n, hw⟩ := underway_of_admits hadmits hasks.brings
  exact begun_of_underway settings moduleConfig platform world hproperty hasks rfl hw

end

end Host

end ScriptHost
