import ScriptHost.Proofs.Host.Ledger
import ScriptHost.Proofs.Module.Handed

/-!
# Executions behind the gate

What is known of one execution in one go, or act by act in a changing world, holds of every
execution in every run of a host (`Host.execution_of_answered`): its entries are what was done for
its caller, and the answer is its result. Whatever is done for such a caller enters the module in
the slot, and the module answers it (`Host.enters_of_asks`). Only callers that asked for an
execution get a report (`Host.asks_of_report`).
-/

namespace ScriptHost

variable {W : Type}

namespace Native

variable {request : Request} {config : Option Bytes}

/-- An execution of a source of any size keeps to the call protocol, or makes no entry and ends with
an error. -/
theorem executions_sized (request : Request) (config : Option Bytes) (n₀ : Native W) :
    Executions request config n₀ fun made result =>
      Protocol request config n₀.slot.loaded made result ∨
        made = [] ∧ ∃ failure, result = .error failure := by
  by_cases hsize : request.source.utf8ByteSize < UInt32.size
  · exact (executions_protocol config n₀ hsize).mono fun _ _ => .inl
  · refine .of_meets (.ask_bind fun world => ?_)
    have hbegun : Entered n₀ [] (n₀.withWorld world) := (Entered.begin n₀).withWorld world
    refine ⟨.inl rfl, ?_⟩
    have hfail (failure : Failure) (world' : W) : ∃ made result,
        (Outcome.failed failure : Outcome Invocation) = .ofExcept result ∧
          (Protocol request config n₀.slot.loaded made result ∨
            made = [] ∧ ∃ failure, result = .error failure) ∧
          Entered n₀ made ((n₀.withWorld world).withWorld world') :=
      ⟨[], .error failure, rfl, .inr ⟨rfl, failure, rfl⟩, hbegun.withWorld world'⟩
    dsimp only
    split
    · exact hfail _
    · rw [if_pos (Nat.not_lt.mp hsize)]
      exact hfail _

/-- An act that makes one entry at most only adds to the trace. -/
theorem grows_of_enters {n n' : Native W} (h : enters n n') : grows n n' := by
  rcases h with rfl | ⟨m, e, -, hmade⟩
  · exact List.prefix_refl _
  · rw [grows, hmade.trace]
    exact List.prefix_append _ _

/-- With no module in the slot there is no entry, and the answer says so. -/
theorem meets_invoking_of_none {n₀ : Native W} (hnone : n₀.slot.loaded = none) (request : Request)
    (config : Option Bytes) :
    Meets (fun n n' => n'.trace = n.trace)
      (fun o n => o = .failed .notReady ∧ n.trace = n₀.trace) (invoking request config) n₀ := by
  refine .ask_bind fun world => ⟨rfl, ?_⟩
  have hsame : (n₀.withWorld world).slot.loaded = none := hnone
  dsimp only
  rw [hsame]
  exact fun _ => ⟨rfl, rfl⟩

end Native

namespace Host

/-- What is known of an execution is known of the operation that it is submitted as. -/
theorem meets_executing (h : Host W) {request : Request} {n₀ : Native W}
    {property : List ScriptHost.Event → Except Failure Invocation → Prop}
    (hproperty : Native.Executions request h.moduleConfig n₀ property) :
    ∃ w, h.executing request = .work w ∧ Native.Meets Native.enters (fun o n =>
      ∃ result, o = (Outcome.ofExcept result).map (fun i =>
          .report (Report.ofInvocation i request.tag h.settings.execution.outputBudget)) ∧
        ∃ made, property made result ∧ Native.Entered n₀ made n) w n₀ := by
  refine ⟨_, rfl, .bind_return (hproperty.2.mono (fun _ _ => id) ?_)⟩
  rintro _ _ ⟨made, result, rfl, hmade, hentered⟩
  exact ⟨result, rfl, made, hmade, hentered⟩

theorem meets_executing_of_none (h : Host W) {n₀ : Native W} (hnone : n₀.slot.loaded = none)
    (request : Request) :
    ∃ w, h.executing request = .work w ∧ Native.Meets (fun n n' => n'.trace = n.trace)
      (fun o n => o = .failed .notReady ∧ n.trace = n₀.trace) w n₀ := by
  refine ⟨_, rfl, .bind_return ?_⟩
  refine (Native.meets_invoking_of_none hnone request h.moduleConfig).mono (fun _ _ => id) ?_
  rintro _ _ ⟨rfl, htrace⟩
  exact ⟨rfl, htrace⟩

variable (settings : Settings) (moduleConfig : Option Bytes) (platform : Platform W) (world : W)
  {events : List Event} {t : Ticket} {request : Request}

/-- **Only executions end with a report.** -/
theorem asks_of_report {report : Report}
    (hanswer : ((init settings moduleConfig platform world).run events).answer? t
      = some (.ok (.report report))) :
    let h := init settings moduleConfig platform world
    ∃ request, h.Asks events t request ∧
      (h.run events).gate.phase t = .answered (.ok (.report report)) := by
  intro h
  have hgate : (h.run events).gate.phase t = .answered (.ok (.report report)) := by
    unfold answer? at hanswer
    split at hanswer
    · simp at hanswer
    · simp at hanswer
    · exact Gate.phase_of_answer? hanswer
    · simp at hanswer
  obtain ⟨us, vs, hadmitted, hsettled⟩ :=
    (keeps_ledger settings moduleConfig platform world events).ended t _ (.inr hgate)
  generalize hr : (Except.ok (Reply.report report) : Except Failure Reply) = r at hsettled
  cases hsettled with
  | glanced hop n =>
      obtain ⟨request, -, heq⟩ | heq | ⟨x, heq⟩ | ⟨outcome, heq⟩ := Brings.cases hop
      · cases heq
      · obtain rfl := Operation.glance.inj heq
        cases hr
      · cases heq
      · cases heq
  | @worked w outcome hop hdone =>
      have hreport : outcome = .ok (.report report) := by
        cases outcome <;> simp_all [Outcome.toExcept]
      obtain ⟨n₀, n, hw⟩ :=
        underway_of_admitted settings moduleConfig platform world hadmitted hop
      -- Work that is passed on has no report for its value.
      have hpassing : ∀ v : Work (Native W) Unit, .work w ≠ passing v := by
        intro v heq
        obtain ⟨_, hv, hmeets⟩ := meets_passing v n₀
        obtain rfl := Operation.work.inj (heq.trans hv)
        exact hw.post hdone hmeets report hreport
      obtain ⟨request, hasks, -⟩ | heq | ⟨x, heq⟩ | ⟨visited, heq⟩ := Brings.cases hop
      · exact ⟨request, hasks, hr ▸ hgate⟩
      · cases heq
      · exact absurd heq (hpassing _)
      · exact absurd heq (hpassing _)

/-- **Whatever is done for an execution enters the module in the slot**: each act leaves everything
as it is, or makes one entry, and what is noted of it is what the module has answered, in the world
in which it was made. -/
theorem enters_of_asks (hasks : (init settings moduleConfig platform world).Asks events t request) :
    ∀ a ∈ (init settings moduleConfig platform world).actsOf events, a.ticket = t →
      Native.enters a.before a.after := by
  rintro a ha rfl
  obtain ⟨us, vs, hadmitted⟩ := List.append_of_mem
    (mem_admitted_of_keeps (keeps_ledger settings moduleConfig platform world events) ha)
  obtain ⟨n₀, n, hw⟩ :=
    underway_of_admitted settings moduleConfig platform world hadmitted hasks.brings
  obtain ⟨_, hwork, hmeets⟩ := (init settings moduleConfig platform world).meets_executing
    (Native.executions_sized request moduleConfig n₀)
  obtain rfl := Operation.work.inj hwork
  exact (hw.kept hmeets).1 a ha rfl

/-- **What is known of executions is known of those in a run.** For whoever asked for one that began
somewhere, what was done so far is a beginning of what an execution does from there. With an answer
it is all of it, and the answer is the result. -/
theorem begun_of_underway {property : List ScriptHost.Event → Except Failure Invocation → Prop}
    {n₀ n : Native W} {past : List ScriptHost.Event} {w : Work (Native W) Reply}
    (hproperty : Native.Executions request moduleConfig n₀ property)
    (hasks : (init settings moduleConfig platform world).Asks events t request)
    (hwork : (init settings moduleConfig platform world).executing request = .work w)
    (hw : Underway ((init settings moduleConfig platform world).actsOf events) past t w n₀ n) :
    let h := init settings moduleConfig platform world
    let as := h.actsOf events
    ∃ made result, property made result ∧ madeBy as t <+: made ∧
      ∀ r, (h.run events).gate.phase t = .answered r → madeBy as t = made ∧
        r = result.map fun i =>
          .report (Report.ofInvocation i request.tag settings.execution.outputBudget) := by
  intro h as
  obtain ⟨_, hwork', hmeets⟩ := h.meets_executing hproperty
  obtain rfl := Operation.work.inj (hwork.symm.trans hwork')
  -- What is left, done in one go, is one way for the execution to end.
  have hleft := (hw.kept hmeets).2
  obtain ⟨result, houtcome, made, hmade, hentered⟩ := hleft.run
  have htrace := hentered.trace
  have hgrowing := hleft.mono (fun _ _ => Native.grows_of_enters) fun _ _ => id
  have hgrows := hgrowing.trace_prefix
  refine ⟨made, result, hmade, ?_, fun r hr => ?_⟩
  · rw [hw.made, htrace] at hgrows
    exact (List.prefix_append_right_inj _).mp hgrows
  · obtain ⟨_, _, _, _, outcome, -, -, hdone, rfl⟩ :=
      worked_of_answered settings moduleConfig platform world hr (hwork ▸ hasks.brings)
    rw [hdone] at houtcome htrace
    obtain rfl : madeBy as t = made := List.append_cancel_left (hw.made.symm.trans htrace)
    refine ⟨rfl, ?_⟩
    obtain rfl : outcome = _ := houtcome
    cases result <;> rfl

/-- With an answer, what was done is what an execution does. -/
theorem execution_of_admitted {property : Native W → List ScriptHost.Event →
      Except Failure Invocation → Prop}
    (hproperty : ∀ n, Native.Executions request moduleConfig n (property n))
    (hasks : (init settings moduleConfig platform world).Asks events t request)
    {r : Except Failure Reply}
    (hr : ((init settings moduleConfig platform world).run events).gate.phase t = .answered r)
    {us vs : List Ticket}
    (hadmitted : ((init settings moduleConfig platform world).run events).gate.admitted
      = us ++ t :: vs) :
    let h := init settings moduleConfig platform world
    let as := h.actsOf events
    ∃ n₀ result, n₀.Tidy [] ∧ n₀.trace = us.flatMap (madeBy as) ∧
      property n₀ (madeBy as t) result ∧ r = result.map fun i =>
        .report (Report.ofInvocation i request.tag settings.execution.outputBudget) := by
  intro h as
  obtain ⟨n₀, n, hw⟩ :=
    underway_of_admitted settings moduleConfig platform world hadmitted hasks.brings
  obtain ⟨made, result, hmade, -, hanswered⟩ :=
    begun_of_underway settings moduleConfig platform world (hproperty n₀) hasks rfl hw
  obtain ⟨rfl, rfl⟩ := hanswered r hr
  exact ⟨n₀, result, hw.tidy, hw.past, hmade, rfl⟩

/-- Whoever asked for an execution, and is answered, was admitted after some others. -/
theorem execution_of_answered {property : Native W → List ScriptHost.Event →
      Except Failure Invocation → Prop}
    (hproperty : ∀ n, Native.Executions request moduleConfig n (property n))
    (hasks : (init settings moduleConfig platform world).Asks events t request)
    {r : Except Failure Reply}
    (hr : ((init settings moduleConfig platform world).run events).gate.phase t = .answered r) :
    let h := init settings moduleConfig platform world
    let as := h.actsOf events
    ∃ us vs n₀ result, (h.run events).gate.admitted = us ++ t :: vs ∧ n₀.Tidy [] ∧
      n₀.trace = us.flatMap (madeBy as) ∧ property n₀ (madeBy as t) result ∧
      r = result.map fun i =>
        .report (Report.ofInvocation i request.tag settings.execution.outputBudget) := by
  obtain ⟨us, vs, _, _, _, hadmitted, -, -, -⟩ :=
    worked_of_answered settings moduleConfig platform world hr hasks.brings
  obtain ⟨n₀, result, hmade⟩ :=
    execution_of_admitted settings moduleConfig platform world hproperty hasks hr hadmitted
  exact ⟨us, vs, n₀, result, hadmitted, hmade⟩

end Host

end ScriptHost
