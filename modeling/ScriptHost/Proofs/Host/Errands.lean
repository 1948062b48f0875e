import ScriptHost.Proofs.Host.Frame
import ScriptHost.Proofs.Host.HotSwap
import ScriptHost.Proofs.Host.Settling
import ScriptHost.Proofs.Module.History

/-!
# What callers bring to the gate

A caller brings one operation to the gate in all of a run (`Host.Brings.unique`): the one that its
demand is submitted as, or the reload at the end of its rebuild. There are four kinds of them
(`Host.operation?_cases`), and only executions end with a report.

## Main definitions

* `Host.Requests`, `Host.Asks` — a demand for an execution, and a caller that comes with one.
* `Host.Brings` — what a caller brings to the gate in a run.
-/

namespace ScriptHost

variable {W : Type}

namespace Host

variable {h : Host W} {events before after : List Event} {t : Ticket} {d : Demand}
  {request : Request} {op op' : Operation (Native W) Reply}

/-- A demand is for an execution of this request. -/
inductive Requests (h : Host W) (request : Request) : Demand → Prop where
  | given : Requests h request (.executeRequest request)
  | made {language : Option String} {source : String} {timeout : Option Duration}
      (hr : h.requestFor language source timeout = .ok request) :
      Requests h request (.execute language source timeout)

/-- A new caller comes for an execution of this request. -/
def Asks (h : Host W) (events : List Event) (t : Ticket) (request : Request) : Prop :=
  ∃ before d after, events = before ++ .arrive t d :: after ∧ (h.run before).isNew t ∧
    h.Requests request d

/-- What a caller brings to the gate: the reload of its rebuild, or the operation that its demand is
submitted as. -/
inductive Brings (h : Host W) (events : List Event) (t : Ticket) :
    Operation (Native W) Reply → Prop where
  | rebuild (hr : (h.run events).Rebuilds t) :
      Brings h events t (h.reloading h.settings.module.path)
  | demand {before after : List Event} {d : Demand} {op : Operation (Native W) Reply}
      (heq : events = before ++ .arrive t d :: after) (hnew : (h.run before).isNew t)
      (hop : h.operation? d = some op) : Brings h events t op

theorem Requests.operation?_eq (hd : h.Requests request d) :
    h.operation? d = some (h.executing request) := by
  cases hd with
  | given => rfl
  | made hr => simp [operation?, hr]

theorem Asks.brings (ht : h.Asks events t request) :
    h.Brings events t (h.executing request) := by
  obtain ⟨before, d, after, heq, hnew, hd⟩ := ht
  exact .demand heq hnew hd.operation?_eq

/-- No rebuild is submitted on its arrival. -/
theorem ne_rebuild_of_operation? (hop : h.operation? d = some op) : d ≠ .rebuild := by
  rintro rfl
  simp [operation?] at hop

/-- **A caller brings one operation to the gate.** -/
theorem Brings.unique (hb : h.Brings events t op) (hb' : h.Brings events t op') : op = op' := by
  have hno : ∀ {before after : List Event} {d : Demand} {op : Operation (Native W) Reply},
      events = before ++ .arrive t d :: after → (h.run before).isNew t →
      h.operation? d = some op → ¬ (h.run events).Rebuilds t := by
    rintro before after d op rfl hnew hop hr
    refine hr ?_
    rw [run_append]
    exact phase_run_of_arrival hnew (ne_rebuild_of_operation? hop) after
  cases hb with
  | rebuild hr =>
      cases hb' with
      | rebuild _ => rfl
      | demand heq hnew hop => exact absurd hr (hno heq hnew hop)
  | demand heq hnew hop =>
      cases hb' with
      | rebuild hr => exact absurd hr (hno heq hnew hop)
      | demand heq' hnew' hop' =>
          obtain rfl := arrival_unique (heq.symm.trans heq') hnew hnew'
          exact Option.some.inj (hop.symm.trans hop')

/-- What a caller has brought it brings, whatever happens later. -/
theorem Brings.append (hb : h.Brings before t op) (after : List Event) :
    h.Brings (before ++ after) t op := by
  cases hb with
  | rebuild hr =>
      refine .rebuild ?_
      rw [Rebuilds, run_append]
      exact phase_run_ne_absent hr _
  | demand heq hnew hop => exact .demand (by rw [heq, List.append_assoc]; rfl) hnew hop

/-- Whatever is submitted for a caller is what it brings. -/
theorem Submits.brings {e : Event} (heq : events = before ++ e :: after)
    (hop : (h.run before).Submits e t op) : h.Brings events t op := by
  have hsame := h.sameSetup_run before
  cases hop with
  | demand hnew hop => exact .demand heq hnew (hsame.operation?_eq _ ▸ hop)
  | reload hrebuild =>
      have hreload : (h.run before).reloading (h.run before).settings.module.path
          = h.reloading h.settings.module.path := by
        rw [reloading, hsame.platform, hsame.settings]
        rfl
      rw [hreload]
      refine .rebuild ?_
      rw [Rebuilds, heq, run_append]
      exact phase_run_ne_absent hrebuild _

/-! ### Answers -/

/-- Whoever is not refused on its arrival is submitted to the gate. -/
theorem arrive_of_operation? (hnew : h.isNew t) (hop : h.operation? d = some op) :
    (h.arrive t d).gate = h.gate.arrive t op ∧ (h.arrive t d).refused t = none := by
  refine ⟨?_, ?_⟩
  · have hgate := (h.exactly (.arrive t d)).gate
    simp only [gateAfter, gateEvent?, hnew, if_true, hop, Option.map_some] at hgate
    exact hgate
  · rcases (h.steps (.arrive t d)).refused t with heq | ⟨cause, ⟨-, _, _, _, he, hcause⟩, -⟩
    · exact heq.trans (isNew_iff.mp hnew).2.2
    · obtain rfl := (Event.arrive.inj he).2
      simp [operation?, hcause] at hop

/-- Whoever was submitted to the gate has its answer from there. -/
theorem answer?_run_of_operation? (hnew : h.isNew t) (hop : h.operation? d = some op)
    (events : List Event) :
    (h.run (.arrive t d :: events)).answer? t
      = (h.run (.arrive t d :: events)).gate.answer? t := by
  have hphase := phase_run_of_arrival hnew (ne_rebuild_of_operation? hop) events
  have hrefused : (h.run (.arrive t d :: events)).refused t = none :=
    (refused_run_of_not_isNew (h.not_isNew_arrive t d) events).trans
      (arrive_of_operation? hnew hop).2
  simp only [answer?, hrefused, hphase]

/-- Whoever is refused on its arrival is told so. -/
theorem answer?_run_of_refused (hnew : h.isNew t) {language : Option String} {source : String}
    {timeout : Option Duration} {cause : Failure}
    (hr : h.requestFor language source timeout = .error cause) (events : List Event) :
    (h.run (.arrive t (.execute language source timeout) :: events)).answer? t
      = some (.error cause) := by
  have hrefused : (h.run (.arrive t (.execute language source timeout) :: events)).refused t
      = some cause := by
    refine (refused_run_of_not_isNew (h.not_isNew_arrive t _) events).trans ?_
    simp [arrive, hnew, accept, hr]
  simp only [answer?, hrefused]

/-- Whoever comes for a rebuild has one, and is not refused. -/
theorem rebuilds_run_of_arrival (hnew : h.isNew t) (events : List Event) :
    (h.run (.arrive t .rebuild :: events)).Rebuilds t ∧
      (h.run (.arrive t .rebuild :: events)).refused t = none := by
  obtain ⟨hgate, -, hunrefused⟩ := isNew_iff.mp hnew
  have hrefused : (h.arrive t .rebuild).refused t = none := by
    rcases (h.steps (.arrive t .rebuild)).refused t with heq | ⟨_, ⟨-, _, _, _, he, -⟩, -⟩
    · exact heq.trans hunrefused
    · cases he
  have hstill : (h.step (.arrive t .rebuild)).gate.phase t = .absent :=
    gate_phase_step_absent_iff.mpr ⟨hgate, by simp [gateEvent?, hnew, operation?]⟩
  refine ⟨phase_run_ne_absent (fun habsent => ?_) events,
    (refused_run_of_not_isNew (h.not_isNew_arrive t .rebuild) events).trans hrefused⟩
  exact h.not_isNew_arrive t .rebuild (isNew_iff.mpr ⟨hstill, habsent, hrefused⟩)

/-- Whoever asked for an execution and has an answer has it from the gate. -/
theorem Asks.answered (hasks : h.Asks events t request) {r : Except Failure Reply}
    (hr : (h.run events).answer? t = some r) : (h.run events).gate.phase t = .answered r := by
  obtain ⟨before, d, after, rfl, hnew, hd⟩ := hasks
  rw [run_append] at hr ⊢
  have hop : (h.run before).operation? d = some (h.executing request) :=
    ((h.sameSetup_run before).operation?_eq d).trans hd.operation?_eq
  rw [answer?_run_of_operation? hnew hop] at hr
  exact Gate.phase_of_answer? hr

/-! ### The four kinds -/

/-- A demand is submitted as an execution, as a question, as something that is asked of the slot, or
as a visit. -/
theorem operation?_cases (hop : h.operation? d = some op) :
    (∃ request, h.Requests request d ∧ op = h.executing request) ∨ op = asking ∨
      (∃ x : Exchange, op = passing (x.work h.platform.load)) ∨
      ∃ outcome, op = passing (.task fun n => (outcome, n)) := by
  cases d with
  | executeRequest request => exact .inl ⟨request, .given, (Option.some.inj hop).symm⟩
  | execute language source timeout =>
      cases hr : h.requestFor language source timeout with
      | ok request =>
          have hexecuting : h.executing request = op := by simpa [operation?, hr] using hop
          exact .inl ⟨request, .made hr, hexecuting.symm⟩
      | error cause => simp [operation?, hr] at hop
  | ready => exact .inr (.inl (Option.some.inj hop).symm)
  | start => exact .inr (.inr (.inl ⟨.load _, (Option.some.inj hop).symm⟩))
  | load path => exact .inr (.inr (.inl ⟨.load path, (Option.some.inj hop).symm⟩))
  | unload => exact .inr (.inr (.inl ⟨.unload, (Option.some.inj hop).symm⟩))
  | reload path => exact .inr (.inr (.inl ⟨.reload path, (Option.some.inj hop).symm⟩))
  | visit outcome => exact .inr (.inr (.inr ⟨outcome, (Option.some.inj hop).symm⟩))
  | rebuild => simp [operation?] at hop

/-- The same of all that callers bring. -/
theorem Brings.cases (hb : h.Brings events t op) :
    (∃ request, h.Asks events t request ∧ op = h.executing request) ∨ op = asking ∨
      (∃ x : Exchange, op = passing (x.work h.platform.load)) ∨
      ∃ outcome, op = passing (.task fun n => (outcome, n)) := by
  cases hb with
  | rebuild _ => exact .inr (.inr (.inl ⟨.reload _, rfl⟩))
  | demand heq hnew hop =>
      rcases operation?_cases hop with ⟨request, hd, rfl⟩ | hother
      · exact .inl ⟨request, ⟨_, _, _, heq, hnew, hd⟩, rfl⟩
      · exact .inr hother

/-- What callers bring is tidy. -/
theorem Brings.tidy (hb : h.Brings events t op) : TidyOperation op := by
  obtain ⟨request, -, rfl⟩ | rfl | ⟨x, rfl⟩ | ⟨outcome, rfl⟩ := hb.cases
  · exact h.tidy_executing request
  · trivial
  · cases x with
    | load path => exact h.tidy_loading path
    | unload => exact tidy_unloading
    | reload path => exact h.tidy_reloading path
  · exact tidy_visit outcome

/-- The acts of an operation only add to the trace. -/
def GrowingOperation : Operation (Native W) Reply → Prop
  | .work w => ∀ n, Native.Meets Native.grows (fun _ _ => True) w n
  | .glance _ => True

/-- What callers bring only adds to the trace. -/
theorem Brings.growing (hb : h.Brings events t op) : GrowingOperation op := by
  obtain ⟨request, -, rfl⟩ | rfl | ⟨x, rfl⟩ | ⟨outcome, rfl⟩ := hb.cases
  · refine fun n => .bind_return ((n.meets_invoking request h.moduleConfig).mono ?_ ?_)
    · exact fun _ _ hpromise => hpromise.1
    · exact fun _ _ _ => trivial
  · trivial
  · exact fun n => .bind_return (Native.meets_work h.platform.load x n)
  · exact fun _ => .bind_return fun _ => ⟨List.prefix_refl _, fun _ => trivial⟩

/-! ### Reports -/

/-- Nothing but its own value comes of work that is passed on. -/
theorem meets_passing (w : Work (Native W) Unit) (n : Native W) :
    ∃ v, passing w = .work v ∧
      Native.Meets (fun _ _ => True) (fun o _ => ∀ report, o ≠ .ok (.report report)) v n := by
  refine ⟨_, rfl, ?_⟩
  induction w generalizing n with
  | done outcome => cases outcome <;> exact fun _ _ => by simp
  | act change rest ih => exact fun world => ⟨trivial, ih _ _⟩

end Host

end ScriptHost
