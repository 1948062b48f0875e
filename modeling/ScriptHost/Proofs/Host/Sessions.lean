import ScriptHost.Proofs.Host.Recovery
import ScriptHost.Proofs.Report.Visibility

/-!
# Start, then execute

A new host that is started and then asked for an execution, with nobody else about, does one after
the other, each in one go. What passes between the host and native code is the answer of the loader,
and after it the call protocol if there is a module and a request (`Host.Fresh.session`). Whether it
was a success can be told from either (`Host.Session.succeeds_iff`).

## Main definitions

* `Host.Started` — a host that was new and then started.
* `Host.Session` — the ways in which the execution ends, each with its trace and its answer.
* `Native.Succeeds` — what has passed between the host and native code after a success.
-/

namespace ScriptHost

variable {W : Type}

/-- What is made of the value of work makes no difference to the state. -/
theorem Work.run_bind_return {σ α β : Type} (w : Work σ α) (f : α → β) (s : σ) :
    Work.run (do let a ← w; return f a) s = ((w.run s).1.map f, (w.run s).2) := by
  induction w generalizing s with
  | done outcome => cases outcome <;> rfl
  | act change rest ih => exact ih s (change s)

/-- The first load of all: the slot has what the loader answered, and the trace says so. -/
theorem Native.load_init (loader : Loader W) (path : Path) (world : W) :
    let n := ((init path world).load loader path).2
    (∃ entry, (loader path world).1 = .ok entry ∧ n.slot.loaded = some ⟨0, entry⟩ ∧
        n.trace = [.load path (some 0)]) ∨
      (∀ entry, (loader path world).1 ≠ .ok entry) ∧ n.slot.loaded = none ∧
        n.trace = [.load path none] := by
  simp only [load, unload, init, install]
  rcases loader path world with ⟨entry | e | -, world'⟩
  · exact .inl ⟨entry, rfl, rfl, rfl⟩
  · exact .inr ⟨fun _ h => by simp at h, rfl, rfl⟩
  · exact .inr ⟨fun _ h => by simp at h, rfl, rfl⟩

/-! ### Success -/

/-- The status that an entry answers with, if it has a part in the outcome of an execution. -/
def Event.answer? : Event → Option Int32
  | .loadConfig _ _ _ _ _ answer | .call _ _ _ _ answer => some answer
  | .load .. | .unload _ | .create .. | .status .. | .destroy .. => none

namespace Native

variable {handle : Handle} {i : Instance} {request request' : Request} {config : Option Bytes}
  {status status' : Int32} {used : List Event}

/-- The last answer among what is done with an instance is the outcome. -/
theorem Uses.getLast?_answers (h : Uses handle i request config status used) :
    (used.filterMap Event.answer?).getLast? = some status := by
  cases h with
  | refused hconfigured hstatus =>
      cases hconfigured with
      | nothing => exact absurd rfl hstatus
      | content content records => simp [Event.answer?]
  | called hconfigured hlength =>
      cases hconfigured <;> simp [List.filterMap_cons, Event.answer?]

/-- So what is done with an instance tells the outcome. -/
theorem Uses.status_unique (h : Uses handle i request config status used)
    (h' : Uses handle i request' config status' used) : status = status' :=
  Option.some.inj (h.getLast?_answers.symm.trans h'.getLast?_answers)

/-- What has passed between a host and native code: a module was loaded, it made an instance, and
what was done with this came to zero. -/
def Succeeds (config : Option Bytes) (trace : List Event) : Prop :=
  ∃ path handle maxRuntime created i request used destroyed,
    trace = .load path (some handle) :: .create handle maxRuntime created (some i) ::
      (used ++ [.destroy handle i destroyed]) ∧ Uses handle i request config 0 used

end Native

namespace Host

variable {h k : Host W} {t u : Ticket} {d : Demand} {e : Event} {events : List Event}
  {op : Operation (Native W) Reply} {r : Except Failure Reply}

/-! ### One demand after another -/

/-- Whoever does nothing stays new. -/
theorem isNew_step_of_ne (hnew : h.isNew t) (he : e.ticket? ≠ some t) : (h.step e).isNew t := by
  obtain ⟨hgate, hphase, hrefused⟩ := isNew_iff.mp hnew
  refine isNew_iff.mpr ⟨gate_phase_step_absent_iff.mpr ⟨hgate, fun op hop => ?_⟩, ?_, ?_⟩
  · rcases gateEvent?_arrive hop with ⟨d, rfl, -⟩ | ⟨rfl, -⟩ <;> exact he rfl
  · rw [phase_step_of_ne he, hphase]
  · rcases (h.steps e).refused t with heq | ⟨cause, ⟨-, _, _, _, rfl, -⟩, -⟩
    · rw [heq, hrefused]
    · exact absurd rfl he

theorem isNew_run_of_ne (hnew : h.isNew t) (hne : ∀ e ∈ events, e.ticket? ≠ some t) :
    (h.run events).isNew t := by
  induction events generalizing h with
  | nil => exact hnew
  | cons e events ih =>
      exact ih (isNew_step_of_ne hnew (hne e List.mem_cons_self)) fun e' he' =>
        hne e' (List.mem_cons_of_mem e he')

/-- So does whoever does nothing while another one is served. -/
theorem isNew_serve_of_ne (hnew : h.isNew u) (hu : u ≠ t) (d : Demand) : (h.serve t d).isNew u := by
  rw [serve_eq_serving]
  refine isNew_run_of_ne hnew fun e he hticket => ?_
  have hmine : e.ticket? = some t ∨ e.ticket? = none := by
    simp only [serving, turns, List.mem_cons, List.mem_flatten, List.mem_replicate] at he
    rcases he with rfl | ⟨round, ⟨-, rfl⟩, he⟩
    · exact .inl rfl
    · simp only [List.mem_cons, List.not_mem_nil, or_false] at he
      rcases he with rfl | rfl | rfl
      · exact .inl rfl
      · exact .inl rfl
      · exact .inr rfl
  rcases hmine with hmine | hnobody
  · exact hu (Option.some.inj (hticket.symm.trans hmine))
  · simp [hnobody] at hticket

/-- Nothing is under way after a demand that was served at a quiet host. -/
theorem Reachable.quiet_serve (hreach : h.Reachable) (hquiet : h.Quiet) (hnew : h.isNew t)
    (hop : h.operation? d = some op) (hr : (h.serve t d).answer? t = some r) :
    (h.serve t d).Quiet := by
  have hphase : (h.serve t d).phase t = .absent := by
    rw [serve_eq]
    exact phase_run_of_arrival hnew (ne_rebuild_of_operation? hop) _
  have hgate : (h.serve t d).gate.phase t = .answered r := by
    rw [serve_eq] at hr ⊢
    rw [answer?_run_of_operation? hnew hop] at hr
    exact Gate.phase_of_answer? hr
  have hcalm : (h.serve t d).Calm t := by
    rw [serve_eq_serving]
    exact (hreach.calm_run (hquiet.calm t) (comesAlone_serving t d).alone).1
  exact hcalm.quiet (by rw [hgate]; rfl) (by rw [hphase]; rfl)

/-! ### The start -/

/-- A host that was new and then started. -/
structure Started (h k : Host W) : Prop where
  reachable : k.Reachable
  quiet : k.Quiet
  setup : SameSetup k h
  new : ∀ t, t ≠ 0 → k.isNew t
  native_eq : k.native = (h.native.load h.platform.load h.settings.module.path).2

theorem Fresh.isNew (hh : h.Fresh) (t : Ticket) : h.isNew t := by
  obtain ⟨settings, moduleConfig, platform, world, rfl⟩ := hh
  rfl

/-- A start loads the module of the settings, in one go. -/
theorem Fresh.started (hh : h.Fresh) : Started h (h.serve 0 .start) := by
  have hreach := hh.reachable []
  have hop : h.operation? .start = some (h.loading h.settings.module.path) := rfl
  obtain ⟨hanswer, hnative⟩ := serve_work (hreach.gate_lock_of_quiet hh.quiet) (hh.isNew 0) hop
    ((within_of_operation? hop).mono (by omega))
  rw [Work.run_bind_return, Native.run_loading] at hnative
  refine ⟨?_, hreach.quiet_serve hh.quiet (hh.isNew 0) hop hanswer, ?_, ?_, hnative⟩
  · rw [serve_eq]
    exact hh.reachable _
  · rw [serve_eq]
    exact sameSetup_run h _
  · exact fun t ht => isNew_serve_of_ne (hh.isNew t) ht .start

/-! ### The execution -/

/-- The loader has a module for the settings. -/
def HasModule (h : Host W) : Prop :=
  ∃ entry, (h.platform.load h.settings.module.path h.native.world).1 = .ok entry

/-- The ways in which an execution ends that is asked for right after the start of a new host, each
with what has passed between the host and native code and with the answer. -/
inductive Session (h : Host W) (asked : Except Failure Request) :
    List ScriptHost.Event → Except Failure Reply → Prop where
  /-- The demand makes no request. -/
  | refused {cause : Failure} {loaded : Option Handle} (hasked : asked = .error cause) :
    Session h asked [.load h.settings.module.path loaded] (.error cause)
  /-- There is no module. -/
  | unloaded {request : Request} (hasked : asked = .ok request) (hnone : ¬ h.HasModule) :
    Session h asked [.load h.settings.module.path none] (.error .notReady)
  /-- There is one, but the source is too large for it. -/
  | declined {request : Request} {handle : Handle} {cause : Failure} (hasked : asked = .ok request)
    (hsome : h.HasModule) :
    Session h asked [.load h.settings.module.path (some handle)] (.error cause)
  /-- The module is entered. -/
  | entered {request : Request} {m : LoadedModule W} {made : List ScriptHost.Event}
    {result : Except Failure Invocation} (hasked : asked = .ok request) (hsome : h.HasModule)
    (hmade : Native.Protocol request h.moduleConfig (some m) made result) :
    Session h asked (.load h.settings.module.path (some m.handle) :: made)
      (result.map fun i =>
        .report (Report.ofInvocation i request.tag h.settings.execution.outputBudget))

/-- What is found in the slot after the start. -/
theorem Fresh.loaded_cases (hh : h.Fresh) :
    let n := (h.native.load h.platform.load h.settings.module.path).2
    (h.HasModule ∧ ∃ m, n.slot.loaded = some m ∧
        n.trace = [.load h.settings.module.path (some m.handle)]) ∨
      ¬ h.HasModule ∧ n.slot.loaded = none ∧ n.trace = [.load h.settings.module.path none] := by
  obtain ⟨settings, moduleConfig, platform, world, rfl⟩ := hh
  rcases Native.load_init platform.load settings.module.path world with
    ⟨entry, hentry, hloaded, htrace⟩ | ⟨hnone, hloaded, htrace⟩
  · exact .inl ⟨⟨entry, hentry⟩, _, hloaded, htrace⟩
  · exact .inr ⟨fun ⟨entry, hentry⟩ => hnone entry hentry, hloaded, htrace⟩

section

variable (language : Option String) (source : String) (timeout : Option Duration)

/-- A demand that makes no request is refused, whatever is in the slot. -/
theorem Fresh.session_of_error (hh : h.Fresh) {cause : Failure}
    (hasked : h.requestFor language source timeout = .error cause) :
    let k := (h.serve 0 .start).serve 1 (.execute language source timeout)
    ∃ r, k.answer? 1 = some r ∧ h.Session (.error cause) k.native.trace r := by
  have hstarted := hh.started
  obtain ⟨hanswer, hnative⟩ := serve_refused
    (hstarted.reachable.gate_lock_of_quiet hstarted.quiet) (hstarted.new 1 (by decide))
    ((hstarted.setup.requestFor_eq language source timeout).trans hasked)
  refine ⟨_, hanswer, ?_⟩
  rw [hnative, hstarted.native_eq]
  rcases hh.loaded_cases with ⟨-, m, -, htrace⟩ | ⟨-, -, htrace⟩ <;> rw [htrace] <;>
    exact .refused rfl

/-- A request is answered in view of what the start has left in the slot. -/
theorem Fresh.session_of_ok (hh : h.Fresh) {request : Request}
    (hasked : h.requestFor language source timeout = .ok request) :
    let k := (h.serve 0 .start).serve 1 (.execute language source timeout)
    ∃ r, k.answer? 1 = some r ∧ h.Session (.ok request) k.native.trace r := by
  have hstarted := hh.started
  have hnew : (h.serve 0 .start).isNew 1 := hstarted.new 1 (by decide)
  have hd : (h.serve 0 .start).Requests request (.execute language source timeout) :=
    .made ((hstarted.setup.requestFor_eq language source timeout).trans hasked)
  rcases hh.loaded_cases with ⟨hsome, m, hloaded, htrace⟩ | ⟨hnone, hloaded, htrace⟩ <;>
    rw [← hstarted.native_eq] at hloaded htrace
  · obtain ⟨_, hanswer, result, rfl, made, hmade, hentered⟩ :=
      hstarted.reachable.serve_executing hstarted.quiet hnew hd
        (meets_executing _ (Native.executions_sized request _ _))
    rw [hloaded, hstarted.setup.moduleConfig] at hmade
    rw [hstarted.setup.settings] at hanswer
    refine ⟨_, hanswer, ?_⟩
    rw [hentered.trace, htrace]
    rcases hmade with hprotocol | ⟨rfl, cause, rfl⟩
    · have hsession : h.Session (.ok request) _ _ := .entered rfl hsome hprotocol
      cases result <;> exact hsession
    · exact .declined rfl hsome
  · obtain ⟨_, hanswer, rfl, hnative⟩ :=
      hstarted.reachable.serve_executing hstarted.quiet hnew hd
        (meets_executing_of_none _ hloaded request)
    refine ⟨_, hanswer, ?_⟩
    rw [hnative, htrace]
    exact .unloaded rfl hnone

/-- **An execution after a start** is answered, and ends in one of four ways. -/
theorem Fresh.session (hh : h.Fresh) :
    let k := (h.serve 0 .start).serve 1 (.execute language source timeout)
    ∃ r, k.answer? 1 = some r ∧
      h.Session (h.requestFor language source timeout) k.native.trace r := by
  cases hasked : h.requestFor language source timeout with
  | error cause => exact hh.session_of_error language source timeout hasked
  | ok request => exact hh.session_of_ok language source timeout hasked

end

/-- **An execution is a success if its report says so**, and nothing else is. -/
theorem Session.succeeds_iff {asked : Except Failure Request} {trace : List ScriptHost.Event}
    (hs : h.Session asked trace r) :
    Native.Succeeds h.moduleConfig trace ↔
      ∃ report, r = .ok (.report report) ∧ report.isSuccess := by
  cases hs with
  | refused hasked | unloaded hasked hnone | declined hasked hsome => simp [Native.Succeeds]
  | @entered request m made result hasked hsome hmade =>
      cases hmade with
      | uncreated m records => simp [Native.Succeeds, Except.map]
      | @destroyed _ i status created destroyed used made hused hmade hanswered =>
          have hstatus : (Report.ofInvocation ⟨Record.lines (made.flatMap Event.records), status⟩
              request.tag h.settings.execution.outputBudget).isSuccess ↔ status = 0 :=
            Invocation.isSuccess_category_iff _
          simp only [Except.map, Except.ok.injEq, Reply.report.injEq, exists_eq_left', hstatus]
          constructor
          · rintro ⟨_, handle, _, _, i', request', used', _, htrace, hused'⟩
            simp only [hmade, List.cons.injEq, Event.load.injEq, Event.create.injEq,
              Option.some.injEq] at htrace
            obtain ⟨⟨-, rfl⟩, ⟨-, -, -, rfl⟩, htrace⟩ := htrace
            obtain ⟨rfl, -⟩ := List.append_inj' htrace rfl
            exact hused.status_unique hused'
          · rintro rfl
            exact ⟨_, _, _, _, _, request, used, _, by rw [hmade], hused⟩

end Host

end ScriptHost
