import ScriptHost.Proofs.Host.Callers
import ScriptHost.Proofs.Host.Generations
import ScriptHost.Proofs.Host.Lifecycle

/-!
# The hot swap

Clients do not notice that a module is swapped, but by what the new one does. Say a module is
loaded, nobody is at the gate, and from then on only rebuilds exchange the module; then, as long as
no load fails, no execution is refused for want of a module, and each one has to do with a single
generation of it: the one of the last rebuild that was admitted before (`Host.hot_swap`).

A reload releases the old module first, and would be caught with an empty slot by anybody who came
in between. That nobody does is what the gate is for: the reload is one operation, and the
generation changes where it is admitted.

## Main definitions

* `Host.Reachable` — a host that has come out of a run.
* `Host.HotSwap` — what clients see of the swaps in a run.
-/

namespace ScriptHost

/-- The caller exchanges the module, and does so without a rebuild. -/
def Demand.exchanges : Demand → Bool
  | .start | .load _ | .unload | .reload _ => true
  | .execute .. | .executeRequest _ | .ready | .rebuild | .visit _ => false

/-- The caller has a source executed. -/
def Demand.executes : Demand → Bool
  | .execute .. | .executeRequest _ => true
  | _ => false

namespace Host

variable {W : Type} {h : Host W} {events : List Event} {t : Ticket}

/-- A host that has come out of a run. -/
def Reachable (h : Host W) : Prop :=
  ∃ settings moduleConfig platform world events,
    h = (init settings moduleConfig platform world).run events

/-- The caller has a rebuild. -/
def Rebuilds (h : Host W) (t : Ticket) : Prop :=
  h.phase t ≠ .absent

/-- The caller is a new one that comes for an execution. -/
def Executes (h : Host W) (events : List Event) (t : Ticket) : Prop :=
  ∃ before d after, events = before ++ .arrive t d :: after ∧ (h.run before).isNew t ∧ d.executes

/-- What clients see of the swaps in a run of a host that begins with this module. -/
structure HotSwap (h : Host W) (first : Handle) (events : List Event) : Prop where
  /-- All that passed between the host and native code was done for somebody. -/
  whole : (h.run events).native.trace = h.native.trace ++ (h.actsOf events).flatMap madeIn
  /-- Generations are told apart: no two modules have the same number. -/
  distinct : ((h.run events).native.trace.filterMap ScriptHost.Event.loaded?).Nodup
  /-- No execution is refused for want of a module. -/
  ready : ∀ t, h.Executes events t → (h.run events).answer? t ≠ some (.error .notReady)
  /-- **An execution enters one generation only**, the one there was when it was admitted. -/
  served : ∀ ts t us, (h.run events).gate.admitted = h.gate.admitted ++ (ts ++ t :: us) →
    h.Executes events t → ∃! handle,
      Generation (h.run events).Rebuilds first (h.actsOf events) ts handle ∧
        ∀ e ∈ madeBy (h.actsOf events) t, e.entry? = some handle

/-- No two modules that a host loads have the same number. -/
theorem Reachable.nodup_loaded (hreach : h.Reachable) (events : List Event) :
    ((h.run events).native.trace.filterMap ScriptHost.Event.loaded?).Nodup := by
  obtain ⟨settings, moduleConfig, platform, world, earlier, rfl⟩ := hreach
  obtain ⟨as, hk⟩ := keeps_tidy settings moduleConfig platform world (earlier ++ events)
  obtain ⟨instances, hn⟩ := exists_tidy hk
  rw [run_append] at hn
  exact Lawful.nodup_loaded hn

/-! ### Who comes -/

/-- Whoever comes for an execution has no rebuild. -/
theorem Executes.phase_eq (ht : h.Executes events t) : (h.run events).phase t = .absent := by
  obtain ⟨before, d, after, rfl, hnew, hd⟩ := ht
  rw [run_append]
  refine phase_run_of_arrival hnew ?_ after
  rintro rfl
  simp [Demand.executes] at hd

theorem Executes.not_rebuilds (ht : h.Executes events t) : ¬ (h.run events).Rebuilds t :=
  fun hr => hr ht.phase_eq

/-- Whoever comes for an execution was not there before. -/
theorem Executes.isNew (ht : h.Executes events t) : h.isNew t := by
  obtain ⟨before, d, after, -, hnew, -⟩ := ht
  exact isNew_run hnew

/-! ### What they come with -/

section

variable {rebuilds executes : Ticket → Prop}

theorem swapOperation_reloading (h : Host W) (path : Path) (ht : rebuilds t) :
    SwapOperation rebuilds executes t (h.reloading path) :=
  ⟨fun _ n => (n.meets_reloading h.platform.load path).bind_return, fun hno => absurd ht hno⟩

theorem swapOperation_executing (h : Host W) (request : Request) (ht : ¬ rebuilds t) :
    SwapOperation rebuilds executes t (h.executing request) := by
  refine ⟨fun hr => absurd hr ht, fun _ n => .bind_return ?_⟩
  refine (n.meets_invoking request h.moduleConfig).mono (fun _ _ => id) fun o n' hn' => ?_
  refine ⟨fun _ ho => hn'.1 ?_, hn'.2⟩
  cases o <;> simp_all [Outcome.map]

/-- A visit leaves everything alone, and may end like an execution that finds no module. -/
theorem swapOperation_visit (outcome : Outcome Unit) (ht : ¬ rebuilds t) (he : ¬ executes t) :
    SwapOperation rebuilds executes t (passing (.task fun n : Native W => (outcome, n))) := by
  refine ⟨fun hr => absurd hr ht, fun _ n => .bind_return fun world => ?_⟩
  have hsame : n.Executing [] (n.withWorld world) := (Native.Executing.begin n).withWorld world
  exact ⟨⟨List.prefix_refl _, _, hsame⟩,
    fun world' => ⟨fun hexec => absurd hexec he, hsame.withWorld world'⟩⟩

end

/-- Only rebuilds swap the module, and executions leave it alone. -/
theorem Submits.swapOperation (honly : ∀ t d, .arrive t d ∈ events → d.exchanges = false)
    {before after : List Event} {e : Event} {op : Operation (Native W) Reply}
    (heq : events = before ++ e :: after) (hop : (h.run before).Submits e t op) :
    SwapOperation (h.run events).Rebuilds (h.Executes events) t op := by
  cases hop with
  | reload hrebuild =>
      refine swapOperation_reloading _ _ ?_
      rw [Rebuilds, heq, run_append]
      exact phase_run_ne_absent hrebuild _
  | @demand _ d _ hnew hop =>
      have hexchanges := honly t d (by simp [heq])
      have hno : d ≠ .rebuild → ¬ (h.run events).Rebuilds t := by
        intro hd hr
        refine hr ?_
        rw [heq, run_append]
        exact phase_run_of_arrival hnew hd after
      cases d with
      | start | load _ | unload | reload _ => simp [Demand.exchanges] at hexchanges
      | rebuild => simp [operation?] at hop
      | executeRequest request =>
          obtain rfl := Option.some.inj hop
          exact swapOperation_executing _ request (hno (by simp))
      | execute language source timeout =>
          cases hr : (h.run before).requestFor language source timeout with
          | ok request =>
              obtain rfl : (h.run before).executing request = op := by
                simpa [operation?, hr] using hop
              exact swapOperation_executing _ request (hno (by simp))
          | error cause => simp [operation?, hr] at hop
      | ready =>
          obtain rfl := Option.some.inj hop
          exact hno (by simp)
      | visit outcome =>
          obtain rfl := Option.some.inj hop
          refine swapOperation_visit outcome (hno (by simp)) ?_
          rintro ⟨before', d', after', heq', hnew', hd'⟩
          obtain rfl := arrival_unique (heq.symm.trans heq') hnew hnew'
          simp [Demand.executes] at hd'

/-! ### In a run -/

/-- Whoever has an answer, and no rebuild, was refused or has it from the gate. -/
theorem answered_of_phase_absent {r : Except Failure Reply} (ht : h.phase t = .absent)
    (hr : h.answer? t = some r) :
    (∃ cause, h.refused t = some cause ∧ r = .error cause) ∨ h.gate.phase t = .answered r := by
  unfold answer? at hr
  cases hrefused : h.refused t with
  | some cause => exact .inl ⟨cause, rfl, by simpa [hrefused, eq_comm] using hr⟩
  | none =>
      simp only [hrefused, ht] at hr
      unfold Gate.answer? at hr
      split at hr
      · rename_i r' hphase
        exact .inr (Option.some.inj hr ▸ hphase)
      · simp at hr

/-- A host with a module and a free gate keeps the contract of a hot swap. -/
theorem keeps_swap_begin (hreach : h.Reachable) (hfree : h.gate.isFree) {m : LoadedModule W}
    (hm : h.native.slot.loaded = some m) {rebuilds executes : Ticket → Prop}
    (hdisjoint : ∀ t, executes t → ¬ rebuilds t) (hnew : ∀ t, executes t → h.isNew t) :
    Gate.Keeps (swap h.native.trace h.gate.admitted rebuilds executes hdisjoint m.handle) []
      h.gate := by
  obtain ⟨settings, moduleConfig, platform, world, earlier, rfl⟩ := hreach
  obtain ⟨as, hk⟩ := keeps_tidy settings moduleConfig platform world earlier
  refine hk.renew hfree ⟨[], by simp, by simp [native], by simp, fun _ => ?_, fun _ => ?_⟩ ?_
  · exact ⟨m, hm, .initial (by simp)⟩
  · intro us t vs hnil
    simp at hnil
  · -- Whoever was admitted before was there, and is none of the executions meant here.
    intro t ht ts r _ he
    have hearly := hk.orderly.not_early t ht
    rw [(isNew_iff.mp (hnew t he)).1] at hearly
    simp [Gate.Phase.isEarly] at hearly

/-- The contract of a hot swap is kept as long as only rebuilds exchange the module. -/
theorem keeps_swap (hreach : h.Reachable) (hfree : h.gate.isFree) {m : LoadedModule W}
    (hm : h.native.slot.loaded = some m)
    (honly : ∀ t d, .arrive t d ∈ events → d.exchanges = false)
    (hdisjoint : ∀ t, h.Executes events t → ¬ (h.run events).Rebuilds t) :
    Gate.Keeps (swap h.native.trace h.gate.admitted (h.run events).Rebuilds (h.Executes events)
      hdisjoint m.handle) (h.actsOf events) (h.run events).gate := by
  have hbegun := keeps_swap_begin hreach hfree hm hdisjoint fun _ => Executes.isNew
  refine keeps_run ?_ ?_ (fun _ _ _ _ _ heq hop _ => hop.swapOperation honly heq) hbegun
  · rintro _ _ _ world ⟨new, hadmitted, hs⟩
    exact ⟨new, hadmitted, hs.withWorld world⟩
  · rintro _ _ _ _ _ world ⟨new, n₀, hadmitted, hs⟩
    exact ⟨new, n₀, hadmitted, hs.withWorld world⟩

/-- Whether or not an operation is in flight, all those admitted were served. -/
theorem exists_served {past : List ScriptHost.Event} {earlier : List Ticket}
    {rebuilds executes : Ticket → Prop} {hdisjoint : ∀ t, executes t → ¬ rebuilds t}
    {first : Handle} {as : List (Gate.Act (Native W))} {g : Gate (Native W) Reply}
    (hk : Gate.Keeps (swap past earlier rebuilds executes hdisjoint first) as g) :
    ∃ new, g.admitted = earlier ++ new ∧ g.state.trace = past ++ as.flatMap madeIn ∧
      (Flawless as → Served rebuilds first as new) := by
  rcases hk.rest_or_going with ⟨new, hadmitted, hs⟩ | ⟨_, t, w, -, hadmitted, new, n₀, rfl, hs⟩
  · exact ⟨new, hadmitted, hs.trace, hs.served⟩
  · refine ⟨new ++ [t], by rw [hadmitted, List.append_assoc], hs.trace, fun hf => ?_⟩
    refine (hs.served hf).concat fun hno => ?_
    obtain ⟨instances, hn⟩ := (hs.execution hno).1
    exact hs.served_now hf hn

/-- **The hot swap is atomic for clients**, in every run that begins with a module and a free gate,
and in which only rebuilds exchange the module and no load fails. -/
theorem hot_swap (hreach : h.Reachable) (hfree : h.gate.isFree) {m : LoadedModule W}
    (hm : h.native.slot.loaded = some m)
    (honly : ∀ t d, .arrive t d ∈ events → d.exchanges = false)
    (hflawless : Flawless (h.actsOf events)) : HotSwap h m.handle events := by
  have hdisjoint : ∀ t, h.Executes events t → ¬ (h.run events).Rebuilds t :=
    fun _ => Executes.not_rebuilds
  have hk := keeps_swap hreach hfree hm honly hdisjoint
  obtain ⟨new, hadmitted, htrace, hserved⟩ := exists_served hk
  refine ⟨htrace, hreach.nodup_loaded events, fun t ht hanswer => ?_, fun ts t us hsplit ht => ?_⟩
  · have hrefused : (h.run events).refused t ≠ some .notReady :=
      refused_run (by simp [(isNew_iff.mp ht.isNew).2.2]) events
    rcases answered_of_phase_absent ht.phase_eq hanswer with ⟨cause, hcause, hnot⟩ | hgate
    · obtain rfl : Failure.notReady = cause := Except.error.inj hnot
      exact hrefused hcause
    · obtain ⟨_, _, -, hended⟩ := hk.ended t _ (.inr hgate)
      exact hended hflawless ht rfl
  · obtain rfl := List.append_cancel_left (hadmitted.symm.trans hsplit)
    obtain ⟨handle, hgeneration, hmade⟩ := hserved hflawless ts t us rfl (hdisjoint t ht)
    exact ⟨handle, ⟨hgeneration, hmade⟩, fun _ hother => hother.1.unique hgeneration⟩

/-- Two executions at a rebuild: one is admitted before its reload and enters the first module, one
after it and enters the second. -/
theorem hot_swap_between_executions :
    let h := (init {} none .calm ()).run [.arrive 0 .start, .work, .work, .work]
    let request : Request := ⟨.script, "", 0, 0, by decide⟩
    let events : List Event :=
      .arrive 1 .rebuild :: List.replicate 5 (.advance 1) ++
      [.poll 1, .advance 1, .poll 1, .advance 1, .advance 1, .poll 1, .advance 1] ++
      [.arrive 2 (.executeRequest request), .poll 1, .arrive 3 (.executeRequest request)] ++
      List.replicate 6 .work ++ [.poll 1] ++ List.replicate 4 .work ++ [.poll 3] ++
      List.replicate 6 .work
    HotSwap h 0 events ∧ (h.run events).gate.admitted = [0, 2, 1, 3] ∧
      (h.run events).native.trace.filterMap ScriptHost.Event.entry? = [0, 0, 0, 0, 1, 1, 1, 1] := by
  intro h request events
  have honly : ∀ t d, .arrive t d ∈ events → d.exchanges = false := by
    intro t d hd
    obtain ⟨-, rfl⟩ | ⟨-, rfl⟩ | ⟨-, rfl⟩ : t = 1 ∧ d = .rebuild ∨
        t = 2 ∧ d = .executeRequest request ∨ t = 3 ∧ d = .executeRequest request := by
      simpa [events] using hd
    all_goals rfl
  exact ⟨hot_swap (m := ⟨0, _⟩) ⟨_, _, _, _, _, rfl⟩ rfl rfl honly (by decide),
    by decide, by decide⟩

end Host

end ScriptHost
