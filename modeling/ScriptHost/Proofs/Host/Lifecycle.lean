import ScriptHost.Proofs.Host.Contracts

/-!
# The life of modules and instances

Over whole runs of a host, whatever its callers and workers do, and whatever loaders, modules and
commands do in turn: no module is entered that is not there, none goes away under an instance, and
none is forgotten (`Host.run_lifecycle`).

`Host.Lifecycle` says this of the trace alone. What is live at a point of the trace is read off
what came before it (`Live.of`), so nothing in the statement depends on what the host believes.

## Proof idea

The trace is lawful in the sense of `Lawful`: each operation on the slot is, from where it
begins (`Native.meets_invoking`, `Native.meets_reloading`), and the gate lets one operation end
before the next begins. This is a contract of the gate, `Host.tidy`.
-/

namespace ScriptHost

variable {W α : Type}

/-- The trace is lawful; live are the modules in the slot, and these instances. -/
def Native.Tidy (n : Native W) (instances : List (Handle × Instance)) : Prop :=
  Lawful .none n.trace (n.live instances)

/-- What an operation adds to a lawful trace is lawful. -/
theorem Native.Tidy.since {n₀ n : Native W} {kind : Event → Prop} {made : List Event}
    {instances : List (Handle × Instance)} (h₀ : n₀.Tidy [])
    (h : Since kind n₀ made instances n) : n.Tidy instances := by
  rw [Native.Tidy, h.trace]
  exact h₀.append h.lawful

namespace Host

/-- The life of modules and instances up to now. -/
structure Lifecycle (h : Host W) : Prop where
  /-- **No use after release**: an entry goes to the one module that is live. -/
  entered : ∀ before e after handle, h.native.trace = before ++ e :: after →
    e.entry? = some handle → (Live.of before).handles = [handle]
  /-- At most one instance is live. -/
  alone : ∀ before after, h.native.trace = before ++ after →
    (Live.of before).instances.length ≤ 1
  /-- No module comes or goes while an instance is live. -/
  unused : ∀ before e after, h.native.trace = before ++ e :: after →
    e.isExchange → (Live.of before).instances = []
  /-- The loader is called only when no module is live. -/
  vacant : ∀ before path handle after, h.native.trace = before ++ .load path handle :: after →
    (Live.of before).handles = []
  /-- Modules are told apart: no number is given to two of them. -/
  distinct : (h.native.trace.filterMap ScriptHost.Event.loaded?).Nodup
  /-- With no operation in flight, all instances are destroyed, and all modules are released but
  the one that makes the host ready. -/
  settled : (∀ t, ¬ h.gate.InFlight t) →
    h.native.trace.countP Event.creates = h.native.trace.countP Event.destroys ∧
      h.native.trace.countP Event.loads
        = h.native.trace.countP Event.unloads + h.native.slot.ready.toNat

/-! ### Tidy operations -/

/-- Work that is tidy in all its acts, and leaves no instance. -/
def TidyWork (w : Work (Native W) α) : Prop :=
  ∀ n : Native W, n.Tidy [] →
    Native.Meets (fun _ n' => ∃ instances, n'.Tidy instances) (fun _ n' => n'.Tidy []) w n

/-- An operation that is tidy. A glance is. -/
def TidyOperation : Operation (Native W) Reply → Prop
  | .work w => TidyWork w
  | .glance _ => True

/-- Work stays tidy when its answer is made into another. -/
theorem TidyWork.bind_return {β : Type} {w : Work (Native W) α} (hw : TidyWork w) (f : α → β) :
    TidyWork (do let a ← w; return f a) :=
  fun n hn => (hw n hn).bind_return

/-- An execution is tidy. -/
theorem tidy_invoking (request : Request) (config : Option Bytes) :
    TidyWork (Native.invoking (W := W) request config) := by
  intro n hn
  refine (n.meets_invoking request config).mono ?_ ?_
  · rintro _ _ ⟨-, instances, h⟩
    obtain ⟨made, hmade⟩ := h.since
    exact ⟨instances, hn.since hmade⟩
  · rintro _ _ ⟨-, h⟩
    obtain ⟨made, hmade⟩ := h.since
    exact hn.since hmade

/-- Loads, releases and reloads are tidy. -/
theorem tidy_of_swaps {w : Work (Native W) α} {post : Native W → Outcome α → Native W → Prop}
    (hw : ∀ n, Native.Meets n.swaps (post n) w n)
    (hpost : ∀ n o n', post n o n' → ∃ made, Native.Swapping n made n') : TidyWork w := by
  intro n hn
  refine (hw n).mono ?_ ?_
  · rintro _ _ ⟨-, made, hmade⟩
    exact ⟨[], hn.since hmade⟩
  · intro o n' h
    obtain ⟨made, hmade⟩ := hpost n o n' h
    exact hn.since hmade

/-- What the gate does for work of the slot is as tidy as the work. -/
theorem tidy_passing {w : Work (Native W) Unit} (hw : TidyWork w) : TidyOperation (passing w) :=
  hw.bind_return fun _ => Reply.done

/-- A load is tidy. -/
theorem tidy_loading (h : Host W) (path : Path) : TidyOperation (h.loading path) :=
  tidy_passing (tidy_of_swaps (fun n => n.meets_loading h.platform.load path)
    fun _ _ _ ⟨_, _, hmade⟩ => ⟨_, hmade⟩)

/-- A reload is. -/
theorem tidy_reloading (h : Host W) (path : Path) : TidyOperation (h.reloading path) :=
  tidy_passing (tidy_of_swaps (fun n => n.meets_reloading h.platform.load path)
    fun _ _ _ ⟨_, _, hmade⟩ => ⟨_, hmade⟩)

/-- An unload is. -/
theorem tidy_unloading : TidyOperation (unloading (W := W)) :=
  tidy_passing (tidy_of_swaps Native.meets_unloading fun _ _ _ h => h)

/-- An execution is tidy with all that the host does around it. -/
theorem tidy_executing (h : Host W) (request : Request) : TidyOperation (h.executing request) :=
  (tidy_invoking request h.moduleConfig).bind_return _

/-- A visit does nothing. -/
theorem tidy_visit (outcome : Outcome Unit) :
    TidyOperation (passing (.task fun n : Native W => (outcome, n))) :=
  tidy_passing fun _ hn _ => ⟨⟨[], hn⟩, fun _ => hn⟩

/-- All that a host submits is tidy. -/
theorem Submits.tidy {h : Host W} {e : Event} {t : Ticket} {op : Operation (Native W) Reply}
    (hop : h.Submits e t op) : TidyOperation op := by
  cases hop with
  | reload _ => exact h.tidy_reloading _
  | @demand _ d _ _ hop =>
      cases d with
      | start | load _ => exact Option.some.inj hop ▸ h.tidy_loading _
      | unload => exact Option.some.inj hop ▸ tidy_unloading
      | reload _ => exact Option.some.inj hop ▸ h.tidy_reloading _
      | executeRequest request => exact Option.some.inj hop ▸ h.tidy_executing request
      | ready => exact Option.some.inj hop ▸ trivial
      | visit outcome => exact Option.some.inj hop ▸ tidy_visit outcome
      | rebuild => simp [operation?] at hop
      | execute language source timeout =>
          cases hr : h.requestFor language source timeout with
          | ok request =>
              obtain rfl : h.executing request = op := by simpa [operation?, hr] using hop
              exact h.tidy_executing request
          | error e => simp [operation?, hr] at hop

/-! ### The contract -/

/-- Between two operations the trace is lawful and no instance is live; in the middle of one it is
lawful, and what is left is tidy. -/
def tidy : Gate.Contract (Native W) Reply where
  allowed _ := TidyOperation
  rest _ _ n := n.Tidy []
  going _ _ _ w n := (∃ instances, n.Tidy instances) ∧
    Native.Meets (fun _ n' => ∃ instances, n'.Tidy instances) (fun _ n' => n'.Tidy []) w n
  ended _ _ _ _ := True
  enter hn hop _ := ⟨⟨[], hn⟩, hop _ hn⟩
  glance hn _ _ := ⟨hn, trivial⟩
  act h := h.2 _
  done h := ⟨h.2 _, trivial⟩
  later _ := trivial

/-- Every run of a host keeps the contract. -/
theorem keeps_tidy (settings : Settings) (moduleConfig : Option Bytes) (platform : Platform W)
    (world : W) (events : List Event) :
    ∃ as, Gate.Keeps tidy as ((init settings moduleConfig platform world).run events).gate :=
  ⟨_, keeps_run (c := tidy) (fun _ _ _ _ => id)
    (fun _ _ _ _ _ world hgo => ⟨hgo.1, hgo.2.withWorld world⟩)
    (fun _ _ _ _ _ _ hop _ => hop.tidy) (Gate.Keeps.init (.nil _))⟩

/-- The trace is lawful at any time, whether or not an operation is in flight. -/
theorem exists_tidy {as : List (Gate.Act (Native W))} {g : Gate (Native W) Reply}
    (hk : Gate.Keeps tidy as g) : ∃ instances, g.state.Tidy instances := by
  rcases hk.rest_or_going with hrest | ⟨ts, t, w, -, -, hgoing⟩
  · exact ⟨[], hrest⟩
  · exact hgoing.1

/-- **Modules and instances live as they should**, in every run of every host. -/
theorem run_lifecycle (settings : Settings) (moduleConfig : Option Bytes) (platform : Platform W)
    (world : W) (events : List Event) :
    Lifecycle ((init settings moduleConfig platform world).run events) := by
  obtain ⟨as, hk⟩ := keeps_tidy settings moduleConfig platform world events
  generalize (init settings moduleConfig platform world).run events = h at hk
  obtain ⟨instances, hn⟩ : ∃ instances, h.native.Tidy instances := exists_tidy hk
  have hallowed : ∀ {before : List ScriptHost.Event} {e after},
      h.native.trace = before ++ e :: after → e.Allowed (Live.of before) := by
    intro before e after htrace
    rw [Native.Tidy, htrace] at hn
    exact hn.allowed_of_split
  refine ⟨?_, ?_, ?_, fun before path handle after htrace => (hallowed htrace).1,
    hn.nodup_loaded, ?_⟩
  · intro before e after handle htrace hentry
    have he := hallowed htrace
    cases e <;> simp_all [Event.entry?, Event.Allowed]
  · intro before after htrace
    rw [Native.Tidy, htrace] at hn
    exact hn.of_append.length_instances_le (by simp [Live.none])
  · intro before e after htrace hexchange
    have he := hallowed htrace
    cases e <;> simp_all [Event.isExchange, Event.Allowed]
  · intro hidle
    have hrest : h.native.Tidy [] := hk.rest hidle
    obtain ⟨hinstances, hhandles⟩ := hrest.length_eq
    have hready : h.native.slot.handles.length = h.native.slot.ready.toNat := by
      cases hm : h.native.slot.loaded <;> simp [Slot.handles, Slot.ready, hm]
    simp only [Live.none, Native.live, List.length_nil] at hinstances hhandles
    omega

end Host

end ScriptHost
