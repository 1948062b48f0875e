import ScriptHost.Proofs.Host.Frame
import ScriptHost.Proofs.Host.HotSwap
import ScriptHost.Proofs.Module.History

/-!
# The reloads of rebuilds

What the worker behind the gate does for a rebuild: it releases the module that is there, if any,
and asks the loader once (`Native.Reloaded`). The rebuild is told that this went well exactly when
the loader answered with a module (`Host.reloaded_of_answered`). What others do with the slot before
or after makes no difference, so this is a contract of the gate whatever they come with
(`Host.reloads`).
-/

namespace ScriptHost

variable {W : Type}

namespace Native

/-- These events are a release, if there was something to release, and a call of the loader. -/
def Reloaded (path : Path) (made : List Event) (handle : Option Handle) : Prop :=
  ∃ old : Option Handle, made = old.toList.map .unload ++ [.load path handle]

/-- A loader is not called twice in a reload. -/
theorem Reloaded.handle_eq {path : Path} {made : List Event} {handle handle' : Option Handle}
    (h : Reloaded path made handle) (hmem : .load path handle' ∈ made) : handle = handle' := by
  obtain ⟨old, rfl⟩ := h
  cases old <;> simpa [eq_comm] using hmem

/-- A reload that began with `n₀` has made its events, and it ended well exactly if the loader
answered with a module. -/
def EndsReload {α : Type} (path : Path) (n₀ : Native W) (o : Outcome α) (n : Native W) : Prop :=
  ∃ made handle, n.trace = n₀.trace ++ made ∧ Reloaded path made handle ∧
    (o.value?.isSome ↔ handle.isSome)

theorem EndsReload.withWorld {α : Type} {path : Path} {n₀ n : Native W} {o : Outcome α}
    (h : EndsReload path n₀ o n) (world : W) : EndsReload path n₀ o (n.withWorld world) :=
  h

/-- After the release of the module that was in the slot, only the loader is left to be asked. -/
theorem endsReload_install {n₀ n : Native W}
    (htrace : n.trace = n₀.trace ++ n₀.slot.handles.map .unload) (loader : Loader W) (path : Path) :
    n.grows (n.install loader path).2 ∧
      EndsReload path n₀ (n.install loader path).1 (n.install loader path).2 := by
  obtain ⟨houtcome, hinstalled⟩ := install_eq loader path n
  rw [houtcome, hinstalled]
  refine ⟨List.prefix_append _ _, _, (loader path n.world).1.value?.map fun _ => n.handles, ?_,
    ⟨n₀.slot.loaded.map LoadedModule.handle, rfl⟩, ?_⟩
  · rw [← List.append_assoc]
    cases hloaded : n₀.slot.loaded <;> simp [htrace, Slot.handles, hloaded]
  · cases (loader path n.world).1 <;> simp [Outcome.map, Outcome.value?]

theorem grows_unload (n : Native W) : n.grows n.unload := by
  rw [grows, unload_eq]
  exact List.prefix_append _ _

/-- A reload releases the module in the slot and asks the loader once. -/
theorem endsReload_reloading (n₀ : Native W) (loader : Loader W) (path : Path) :
    Meets grows (EndsReload path n₀) (reloading loader path) n₀ := by
  refine fun world => ⟨grows_unload _, fun world' => ⟨grows_unload _, fun world'' => ?_⟩⟩
  have hempty : ((n₀.withWorld world).unload.withWorld world').slot.loaded = none :=
    loaded_unload _
  -- Whatever happens outside, the second release does nothing.
  have htrace : ((n₀.withWorld world).unload.withWorld world').unload.trace
      = n₀.trace ++ n₀.slot.handles.map .unload := by
    rw [unload_of_loaded_eq_none hempty]
    exact congrArg Native.trace (unload_eq _)
  obtain ⟨hgrown, hends⟩ := endsReload_install
    (n := ((n₀.withWorld world).unload.withWorld world').unload.withWorld world'') htrace loader
    path
  exact ⟨hgrown, hends.withWorld⟩

/-- A load does the same. -/
theorem endsReload_loading (n₀ : Native W) (loader : Loader W) (path : Path) :
    Meets grows (EndsReload path n₀) (loading loader path) n₀ := by
  refine fun world => ⟨grows_unload _, fun world' => ?_⟩
  have htrace : ((n₀.withWorld world).unload.withWorld world').trace
      = n₀.trace ++ n₀.slot.handles.map .unload := congrArg Native.trace (unload_eq _)
  obtain ⟨hgrown, hends⟩ := endsReload_install htrace loader path
  exact ⟨hgrown, hends.withWorld⟩

/-- A reload none of whose loads failed has loaded a module. -/
theorem Reloaded.exists_handle {path : Path} {made : List Event} {handle : Option Handle}
    (h : Reloaded path made handle) (hloads : ∀ e ∈ made, e.failsToLoad = false) :
    ∃ new, handle = some new := by
  obtain ⟨old, rfl⟩ := h
  have hload := hloads (.load path handle) (by simp)
  cases handle with
  | none => simp [Event.failsToLoad] at hload
  | some new => exact ⟨new, rfl⟩

end Native

/-! ### The contract -/

namespace Host

variable {rebuilds : Ticket → Prop} {path : Path} {as : List (Gate.Act (Native W))}
  {ts : List Ticket} {t u : Ticket} {n : Native W}

/-- For each rebuild among those admitted the acts of one reload were done, and no acts for whom was
not admitted. -/
structure Reloaded (rebuilds : Ticket → Prop) (path : Path) (as : List (Gate.Act (Native W)))
    (ts : List Ticket) : Prop where
  acted : ∀ a ∈ as, a.ticket ∈ ts
  reloaded : ∀ t ∈ ts, rebuilds t → ∃ handle, Native.Reloaded path (madeBy as t) handle

/-- The operation of a caller is in flight. If it is a reload, it began with `n₀`. -/
structure Reloading (rebuilds : Ticket → Prop) (path : Path) (as : List (Gate.Act (Native W)))
    (ts : List Ticket) (t : Ticket) (w : Work (Native W) Reply) (n : Native W) : Prop where
  new : t ∉ ts
  acted : ∀ a ∈ as, a.ticket ∈ ts ∨ a.ticket = t
  reloaded : ∀ t ∈ ts, rebuilds t → ∃ handle, Native.Reloaded path (madeBy as t) handle
  left : rebuilds t → ∃ n₀ : Native W, n.trace = n₀.trace ++ madeBy as t ∧
    Native.Meets Native.grows (Native.EndsReload path n₀) w n

/-- What is known of the result of a rebuild at the gate. -/
def ReloadResult (path : Path) (as : List (Gate.Act (Native W))) (t : Ticket)
    (r : Except Failure Reply) : Prop :=
  ∃ handle, .load path handle ∈ madeBy as t ∧ (r.toOption.isSome ↔ handle.isSome)

theorem Reloading.act {change : Native W → Native W} {next : Native W → Work (Native W) Reply}
    (h : Reloading rebuilds path as ts t (.act change next) n) :
    Reloading rebuilds path (as ++ [⟨t, n, change n⟩]) ts t (next n) (change n) := by
  refine ⟨h.new, ?_, fun u hu hr => ?_, fun hr => ?_⟩
  · intro a ha
    rcases List.mem_append.mp ha with ha | ha
    · exact h.acted a ha
    · exact .inr (List.mem_singleton.mp ha ▸ rfl)
  · rw [madeBy_concat_of_ne as fun htu : t = u => h.new (htu ▸ hu)]
    exact h.reloaded u hu hr
  · obtain ⟨n₀, hmade, hleft⟩ := h.left hr
    obtain ⟨hgrown, hnext⟩ := hleft n.world
    refine ⟨n₀, ?_, hnext⟩
    rw [madeBy_concat_self as ⟨t, n, change n⟩, ← List.append_assoc, ← hmade]
    exact (trace_append_madeIn ⟨t, n, change n⟩ hgrown).symm

/-- The end of the operation in flight. -/
theorem Reloading.done {outcome : Outcome Reply}
    (h : Reloading rebuilds path as ts t (.done outcome) n) :
    Reloaded rebuilds path as (ts ++ [t]) ∧
      (rebuilds t → ReloadResult path as t outcome.toExcept) := by
  have hmade : rebuilds t → ∃ handle, Native.Reloaded path (madeBy as t) handle ∧
      (outcome.value?.isSome ↔ handle.isSome) := by
    intro hr
    obtain ⟨n₀, hmade, hleft⟩ := h.left hr
    obtain ⟨made, handle, htrace, hreloaded, hend⟩ := hleft n.world
    obtain rfl : madeBy as t = made := List.append_cancel_left (hmade.symm.trans htrace)
    exact ⟨handle, hreloaded, hend⟩
  refine ⟨⟨fun a ha => by simpa using h.acted a ha, fun u hu hr => ?_⟩, fun hr => ?_⟩
  · rcases List.mem_append.mp hu with hu | hu
    · exact h.reloaded u hu hr
    · obtain rfl := List.mem_singleton.mp hu
      exact (hmade hr).imp fun _ => And.left
  · obtain ⟨handle, ⟨old, heq⟩, hend⟩ := hmade hr
    refine ⟨handle, by simp [heq], ?_⟩
    rw [← hend]
    cases outcome <;> simp [Outcome.toExcept, Outcome.value?, Except.toOption]

/-- **The contract of reloads**: whatever others come with, a rebuild comes with a reload, and what
is done for it are the acts of this reload. -/
def reloads (rebuilds : Ticket → Prop) (loader : Loader W) (path : Path) :
    Gate.Contract (Native W) Reply where
  allowed t op := rebuilds t → op = passing (Native.reloading loader path)
  rest as ts _ := Reloaded rebuilds path as ts
  going as ts t w n := Reloading rebuilds path as ts t w n
  ended as _ t r := rebuilds t → ReloadResult path as t r
  enter := by
    intro as ts t w n hs hop ht
    have hnothing : madeBy as t = [] := madeBy_eq_nil fun a ha hat => ht (hat ▸ hs.acted a ha)
    refine ⟨ht, fun a ha => .inl (hs.acted a ha), hs.reloaded,
      fun hr => ⟨n, by simp [hnothing], ?_⟩⟩
    obtain rfl : w = _ := Operation.work.inj (hop hr)
    refine Native.Meets.bind_return ((n.endsReload_reloading loader path).mono (fun _ _ => id) ?_)
    rintro o n' ⟨made, handle, htrace, hreloaded, hend⟩
    refine ⟨made, handle, htrace, hreloaded, ?_⟩
    rw [← hend]
    cases o <;> simp [Outcome.map, Outcome.value?]
  glance := by
    intro as ts t f n hs hop _
    have hno : ¬ rebuilds t := fun hr => by simpa [passing] using hop hr
    refine ⟨⟨fun a ha => List.mem_append_left _ (hs.acted a ha), fun u hu hr => ?_⟩,
      fun hr => absurd hr hno⟩
    rcases List.mem_append.mp hu with hu | hu
    · exact hs.reloaded u hu hr
    · exact absurd (List.mem_singleton.mp hu ▸ hr) hno
  act h := h.act
  done h := h.done
  later := by
    intro as _ t r a h hr
    obtain ⟨handle, hmem, hend⟩ := h hr
    refine ⟨handle, ?_, hend⟩
    by_cases hat : a.ticket = t
    · subst hat
      rw [madeBy_concat_self]
      exact List.mem_append_left _ hmem
    · rwa [madeBy_concat_of_ne as hat]

/-- Whether or not an operation is in flight, acts were done only for those admitted, and for each
rebuild among them whose operation has ended those of one reload. -/
theorem reloaded_of_keeps {loader : Loader W} {g : Gate (Native W) Reply}
    (hk : Gate.Keeps (reloads rebuilds loader path) as g) :
    (∀ a ∈ as, a.ticket ∈ g.admitted) ∧ ∀ t ∈ g.admitted, rebuilds t → ¬ g.InFlight t →
      ∃ handle, Native.Reloaded path (madeBy as t) handle := by
  rcases hk.rest_or_going with hs | ⟨ts, u, w, hw, hadmitted, hs⟩
  · exact ⟨hs.acted, fun t ht hr _ => hs.reloaded t ht hr⟩
  · have hu : g.InFlight u := Option.isSome_of_mem hw
    rw [hadmitted]
    refine ⟨fun a ha => by simpa using hs.acted a ha, fun t ht hr hflight => ?_⟩
    rcases List.mem_append.mp ht with ht | ht
    · exact hs.reloaded t ht hr
    · exact absurd (List.mem_singleton.mp ht ▸ hu) hflight

/-! ### In a run -/

section

variable (settings : Settings) (moduleConfig : Option Bytes) (platform : Platform W) (world : W)
  (events : List Event)

/-- Every run of a host keeps the contract. -/
theorem keeps_reloads :
    let h := init settings moduleConfig platform world
    Gate.Keeps (reloads (h.run events).Rebuilds platform.load settings.module.path)
      (h.actsOf events) (h.run events).gate := by
  intro h
  have hbegun : Gate.Keeps (reloads (h.run events).Rebuilds platform.load settings.module.path) []
      h.gate := .init ⟨by simp, by simp⟩
  refine keeps_run (fun _ _ _ _ hs => hs) ?_ ?_ hbegun
  · intro as ts t w n world' hs
    refine ⟨hs.new, hs.acted, hs.reloaded, fun hr => ?_⟩
    obtain ⟨n₀, hmade, hleft⟩ := hs.left hr
    exact ⟨n₀, hmade, hleft.withWorld world'⟩
  · intro before e after t op heq hop _ hr
    have hsame := h.sameSetup_run before
    cases hop with
    | reload _ =>
        rw [reloading, hsame.platform, hsame.settings]
        rfl
    | @demand _ d _ hnew hop =>
        by_cases hd : d = .rebuild
        · subst hd
          simp [operation?] at hop
        · refine absurd ?_ hr
          rw [heq, run_append]
          exact phase_run_of_arrival hnew hd after

/-- Nothing is done behind the gate for whom nothing was submitted. -/
theorem madeBy_eq_nil_of_absent {t : Ticket}
    (ht : ((init settings moduleConfig platform world).run events).gate.phase t = .absent) :
    madeBy ((init settings moduleConfig platform world).actsOf events) t = [] ∧
      t ∉ ((init settings moduleConfig platform world).run events).gate.admitted := by
  have hk := keeps_reloads settings moduleConfig platform world events
  have hnot : t ∉ ((init settings moduleConfig platform world).run events).gate.admitted := by
    intro hadmitted
    simpa [ht, Gate.Phase.isEarly] using hk.orderly.not_early t hadmitted
  exact ⟨madeBy_eq_nil fun a ha hat => hnot (hat ▸ (reloaded_of_keeps hk).1 a ha), hnot⟩

/-- **The answer that a rebuild gets from the gate** tells how its one reload went. -/
theorem reloaded_of_answered {t : Ticket} {r : Except Failure Reply}
    (hr : ((init settings moduleConfig platform world).run events).Rebuilds t)
    (ht : ((init settings moduleConfig platform world).run events).gate.phase t = .answered r) :
    let h := init settings moduleConfig platform world
    (h.run events).gate.admitted.count t = 1 ∧
      ∃ handle, Native.Reloaded settings.module.path (madeBy (h.actsOf events) t) handle ∧
        (r.toOption.isSome ↔ handle.isSome) := by
  intro h
  have hk := keeps_reloads settings moduleConfig platform world events
  obtain ⟨ts, us, hadmitted, hended⟩ := hk.ended t r (.inr ht)
  have hmem : t ∈ (h.run events).gate.admitted := by simp [h, hadmitted]
  have hflight : ¬ (h.run events).gate.InFlight t := by
    simp [h, Gate.InFlight, ht, Gate.Phase.work?]
  obtain ⟨handle, hreloaded⟩ := (reloaded_of_keeps hk).2 t hmem hr hflight
  obtain ⟨handle', hload, hresult⟩ := hended hr
  obtain rfl := hreloaded.handle_eq hload
  exact ⟨List.count_eq_one_of_mem hk.orderly.nodup_admitted hmem, handle, hreloaded, hresult⟩

end

end Host

end ScriptHost
