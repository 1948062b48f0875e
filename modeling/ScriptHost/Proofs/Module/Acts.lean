import ScriptHost.Proofs.Module.Answers

/-!
# The operations on the slot, act by act

What the acts of a load, a reload or an execution do, in whatever way the world outside changes
between two of them. `Native.Meets` states this for work of any kind: each act keeps a promise, and
at the end something is true. The slot and the trace are nobody else's while an operation is under
way, so what is known of them lasts from one act to the next.

All operations are described by what they have `made` of the trace since they began
(`Native.Since`). That this is lawful is what the host as a whole needs; that an execution enters
only the module it found (`Native.meets_invoking`), and that a reload makes no entry and leaves the
module it loaded (`Native.meets_reloading`), is what clients see of it.
-/

namespace ScriptHost

variable {W α β : Type}

/-- The modules in the slot. -/
def Slot.handles (s : Slot W) : List Handle :=
  s.loaded.toList.map LoadedModule.handle

namespace Native

/-- What is live in view of the slot, with these instances. -/
def live (n : Native W) (instances : List (Handle × Instance)) : Live :=
  ⟨n.slot.handles, instances, n.handles⟩

/-- With the world in another state. -/
def withWorld (n : Native W) (world : W) : Native W :=
  { n with world := world }

/-! ### Work in a changing world -/

/-- Others may change the world before each act and at the end. Each act keeps the promise, and in
the end the condition is met. -/
def Meets (promise : Native W → Native W → Prop) (post : Outcome α → Native W → Prop) :
    Work (Native W) α → Native W → Prop
  | .done outcome, n => ∀ world, post outcome (n.withWorld world)
  | .act change rest, n => ∀ world,
    promise (n.withWorld world) (change (n.withWorld world)) ∧
      Meets promise post (rest (n.withWorld world)) (change (n.withWorld world))

namespace Meets

variable {promise promise' : Native W → Native W → Prop} {post post' : Outcome α → Native W → Prop}
  {w : Work (Native W) α} {n : Native W}

/-- A change of the world is what the work is prepared for. -/
theorem withWorld (h : Meets promise post w n) (world : W) :
    Meets promise post w (n.withWorld world) := by
  cases w with
  | done outcome => exact h
  | act change rest => exact h

/-- What is met in a changing world is met in one go. -/
theorem run (h : Meets promise post w n) : post (w.run n).1 (w.run n).2 := by
  induction w generalizing n with
  | done outcome => exact h n.world
  | act change rest ih => exact ih _ (h n.world).2

/-- In one go, a relation holds from the beginning to the end that every promise carries back from
where an act leads to where it began. -/
theorem run_trans {R : Native W → Native W → Prop} (h : Meets promise post w n)
    (hrefl : ∀ n, R n n) (htrans : ∀ n₁ n₂ n₃, promise n₁ n₂ → R n₂ n₃ → R n₁ n₃) :
    R n (w.run n).2 := by
  induction w generalizing n with
  | done outcome => exact hrefl n
  | act change rest ih => exact htrans _ _ _ (h n.world).1 (ih _ (h n.world).2)

theorem mono (h : Meets promise post w n) (hpromise : ∀ n n', promise n n' → promise' n n')
    (hpost : ∀ o n, post o n → post' o n) : Meets promise' post' w n := by
  induction w generalizing n with
  | done outcome => exact fun world => hpost _ _ (h world)
  | act change rest ih => exact fun world => ⟨hpromise _ _ (h world).1, ih _ (h world).2⟩

/-- Work after work: the first leads to where the second begins, or to the end of both. -/
theorem bind {post : Outcome β → Native W → Prop} {k : α → Work (Native W) β}
    (h : Meets promise (fun o n => match o with
      | .ok a => Meets promise post (k a) n
      | .failed e => post (.failed e) n
      | .panicked => post .panicked n) w n) : Meets promise post (w >>= k) n := by
  induction w generalizing n with
  | done outcome =>
      cases outcome with
      | ok a => exact h n.world
      | failed e => exact h
      | panicked => exact h
  | act change rest ih => exact fun world => ⟨(h world).1, ih _ (h world).2⟩

/-- Work whose value is made something else of. -/
theorem bind_return {post : Outcome β → Native W → Prop} {f : α → β}
    (h : Meets promise (fun o n => post (o.map f) n) w n) :
    Meets promise post (do let a ← w; return f a) n := by
  induction w generalizing n with
  | done outcome => cases outcome <;> exact h
  | act change rest ih => exact fun world => ⟨(h world).1, ih _ (h world).2⟩

/-- A single act, and what follows it. -/
theorem ask_bind {post : Outcome β → Native W → Prop} {f : Native W → α × Native W}
    {k : α → Work (Native W) β}
    (h : ∀ world, promise (n.withWorld world) (f (n.withWorld world)).2 ∧
      Meets promise post (k (f (n.withWorld world)).1) (f (n.withWorld world)).2) :
    Meets promise post (.ask f >>= k) n :=
  h

end Meets

/-! ### What was made of the trace -/

/-- An operation that began with `n₀` has made these events, all of one kind, and instances are
live that it has not yet destroyed. -/
structure Since (kind : Event → Prop) (n₀ : Native W) (made : List Event)
    (instances : List (Handle × Instance)) (n : Native W) : Prop where
  trace : n.trace = n₀.trace ++ made
  of_kind : ∀ e ∈ made, kind e
  lawful : Lawful (n₀.live []) made (n.live instances)

namespace Since

variable {kind : Event → Prop} {n₀ n n' : Native W} {made : List Event}
  {instances : List (Handle × Instance)} {e : Event}

/-- An operation that begins has made nothing. -/
theorem begin (n : Native W) : Since kind n [] [] n :=
  ⟨(List.append_nil _).symm, by simp, .nil _⟩

/-- The world has no part in it. -/
theorem withWorld (h : Since kind n₀ made instances n) (world : W) :
    Since kind n₀ made instances (n.withWorld world) :=
  ⟨h.trace, h.of_kind, h.lawful⟩

/-- One more event. -/
theorem concat (h : Since kind n₀ made instances n) {instances' : List (Handle × Instance)}
    (hkind : kind e) (hallowed : e.Allowed (n.live instances))
    (htrace : n'.trace = n.trace ++ [e])
    (hlive : (n.live instances).after e = n'.live instances') :
    Since kind n₀ (made ++ [e]) instances' n' where
  trace := by rw [htrace, h.trace, List.append_assoc]
  of_kind := by
    intro f hf
    rcases List.mem_append.mp hf with hf | hf
    · exact h.of_kind f hf
    · exact List.mem_singleton.mp hf ▸ hkind
  lawful := hlive ▸ h.lawful.concat hallowed

end Since

/-! ### Executions -/

/-- An event enters the module in the slot. -/
def Enters (n : Native W) (e : Event) : Prop :=
  ∃ m, n.slot.loaded = some m ∧ e.entry? = some m.handle

/-- An execution that began with `n₀` has left the slot alone and entered only the module in it. -/
structure Executing (n₀ : Native W) (instances : List (Handle × Instance)) (n : Native W) :
    Prop where
  slot : n.slot = n₀.slot
  since : ∃ made, Since n₀.Enters n₀ made instances n

/-- What the acts of an execution promise. -/
def executes (n₀ n n' : Native W) : Prop :=
  n.trace <+: n'.trace ∧ ∃ instances, Executing n₀ instances n'

namespace Executing

variable {n₀ n : Native W} {instances : List (Handle × Instance)} {m : LoadedModule W}
  {i : Instance}

theorem begin (n : Native W) : Executing n [] n :=
  ⟨rfl, [], .begin n⟩

theorem withWorld (h : Executing n₀ instances n) (world : W) :
    Executing n₀ instances (n.withWorld world) :=
  ⟨h.slot, h.since.imp fun _ hmade => hmade.withWorld world⟩

/-- One more entry, and what follows it. -/
theorem ask_bind {f : Native W → α × Native W} {k : α → Work (Native W) β}
    {post : Outcome β → Native W → Prop} (h : Executing n₀ instances n)
    (hm : n.slot.loaded = some m) (entry : α → Event)
    (hf : ∀ n, EntryMade m (entry (f n).1) n (f n).2)
    (instances' : α → List (Handle × Instance))
    (hlawful : ∀ a next, (entry a).Allowed ⟨[m.handle], instances, next⟩ ∧
      (Live.after ⟨[m.handle], instances, next⟩ (entry a)).instances = instances' a)
    (hk : ∀ a n', n'.slot.loaded = some m → Executing n₀ (instances' a) n' →
      Meets (executes n₀) post (k a) n') :
    Meets (executes n₀) post (.ask f >>= k) n := by
  refine .ask_bind fun world => ?_
  have hmade := hf (n.withWorld world)
  have hentry := hmade.answered.entry?
  obtain ⟨hallowed, hinstances⟩ := hlawful (f (n.withWorld world)).1 (n.withWorld world).handles
  obtain ⟨made, hsince⟩ := (h.withWorld world).since
  have hhandles : (n.withWorld world).slot.handles = [m.handle] := by
    simp [Native.withWorld, Slot.handles, hm]
  have hlive : (n.withWorld world).live instances
      = ⟨[m.handle], instances, (n.withWorld world).handles⟩ := by
    rw [Native.live, hhandles]
  have hnow : Executing n₀ (instances' (f (n.withWorld world)).1) (f (n.withWorld world)).2 := by
    refine ⟨hmade.slot.trans h.slot, made ++ [entry (f (n.withWorld world)).1],
      hsince.concat ⟨m, h.slot ▸ hm, hentry⟩ (hlive ▸ hallowed) hmade.trace ?_⟩
    rw [hlive, Native.live, hmade.slot, hhandles, hmade.handles]
    obtain ⟨hsame, hcount⟩ := Live.modules_after_of_entry hentry
      ⟨[m.handle], instances, (n.withWorld world).handles⟩
    exact Live.ext hsame hinstances hcount
  exact ⟨⟨⟨_, hmade.trace.symm⟩, _, hnow⟩, hk _ _ (by rw [hmade.slot]; exact hm) hnow⟩

/-- The source is run and the status asked for. -/
theorem runningSource (h : Executing n₀ [(m.handle, i)] n) (hm : n.slot.loaded = some m)
    (request : Request) :
    Meets (executes n₀) (fun o n => (∃ a, o = .ok a) ∧ Executing n₀ [(m.handle, i)] n)
      (runningSource m i request) n := by
  refine h.ask_bind hm (fun answer => .call m.handle i _ answer.1 answer.2)
    (entryMade_call m i request) (fun _ => [(m.handle, i)])
    (fun _ _ => ⟨⟨rfl, rfl⟩, rfl⟩) fun called n' hm' hcalled => ?_
  refine hcalled.ask_bind hm' (fun answer => .status m.handle i answer.1 answer.2)
    (entryMade_status m i) (fun _ => [(m.handle, i)])
    (fun _ _ => ⟨⟨rfl, rfl⟩, rfl⟩) fun asked n'' hm'' hasked => ?_
  exact fun world => ⟨⟨_, rfl⟩, hasked.withWorld world⟩

/-- The instance is used, in whatever way, and it is still there. -/
theorem usingInstance (h : Executing n₀ [(m.handle, i)] n) (hm : n.slot.loaded = some m)
    (request : Request) (config : Option Bytes) :
    Meets (executes n₀) (fun o n => (∃ a, o = .ok a) ∧ Executing n₀ [(m.handle, i)] n)
      (usingInstance m i request config) n := by
  cases config with
  | none => exact h.runningSource hm request
  | some config =>
      refine h.ask_bind hm (fun answer => .loadConfig m.handle i config _ answer.1 answer.2)
        (entryMade_loadConfig m i config) (fun _ => [(m.handle, i)])
        (fun _ _ => ⟨⟨rfl, rfl⟩, rfl⟩) fun configured n' hm' hconfigured => ?_
      split
      · refine .bind ((hconfigured.runningSource hm' request).mono (fun _ _ => id) ?_)
        rintro _ n'' ⟨⟨a, rfl⟩, hran⟩
        exact fun world => ⟨⟨_, rfl⟩, hran.withWorld world⟩
      · exact fun world => ⟨⟨_, rfl⟩, hconfigured.withWorld world⟩

/-- Whether or not there is an instance, in the end there is none. -/
theorem runningOn (h : Executing n₀ [] n) (hm : n.slot.loaded = some m) (request : Request)
    (config : Option Bytes) :
    Meets (executes n₀) (fun o n => o ≠ .failed .notReady ∧ Executing n₀ [] n)
      (runningOn m request config) n := by
  refine h.ask_bind hm (fun answer => .create m.handle _ answer.1 answer.2)
    (entryMade_create m request.timeout.toSingle) (fun answer => answer.2.toList.map (m.handle, ·))
    (fun _ _ => ⟨⟨rfl, rfl⟩, Live.instances_after_create _ _ _ _ _⟩) ?_
  rintro ⟨created, made⟩ n' hm' hcreated
  cases made with
  | none => exact fun world => ⟨by simp, hcreated.withWorld world⟩
  | some i =>
      refine .bind ((hcreated.usingInstance hm' request config).mono (fun _ _ => id) ?_)
      rintro _ n'' ⟨⟨used, rfl⟩, hused⟩
      have hm'' : n''.slot.loaded = some m := by rw [hused.slot, ← h.slot]; exact hm
      refine hused.ask_bind hm'' (fun records => .destroy m.handle i records)
        (entryMade_destroy m i) (fun _ => [])
        (fun _ _ => ⟨⟨rfl, rfl⟩, by simp [Live.after]⟩) fun destroyed n₃ _ hdestroyed => ?_
      exact fun world => ⟨by simp, hdestroyed.withWorld world⟩

end Executing

/-- **An execution enters only the module that it finds**, leaves no instance behind, and is
refused for want of a module only if there is none. -/
theorem meets_invoking (n₀ : Native W) (request : Request) (config : Option Bytes) :
    Meets (executes n₀)
      (fun o n => (o = .failed .notReady → n₀.slot.loaded = none) ∧ Executing n₀ [] n)
      (invoking request config) n₀ := by
  refine .ask_bind fun world => ?_
  have hbegun : Executing n₀ [] (n₀.withWorld world) := (Executing.begin n₀).withWorld world
  refine ⟨⟨List.prefix_refl _, _, hbegun⟩, ?_⟩
  dsimp only
  have hsame : (n₀.withWorld world).slot.loaded = n₀.slot.loaded := rfl
  rw [hsame]
  cases hm : n₀.slot.loaded with
  | none => exact fun world' => ⟨fun _ => rfl, hbegun.withWorld world'⟩
  | some m =>
      dsimp only
      split
      · exact fun world' => ⟨fun h => by simp [tooLarge] at h, hbegun.withWorld world'⟩
      · exact (hbegun.runningOn hm request config).mono (fun _ _ => id)
          fun o n h => ⟨fun ho => absurd ho h.1, h.2⟩

/-! ### Loads and reloads -/

/-- A load, a release or a reload that began with `n₀` has made these events, no entry among
them. -/
def Swapping (n₀ : Native W) (made : List Event) (n : Native W) : Prop :=
  Since (fun e => e.entry? = none) n₀ made [] n

/-- What the acts of a load, a release or a reload promise. -/
def swaps (n₀ n n' : Native W) : Prop :=
  n.trace <+: n'.trace ∧ ∃ made, Swapping n₀ made n'

/-- The last thing that was done since `n₀` was to load the module that is in the slot, or to
fail at it. -/
def Swapped (n₀ n : Native W) : Prop :=
  ∃ made path, Swapping n₀ (made ++ [.load path (n.slot.loaded.map LoadedModule.handle)]) n

namespace Swapping

variable {n₀ n : Native W} {made : List Event}

theorem begin (n : Native W) : Swapping n [] n :=
  Since.begin n

theorem withWorld (h : Swapping n₀ made n) (world : W) : Swapping n₀ made (n.withWorld world) :=
  Since.withWorld h world

/-- After a release the slot is empty. -/
theorem unload (h : Swapping n₀ made n) :
    swaps n₀ n n.unload ∧ n.unload.slot.loaded = none := by
  cases hm : n.slot.loaded with
  | none =>
      have hsame : n.unload = n := by simp [Native.unload, hm]
      rw [hsame]
      exact ⟨⟨List.prefix_refl _, made, h⟩, hm⟩
  | some m =>
      have hhandles : n.slot.handles = [m.handle] := by simp [Slot.handles, hm]
      have htrace : n.unload.trace = n.trace ++ [.unload m.handle] := by
        simp [Native.unload, hm, note]
      have hslot : n.unload.slot.loaded = none := by simp [Native.unload, hm, note]
      refine ⟨⟨⟨_, htrace.symm⟩, made ++ [.unload m.handle], ?_⟩, hslot⟩
      have hcount : n.unload.handles = n.handles := by simp [Native.unload, hm, note]
      refine Since.concat h rfl ⟨hhandles, rfl⟩ htrace ?_
      simp [Native.live, hcount, Slot.handles, hslot, hm, Live.after]

/-- An empty slot gets the module that the loader finds. -/
theorem install (h : Swapping n₀ made n) (hempty : n.slot.loaded = none) (loader : Loader W)
    (path : Path) :
    swaps n₀ n (n.install loader path).2 ∧ Swapped n₀ (n.install loader path).2 := by
  have hhandles : n.slot.handles = [] := by simp [Slot.handles, hempty]
  obtain ⟨handle, htrace, hloaded, hnew, hlive⟩ : ∃ handle,
      (n.install loader path).2.trace = n.trace ++ [.load path handle] ∧
        handle = (n.install loader path).2.slot.loaded.map LoadedModule.handle ∧
        (∀ new ∈ handle, n.handles ≤ new) ∧
        (n.live []).after (.load path handle) = (n.install loader path).2.live [] := by
    unfold Native.install Native.live
    rw [hhandles]
    rcases loader path n.world with ⟨entry | e | -, world⟩ <;>
      exact ⟨_, rfl, rfl, by simp, rfl⟩
  have hmade : Swapping n₀ (made ++ [.load path handle]) (n.install loader path).2 :=
    Since.concat h rfl ⟨hhandles, rfl, hnew⟩ htrace hlive
  exact ⟨⟨⟨_, htrace.symm⟩, _, hmade⟩, made, path, hloaded ▸ hmade⟩

/-- A load in the course of something longer. -/
theorem loading (h : Swapping n₀ made n) (loader : Loader W) (path : Path) :
    Meets (swaps n₀) (fun _ n => Swapped n₀ n) (loading loader path) n := by
  unfold Native.loading unloading
  refine .ask_bind fun world => ?_
  obtain ⟨hunload, hempty⟩ := (h.withWorld world).unload
  obtain ⟨-, made', hmade'⟩ := id hunload
  refine ⟨hunload, fun world' => ?_⟩
  obtain ⟨hinstall, hswapped⟩ := (hmade'.withWorld world').install hempty loader path
  refine ⟨hinstall, fun world'' => ?_⟩
  obtain ⟨made'', path', hmade''⟩ := hswapped
  exact ⟨made'', path', hmade''.withWorld world''⟩

end Swapping

/-- A release makes no entry. -/
theorem meets_unloading (n₀ : Native W) :
    Meets (swaps n₀) (fun _ n => ∃ made, Swapping n₀ made n) unloading n₀ := by
  intro world
  obtain ⟨hunload, -⟩ := ((Swapping.begin n₀).withWorld world).unload
  obtain ⟨-, made, hmade⟩ := id hunload
  exact ⟨hunload, fun world' => ⟨made, hmade.withWorld world'⟩⟩

/-- A load leaves the module it loaded. -/
theorem meets_loading (n₀ : Native W) (loader : Loader W) (path : Path) :
    Meets (swaps n₀) (fun _ n => Swapped n₀ n) (loading loader path) n₀ :=
  (Swapping.begin n₀).loading loader path

/-- **A reload makes no entry and leaves the module it loaded**, unless the loader fails. -/
theorem meets_reloading (n₀ : Native W) (loader : Loader W) (path : Path) :
    Meets (swaps n₀) (fun _ n => Swapped n₀ n) (reloading loader path) n₀ := by
  unfold reloading unloading
  refine .ask_bind fun world => ?_
  obtain ⟨hunload, -⟩ := ((Swapping.begin n₀).withWorld world).unload
  obtain ⟨-, made, hmade⟩ := id hunload
  exact ⟨hunload, hmade.loading loader path⟩

end Native

end ScriptHost
