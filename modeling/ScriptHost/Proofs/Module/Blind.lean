import ScriptHost.Platform
import ScriptHost.Proofs.Module.History

/-!
# Work that sees a part of the world

A view is all that a loader and the modules it finds have to do with of the world outside. In two
worlds that look the same they answer the same and leave worlds that look the same
(`Loader.Respects`); then so does every operation on the slot, act by act (`Native.Blind`): what it
finds, what it notes in the trace, and what it has still to do.

What there is of the world besides may be different in the two, and may change at any time.
-/

namespace ScriptHost

variable {W V α β : Type} {view : W → V}

/-! ### Views -/

/-- What is done in worlds that look the same has the same answer, and leaves worlds that look the
same. -/
def Looks (view : W → V) (f : W → α × W) : Prop :=
  ∀ w w', view w = view w' → (f w).1 = (f w').1 ∧ view (f w).2 = view (f w').2

/-- Entry points that have to do with nothing but the view. -/
structure EntryPoints.Respects (e : EntryPoints W) (view : W → V) : Prop where
  create : ∀ maxRuntime, Looks view (e.create maxRuntime)
  destroy : ∀ i, Looks view (e.destroy i)
  loadConfig : ∀ i content length, Looks view (e.loadConfig i content length)
  call : ∀ i arguments, Looks view (e.call i arguments)
  status : ∀ i, Looks view (e.status i)

/-- A loader that has to do with nothing but the view, nor have the modules that it finds. -/
structure Loader.Respects (loader : Loader W) (view : W → V) : Prop where
  looks : ∀ path, Looks view (loader path)
  modules : ∀ path w e, (loader path w).1 = .ok e → e.Respects view

/-! ### Parts -/

section

variable {S : Type} (part : Part W S) (hget : ∀ s w, part.get (part.set s w) = s)

include hget

/-- What is done to a part has to do with nothing but the part. -/
theorem Part.looks_lift (f : S → α × S) : Looks part.get (part.lift f) := by
  intro w w' hw
  simp [lift, hw, hget]

/-- Entry points that work on a part of the world have to do with nothing but the part. -/
theorem Part.respects_liftEntryPoints (e : EntryPoints S) :
    (part.liftEntryPoints e).Respects part.get where
  create _ := part.looks_lift hget _
  destroy _ := part.looks_lift hget _
  loadConfig _ _ _ := part.looks_lift hget _
  call _ _ := part.looks_lift hget _
  status _ := part.looks_lift hget _

/-- Nor does a loader that works on a part, nor do the modules that it finds. -/
theorem Part.respects_liftLoader (l : Loader S) : (part.liftLoader l).Respects part.get where
  looks path w w' hw := by
    obtain ⟨hanswer, hafter⟩ := part.looks_lift hget (l path) w w' hw
    exact ⟨congrArg (Outcome.map part.liftEntryPoints) hanswer, hafter⟩
  modules path w e he := by
    cases hloaded : (l path (part.get w)).1 with
    | ok e' =>
        obtain rfl : part.liftEntryPoints e' = e := by
          simpa [liftLoader, lift, hloaded, Outcome.map] using he
        exact part.respects_liftEntryPoints hget e'
    | failed _ | panicked => simp [liftLoader, lift, hloaded, Outcome.map] at he

end

namespace Native

/-- The same, but for what is not in view. -/
structure Alike (view : W → V) (n n' : Native W) : Prop where
  slot : n.slot = n'.slot
  trace : n.trace = n'.trace
  handles : n.handles = n'.handles
  world : view n.world = view n'.world

/-- A state is like itself. -/
theorem Alike.refl (n : Native W) : Alike view n n :=
  ⟨rfl, rfl, rfl, rfl⟩

/-- The module in the slot has to do with nothing but the view. -/
def Respects (n : Native W) (view : W → V) : Prop :=
  ∀ m, n.slot.loaded = some m → m.entry.Respects view

/-- An act that has to do with nothing but the view. -/
def BlindAct (view : W → V) (f : Native W → α × Native W) : Prop :=
  ∀ n n', n.Respects view → Alike view n n' →
    (f n).1 = (f n').1 ∧ Alike view (f n).2 (f n').2 ∧ (f n).2.Respects view

/-- Work that has to do with nothing but the view: in states that are alike each act does the same,
and the same is left to do. -/
def Blind (view : W → V) : Work (Native W) α → Prop
  | .done _ => True
  | .act change rest => ∀ n n', n.Respects view → Alike view n n' →
    (rest n = rest n' ∧ Alike view (change n) (change n') ∧ (change n).Respects view) ∧
      Blind view (rest n)

namespace Blind

/-- Work that goes on with other work has to do with nothing but the view if neither has. -/
theorem bind {w : Work (Native W) α} {k : α → Work (Native W) β} (hw : Blind view w)
    (hk : ∀ a, Blind view (k a)) : Blind view (w >>= k) := by
  induction w with
  | done outcome =>
      cases outcome with
      | ok a => exact hk a
      | failed e => trivial
      | panicked => trivial
  | act change rest ih =>
      intro n n' hn ha
      obtain ⟨⟨hrest, hchange⟩, hleft⟩ := hw n n' hn ha
      exact ⟨⟨congrArg (· >>= k) hrest, hchange⟩, ih n hleft⟩

/-- A single act. -/
theorem task {f : Native W → Outcome α × Native W} (hf : BlindAct view f) :
    Blind view (Work.task f) := by
  intro n n' hn ha
  obtain ⟨hanswer, hafter⟩ := hf n n' hn ha
  exact ⟨⟨congrArg Work.done hanswer, hafter⟩, trivial⟩

/-- A single act with an answer, and what follows it. -/
theorem ask_bind {f : Native W → α × Native W} {k : α → Work (Native W) β} (hf : BlindAct view f)
    (hk : ∀ n, n.Respects view → Blind view (k (f n).1)) : Blind view (.ask f >>= k) := by
  intro n n' hn ha
  obtain ⟨hanswer, hafter⟩ := hf n n' hn ha
  exact ⟨⟨congrArg k hanswer, hafter⟩, hk n hn⟩

end Blind

/-! ### Executions -/

/-- An entry, if the entry point has to do with nothing but the view. -/
theorem blindAct_enter {g : W → α × W} (hg : Looks view g) (entry : α → Event) :
    BlindAct view fun n : Native W =>
      ((g n.world).1, { n with world := (g n.world).2 }.note (entry (g n.world).1)) := by
  intro n n' hn ha
  obtain ⟨hanswer, hworld⟩ := hg _ _ ha.world
  exact ⟨hanswer, ⟨ha.slot, congrArg₂ (· ++ [entry ·]) ha.trace hanswer, ha.handles, hworld⟩, hn⟩

section

variable {m : LoadedModule W} (hm : m.entry.Respects view) (i : Instance) (request : Request)
  (config : Option Bytes)

include hm

/-- Calling a module and asking for the status has to do with nothing but the view, if the module
has not. -/
theorem blind_runningSource : Blind view (runningSource m i request) := by
  refine .ask_bind (blindAct_enter (hm.call i _) fun answer => .call _ _ _ answer.1 answer.2) ?_
  refine fun _ _ => .ask_bind
    (blindAct_enter (hm.status i) fun answer => .status _ _ answer.1 answer.2) ?_
  exact fun _ _ => trivial

/-- Nor has what is done with an instance, whether there is a configuration for it or not. -/
theorem blind_usingInstance : Blind view (usingInstance m i request config) := by
  cases config with
  | none => exact blind_runningSource hm i request
  | some content =>
      refine .ask_bind (blindAct_enter (hm.loadConfig i content _)
        fun answer => .loadConfig _ _ _ _ answer.1 answer.2) ?_
      intro _ _
      split
      · exact (blind_runningSource hm i request).bind fun _ => trivial
      · trivial

/-- Nor has all that is done with a module, from the making of an instance to its end. -/
theorem blind_runningOn : Blind view (runningOn m request config) := by
  refine .ask_bind (blindAct_enter (hm.create _) fun answer => .create _ _ answer.1 answer.2) ?_
  intro n _
  -- The answer is a pair, and it has an instance or not.
  split
  split
  · trivial
  · rename_i i _
    refine (blind_usingInstance hm i request config).bind fun _ => .ask_bind
      (blindAct_enter (hm.destroy i) fun records => .destroy _ _ records) fun _ _ => trivial

end

/-- An execution has to do with nothing but the view, if the module in the slot has not. -/
theorem blind_invoking (request : Request) (config : Option Bytes) :
    Blind view (invoking (W := W) request config) := by
  have hlook : BlindAct view fun n : Native W => (n.slot.loaded, n) :=
    fun _ _ hn ha => ⟨congrArg Slot.loaded ha.slot, ha, hn⟩
  refine .ask_bind hlook fun n hn => ?_
  dsimp only
  split
  · trivial
  · rename_i m hm
    split
    · trivial
    · exact blind_runningOn (hn m hm) request config

/-! ### Loads and reloads -/

/-- Emptying the slot has nothing to do with the world. -/
theorem blindAct_unload : BlindAct view fun n : Native W => ((), n.unload) := by
  intro n n' hn ha
  refine ⟨rfl, ?_, fun m hm => by simp [loaded_unload] at hm⟩
  dsimp only
  rw [unload_eq, unload_eq n', ha.slot, ha.trace, ha.handles]
  exact ⟨rfl, rfl, rfl, ha.world⟩

/-- Putting a module into the slot has to do with nothing but the view, if the loader has not. -/
theorem blindAct_install {loader : Loader W} (hloader : loader.Respects view) (path : Path) :
    BlindAct view (install loader path) := by
  intro n n' hn ha
  obtain ⟨hanswer, hworld⟩ := hloader.looks path _ _ ha.world
  obtain ⟨houtcome, hinstalled⟩ := install_eq loader path n
  obtain ⟨houtcome', hinstalled'⟩ := install_eq loader path n'
  refine ⟨by rw [houtcome, houtcome', hanswer], ?_, fun m hm => ?_⟩
  · rw [hinstalled, hinstalled', hanswer, ha.trace, ha.handles]
    exact ⟨rfl, rfl, rfl, hworld⟩
  · rw [hinstalled] at hm
    obtain ⟨entry, hentry, rfl⟩ := Option.map_eq_some_iff.mp hm
    exact hloader.modules path _ entry (Outcome.value?_eq_some_iff.mp hentry)

/-- An unload is the emptying of the slot. -/
theorem blind_unloading : Blind view (unloading (W := W)) :=
  .task fun n n' hn ha => ⟨rfl, (blindAct_unload n n' hn ha).2⟩

/-- A load has to do with nothing but the view, if the loader has not. -/
theorem blind_loading {loader : Loader W} (hloader : loader.Respects view) (path : Path) :
    Blind view (loading loader path) :=
  blind_unloading.bind fun _ => .task (blindAct_install hloader path)

/-- Nor has a reload. -/
theorem blind_reloading {loader : Loader W} (hloader : loader.Respects view) (path : Path) :
    Blind view (reloading loader path) :=
  blind_unloading.bind fun _ => blind_loading hloader path

end Native

end ScriptHost
