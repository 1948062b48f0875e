import Mathlib.Data.Set.List
import ScriptHost.Proofs.Gate.Sequential
import ScriptHost.Proofs.Module.Acts

/-!
# The history of a slot

A slot that is only asked to load, to release and to reload modules, in any order and with a loader
that answers as it likes. What is in the slot is decided by the last thing that was asked of it, and
what was ever in it went in and out in turns (`Native.slot_history`).

The trace is looked at as a list of turns (`Event.turn?`): a module goes in, a module goes
out. Calls of the loader that fail are no turns, but they too find the slot empty.

Behind a gate nothing else happens: at any time the module is as if those admitted had asked one
after another, or on the way to it.
-/

namespace ScriptHost

variable {W : Type}

/-- What can be asked of a slot. -/
inductive Exchange where
  | load (path : Path)
  | unload
  | reload (path : Path)
  deriving DecidableEq, Repr

/-- A module goes into the slot, or out of it. -/
inductive Turn where
  | loaded (handle : Handle)
  | released (handle : Handle)
  deriving DecidableEq, Repr

/-- The turn that an event is. -/
def Event.turn? : Event → Option Turn
  | .load _ (some h) => some (.loaded h)
  | .unload h => some (.released h)
  | _ => none

/-- A module goes in and out. -/
def Turn.visit (h : Handle) : List Turn :=
  [.loaded h, .released h]

/-- The value of an outcome that has one. -/
def Outcome.value? {α : Type} : Outcome α → Option α
  | .ok a => some a
  | .failed _ | .panicked => none

/-- An outcome has a value exactly if it is one. -/
theorem Outcome.value?_eq_some_iff {α : Type} {o : Outcome α} {a : α} :
    o.value? = some a ↔ o = .ok a := by
  cases o <;> simp [value?]

namespace Exchange

/-- The path of the module that is asked for. -/
def path? : Exchange → Option Path
  | .load path | .reload path => some path
  | .unload => none

/-- Does what is asked, in one go. -/
def perform (loader : Loader W) : Exchange → Native W → Outcome Unit × Native W
  | .load path, n => n.load loader path
  | .unload, n => (.ok (), n.unload)
  | .reload path, n => n.reload loader path

/-- Does what is asked, act by act. -/
def work (loader : Loader W) : Exchange → Work (Native W) Unit
  | .load path => Native.loading loader path
  | .unload => Native.unloading
  | .reload path => Native.reloading loader path

/-- In one go, the acts are what is asked. -/
theorem run_work (loader : Loader W) (x : Exchange) (n : Native W) :
    (x.work loader).run n = x.perform loader n := by
  cases x <;> rfl

end Exchange

namespace Native

variable {n : Native W} {loader : Loader W} {path : Path}

/-- The slot and its surroundings after some things were asked, one after another. -/
def after (loader : Loader W) (n : Native W) (xs : List Exchange) : Native W :=
  xs.foldl (fun n x => (x.perform loader n).2) n

/-- After one exchange more the slot is as that exchange leaves it. -/
theorem after_concat (loader : Loader W) (n : Native W) (xs : List Exchange) (x : Exchange) :
    n.after loader (xs ++ [x]) = (x.perform loader (n.after loader xs)).2 :=
  List.foldl_append

/-! ### Single steps -/

/-- A release notes the module it releases, and leaves the rest. -/
theorem unload_eq (n : Native W) :
    n.unload = { n with
      slot := ⟨n.slot.path, none⟩
      trace := n.trace ++ n.slot.handles.map .unload } := by
  obtain ⟨⟨path, - | m⟩, world, trace, handles⟩ := n
  · simp [unload, Slot.handles]
  · rfl

/-- With no module loaded, a release does nothing. -/
theorem unload_of_loaded_eq_none (h : n.slot.loaded = none) : n.unload = n := by
  simp [unload, h]

/-- After an unload there is nothing in the slot. -/
theorem loaded_unload (n : Native W) : n.unload.slot.loaded = none := by
  rw [unload_eq]

/-- An unload leaves the world as it was. -/
theorem world_unload (n : Native W) : n.unload.world = n.world := by
  rw [unload_eq]

/-- It gives out no handle. -/
theorem handles_unload (n : Native W) : n.unload.handles = n.handles := by
  rw [unload_eq]

/-- What the slot is after the loader was asked: the module it answered with, if any, under the next
number. -/
theorem install_eq (loader : Loader W) (path : Path) (n : Native W) :
    (n.install loader path).1 = (loader path n.world).1.map (fun _ => ()) ∧
      (n.install loader path).2 = {
        slot := ⟨path, (loader path n.world).1.value?.map (⟨n.handles, ·⟩)⟩
        world := (loader path n.world).2
        trace := n.trace ++ [.load path ((loader path n.world).1.value?.map fun _ => n.handles)]
        handles := n.handles + (loader path n.world).1.value?.toList.length } := by
  unfold install
  rcases loader path n.world with ⟨entry | e | -, world⟩ <;> exact ⟨rfl, rfl⟩

end Native

/-- To load or reload is to release and to ask the loader: the second release of a reload finds
nothing. -/
theorem Exchange.perform_of_path? {x : Exchange} {path : Path} (hx : x.path? = some path)
    (loader : Loader W) (n : Native W) : x.perform loader n = n.unload.install loader path := by
  cases x with
  | load path' =>
      obtain rfl := Option.some.inj hx
      rfl
  | unload => simp [path?] at hx
  | reload path' =>
      obtain rfl := Option.some.inj hx
      change n.unload.unload.install loader path' = _
      rw [Native.unload_of_loaded_eq_none n.loaded_unload]

namespace Native

variable {n : Native W} {loader : Loader W} {path : Path}

/-- What a load or a reload leaves in the slot: the module that the loader answered with, or
none. -/
theorem slot_perform {x : Exchange} (hx : x.path? = some path) (loader : Loader W) (n : Native W) :
    (x.perform loader n).2.slot
      = ⟨path, (loader path n.world).1.value?.map (⟨n.handles, ·⟩)⟩ := by
  rw [Exchange.perform_of_path? hx, (install_eq loader path n.unload).2, world_unload,
    handles_unload]

/-- A load or a reload succeeds if the loader answers with a module. -/
theorem outcome_perform {x : Exchange} (hx : x.path? = some path) (loader : Loader W)
    (n : Native W) : (x.perform loader n).1 = (loader path n.world).1.map fun _ => () := by
  rw [Exchange.perform_of_path? hx, (install_eq loader path n.unload).1, world_unload]

/-- The last thing that a load or a reload leaves in the trace is the call of the loader. -/
theorem getLast?_trace_perform {x : Exchange} (hx : x.path? = some path) (loader : Loader W)
    (n : Native W) : (x.perform loader n).2.trace.getLast?
      = some (.load path ((x.perform loader n).2.slot.loaded.map LoadedModule.handle)) := by
  rw [Exchange.perform_of_path? hx, (install_eq loader path n.unload).2, List.getLast?_concat,
    Option.map_map]
  rfl

/-! ### Turns -/

/-- All modules so far went in and out in turns, if the one in the slot is thought of as gone. -/
def Turned (n : Native W) : Prop :=
  n.trace.filterMap Event.turn? ++ n.slot.handles.map .released
    = (List.range n.handles).flatMap Turn.visit

/-- In a new slot nothing has gone in or out. -/
theorem turned_init (path : Path) (world : W) : (init path world).Turned := rfl

/-- An unload lets go of the module in the slot, which is the last that went in. -/
theorem Turned.unload (h : n.Turned) : n.unload.Turned := by
  cases hm : n.slot.loaded with
  | none => rwa [unload_of_loaded_eq_none hm]
  | some m =>
      rw [Turned, unload_eq]
      simpa [Turned, Slot.handles, hm, List.filterMap_cons, Event.turn?] using h

/-- What is put into an empty slot is the next that goes in. -/
theorem Turned.install (h : n.Turned) (hempty : n.slot.loaded = none) (loader : Loader W)
    (path : Path) : (n.install loader path).2.Turned := by
  rw [Turned, (install_eq loader path n).2]
  have hbefore : n.trace.filterMap Event.turn? = (List.range n.handles).flatMap Turn.visit := by
    simpa [Turned, Slot.handles, hempty] using h
  cases (loader path n.world).1.value? with
  | none => simpa [List.filterMap_cons, Event.turn?, Slot.handles] using hbefore
  | some entry => simp [Event.turn?, Slot.handles, hbefore, List.range_succ, Turn.visit]

/-- Every exchange keeps the turns. -/
theorem Turned.perform (h : n.Turned) (loader : Loader W) (x : Exchange) :
    (x.perform loader n).2.Turned := by
  cases hx : x.path? with
  | some path =>
      rw [Exchange.perform_of_path? hx]
      exact h.unload.install n.loaded_unload loader path
  | none =>
      cases x with
      | unload => exact h.unload
      | load _ | reload _ => simp [Exchange.path?] at hx

/-- So do any number of exchanges. -/
theorem Turned.after (h : n.Turned) (loader : Loader W) (xs : List Exchange) :
    (n.after loader xs).Turned := by
  induction xs using List.reverseRecOn with
  | nil => exact h
  | append_singleton xs x ih => exact after_concat loader n xs x ▸ ih.perform loader x

/-! ### What is live -/

/-- What is asked of a slot does with it what may be done. -/
theorem swapping_perform (loader : Loader W) (x : Exchange) (n : Native W) :
    ∃ made, n.Swapping made (x.perform loader n).2 := by
  cases x with
  | load path =>
      obtain ⟨made, path', hmade⟩ := (n.meets_loading loader path).run
      exact ⟨_, hmade⟩
  | unload => exact n.meets_unloading.run
  | reload path =>
      obtain ⟨made, path', hmade⟩ := (n.meets_reloading loader path).run
      exact ⟨_, hmade⟩

/-- The trace of a slot that was empty at first is lawful, and live is what is in the slot. -/
theorem lawful_after (loader : Loader W) (path : Path) (world : W) (xs : List Exchange) :
    Lawful .none ((init path world).after loader xs).trace
      (((init path world).after loader xs).live []) := by
  induction xs using List.reverseRecOn with
  | nil => exact .nil _
  | append_singleton xs x ih =>
      obtain ⟨made, hmade⟩ := swapping_perform loader x ((init path world).after loader xs)
      rw [after_concat, hmade.trace]
      exact ih.append hmade.lawful

/-! ### Everything that was asked -/

/-- What is true of a slot after some things were asked of it one after another. In the end it is
given up, and its module released if there is one. -/
structure History (loader : Loader W) (start : Native W) (xs : List Exchange) : Prop where
  /-- At any point of the trace at most one module is live. -/
  single : ∀ before rest, (start.after loader xs).unload.trace = before ++ rest →
    (Live.of before).handles.length ≤ 1
  /-- Whenever the loader is called, with or without success, none is. -/
  vacant : ∀ before path handle rest,
    (start.after loader xs).unload.trace = before ++ .load path handle :: rest →
    (Live.of before).handles = []
  /-- The modules that were loaded went in and out in turns, each once. -/
  turns : (start.after loader xs).unload.trace.filterMap Event.turn?
    = (List.range (start.after loader xs).handles).flatMap Turn.visit
  /-- Live is what is in the slot. -/
  live : (Live.of (start.after loader xs).trace).handles = (start.after loader xs).slot.handles
  /-- A module is in the slot exactly when the last thing that was asked was to load or reload one,
  and that succeeded. -/
  ready : (start.after loader xs).slot.ready ↔ ∃ ys x, xs = ys ++ [x] ∧ x.path?.isSome ∧
    (x.perform loader (start.after loader ys)).1 = .ok ()
  /-- Then it is the one that the loader answered with, and the last event of the trace tells its
  number. -/
  answered : ∀ m, (start.after loader xs).slot.loaded = some m →
    ∃ ys x path, xs = ys ++ [x] ∧ x.path? = some path ∧
      (loader path (start.after loader ys).world).1 = .ok m.entry ∧
      (start.after loader xs).trace.getLast? = some (.load path (some m.handle))
  /-- What fails or panics leaves the slot empty, and nothing live. -/
  failed : ∀ ys x, xs = ys ++ [x] → (x.perform loader (start.after loader ys)).1 ≠ .ok () →
    (start.after loader xs).slot.loaded = none ∧
      (Live.of (start.after loader xs).trace).handles = []
  /-- To release what is not there leaves no event. -/
  idle : (start.after loader xs).slot.ready = false →
    (start.after loader xs).unload.trace = (start.after loader xs).trace
  /-- The path is the one that was asked for last, also if that failed, and the first one if none
  was. -/
  path : (start.after loader xs).slot.path
    = (xs.filterMap Exchange.path?).getLast?.getD start.slot.path

/-- What is asked for last decides what is in the slot. -/
theorem loaded_after_concat (loader : Loader W) (start : Native W) (ys : List Exchange)
    (x : Exchange) : (start.after loader (ys ++ [x])).slot.loaded
      = x.path?.bind fun path => (loader path (start.after loader ys).world).1.value?.map
          (⟨(start.after loader ys).handles, ·⟩) := by
  rw [after_concat]
  cases hx : x.path? with
  | some path => rw [slot_perform hx]; rfl
  | none =>
      cases x with
      | unload => exact loaded_unload _
      | load _ | reload _ => simp [Exchange.path?] at hx

/-- There is a module in the slot exactly if the last exchange was one with a path, and has
succeeded. -/
theorem isSome_loaded_after_concat (loader : Loader W) (start : Native W) (ys : List Exchange)
    (x : Exchange) : (start.after loader (ys ++ [x])).slot.loaded.isSome ↔
      x.path?.isSome ∧ (x.perform loader (start.after loader ys)).1 = .ok () := by
  rw [loaded_after_concat]
  cases hx : x.path? with
  | none => simp
  | some path =>
      rw [outcome_perform hx, Option.bind_some, Option.isSome_map]
      generalize (loader path (start.after loader ys).world).1 = answer
      cases answer <;> simp [Outcome.value?, Outcome.map]

/-- A module is in a slot that was empty at first if the last thing that was asked put one there. -/
theorem ready_after_iff {start : Native W} (hempty : start.slot.loaded = none)
    (xs : List Exchange) : (start.after loader xs).slot.ready ↔ ∃ ys x, xs = ys ++ [x] ∧
      x.path?.isSome ∧ (x.perform loader (start.after loader ys)).1 = .ok () := by
  rcases List.eq_nil_or_concat xs with rfl | ⟨ys, x, rfl⟩
  · simp [after, Slot.ready, hempty]
  · rw [List.concat_eq_append, Slot.ready, isSome_loaded_after_concat]
    constructor
    · exact fun hx => ⟨ys, x, rfl, hx⟩
    · rintro ⟨ys', x', heq, hx⟩
      obtain ⟨rfl, hlast⟩ := List.append_inj' heq rfl
      obtain rfl := List.singleton_inj.mp hlast
      exact hx

/-- The module in a slot that was empty at first is the one that the loader answered with last. -/
theorem answered_of_loaded {start : Native W} (hempty : start.slot.loaded = none)
    {xs : List Exchange} {m : LoadedModule W}
    (hm : (start.after loader xs).slot.loaded = some m) :
    ∃ ys x path, xs = ys ++ [x] ∧ x.path? = some path ∧
      (loader path (start.after loader ys).world).1 = .ok m.entry ∧
      (start.after loader xs).trace.getLast? = some (.load path (some m.handle)) := by
  rcases List.eq_nil_or_concat xs with rfl | ⟨ys, x, rfl⟩
  · exact absurd (hempty.symm.trans hm) (by simp)
  · rw [List.concat_eq_append] at hm ⊢
    have hloaded := hm
    rw [loaded_after_concat] at hloaded
    obtain ⟨path, hpath, hvalue⟩ := Option.bind_eq_some_iff.mp hloaded
    obtain ⟨entry, hentry, rfl⟩ := Option.map_eq_some_iff.mp hvalue
    refine ⟨ys, x, path, rfl, hpath, Outcome.value?_eq_some_iff.mp hentry, ?_⟩
    rw [after_concat] at hm ⊢
    rw [getLast?_trace_perform hpath, hm]
    rfl

/-- The slot has the path of the last exchange with one. -/
theorem path_after (loader : Loader W) (start : Native W) (xs : List Exchange) :
    (start.after loader xs).slot.path
      = (xs.filterMap Exchange.path?).getLast?.getD start.slot.path := by
  induction xs using List.reverseRecOn with
  | nil => rfl
  | append_singleton xs x ih =>
      rw [after_concat, List.filterMap_append]
      cases hx : x.path? with
      | some path => simp [slot_perform hx, hx]
      | none =>
          cases x with
          | unload => simpa [Exchange.perform, unload_eq, hx] using ih
          | load _ | reload _ => simp [Exchange.path?] at hx

/-- **The history of a slot** that was empty at first. -/
theorem history_after (loader : Loader W) (path : Path) (world : W) (xs : List Exchange) :
    History loader (init path world) xs := by
  have hlawful := lawful_after loader path world xs
  have hlive : (Live.of ((init path world).after loader xs).trace).handles
      = ((init path world).after loader xs).slot.handles := by
    rw [Live.of, ← hlawful.eq_foldl]
    rfl
  have hreleased : Lawful .none ((init path world).after loader xs).unload.trace
      (((init path world).after loader xs).unload.live []) := by
    have hlast := lawful_after loader path world (xs ++ [.unload])
    rwa [after_concat] at hlast
  refine ⟨?_, ?_, ?_, hlive, ready_after_iff rfl xs, fun m => answered_of_loaded rfl, ?_, ?_,
    path_after loader _ xs⟩
  · intro before rest htrace
    rw [htrace] at hreleased
    exact hreleased.of_append.length_handles_le (by simp [Live.none])
  · intro before path' handle rest htrace
    rw [htrace] at hreleased
    exact hreleased.allowed_of_split.1
  · have hturned := ((turned_init path world).after loader xs).unload
    rw [Turned, handles_unload, Slot.handles, loaded_unload] at hturned
    simpa using hturned
  · rintro ys x rfl hfailed
    have hnone : ((init path world).after loader (ys ++ [x])).slot.loaded = none := by
      rw [← Option.not_isSome_iff_eq_none, isSome_loaded_after_concat]
      exact fun hx => hfailed hx.2
    exact ⟨hnone, by rw [hlive, Slot.handles, hnone]; rfl⟩
  · intro hready
    rw [unload_of_loaded_eq_none (by simpa [Slot.ready] using hready)]

/-! ### Behind a gate -/

/-- What is done only adds to the trace. -/
def grows (n n' : Native W) : Prop :=
  n.trace <+: n'.trace

/-- What is asked of a slot only adds to the trace, act by act. -/
theorem meets_work (loader : Loader W) (x : Exchange) (n : Native W) :
    Meets grows (fun _ _ => True) (x.work loader) n := by
  cases x with
  | load path => exact (n.meets_loading loader path).mono (fun _ _ h => h.1) fun _ _ _ => trivial
  | unload => exact n.meets_unloading.mono (fun _ _ h => h.1) fun _ _ _ => trivial
  | reload path =>
      exact (n.meets_reloading loader path).mono (fun _ _ h => h.1) fun _ _ _ => trivial

/-- Work whose acts only add to the trace only adds to it. -/
theorem Meets.trace_prefix {α : Type} {post : Outcome α → Native W → Prop}
    {w : Work (Native W) α} {n : Native W}
    (h : Meets grows post w n) : n.trace <+: (w.run n).2.trace := by
  induction w generalizing n with
  | done outcome => exact List.prefix_refl _
  | act change rest ih => exact (h n.world).1.trans (ih _ (h n.world).2)

/-- The contract of a gate behind which traces only grow. -/
def growing : Gate.Contract (Native W) Unit where
  allowed _
    | .work w => ∀ n, Meets grows (fun _ _ => True) w n
    | .glance _ => True
  rest _ _ _ := True
  going _ _ _ w n := Meets grows (fun _ _ => True) w n
  ended _ _ _ _ := True
  enter _ hop _ := hop _
  glance _ _ _ := ⟨trivial, trivial⟩
  act h := (h _).2
  done _ := ⟨trivial, trivial⟩
  later _ := trivial

/-- A gate, after some events, and what those admitted asked of the slot behind it. -/
structure Serves (loader : Loader W) (start : Native W) (events : List (Gate.Event (Native W) Unit))
    (g : Gate (Native W) Unit) (xs : List Exchange) : Prop where
  /-- Those admitted have asked for this, in the same order. -/
  asked : g.admitted.map (Gate.operation? events)
    = xs.map fun x => some (.work (x.work loader))
  /-- With nobody in flight the slot is as if it was asked for one thing after another. -/
  settled : (∀ t, ¬ g.InFlight t) → g.state = start.after loader xs
  /-- While somebody is in flight, what happened so far is the beginning of that. -/
  under_way : g.state.trace <+: (start.after loader xs).trace
  /-- Whoever has an answer has the one to what it asked for. -/
  answer : ∀ t r, g.answer? t = some r → ∃ ys x zs, xs = ys ++ x :: zs ∧
    g.admitted[ys.length]? = some t ∧ r = (x.perform loader (start.after loader ys)).1.toExcept

section

variable {start : Native W} {events : List (Gate.Event (Native W) Unit)} {ts : List Ticket}
  {xs : List Exchange}

/-- What those admitted leave is what the slot is after they asked. -/
theorem stateAfter_eq (h : ts.map (Gate.operation? events)
    = xs.map fun x => some (.work (x.work loader))) :
    Gate.stateAfter start events ts = start.after loader xs := by
  have hops : ts.filterMap (Gate.operation? events) = xs.map fun x => .work (x.work loader) := by
    have hboth := congrArg (List.filterMap id) h
    simpa [List.filterMap_map] using hboth
  rw [Gate.stateAfter, hops, List.foldl_map]
  simp only [Operation.effect, Exchange.run_work]
  rfl

/-- All callers of the gate ask for something of the slot. -/
def Exchanging (loader : Loader W) (events : List (Gate.Event (Native W) Unit)) : Prop :=
  ∀ t op, .arrive t op ∈ events → ∃ x : Exchange, op = .work (x.work loader)

/-- Whatever those admitted came for is one of these things. -/
theorem exists_asked (hx : Exchanging loader events) (hts : ∀ t ∈ ts,
    (Gate.operation? events t).isSome) :
    ∃ xs : List Exchange, ts.map (Gate.operation? events)
      = xs.map fun x => some (.work (x.work loader)) := by
  have hmem : ts.map (Gate.operation? events)
      ∈ Set.range (List.map fun x : Exchange => some (Operation.work (x.work loader))) := by
    rw [Set.range_list_map]
    intro _ hop
    obtain ⟨t, ht, rfl⟩ := List.mem_map.mp hop
    obtain ⟨op, hop⟩ := Option.isSome_iff_exists.mp (hts t ht)
    obtain ⟨x, rfl⟩ := hx t op (Gate.arrive_mem_of_operation? hop)
    exact ⟨x, hop.symm⟩
  exact hmem.imp fun _ => Eq.symm

/-- What a caller asked for stands where the caller stands. -/
theorem asked_split {us vs : List Ticket} {t : Ticket} (h : (us ++ t :: vs).map
    (Gate.operation? events) = xs.map fun x => some (.work (x.work loader))) :
    ∃ ys x zs, xs = ys ++ x :: zs ∧
      us.map (Gate.operation? events) = (ys.map fun x => some (.work (x.work loader))) ∧
      Gate.operation? events t = some (.work (x.work loader)) ∧ vs.length = zs.length := by
  rw [List.map_append, List.map_cons] at h
  obtain ⟨ys, rest, rfl, hys, hrest⟩ := List.map_eq_append_iff.mp h.symm
  obtain ⟨x, zs, rfl, hx, hzs⟩ := List.map_eq_cons_iff.mp hrest
  have hlength := congrArg List.length hzs
  rw [List.length_map, List.length_map] at hlength
  exact ⟨ys, x, zs, rfl, hys.symm, hx.symm, hlength.symm⟩

/-- While somebody is in flight, the trace is a beginning of what it will be. -/
theorem trace_prefix_of_under_way {as as' : List (Gate.Act (Native W))}
    {g : Gate (Native W) Unit} (hk : Gate.Keeps growing as g)
    (hs : Gate.Keeps (Gate.sequential start events) as' g)
    (hxs : g.admitted.map (Gate.operation? events) = xs.map fun x => some (.work (x.work loader)))
    {t : Ticket} {w : Work (Native W) Unit} (hw : (g.phase t).work? = some w) :
    g.state.trace <+: (start.after loader xs).trace := by
  obtain ⟨ts, hadmitted, op, hop, heffect⟩ := hs.going t w hw
  obtain ⟨_, -, hgrows⟩ := hk.going t w hw
  have hprefix := hgrows.trace_prefix
  rw [hadmitted] at hxs
  obtain ⟨ys, x, zs, rfl, hys, hx, hzs⟩ := asked_split hxs
  obtain rfl := List.eq_nil_of_length_eq_zero hzs.symm
  obtain rfl := Option.some.inj (hop.symm.trans hx)
  rw [heffect, stateAfter_eq hys, Operation.effect, Exchange.run_work] at hprefix
  rw [after_concat]
  exact hprefix

/-- **A gate serves a slot** as if those admitted had asked one after another. -/
theorem exists_serves (hx : Exchanging loader events) :
    ∃ xs, Serves loader start events ((Gate.init start).run events) xs := by
  obtain ⟨as', hs⟩ := Gate.keeps_sequential start events
  have hcame : ∀ t ∈ ((Gate.init start).run events).admitted,
      (Gate.operation? events t).isSome := by
    intro t ht
    rw [Option.isSome_iff_ne_none, Ne, ← Gate.absent_run_iff start]
    intro habsent
    simpa [habsent, Gate.Phase.isEarly] using hs.orderly.not_early t ht
  obtain ⟨xs, hxs⟩ := exists_asked hx hcame
  have hallowed : ∀ before t op after, events = before ++ .arrive t op :: after →
      ((Gate.init start).run before).phase t = .absent → growing.allowed t op := by
    intro before t op after hevents _
    obtain ⟨x, rfl⟩ := hx t op (by simp [hevents])
    exact meets_work loader x
  have hbegun : Gate.Keeps growing [] (Gate.init start) := .init trivial
  obtain ⟨as, hk⟩ := hbegun.run hallowed
  refine ⟨xs, hxs, fun hidle => (hs.rest hidle).trans (stateAfter_eq hxs), ?_, ?_⟩
  · by_cases hidle : ∀ t, ¬ ((Gate.init start).run events).InFlight t
    · have hstate := (hs.rest hidle).trans (stateAfter_eq hxs)
      exact hstate ▸ List.prefix_refl _
    · obtain ⟨t, ht⟩ := not_forall_not.mp hidle
      obtain ⟨w, hw⟩ := Option.isSome_iff_exists.mp ht
      exact trace_prefix_of_under_way hk hs hxs hw
  · intro t r hr
    obtain ⟨us, vs, hadmitted, op, hop, rfl⟩ := hs.ended t r (.inr (Gate.phase_of_answer? hr))
    rw [hadmitted] at hxs
    obtain ⟨ys, x, zs, rfl, hys, hx, -⟩ := asked_split hxs
    obtain rfl := Option.some.inj (hop.symm.trans hx)
    have hlength := congrArg List.length hys
    rw [List.length_map, List.length_map] at hlength
    refine ⟨ys, x, zs, rfl, by simp [hadmitted, hlength], ?_⟩
    rw [Gate.resultAfter, stateAfter_eq hys]
    exact congrArg (·.1.toExcept) (x.run_work loader _)

end

/-- **The history of a slot** that was empty at first: whatever is asked of it one after another,
and whatever callers ask of it behind a gate. -/
theorem slot_history (loader : Loader W) (path : Path) (world : W) :
    (∀ xs, History loader (init path world) xs) ∧
      ∀ events, Exchanging loader events → ∃ xs,
        Serves loader (init path world) events ((Gate.init (init path world)).run events) xs :=
  ⟨history_after loader path world, fun _ hx => exists_serves hx⟩

/-- A module is loaded, and a reload fails to find the other one: the slot is empty then, and
nothing is live. Behind a gate the two come to the same. -/
theorem slot_history_failed_reload :
    let entry : EntryPoints Unit := {
      create := fun _ w => (([], none), w)
      destroy := fun _ w => ([], w)
      loadConfig := fun _ _ _ w => (([], 0), w)
      call := fun _ _ w => (([], 0), w)
      status := fun _ w => (([], 0), w) }
    let loader : Loader Unit := fun path w =>
      (if path = "a.so" then .ok entry else .failed (.load path "file not found"), w)
    let start := init "a.so" ()
    let first := Exchange.load "a.so"
    let last := Exchange.reload "b.so"
    let events : List (Gate.Event (Native Unit) Unit) :=
      [.arrive 1 (.work (first.work loader)), .arrive 2 (.work (last.work loader)), .work, .work,
        .work, .poll 2, .work, .work, .work, .work]
    let slot := (start.after loader [first, last]).slot
    History loader start [first, last] ∧ slot.loaded = none ∧ slot.path = "b.so" ∧
      (Live.of (start.after loader [first, last]).trace).handles = [] ∧
      Exchanging loader events ∧
      (∃ xs, Serves loader start events ((Gate.init start).run events) xs) ∧
      ((Gate.init start).run events).state.trace
        = [.load "a.so" (some 0), .unload 0, .load "b.so" none] := by
  intro entry loader start first last events slot
  obtain ⟨hhistory, hserves⟩ := slot_history loader "a.so" ()
  have hfails : (last.perform loader (start.after loader [first])).1 ≠ .ok () := by
    rintro ⟨⟩
  obtain ⟨hempty, hnothing⟩ := (hhistory [first, last]).failed [first] last rfl hfails
  have hpath := (hhistory [first, last]).path
  have hasked : Exchanging loader events := by
    intro t op hop
    simp only [events, List.mem_cons, Gate.Event.arrive.injEq, List.not_mem_nil] at hop
    rcases hop with ⟨-, rfl⟩ | ⟨-, rfl⟩ | hop
    · exact ⟨first, rfl⟩
    · exact ⟨last, rfl⟩
    · simp at hop
  have htrace : ((Gate.init start).run events).state.trace
      = [.load "a.so" (some 0), .unload 0, .load "b.so" none] := by decide +kernel
  exact ⟨hhistory _, hempty, hpath, hnothing, hasked, hserves events hasked, htrace⟩

end Native

end ScriptHost
