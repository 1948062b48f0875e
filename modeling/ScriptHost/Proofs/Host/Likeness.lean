import ScriptHost.Proofs.Gate.Likeness
import ScriptHost.Proofs.Host.Unseen

/-!
# Two reloads that fail

How the gates of two hosts compare in which the same rebuild reloads the module with different
loaders (`Host.likeness`). Until a reload asks its loader, the states behind the gates are the same.
If neither loader has a module to give, the slots are empty after that and what is outside does not
matter any more: whatever is done behind the gates before the next load has to do with nothing
outside (`Native.Blind noView`).

## Main definitions

* `Work.SameUntil` — two works do the same up to their last acts.
* `Native.noView` — the view in which there is nothing of the world.
* `Host.likeness` — how the two gates compare.
-/

namespace ScriptHost

namespace Work

variable {σ α β : Type}

/-- Two works do the same up to their last acts. -/
inductive SameUntil (f f' : σ → Outcome α × σ) : Work σ α → Work σ α → Prop where
  | last : SameUntil f f' (.task f) (.task f')
  | act {change : σ → σ} {rest rest' : σ → Work σ α} (h : ∀ s, SameUntil f f' (rest s) (rest' s)) :
    SameUntil f f' (.act change rest) (.act change rest')

/-- A single act that has another answer. -/
theorem task_bind_return (f : σ → Outcome β × σ) (a : α) :
    ((task f >>= fun _ => return a) : Work σ α) =
      task fun s => ((f s).1.map fun _ => a, (f s).2) := by
  refine congrArg (Work.act fun s => (f s).2) (funext fun s => ?_)
  change (Work.done (f s).1).bind (fun _ => return a) = .done ((f s).1.map fun _ => a)
  cases (f s).1 <;> rfl

end Work

variable {W : Type} {l l' : Loader W} {path : Path} {n n' : Native W} {t : Ticket}

namespace Native

/-- The view in which there is nothing of the world. -/
def noView (_ : W) : Unit := ()

/-- The last act of a reload: the loader is asked for the module. -/
def installing (l : Loader W) (path : Path) (n : Native W) : Outcome Reply × Native W :=
  ((n.install l path).1.map fun _ => .done, (n.install l path).2)

/-- Two reloads do the same until they ask the loader. -/
theorem sameUntil_reloading (l l' : Loader W) (path : Path) :
    Work.SameUntil (installing l path) (installing l' path)
      (reloading l path >>= fun _ => return Reply.done)
      (reloading l' path >>= fun _ => return Reply.done) := by
  have hlast : Work.SameUntil (installing l path) (installing l' path)
      (Work.task (install l path) >>= fun _ => return Reply.done)
      (Work.task (install l' path) >>= fun _ => return Reply.done) := by
    rw [Work.task_bind_return, Work.task_bind_return]
    exact .last
  exact .act fun _ => .act fun _ => hlast

/-- A load that brought no module has failed, and leaves the slot empty. -/
theorem installing_of_failed (hfailed : ∀ e ∈ madeIn ⟨t, n, (installing l path n).2⟩,
      e.loaded? = none) :
    (∃ cause, (installing l path n).1.toExcept = .error cause) ∧ ∃ world,
      (installing l path n).2 =
        { n with slot := ⟨path, none⟩, world := world, trace := n.trace ++ [.load path none] } := by
  obtain ⟨houtcome, hinstalled⟩ := install_eq l path n
  have hmade : madeIn ⟨t, n, (installing l path n).2⟩
      = [.load path ((l path n.world).1.value?.map fun _ => n.handles)] := by
    simp [madeIn, installing, hinstalled]
  have hnone : (l path n.world).1.value? = none := by
    simpa [hmade, Event.loaded?] using hfailed
  refine ⟨?_, (l path n.world).2, by simp [installing, hinstalled, hnone]⟩
  simp only [installing, houtcome]
  cases hl : (l path n.world).1 with
  | ok entry => simp [hl, Outcome.value?] at hnone
  | failed e => exact ⟨e, rfl⟩
  | panicked => exact ⟨_, rfl⟩

/-- Whatever two loaders did that brought no module, the same is in the slot and in the trace. -/
theorem alike_installing_of_failed
    (hfailed : ∀ e ∈ madeIn ⟨t, n, (installing l path n).2⟩, e.loaded? = none)
    (hfailed' : ∀ e ∈ madeIn ⟨t, n, (installing l' path n).2⟩, e.loaded? = none) :
    Alike noView (installing l path n).2 (installing l' path n).2 ∧
      (installing l path n).2.Respects noView := by
  obtain ⟨-, world, heq⟩ := installing_of_failed hfailed
  obtain ⟨-, world', heq'⟩ := installing_of_failed hfailed'
  rw [heq, heq']
  exact ⟨⟨rfl, rfl, rfl, rfl⟩, fun m hm => nomatch hm⟩

/-! ### Work that brings no module -/

/-- No act of a work brings a module. -/
def Barren {α : Type} : Work (Native W) α → Prop
  | .done _ => True
  | .act change rest =>
    ∀ n, (∀ e ∈ (change n).trace.drop n.trace.length, e.loaded? = none) ∧ Barren (rest n)

/-- Work is barren with other work after it if both are. -/
theorem Barren.bind {α β : Type} {w : Work (Native W) α} {k : α → Work (Native W) β}
    (hw : Barren w) (hk : ∀ a, Barren (k a)) : Barren (w >>= k) := by
  induction w with
  | done outcome =>
      cases outcome with
      | ok a => exact hk a
      | failed _ | panicked => trivial
  | act change rest ih => exact fun n => ⟨(hw n).1, ih n (hw n).2⟩

/-- An unload loads nothing. -/
theorem barren_unloading : Barren (unloading (W := W)) := by
  refine fun n => ⟨fun e he => ?_, trivial⟩
  rw [show ((), n.unload).2.trace = n.trace ++ n.slot.handles.map .unload from
    congrArg Native.trace (unload_eq n), List.drop_left] at he
  obtain ⟨handle, -, rfl⟩ := List.mem_map.mp he
  rfl

/-- Nor does a reload, if the loader has none to give. -/
theorem barren_reloading (hl : ∀ path world entry, (l path world).1 ≠ .ok entry) (path : Path) :
    Barren (reloading l path) := by
  refine barren_unloading.bind fun _ => barren_unloading.bind fun _ n => ⟨fun e he => ?_, trivial⟩
  have hnone : (l path n.world).1.value? = none := by
    cases hanswer : (l path n.world).1 with
    | ok entry => exact absurd hanswer (hl path n.world entry)
    | failed _ | panicked => rfl
  simp only [(install_eq l path n).2, hnone, List.drop_left, Option.map_none,
    List.mem_singleton] at he
  subst he
  rfl

end Native

namespace Host

open Native (noView installing)

variable {u : Ticket} {loads : Ticket → Prop} {ts : List Ticket}

/-! ### How the gates compare -/

/-- What a caller comes with in the two runs: a reload with one loader or the other, a load, or
something that has to do with nothing outside. -/
inductive ComesLike (t : Ticket) (path : Path) (l l' : Loader W) (loads : Ticket → Prop)
    (u : Ticket) (op op' : Operation (Native W) Reply) : Prop where
  | reload (hu : u = t) (hop : op = passing (Native.reloading l path))
      (hop' : op' = passing (Native.reloading l' path))
  | load (hu : loads u)
  | other (hu : u ≠ t) (hop : op' = op) (hblind : BlindOperation noView op)

/-- The states are the same until the reload, and then they are but for what is outside. -/
structure RestLike (t : Ticket) (ts : List Ticket) (n n' : Native W) : Prop where
  before : t ∉ ts → n' = n
  after : t ∈ ts → Native.Alike noView n n' ∧ n.Respects noView

/-- What is left of a caller's work, and the states. -/
inductive GoingLike (t : Ticket) (path : Path) (l l' : Loader W) (ts : List Ticket) (u : Ticket) :
    Work (Native W) Reply → Work (Native W) Reply → Native W → Native W → Prop where
  | other {w : Work (Native W) Reply} {n n' : Native W} (hu : u ≠ t) (hrest : RestLike t ts n n')
      (hblind : t ∈ ts → Native.Blind noView w) : GoingLike t path l l' ts u w w n n'
  | reload {w w' : Work (Native W) Reply} {n : Native W} (hu : u = t)
      (hsame : Work.SameUntil (installing l path) (installing l' path) w w') :
      GoingLike t path l l' ts u w w' n n
  | failed {o o' : Outcome Reply} {n n' : Native W} (hu : u = t)
      (ho : ∃ cause, o.toExcept = .error cause) (ho' : ∃ cause, o'.toExcept = .error cause)
      (halike : Native.Alike noView n n') (hrespects : n.Respects noView) :
      GoingLike t path l l' ts u (.done o) (.done o') n n'

/-- The results of a caller: of the rebuild it is the same only that it failed. -/
inductive ResultLike (t u : Ticket) (r r' : Except Failure Reply) : Prop where
  | same (hu : u ≠ t) (hr : r' = r)
  | failed (hu : u = t) (hr : ∃ cause, r = .error cause) (hr' : ∃ cause, r' = .error cause)

namespace RestLike

/-- At rest both states are alike, but for the world outside. -/
theorem alike (hr : RestLike t ts n n') : Native.Alike noView n n' := by
  by_cases ht : t ∈ ts
  · exact (hr.after ht).1
  · rw [hr.before ht]
    exact .refl n

/-- Nothing has changed after somebody else was admitted. -/
theorem concat (hr : RestLike t ts n n') (hu : u ≠ t) : RestLike t (ts ++ [u]) n n' where
  before ht := hr.before (by simp_all)
  after ht := hr.after (by simpa [hu.symm] using ht)

/-- An act of somebody else does the same in both states, and the same is left to do. -/
theorem act {change : Native W → Native W} {next : Native W → Work (Native W) Reply}
    (hr : RestLike t ts n n') (hblind : t ∈ ts → Native.Blind noView (.act change next)) :
    RestLike t ts (change n) (change n') ∧ next n' = next n ∧
      (t ∈ ts → Native.Blind noView (next n)) := by
  by_cases ht : t ∈ ts
  · obtain ⟨halike, hrespects⟩ := hr.after ht
    obtain ⟨⟨hnext, hafter⟩, hleft⟩ := hblind ht n n' hrespects halike
    exact ⟨⟨fun hno => absurd ht hno, fun _ => hafter⟩, hnext.symm, fun _ => hleft⟩
  · obtain rfl := hr.before ht
    exact ⟨⟨fun _ => rfl, fun hmem => absurd hmem ht⟩, rfl, fun hmem => absurd hmem ht⟩

/-- The world outside may change at both. -/
theorem withWorld (hr : RestLike t ts n n') (world : W) :
    RestLike t ts (n.withWorld world) (n'.withWorld world) where
  before ht := congrArg (·.withWorld world) (hr.before ht)
  after ht := by
    obtain ⟨⟨hslot, htrace, hhandles, -⟩, hrespects⟩ := hr.after ht
    exact ⟨⟨hslot, htrace, hhandles, rfl⟩, hrespects⟩

end RestLike

namespace GoingLike

variable {w w' : Work (Native W) Reply}

/-- While work goes on both states are alike as well. -/
theorem alike (hg : GoingLike t path l l' ts u w w' n n') : Native.Alike noView n n' := by
  cases hg with
  | other _ hrest _ => exact hrest.alike
  | reload _ _ => exact .refl n
  | failed _ _ _ halike _ => exact halike

/-- What goes on in one goes on in the other, act by act. -/
theorem act {change : Native W → Native W} {next : Native W → Work (Native W) Reply}
    (hg : GoingLike t path l l' ts u (.act change next) w n n') :
    ∃ change' next', w = .act change' next' ∧
      ((u = t → ∀ e ∈ madeIn ⟨u, n, change n⟩, e.loaded? = none) →
        (u = t → ∀ e ∈ madeIn ⟨u, n', change' n'⟩, e.loaded? = none) →
        GoingLike t path l l' ts u (next n) (next' n') (change n) (change' n')) := by
  cases hg with
  | other hu hrest hblind =>
      obtain ⟨hafter, hnext, hleft⟩ := hrest.act hblind
      refine ⟨change, next, rfl, fun _ _ => ?_⟩
      rw [hnext]
      exact .other hu hafter hleft
  | reload hu hsame =>
      cases hsame with
      | act h => exact ⟨change, _, rfl, fun _ _ => .reload hu (h n)⟩
      | last =>
          refine ⟨_, _, rfl, fun hfailed hfailed' => ?_⟩
          obtain ⟨halike, hrespects⟩ :=
            Native.alike_installing_of_failed (hfailed hu) (hfailed' hu)
          exact .failed hu (Native.installing_of_failed (hfailed hu)).1
            (Native.installing_of_failed (hfailed' hu)).1 halike hrespects

/-- What ends in one ends in the other, with results that are like. -/
theorem done {o : Outcome Reply} (hg : GoingLike t path l l' ts u (.done o) w n n') :
    ∃ o', w = .done o' ∧ RestLike t (ts ++ [u]) n n' ∧
      ResultLike t u o.toExcept o'.toExcept := by
  cases hg with
  | other hu hrest _ => exact ⟨o, rfl, hrest.concat hu, .same hu rfl⟩
  | reload _ hsame => nomatch hsame
  | failed hu ho ho' halike hrespects =>
      refine ⟨_, rfl, ⟨fun ht => ?_, fun _ => ⟨halike, hrespects⟩⟩, .failed hu ho ho'⟩
      simp [hu] at ht

/-- The world outside may change while work goes on. -/
theorem withWorld (hg : GoingLike t path l l' ts u w w' n n') (world : W) :
    GoingLike t path l l' ts u w w' (n.withWorld world) (n'.withWorld world) := by
  cases hg with
  | other hu hrest hblind => exact .other hu (hrest.withWorld world) hblind
  | reload hu hsame => exact .reload hu hsame
  | failed hu ho ho' halike hrespects =>
      exact .failed hu ho ho' ⟨halike.slot, halike.trace, halike.handles, rfl⟩ hrespects

end GoingLike

/-- **How the two gates compare**, as long as nobody else has a module loaded and the reload brings
none. -/
def likeness (t : Ticket) (path : Path) (l l' : Loader W) (loads : Ticket → Prop) :
    Gate.Likeness (Native W) Reply where
  comes := ComesLike t path l l' loads
  rest := RestLike t
  going := GoingLike t path l l'
  ended := ResultLike t
  admits u := ¬ loads u
  permits a := a.ticket = t → ∀ e ∈ madeIn a, e.loaded? = none
  enter := by
    rintro ts u w op n n' hrest (⟨rfl, hop, rfl⟩ | hload | ⟨hu, rfl, hblind⟩) hadmits hnew
    · obtain rfl := Operation.work.inj hop
      obtain rfl := hrest.before hnew
      exact ⟨_, rfl, .reload rfl (Native.sameUntil_reloading l l' path)⟩
    · exact absurd hload hadmits
    · exact ⟨w, rfl, .other hu hrest fun _ => hblind⟩
  glance := by
    rintro ts u f op n n' hrest (⟨-, hop, -⟩ | hload | ⟨hu, rfl, hblind⟩) hadmits hnew
    · exact nomatch hop
    · exact absurd hload hadmits
    · refine ⟨f, rfl, hrest.concat hu, .same hu ?_⟩
      rw [hblind n n' hrest.alike]
  act := GoingLike.act
  done := GoingLike.done

/-- A caller is answered equally well at both gates. -/
theorem ResultLike.isOk_eq {r r' : Except Failure Reply} (hr : ResultLike t u r r') :
    r'.isOk = r.isOk := by
  rcases hr with ⟨-, rfl⟩ | ⟨-, ⟨cause, rfl⟩, ⟨cause', rfl⟩⟩ <;> rfl

section

variable {g g' : Gate (Native W) Reply}

/-- What is in the slot and in the trace is the same at any time. -/
theorem alike_of_paired (hg : Gate.Paired (likeness t path l l' loads) g g') :
    Native.Alike noView g.state g'.state := by
  rcases hg.states with hrest | ⟨ts, u, w, w', -, hgoing⟩
  · exact RestLike.alike hrest
  · exact GoingLike.alike hgoing

/-- Until the rebuild comes to the gate, so is what is outside. -/
theorem state_eq_of_paired (hg : Gate.Paired (likeness t path l l' loads) g g')
    (ht : g.phase t = .absent) : g'.state = g.state := by
  have hnot : t ∉ g.admitted := fun hmem => by
    simpa [ht, Gate.Phase.isEarly] using hg.orderly.not_early t hmem
  rcases hg.states with hrest | ⟨ts, u, w, w', hts, hgoing⟩
  · exact RestLike.before hrest hnot
  · rw [hts] at hnot
    generalize g.state = n, g'.state = n' at hgoing ⊢
    cases hgoing with
    | other _ hrest _ => exact hrest.before (by simp_all)
    | reload hu _ | failed hu _ _ _ _ => simp [hu] at hnot

/-- At gates that are paired everybody has succeeded at both or at none. -/
theorem isOk_answer?_of_paired (hg : Gate.Paired (likeness t path l l' loads) g g') (u : Ticket) :
    (g'.answer? u).map Except.isOk = (g.answer? u).map Except.isOk := by
  have hlike := hg.phase u
  simp only [Gate.answer?]
  generalize g.phase u = p, g'.phase u = p' at hlike
  cases hlike with
  | answered hr => exact congrArg some (ResultLike.isOk_eq hr)
  | absent | queued _ | running _ _ | orphaned _ _ | finished _ | abandoned => rfl

/-- All but the caller of the rebuild have the same answers. -/
theorem answer?_eq_of_paired (hg : Gate.Paired (likeness t path l l' loads) g g') (hu : u ≠ t) :
    g'.answer? u = g.answer? u := by
  have hlike := hg.phase u
  simp only [Gate.answer?]
  generalize g.phase u = p, g'.phase u = p' at hlike
  cases hlike with
  | answered hr =>
      rcases hr with ⟨-, rfl⟩ | ⟨hut, -, -⟩
      · rfl
      · exact absurd hut hu
  | absent | queued _ | running _ _ | orphaned _ _ | finished _ | abandoned => rfl

/-- The results that wait for them are the same, too. -/
theorem finished_iff_of_paired (hg : Gate.Paired (likeness t path l l' loads) g g') (hu : u ≠ t)
    (r : Except Failure Reply) : g'.phase u = .finished r ↔ g.phase u = .finished r := by
  have hlike := hg.phase u
  generalize g.phase u = p, g'.phase u = p' at hlike
  cases hlike with
  | finished hr =>
      rcases hr with ⟨-, rfl⟩ | ⟨hut, -, -⟩
      · rfl
      · exact absurd hut hu
  | absent | queued _ | running _ _ | orphaned _ _ | answered _ | abandoned => simp

end

end Host

end ScriptHost
