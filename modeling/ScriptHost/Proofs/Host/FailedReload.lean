import ScriptHost.Proofs.Host.Likeness
import ScriptHost.Proofs.Host.Quiet
import ScriptHost.Proofs.Host.Reframed

/-!
# A reload that failed

Why a reload failed is not told to anybody. Take a host at any time before a rebuild comes to the
gate, and two loaders that may fail as they like: with an error of any kind, or by a panic, and
leaving anything behind outside. As long as nobody else has a module loaded, all callers see the
same of the two (`Host.sameSeen_run`): the answers, what is shown of the rebuild, the slot, and what
passed between the host and native code.

The gates stay in step (`Host.likeness`), and of what the gate answers the rebuild passes on only
that it failed.

## Main definitions

* `Host.FailsToLoad` — the loads that are made for a caller bring no module.
* `Host.OnlyReload` — nobody but a rebuild has a module loaded in a run.
* `Host.SameSeen` — two hosts that all callers see as the same.
-/

namespace ScriptHost

variable {W : Type} {l l' : Loader W} {path : Path} {t : Ticket}

namespace Host

variable {h k : Host W} {events : List Event} {u : Ticket} {e : Event} {loads : Ticket → Prop}

/-! ### Event by event -/

/-- The rebuild was not asked for or is over, and no worker is left with it. -/
def Phase.isStill : Phase → Bool
  | .absent | .ended _ | .abandoned => true
  | _ => false

theorem phase_step_of_isStill (hstill : (h.phase u).isStill) (he : e ≠ .arrive u .rebuild) :
    (h.step e).phase u = h.phase u := by
  cases hp : h.phase u with
  | absent => exact (h.steps e).rebuilds.absent hp fun heq => absurd heq he
  | ended p => exact phase_step_ended hp e
  | abandoned =>
      by_cases hadvance : e = .advance u
      · subst hadvance
        simp only [step, advance, hp]
      · rw [phase_step_of_isOver (by rw [hp]; rfl) hadvance, hp]
  | waiting | working _ _ _ _ | stopped _ _ _ | reloading _ | orphaned _ =>
      simp [hp, Phase.isStill] at hstill

/-- Whoever comes for a rebuild only does not come to the gate before it has one. -/
theorem gate_phase_step_absent (habsent : h.phase t = .absent → h.gate.phase t = .absent)
    (he : ∀ d, e = .arrive t d → d = .rebuild) (hnow : (h.step e).phase t = .absent) :
    (h.step e).gate.phase t = .absent := by
  have hbefore : h.phase t = .absent := by
    by_contra hne
    exact (h.steps e).rebuilds.ne_absent hne hnow
  refine gate_phase_step_absent_iff.mpr ⟨habsent hbefore, fun op hop => ?_⟩
  rcases gateEvent?_arrive hop with ⟨d, rfl, -, hoperation⟩ | ⟨-, ⟨p, stage, hp⟩, -⟩
  · obtain rfl := he d rfl
    simp [operation?] at hoperation
  · simp [hbefore] at hp

/-- What a demand that loads nothing is submitted as has nothing to do with the loader. -/
theorem operation?_withLoader {d : Demand} (hd : d.loads = false) (l : Loader W) :
    (k.withLoader l).operation? d = k.operation? d := by
  cases d <;> first | rfl | simp [Demand.loads] at hd

theorem isSome_operation?_of_loads {d : Demand} (hd : d.loads) : (k.operation? d).isSome := by
  cases d <;> first | rfl | simp [Demand.loads] at hd

/-- **Two hosts that all callers see as the same**: the answers, what was shown of rebuilds, what is
in the slot, and what passed between the host and native code. -/
structure SameSeen (t : Ticket) (k k' : Host W) : Prop where
  answers : ∀ u, k.answer? u = k'.answer? u
  /-- Results that wait for their callers at the gate. That of the rebuild is not for its caller to
  see. -/
  results : ∀ u r, u ≠ t → (k.gate.phase u = .finished r ↔ k'.gate.phase u = .finished r)
  shown : k.shown = k'.shown
  slot : k.native.slot = k'.native.slot
  trace : k.native.trace = k'.native.trace

/-- **How two hosts with different loaders compare** before and after the reload. -/
structure Veiled (t : Ticket) (path : Path) (l l' : Loader W) (loads : Ticket → Prop)
    (k k' : Host W) : Prop where
  target : k.settings.module.path = path
  loader : k.platform.load = l
  frame : k' = k.reframe l' k'.gate
  gates : Gate.Paired (likeness t path l l' loads) k.gate k'.gate

namespace Veiled

variable {k' : Host W} {s : RebuildSettings} {tried : List (Deed × Except Failure Unit)}

/-- A deed is done only for the rebuild, and before it comes to the gate. -/
theorem world_eq_of_deed? (hv : Veiled t path l l' loads k k')
    (hcourse : Course s tried (k.phase t) (k.gate.phase t))
    (hstill : ∀ u, u ≠ t → (k.phase u).isStill) (hdeed : k.deed? e ≠ none) :
    k'.gate.state.world = k.native.world := by
  obtain ⟨⟨u, deed⟩, hd⟩ := Option.ne_none_iff_exists'.mp hdeed
  obtain rfl := ticket?_of_deed? hd
  have hut : u = t := by
    by_contra hne
    have hphase := hstill u hne
    cases hp : k.phase u <;> simp_all [deed?, Phase.isStill]
  subst hut
  have habsent : k.gate.phase u = .absent := by
    generalize hp : k.phase u = p, k.gate.phase u = q at hcourse
    cases hcourse with
    | working _ _ | orphaned _ => rfl
    | absent | waiting | stopped _ | reloading _ | failed _ _ | answered _ | abandoned _ _ =>
        simp [deed?, hp] at hd
  exact congrArg Native.world (state_eq_of_paired hv.gates habsent)

/-- What is submitted in an event compares. -/
theorem gateEvent? (hv : Veiled t path l l' loads k k')
    (hstill : ∀ u, u ≠ t → (k.phase u).isStill)
    (honly : ∀ u d, e = .arrive u d → (d = .rebuild ↔ u = t))
    (hloads : ∀ u d, e = .arrive u d → k.isNew u → d.loads → loads u) :
    Option.Rel (Gate.Event.Like (likeness t path l l' loads)) (k.gateEvent? e)
      ((k.reframe l' k'.gate).gateEvent? e) := by
  refine gateEvent?_reframe hv.gates (fun u d he hnew => ?_) fun u p stage he hp => ?_
  · by_cases hd : d.loads
    · obtain ⟨op, hop⟩ := Option.isSome_iff_exists.mp (isSome_operation?_of_loads (k := k) hd)
      obtain ⟨op', hop'⟩ := Option.isSome_iff_exists.mp
        (isSome_operation?_of_loads (k := k.withLoader l') hd)
      rw [hop, hop']
      exact .some (.load (hloads u d he hnew hd))
    · have hsilent : d.loads = false := by simpa using hd
      rw [operation?_withLoader hsilent]
      cases hop : k.operation? d with
      | none => exact .none
      | some op =>
          have hut : u ≠ t := fun hut => by
            obtain rfl := (honly u d he).mpr hut
            simp [operation?] at hop
          exact .some (.other hut rfl (blindOperation_of_operation? hop fun h => absurd h hd))
  · have hut : u = t := by
      by_contra hne
      simpa [hp, Phase.isStill] using hstill u hne
    exact .reload hut (by rw [reloading, hv.target, hv.loader]) (by rw [hv.target]; rfl)

/-- **Two hosts with different loaders go the same way** in an event in which no load is admitted
and none brings a module. -/
theorem step (hv : Veiled t path l l' loads k k')
    (hcourse : Course s tried (k.phase t) (k.gate.phase t))
    (hstill : ∀ u, u ≠ t → (k.phase u).isStill)
    (honly : ∀ u d, e = .arrive u d → (d = .rebuild ↔ u = t))
    (hloads : ∀ u d, e = .arrive u d → k.isNew u → d.loads → loads u)
    (hadmits : ∀ u ∈ (k.step e).gate.admitted, ¬ loads u)
    (hfails : ∀ a ∈ k.acts e, a.ticket = t → ∀ e ∈ madeIn a, e.loaded? = none)
    (hfails' : ∀ a ∈ k'.acts e, a.ticket = t → ∀ e ∈ madeIn a, e.loaded? = none) :
    Veiled t path l l' loads (k.step e) (k'.step e) := by
  have hsame := k.sameSetup_step e
  have hworld := hv.world_eq_of_deed? (e := e) hcourse hstill
  have hanswer : ∀ u p, e = .poll u → k.phase u = .reloading p →
      ((k'.gate.poll u).answer? u).map Except.isOk
        = ((k.gate.poll u).answer? u).map Except.isOk := by
    rintro u p rfl hp
    refine isOk_answer?_of_paired (hv.gates.poll u fun v hmem => hadmits v ?_) u
    rwa [(k.exactly (.poll u)).gate, gateAfter, show k.gateEvent? (.poll u) = some (.poll u) by
      simp only [Host.gateEvent?, hp]]
  refine ⟨by rw [hsame.settings, hv.target], by rw [hsame.platform, hv.loader], ?_, ?_⟩
  · rw [hv.frame]
    exact step_reframe (isNew_reframe hv.gates) hworld hanswer
  · rw [hv.frame] at hfails' ⊢
    exact paired_step hv.gates (hv.gateEvent? hstill honly hloads) hworld
      (fun _ _ _ world hr => RestLike.withWorld hr world)
      (fun _ _ _ _ _ _ world hr => GoingLike.withWorld hr world) hadmits hfails hfails'

/-- Nobody can tell the two hosts apart. -/
theorem sameSeen (hv : Veiled t path l l' loads k k')
    (hunasked : k.phase t = .absent → k.gate.phase t = .absent) : SameSeen t k k' := by
  have halike := alike_of_paired hv.gates
  refine ⟨fun u => ?_, fun u r hu => (finished_iff_of_paired hv.gates hu r).symm,
    by rw [hv.frame]; rfl, halike.slot, halike.trace⟩
  rw [hv.frame]
  refine (answer?_reframe fun hu => ?_).symm
  by_cases hut : u = t
  · subst hut
    have habsent := hunasked hu
    simp only [Gate.answer?, habsent, (hv.gates.phase u).absent_iff.mpr habsent]
  · exact answer?_eq_of_paired hv.gates hut

end Veiled

/-! ### Two runs -/

/-- The loads that are made for a caller bring no module: the loader fails or panics. -/
def FailsToLoad (h : Host W) (events : List Event) (t : Ticket) : Prop :=
  ∀ e ∈ madeBy (h.actsOf events) t, e.loaded? = none

/-- The caller is a new one that comes to have a module loaded. -/
def Loads (h : Host W) (events : List Event) (t : Ticket) : Prop :=
  ∃ before d after, events = before ++ .arrive t d :: after ∧ (h.run before).isNew t ∧ d.loads

/-- A rebuild has not come to the gate, and nobody else has a module loaded in the run. -/
structure OnlyReload (h : Host W) (events : List Event) (t : Ticket) : Prop where
  absent : h.gate.phase t = .absent
  /-- Those who wait came for something that loads nothing. -/
  waiting : ∀ u op, h.gate.phase u = .queued op → ∃ d, d.loads = false ∧ h.operation? d = some op
  /-- No other rebuild is under way, and nobody else asks for one. -/
  still : ∀ u, u ≠ t → (h.phase u).isStill
  only : ∀ u d, .arrive u d ∈ events → (d = .rebuild ↔ u = t)
  /-- Whoever comes to have a module loaded is not admitted yet. -/
  loads : ∀ u, h.Loads events u → u ∉ (h.run events).gate.admitted

/-- Some contract is kept at the gate. -/
theorem Reachable.keeps (hreach : h.Reachable) : ∃ as c, Gate.Keeps c as h.gate := by
  obtain ⟨settings, moduleConfig, platform, world, earlier, rfl⟩ := hreach
  exact ⟨_, _, keeps_reloads settings moduleConfig platform world earlier⟩

/-- A host compares to itself before the rebuild comes to the gate. -/
theorem Reachable.paired_refl (hreach : h.Reachable) (habsent : h.gate.phase t = .absent)
    (hwaiting : ∀ u op, h.gate.phase u = .queued op →
      ∃ d, d.loads = false ∧ h.operation? d = some op) :
    Gate.Paired (likeness t path l l' loads) h.gate h.gate := by
  obtain ⟨as, c, hk⟩ := hreach.keeps
  have hne : ∀ {u}, h.gate.phase u ≠ .absent → u ≠ t := by
    rintro u hu rfl
    exact hu habsent
  have hnot : t ∉ h.gate.admitted := fun hmem => by
    simpa [habsent, Gate.Phase.isEarly] using hk.orderly.not_early t hmem
  have hrest : ∀ {ts}, t ∉ ts → RestLike t ts h.gate.state h.gate.state := fun hts =>
    ⟨fun _ => rfl, fun hmem => absurd hmem hts⟩
  refine ⟨hk.orderly, rfl, rfl, fun u => ?_, fun _ => hrest hnot, fun u w w' hw hw' => ?_⟩
  · refine .refl (fun op hq => ?_) fun r hr => ?_
    · obtain ⟨d, hd, hop⟩ := hwaiting u op hq
      refine .other (hne (by simp [hq])) rfl (blindOperation_of_operation? hop fun hloads => ?_)
      simp [hd] at hloads
    · exact .same (hne (by rcases hr with hr | hr <;> simp [hr])) rfl
  · obtain rfl := Option.some.inj (hw.symm.trans hw')
    obtain ⟨ts, hts, -⟩ := hk.going u w hw
    have hbefore : t ∉ ts := fun hmem => hnot (by simp [hts, hmem])
    have hflight : h.gate.phase u ≠ .absent := fun hu => by simp [hu, Gate.Phase.work?] at hw
    exact ⟨ts, hts, .other (hne hflight) (hrest hbefore) fun hmem => absurd hmem hbefore⟩

namespace OnlyReload

/-- Nobody else has a rebuild under way at any time. -/
theorem isStill_run (ho : h.OnlyReload events t) {before : List Event} (hpre : before <+: events)
    (hu : u ≠ t) : ((h.run before).phase u).isStill := by
  induction before using List.reverseRecOn with
  | nil => exact ho.still u hu
  | append_singleton before e ih =>
      have hbefore := ih ((List.prefix_append _ _).trans hpre)
      rw [run_append]
      change (((h.run before).step e).phase u).isStill
      rwa [phase_step_of_isStill hbefore]
      rintro rfl
      exact hu ((ho.only u .rebuild (hpre.subset (by simp))).mp rfl)

/-- The caller of the rebuild comes for nothing else. -/
theorem gate_phase_run_absent (ho : h.OnlyReload events t) {before : List Event}
    (hpre : before <+: events) :
    (h.run before).phase t = .absent → (h.run before).gate.phase t = .absent := by
  induction before using List.reverseRecOn with
  | nil => exact fun _ => ho.absent
  | append_singleton before e ih =>
      have hbefore := ih ((List.prefix_append _ _).trans hpre)
      rw [run_append]
      refine gate_phase_step_absent hbefore fun d he => ?_
      exact (ho.only t d (hpre.subset (by simp [he]))).mpr rfl

end OnlyReload

/-- No load in a run that fails to load brings a module. -/
theorem FailsToLoad.loaded?_eq_none (hf : h.FailsToLoad events t) {before : List Event}
    (hpre : before ++ [e] <+: events) :
    ∀ a ∈ (h.run before).acts e, a.ticket = t → ∀ e ∈ madeIn a, e.loaded? = none := by
  obtain ⟨after, rfl⟩ := hpre
  intro a ha hat e' he'
  refine hf e' (List.mem_flatMap.mpr ⟨a, List.mem_filter.mpr ⟨?_, by simpa using hat⟩, he'⟩)
  rw [List.append_assoc, actsOf_append]
  exact List.mem_append_right _ (List.mem_append_left _ ha)

/-- Where a rebuild stands does not depend on the loader. -/
theorem Reachable.exists_course_withLoader (hreach : h.Reachable) (l : Loader W)
    (events : List Event) (t : Ticket) : ∃ tried, Course h.settings.rebuild tried
      (((h.withLoader l).run events).phase t) (((h.withLoader l).run events).gate.phase t) := by
  obtain ⟨settings, moduleConfig, platform, world, earlier, rfl⟩ := hreach
  have hc := course_run settings moduleConfig platform world earlier t
  have hsame := sameSetup_run (init settings moduleConfig platform world) earlier
  rw [show settings.rebuild = _ from congrArg Settings.rebuild hsame.settings.symm] at hc
  exact ⟨_, Course.run (h := Host.withLoader _ l) hc rfl events⟩

/-- Two runs with different loaders go the same way, if the reload fails in both. -/
theorem veiled_run (hreach : h.Reachable) (ho : (h.withLoader l).OnlyReload events t)
    (hf : (h.withLoader l).FailsToLoad events t) (hf' : (h.withLoader l').FailsToLoad events t)
    {before : List Event} (hpre : before <+: events) :
    Veiled t h.settings.module.path l l' ((h.withLoader l).Loads events)
      ((h.withLoader l).run before) ((h.withLoader l').run before) := by
  induction before using List.reverseRecOn with
  | nil =>
      have hwaiting : ∀ u op, h.gate.phase u = .queued op →
          ∃ d, d.loads = false ∧ h.operation? d = some op := by
        intro u op hq
        obtain ⟨d, hd, hop⟩ := ho.waiting u op hq
        exact ⟨d, hd, operation?_withLoader hd l ▸ hop⟩
      exact ⟨rfl, rfl, rfl, hreach.paired_refl ho.absent hwaiting⟩
  | append_singleton before e ih =>
      have hbefore := (List.prefix_append before [e]).trans hpre
      obtain ⟨tried, hc⟩ := hreach.exists_course_withLoader l before t
      rw [run_append, run_append]
      refine (ih hbefore).step hc (fun u hu => ho.isStill_run hbefore hu)
        (fun u d he => ho.only u d (hpre.subset (by simp [he]))) (fun u d he hnew hd => ?_)
        (fun u hmem hload => ?_) (hf.loaded?_eq_none hpre) (hf'.loaded?_eq_none hpre)
      · obtain ⟨after, rfl⟩ := hpre
        exact ⟨before, d, after, by simp [he], hnew, hd⟩
      · obtain ⟨after, rfl⟩ := hpre
        refine ho.loads u hload ?_
        rw [run_append]
        refine (admitted_prefix_run _ after).subset ?_
        rwa [run_append]

/-- **Nobody is told why a reload failed**: two runs that differ in how it failed are seen as the
same by all callers, until somebody else has a module loaded. -/
theorem sameSeen_run (hreach : h.Reachable) (ho : (h.withLoader l).OnlyReload events t)
    (hf : (h.withLoader l).FailsToLoad events t) (hf' : (h.withLoader l').FailsToLoad events t) :
    SameSeen t ((h.withLoader l).run events) ((h.withLoader l').run events) :=
  (veiled_run hreach ho hf hf' (List.prefix_refl _)).sameSeen
    (ho.gate_phase_run_absent (List.prefix_refl _))

/-- All that a rebuild tells of a reload that failed is that it failed. -/
theorem outcome_of_failsToLoad (hreach : h.Reachable) (ho : (h.withLoader l).OnlyReload events t)
    (hf : (h.withLoader l).FailsToLoad events t) {p : Progress}
    (hcame : ((h.withLoader l).run events).gate.phase t ≠ .absent)
    (hanswer : ((h.withLoader l).run events).answer? t = some (.ok (.progress p))) :
    p.outcome = some (.failed .reload reloadReason) := by
  have hrebuilds : ((h.withLoader l).run events).Rebuilds t := fun habsent =>
    hcame (ho.gate_phase_run_absent (List.prefix_refl _) habsent)
  have hended := ended_of_answer? hrebuilds hanswer
  obtain ⟨tried, hc⟩ := hreach.exists_course_withLoader l events t
  have hlike := (veiled_run hreach ho hf hf (List.prefix_refl _)).gates.phase t
  rw [hended] at hc
  generalize ((h.withLoader l).run events).gate.phase t = g at hc hcame hlike
  cases hc with
  | failed _ _ => exact absurd rfl hcame
  | answered hp =>
      cases hlike with
      | answered hr =>
          rcases hr with ⟨hne, -⟩ | ⟨-, ⟨cause, rfl⟩, -⟩
          · exact absurd rfl hne
          · exact hp

/-! ### Loaders that have no module to give -/

/-- The contract that what is done for a caller brings no module, if the caller comes with nothing
that could. -/
def barren (t : Ticket) : Gate.Contract (Native W) Reply where
  allowed u op := ∀ w, u = t → op = .work w → Native.Barren w
  rest as _ _ := ∀ e ∈ madeBy as t, e.loaded? = none
  going as _ u w _ := (∀ e ∈ madeBy as t, e.loaded? = none) ∧ (u = t → Native.Barren w)
  ended _ _ _ _ := True
  enter hrest hop _ := ⟨hrest, fun hu => hop _ hu rfl⟩
  glance hrest _ _ := ⟨hrest, trivial⟩
  act := by
    rintro as ts u change next n ⟨hnone, hleft⟩
    by_cases hu : u = t
    · subst hu
      obtain ⟨hact, hnext⟩ := hleft rfl n
      rw [madeBy_concat_self as ⟨u, n, change n⟩]
      exact ⟨List.forall_mem_append.mpr ⟨hnone, hact⟩, fun _ => hnext⟩
    · rw [madeBy_concat_of_ne as hu]
      exact ⟨hnone, fun heq => absurd heq hu⟩
  done hgoing := ⟨hgoing.1, trivial⟩
  later := id

/-- **A loader that has no module to give** makes the reload fail, whatever else it does. -/
theorem failsToLoad_of_loader (hreach : h.Reachable) (ho : (h.withLoader l).OnlyReload events t)
    (hl : ∀ path world entry, (l path world).1 ≠ .ok entry) :
    (h.withLoader l).FailsToLoad events t := by
  obtain ⟨as, c, hk⟩ := hreach.keeps
  have hne : ∀ {u}, h.gate.phase u ≠ .absent → u ≠ t := by
    rintro u hu rfl
    exact hu ho.absent
  have hbegun : Gate.Keeps (barren t) [] (h.withLoader l).gate := by
    refine ⟨hk.orderly, fun u op hq w hu => ?_, fun _ => nofun, fun u w hw => ?_, fun u r hr => ?_⟩
    · exact absurd hu (hne (by rw [show h.gate.phase u = _ from hq]; simp))
    · obtain ⟨ts, hts, -⟩ := hk.going u w hw
      have hflight : h.gate.phase u ≠ .absent := fun hu => by
        rw [show (h.withLoader l).gate.phase u = _ from hu] at hw
        simp [Gate.Phase.work?] at hw
      exact ⟨ts, hts, nofun, fun hu => absurd hu (hne hflight)⟩
    · obtain ⟨ts, us, hts, -⟩ := hk.ended u r hr
      exact ⟨ts, us, hts, trivial⟩
  have hallowed : ∀ before e after u op, events = before ++ e :: after →
      ((h.withLoader l).run before).Submits e u op →
      ((h.withLoader l).run before).gate.phase u = .absent → (barren t).allowed u op := by
    rintro before e after u op rfl hop - w rfl hw
    cases hop with
    | reload _ =>
        obtain rfl := Operation.work.inj hw
        rw [((h.withLoader l).sameSetup_run before).platform]
        exact (Native.barren_reloading hl _).bind fun _ => trivial
    | @demand _ d _ _ hoperation =>
        obtain rfl := (ho.only u d (by simp)).mpr rfl
        simp [operation?] at hoperation
  have hlast := keeps_run (fun _ _ _ _ => id) (fun _ _ _ _ _ _ => id) hallowed hbegun
  rcases hlast.rest_or_going with hnone | ⟨_, _, _, -, -, hnone, -⟩ <;> exact hnone

end Host

end ScriptHost
