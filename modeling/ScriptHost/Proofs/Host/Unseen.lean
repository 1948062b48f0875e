import ScriptHost.Proofs.Gate.Twins
import ScriptHost.Proofs.Host.Sequence
import ScriptHost.Proofs.Host.Without
import ScriptHost.Proofs.Module.Blind

/-!
# A rebuild that nobody sees

Clients do not notice a rebuild that fails before its reload: everybody else gets the answers that
it would get if the rebuild had not been asked for, and what passes between the host and native code
is the same, and so is what is in the slot (`Host.rebuild_unseen`). This compares two runs, with the
rebuild and without it, in which the others do the same at the same points.

It takes a loader and modules that do not depend on what the deeds of rebuilds do
(`Platform.Hides`).

## Proof idea

Until the rebuild begins, the one host is the other without a place in line (`Host.without`). From
then on the worlds outside the two may differ, but not in view, and no other rebuild is under way
(`Host.Twins`). What would end this is the reload at the gate, which a rebuild that fails does not
reach (`Host.Course.tried_eq`).

## Main definitions

* `Demand.loads` — the caller has a module loaded.
* `Platform.Hides` — what the deeds of rebuilds do is out of view.
* `Host.others` — the events of a run without those of one caller.
* `Host.Unseen` — two hosts that all callers but one see as the same.
-/

namespace ScriptHost

variable {W V : Type} {view : W → V}

/-- The deeds of rebuilds change nothing in view, and loads and modules have to do with nothing but
the view. -/
structure Platform.Hides (p : Platform W) (s : RebuildSettings) (view : W → V) : Prop where
  deeds : ∀ deed world, view (p.perform s deed world).2 = view world
  loader : p.load.Respects view

/-- Modules may act on one part of the world, commands and removals on another. -/
theorem Platform.hides_of_parts {S T : Type} {p : Part W S} {q : Part W T}
    (hp : ∀ s w, p.get (p.set s w) = s) (hq : ∀ s w, p.get (q.set s w) = p.get w) (l : Loader S)
    (r : Runner T) (m : Remover T) (settings : RebuildSettings) :
    Platform.Hides ⟨p.liftLoader l, q.liftRunner r, q.liftRemover m⟩ settings p.get where
  deeds deed _ := by
    cases deed <;> exact hq _ _
  loader := p.respects_liftLoader hp l

/-- The caller has a module loaded, and does so without a rebuild. -/
def Demand.loads : Demand → Bool
  | .start | .load _ | .reload _ => true
  | .unload | .execute .. | .executeRequest _ | .ready | .rebuild | .visit _ => false

namespace Host

variable {h k k' : Host W} {events : List Event} {t u : Ticket} {e : Event}

/-! ### What is in view -/

/-- An operation that has to do with nothing but the view. -/
def BlindOperation (view : W → V) : Operation (Native W) Reply → Prop
  | .work w => Native.Blind view w
  | .glance f => ∀ n n', Native.Alike view n n' → f n = f n'

/-- The contract that whatever is done behind the gate has to do with nothing but the view. -/
def blind (view : W → V) : Gate.Contract (Native W) Reply where
  allowed _ op := BlindOperation view op
  rest _ _ n := n.Respects view
  going _ _ _ w n := Native.Blind view w ∧ n.Respects view
  ended _ _ _ _ := True
  enter hrest hop _ := ⟨hop, hrest⟩
  glance hrest _ _ := ⟨hrest, trivial⟩
  act hgoing := by
    obtain ⟨⟨-, -, hrespects⟩, hleft⟩ := hgoing.1 _ _ hgoing.2 (.refl _)
    exact ⟨hleft, hrespects⟩
  done hgoing := ⟨hgoing.2, trivial⟩
  later := id

/-- What the gate does for work of the slot has to do with nothing but the view if the work has not.
-/
theorem blindOperation_passing {w : Work (Native W) Unit} (hw : Native.Blind view w) :
    BlindOperation view (passing w) :=
  hw.bind fun _ => trivial

/-- An execution has to do with nothing but the view. -/
theorem blindOperation_executing (h : Host W) (request : Request) :
    BlindOperation view (h.executing request) :=
  (Native.blind_invoking request h.moduleConfig).bind fun _ => trivial

/-- What a demand is submitted as has to do with nothing but the view, if it loads nothing or the
loader has not. -/
theorem blindOperation_of_operation? {d : Demand} {op : Operation (Native W) Reply}
    (hop : h.operation? d = some op) (hloader : d.loads → h.platform.load.Respects view) :
    BlindOperation view op := by
  cases d with
  | start | load _ =>
      exact Option.some.inj hop ▸ blindOperation_passing (Native.blind_loading (hloader rfl) _)
  | unload => exact Option.some.inj hop ▸ blindOperation_passing Native.blind_unloading
  | reload _ =>
      exact Option.some.inj hop ▸ blindOperation_passing (Native.blind_reloading (hloader rfl) _)
  | execute language source timeout =>
      cases hr : h.requestFor language source timeout with
      | ok request =>
          obtain rfl : h.executing request = op := by simpa [operation?, hr] using hop
          exact h.blindOperation_executing request
      | error cause => simp [operation?, hr] at hop
  | executeRequest request => exact Option.some.inj hop ▸ h.blindOperation_executing request
  | ready =>
      obtain rfl := Option.some.inj hop
      exact fun _ _ ha => congrArg (fun slot => Reply.ready slot.ready) ha.slot
  | rebuild => simp [operation?] at hop
  | visit outcome =>
      exact Option.some.inj hop ▸ blindOperation_passing (.task fun _ _ hn ha => ⟨rfl, ha, hn⟩)

/-- Whatever is submitted has to do with nothing but the view, if the loader has not. -/
theorem Submits.blindOperation {op : Operation (Native W) Reply} (hop : h.Submits e t op)
    (hloader : h.platform.load.Respects view) : BlindOperation view op := by
  cases hop with
  | reload _ => exact blindOperation_passing (Native.blind_reloading hloader _)
  | demand _ hop => exact blindOperation_of_operation? hop fun _ => hloader

/-- What a run leads to from a host that can be reached can be reached. -/
theorem Reachable.run (hreach : h.Reachable) (events : List Event) : (h.run events).Reachable := by
  obtain ⟨settings, moduleConfig, platform, world, earlier, rfl⟩ := hreach
  exact ⟨settings, moduleConfig, platform, world, earlier ++ events, (run_append ..).symm⟩

/-- The rebuilds of a host that can be reached are in line. -/
theorem Reachable.inLine (hreach : h.Reachable) : InLine h.phase h.rebuilding := by
  obtain ⟨settings, moduleConfig, platform, world, earlier, rfl⟩ := hreach
  exact inLine_run (inLine_init settings moduleConfig platform world) earlier

/-- What goes on at its gate has to do with nothing but the view, if the loader has not. -/
theorem Reachable.keeps_blind (hreach : h.Reachable) (hloader : h.platform.load.Respects view) :
    ∃ as, Gate.Keeps (blind view) as h.gate := by
  obtain ⟨settings, moduleConfig, platform, world, earlier, rfl⟩ := hreach
  have hsame := sameSetup_run (init settings moduleConfig platform world)
  rw [(hsame earlier).platform] at hloader
  have hbegun : Gate.Keeps (blind view) [] (init settings moduleConfig platform world).gate :=
    .init fun _ hm => nomatch hm
  refine ⟨_, keeps_run (fun _ _ _ _ => id) (fun _ _ _ _ _ _ => id) ?_ hbegun⟩
  intro before _ _ _ _ _ hop _
  exact hop.blindOperation ((hsame before).platform.symm ▸ hloader)

/-- Two gates over states that are alike go the same way. -/
theorem step_alike {as : List (Gate.Act (Native W))} {g : Gate (Native W) Reply} {n : Native W}
    {e : Gate.Event (Native W) Reply} (hk : Gate.Keeps (blind view) as g)
    (ha : Native.Alike view g.state n)
    (harrive : ∀ t op, e = .arrive t op → BlindOperation view op) :
    ∃ n', (g.withState n).step e = (g.step e).withState n' ∧
      Native.Alike view (g.step e).state n' := by
  have hglance : ∀ op, BlindOperation view op → Gate.SameGlance g.state n op := by
    rintro (w | f) hop
    · trivial
    · exact hop _ _ ha
  refine Gate.step_withState ha (fun t op he => hglance op (harrive t op he))
    (fun t op hq => hglance op (hk.waiting t op hq)) fun t change rest hbusy => ?_
  obtain ⟨-, hw⟩ := Gate.busy?_eq_some_iff.mp hbusy
  obtain ⟨_, -, hblind, hrespects⟩ := hk.going t _ hw
  obtain ⟨⟨hleft, hafter, -⟩, -⟩ := hblind g.state n hrespects ha
  exact ⟨hafter, hleft⟩

/-- Nothing in view changes in an event that passes the gate by. -/
theorem view_worldAfter (hhides : h.platform.Hides h.settings.rebuild view) (e : Event) :
    view (h.worldAfter e) = view h.native.world := by
  unfold worldAfter
  split
  · exact hhides.deeds _ _
  · rfl

/-! ### Rebuilds that are not under way -/

/-- Two rebuilds are not under way, and their callers see the same. -/
inductive Phase.Resembles : Phase → Phase → Prop where
  | absent : Resembles .absent .absent
  | ended (p : Progress) : Resembles (.ended p) (.ended p)
  | gone {p q : Phase} (hp : p.isGone) (hq : q.isGone) : Resembles p q

namespace Phase.Resembles

variable {p q : Phase}

/-- A phase that is not waited for resembles itself. -/
theorem refl (hp : p.isPending = false) : p.Resembles p := by
  cases p with
  | absent => exact .absent
  | ended p => exact .ended p
  | abandoned | orphaned _ => exact .gone rfl rfl
  | waiting | working _ _ _ _ | stopped _ _ _ | reloading _ => simp [isPending] at hp

/-- Which of two phases comes first does not matter. -/
theorem symm (h : p.Resembles q) : q.Resembles p := by
  cases h with
  | absent => exact .absent
  | ended p => exact .ended p
  | gone hp hq => exact .gone hq hp

/-- A caller is there in both or in none. -/
theorem absent_iff (h : p.Resembles q) : p = .absent ↔ q = .absent := by
  cases h with
  | absent | ended _ => rfl
  | gone hp hq => cases p <;> cases q <;> simp_all [isGone]

end Phase.Resembles

/-- Whoever went away does not come back. -/
theorem isGone_step (hgone : (h.phase t).isGone) (e : Event) : ((h.step e).phase t).isGone := by
  by_cases he : e = .advance t
  · subst he
    simp only [step, advance]
    split
    · rename_i hp
      simp [hp, Phase.isGone] at hgone
    · split <;> simp [Phase.isGone]
    · exact hgone
  · rwa [phase_step_of_isOver (Phase.isOver_of_isGone hgone) he]

/-- A rebuild that is not under way stays so, if it is not asked for. -/
theorem Phase.Resembles.step {q : Phase} (hr : (h.phase u).Resembles q)
    (he : e ≠ .arrive u .rebuild) : ((h.step e).phase u).Resembles q := by
  generalize hp : h.phase u = p at hr
  cases hr with
  | absent => exact ((h.steps e).rebuilds.absent hp fun heq => absurd heq he) ▸ .absent
  | ended p => exact phase_step_ended hp e ▸ .ended p
  | gone hgone hq => exact .gone (isGone_step (hp ▸ hgone) e) hq

/-! ### Twins -/

/-- **Two hosts that only one caller can tell apart**: what is behind the gates is alike, and no
rebuild of others is under way. -/
structure Twins (view : W → V) (t : Ticket) (k k' : Host W) : Prop where
  setup : SameSetup k' k
  gate : ∃ n, k'.gate = k.gate.withState n ∧ Native.Alike view k.gate.state n
  refused : k'.refused = k.refused
  phase : ∀ u, u ≠ t → (k.phase u).Resembles (k'.phase u)

/-- A host and the same host without a rebuild are twins, if no other one is under way. -/
theorem twins_without (halone : ∀ u, u ≠ t → (k.phase u).isPending = false) :
    Twins view t k (k.without t) where
  setup := ⟨rfl, rfl, rfl⟩
  gate := ⟨k.native, rfl, .refl _⟩
  refused := rfl
  phase u hu := by
    rw [phase_without_of_ne k hu]
    exact .refl (halone u hu)

namespace Twins

/-- Another caller is new at both hosts or at none. -/
theorem isNew_eq (ht : Twins view t k k') (hu : u ≠ t) : k'.isNew u = k.isNew u := by
  obtain ⟨n, hgate, -⟩ := ht.gate
  have hphase : k'.gate.phase u = k.gate.phase u := by rw [hgate]; rfl
  rw [Bool.eq_iff_iff, isNew_iff, isNew_iff, hphase, ht.refused, (ht.phase u hu).absent_iff]

/-- Others come to the gate in the same events. -/
theorem gateEvent?_eq (ht : Twins view t k k') (he : e.ticket? ≠ some t) :
    k'.gateEvent? e = k.gateEvent? e := by
  have hne {u : Ticket} := Event.ne_of_ticket? (u := u) he
  cases e with
  | arrive u d => simp only [gateEvent?, ht.isNew_eq (hne rfl), ht.setup.operation?_eq]
  | poll u | drop u =>
      have hr := ht.phase u (hne rfl)
      simp only [gateEvent?]
      generalize k.phase u = p, k'.phase u = q at hr
      cases hr with
      | absent | ended _ => rfl
      | gone hp hq => cases p <;> cases q <;> simp_all [Phase.isGone]
  | work | advance _ => rfl

/-- Others are refused the same at both. -/
theorem refusal?_eq (ht : Twins view t k k') (he : e.ticket? ≠ some t) :
    k'.refusal? e = k.refusal? e := by
  cases e with
  | arrive u d =>
      have hu : u ≠ t := Event.ne_of_ticket? he rfl
      cases d <;> simp only [refusal?, ht.isNew_eq hu, ht.setup.requestFor_eq]
  | poll _ | drop _ | work | advance _ => rfl

/-- **Twins remain twins in the events of others.** -/
theorem step {as : List (Gate.Act (Native W))} (ht : Twins view t k k')
    (hk : Gate.Keeps (blind view) as k.gate) (hhides : k.platform.Hides k.settings.rebuild view)
    (he : e.ticket? ≠ some t) (hno : ∀ u, e ≠ .arrive u .rebuild) :
    Twins view t (k.step e) (k'.step e) where
  setup := (k'.sameSetup_step e).trans (ht.setup.trans (k.sameSetup_step e).symm)
  gate := by
    obtain ⟨n, hgate, ha⟩ := ht.gate
    rw [(k'.exactly e).gate, (k.exactly e).gate, gateAfter, gateAfter, ht.gateEvent?_eq he]
    cases hg : k.gateEvent? e with
    | some e' =>
        dsimp only
        rw [hgate]
        refine step_alike hk ha ?_
        rintro u op rfl
        exact (submits_of_gateEvent? hg).blindOperation hhides.loader
    | none =>
        have hhides' : k'.platform.Hides k'.settings.rebuild view := by
          rwa [ht.setup.platform, ht.setup.settings]
        have hview : view (k.worldAfter e) = view (k'.worldAfter e) :=
          calc view (k.worldAfter e)
              = view k.gate.state.world := view_worldAfter hhides e
            _ = view n.world := ha.world
            _ = view k'.native.world := by rw [native, hgate]; rfl
            _ = view (k'.worldAfter e) := (view_worldAfter hhides' e).symm
        refine ⟨n.withWorld (k'.worldAfter e), ?_, ⟨ha.slot, ha.trace, ha.handles, hview⟩⟩
        simp only [withWorld, hgate]
        rfl
  refused := by
    funext u
    rw [(k'.exactly e).refused, (k.exactly e).refused]
    simp only [refusedAfter, ht.refusal?_eq he, ht.refused]
  phase u hu := ((ht.phase u hu).step (hno u)).symm.step (hno u) |>.symm

/-- Twins remain twins in the events of the one that can tell them apart, if these pass the gate by
and happen in one of them only. -/
theorem step_own (ht : Twins view t k k') (hhides : k.platform.Hides k.settings.rebuild view)
    (he : e.ticket? = some t) (habsent : (k.step e).gate.phase t = .absent)
    (hd : ∀ d, e = .arrive t d → d = .rebuild) : Twins view t (k.step e) k' where
  setup := ht.setup.trans (k.sameSetup_step e).symm
  gate := by
    obtain ⟨n, hgate, ha⟩ := ht.gate
    rw [gate_step_of_absent he habsent]
    exact ⟨n, hgate, ha.slot, ha.trace, ha.handles, (view_worldAfter hhides e).trans ha.world⟩
  refused := by
    have hnone : k.refusal? e = none := by
      obtain ⟨d, rfl⟩ | rfl | rfl | rfl := Event.of_ticket? he
      · obtain rfl := hd d rfl
        rfl
      all_goals rfl
    funext u
    rw [(k.exactly e).refused, refusedAfter, hnone, ht.refused]
  phase u hu := by
    have hne : e.ticket? ≠ some u := by simpa [he] using hu.symm
    rw [phase_step_of_ne hne]
    exact ht.phase u hu

end Twins

/-! ### Two runs -/

/-- The events of all but one caller. -/
def others (t : Ticket) (events : List Event) : List Event :=
  events.filter fun e => e.ticket? ≠ some t

/-- **Two hosts that all callers but one see as the same**: the answers, what passed between the
host and native code, and what is in the slot. -/
structure Unseen (t : Ticket) (k k' : Host W) : Prop where
  answers : ∀ u, u ≠ t → k.answer? u = k'.answer? u
  trace : k.native.trace = k'.native.trace
  slot : k.native.slot = k'.native.slot

/-- Taking out a caller is not seen by anybody else. -/
theorem unseen_without (k : Host W) (t : Ticket) : Unseen t k (k.without t) where
  answers u hu := by
    simp only [answer?, phase_without_of_ne k hu]
    rfl
  trace := rfl
  slot := rfl

/-- What goes on at twins is not told apart by anybody else. -/
theorem Twins.unseen (ht : Twins view t k k') : Unseen t k k' := by
  obtain ⟨n, hgate, ha⟩ := ht.gate
  refine ⟨fun u hu => ?_, ?_, ?_⟩
  · have hanswer : k'.gate.answer? u = k.gate.answer? u := by rw [hgate]; rfl
    have hr := ht.phase u hu
    simp only [answer?, hanswer, ht.refused]
    generalize k.phase u = p, k'.phase u = q at hr
    cases hr with
    | absent | ended _ => rfl
    | gone hp hq => cases k.refused u <;> cases p <;> cases q <;> simp_all [Phase.isGone]
  · rw [native, native, hgate]
    exact ha.trace
  · rw [native, native, hgate]
    exact ha.slot

/-- How a host with a rebuild that does not come to the gate stands to the same host without it. -/
inductive Parted (view : W → V) (t : Ticket) (k k' : Host W) : Prop where
  /-- The rebuild has not begun. -/
  | idle (hidle : (k.phase t).isIdle) (heq : k' = k.without t)
  | twins (ht : Twins view t k k')

namespace Parted

/-- Nor is it at hosts that have parted. -/
theorem unseen (hp : Parted view t k k') : Unseen t k k' := by
  cases hp with
  | idle _ heq => exact heq ▸ k.unseen_without t
  | twins ht => exact ht.unseen

/-- In the events of others both go on. -/
theorem step {as : List (Gate.Act (Native W))} (hp : Parted view t k k')
    (hk : Gate.Keeps (blind view) as k.gate) (hhides : k.platform.Hides k.settings.rebuild view)
    (hline : InLine k.phase k.rebuilding) (hlast : k.rebuilding.IsLast t)
    (he : e.ticket? ≠ some t) (hno : ∀ u, e ≠ .arrive u .rebuild) :
    Parted view t (k.step e) (k'.step e) := by
  cases hp with
  | idle hidle heq =>
      refine .idle ?_ (heq ▸ step_without hline hlast he hno)
      rwa [phase_step_of_ne he]
  | twins ht => exact .twins (ht.step hk hhides he hno)

/-- In the events of the rebuild one goes on and the other does not. -/
theorem step_own (hp : Parted view t k k') (hhides : k.platform.Hides k.settings.rebuild view)
    (hline : InLine k.phase k.rebuilding) (hline' : InLine (k.step e).phase (k.step e).rebuilding)
    (hlast' : (k.step e).rebuilding.IsLast t) (he : e.ticket? = some t)
    (habsent : (k.step e).gate.phase t = .absent) (hd : ∀ d, e = .arrive t d → d = .rebuild) :
    Parted view t (k.step e) k' := by
  cases hp with
  | twins ht => exact .twins (ht.step_own hhides he habsent hd)
  | idle hidle heq =>
      have hgate := (gate_phase_step_absent_iff.mp habsent).1
      rcases step_of_isIdle hline hidle hgate he hd with hcarried | ⟨hidle', heq'⟩
      · -- It begins, and so no other rebuild is under way.
        refine .twins (Twins.step_own (heq ▸ twins_without fun u hu => ?_) hhides he habsent hd)
        have hne : e.ticket? ≠ some u := by simpa [he] using hu.symm
        rw [← phase_step_of_ne hne]
        exact not_isPending_of_ne hline' hlast' hcarried hu
      · exact .idle hidle' (heq.trans heq'.symm)

end Parted

/-- A run with a rebuild that does not come to the gate, and the same run without it. -/
theorem parted_run (hreach : h.Reachable) (hnew : h.isNew t)
    (hhides : h.platform.Hides h.settings.rebuild view)
    (honly : ∀ u d, .arrive u d ∈ events → (d = .rebuild ↔ u = t))
    (habsent : (h.run events).gate.phase t = .absent) :
    (h.run events).rebuilding.IsLast t ∧
      Parted view t (h.run events) (h.run (others t events)) := by
  induction events using List.reverseRecOn with
  | nil =>
      have hphase := phase_of_isNew hnew
      refine ⟨⟨_, hreach.inLine.notMem_of_absent hphase, .inl rfl⟩, .idle ?_ ?_⟩
      · change (h.phase t).isIdle
        rw [hphase]
        rfl
      · exact (without_of_absent hreach.inLine hphase).symm
  | append_singleton events e ih =>
      have hline' := (hreach.run (events ++ [e])).inLine
      rw [run_append] at habsent hline' ⊢
      obtain ⟨hlast, hparted⟩ := ih (fun u d hd => honly u d (by simp [hd]))
        (gate_phase_step_absent_iff.mp habsent).1
      obtain ⟨as, hk⟩ := (hreach.run events).keeps_blind
        ((h.sameSetup_run events).platform.symm ▸ hhides.loader)
      have hline := (hreach.run events).inLine
      have hhides' : (h.run events).platform.Hides (h.run events).settings.rebuild view := by
        rwa [(h.sameSetup_run events).platform, (h.sameSetup_run events).settings]
      have hnow : ∀ u d, e = .arrive u d → (d = .rebuild ↔ u = t) := fun u d hd =>
        honly u d (by simp [hd])
      have hlast' := ((h.run events).steps e).rebuilds.isLast hline hlast fun u hu =>
        (hnow u .rebuild hu).mp rfl
      refine ⟨hlast', ?_⟩
      by_cases he : e.ticket? = some t
      · have hothers : others t (events ++ [e]) = others t events := by simp [others, he]
        rw [hothers]
        exact hparted.step_own hhides' hline hline' hlast' he habsent fun d hd =>
          (hnow t d hd).mpr rfl
      · have hothers : others t (events ++ [e]) = others t events ++ [e] := by simp [others, he]
        rw [hothers, run_append]
        refine hparted.step hk hhides' hline hlast he fun u hu => he ?_
        rw [hu, (hnow u .rebuild hu).mp rfl]
        rfl

/-! ### Rebuilds that fail -/

/-- A rebuild that fails before its reload does not come to the gate. -/
theorem Reachable.gate_phase_absent (hreach : h.Reachable) {a : Attempt W}
    (ha : a ∈ h.attempts events) (hfailed : a.result ≠ .ok ()) :
    (h.run events).gate.phase a.ticket = .absent := by
  obtain ⟨settings, moduleConfig, platform, world, earlier, rfl⟩ := hreach
  have hc := course_run settings moduleConfig platform world (earlier ++ events) a.ticket
  dsimp only at hc
  rw [run_append, attempts_append, triedFor_append] at hc
  refine hc.absent_of_failed (x := (a.deed, a.result)) ?_ hfailed
  exact List.mem_append_right _ (List.mem_map.mpr ⟨a, by simpa using ha, rfl⟩)

/-- **A rebuild that fails before its reload is unseen**, at any time in any run of any host in
which nobody else asks for one. -/
theorem rebuild_unseen (hreach : h.Reachable) (hnew : h.isNew t)
    (hhides : h.platform.Hides h.settings.rebuild view)
    (honly : ∀ u d, .arrive u d ∈ events → (d = .rebuild ↔ u = t))
    (hfails : ∃ a ∈ h.attempts events, a.ticket = t ∧ a.result ≠ .ok ()) :
    ∀ before, before <+: events → Unseen t (h.run before) (h.run (others t before)) := by
  rintro before ⟨after, rfl⟩
  obtain ⟨a, ha, rfl, hfailed⟩ := hfails
  have habsent := hreach.gate_phase_absent ha hfailed
  rw [run_append] at habsent
  exact (parted_run hreach hnew hhides (fun u d hd => honly u d (by simp [hd]))
    (gate_phase_absent_of_run habsent)).2.unseen

/-- The third command of a rebuild panics between two executions. Modules count their calls, and
commands count each other: of all that only the second number is not as it would have been. -/
theorem rebuild_unseen_of_panic :
    let left : Part (Nat × Nat) Nat := ⟨Prod.fst, fun n w => (n, w.2)⟩
    let right : Part (Nat × Nat) Nat := ⟨Prod.snd, fun n w => (w.1, n)⟩
    let entry : EntryPoints Nat := {
      create := fun _ calls => (([], some 0), calls)
      destroy := fun _ calls => ([], calls)
      loadConfig := fun _ _ _ calls => (([], 0), calls)
      call := fun _ _ calls => (([], .ofNat calls), calls + 1)
      status := fun _ calls => (([], 0), calls) }
    let platform : Platform (Nat × Nat) := {
      load := left.liftLoader fun _ calls => (.ok entry, calls)
      run := right.liftRunner fun _ _ commands =>
        (if commands = 2 then .panicked else .ok (), commands + 1)
      remove := right.liftRemover fun _ commands => (.ok (), commands) }
    let h := (init {} none platform (0, 0)).run [.arrive 0 .start, .work, .work, .work]
    let request : Request := ⟨.script, "", 0, 0, by decide⟩
    let events : List Event :=
      [.arrive 1 .rebuild, .advance 1, .arrive 2 (.executeRequest request), .advance 1, .work,
        .work, .advance 1, .work, .work, .arrive 3 (.executeRequest request), .poll 1, .work, .work,
        .poll 2, .poll 3] ++ List.replicate 6 .work ++ [.poll 3]
    Unseen 1 (h.run events) (h.run (others 1 events)) ∧
      (h.run events).native.world = (2, 3) ∧ (h.run (others 1 events)).native.world = (2, 0) ∧
      ((h.run events).answer? 3).isSome := by
  intro left right entry platform h request events
  have honly : ∀ u d, .arrive u d ∈ events → (d = .rebuild ↔ u = 1) := by
    intro u d hd
    obtain ⟨rfl, rfl⟩ | ⟨rfl, rfl⟩ | ⟨rfl, rfl⟩ : u = 1 ∧ d = .rebuild ∨
        u = 2 ∧ d = .executeRequest request ∨ u = 3 ∧ d = .executeRequest request := by
      simpa [events] using hd
    all_goals simp
  have hhides : platform.Hides h.settings.rebuild Prod.fst :=
    Platform.hides_of_parts (p := left) (q := right) (fun _ _ => rfl) (fun _ _ => rfl) _ _ _ _
  have hfails : ∃ a ∈ h.attempts events, a.ticket = 1 ∧ a.result ≠ .ok () := by
    decide +kernel
  exact ⟨rebuild_unseen ⟨_, _, _, _, _, rfl⟩ (by decide) hhides honly hfails events
    (List.prefix_refl _), by decide +kernel, by decide +kernel, by decide +kernel⟩

end Host

end ScriptHost
