import ScriptHost.Proofs.Gate.Abandoned
import ScriptHost.Proofs.Gate.Departure
import ScriptHost.Proofs.Host.Unseen

/-!
# A quiet host

Nothing is under way at a host when nobody waits or is worked for at its gate and no rebuild waits
or is carried on (`Host.Quiet`). Then the gate is free, and so is the lock of the rebuilds, whatever
has happened before.

From then on a single caller that comes finds nobody in its way: all others stay quiet
(`Host.Reachable.calm_run`), and it is the next one to be admitted
(`Host.Reachable.admitted_run`).

## Main definitions

* `Host.Quiet` — nothing is under way.
* `Host.Calm` — nothing is under way but for one caller.
* `Host.ComesAlone` — events in which only one caller comes, and stays.
-/

namespace ScriptHost

namespace Gate

variable {σ α : Type} {g : Gate σ α} {t u : Ticket}

/-- Nobody gets into line but by coming. -/
theorem Phase.Follows.isPending {e : Event σ α} {p q : Phase σ α} (h : Follows t e p q)
    (hp : p.isPending = false) (he : ∀ op, e ≠ .arrive t op) : q.isPending = false := by
  cases h with
  | stays _ => exact hp
  | waits op => exact absurd rfl (he op)
  | begins h =>
      rcases h with ⟨rfl, -⟩ | ⟨-, rfl⟩
      · exact absurd rfl (he _)
      · simp [Phase.isPending] at hp
  | glances _ _ | collects _ => rfl
  | proceeds hw _ | completes hw _ => simp [(Phase.isPending_of_work? hw).1] at hp
  | leaves _ hgone hwork => cases p <;> cases q <;> simp_all [Phase.isPending, Phase.isGone, work?]

/-- Whoever is in the order after an event was there before, or has come in it. -/
theorem Orderly.mem_order_step (hg : g.Orderly) {e : Event σ α} (hu : u ∈ (g.step e).order) :
    u ∈ g.order ∨ ∃ op, e = .arrive u op := by
  rw [order_step hg, List.mem_filter] at hu
  rcases List.mem_append.mp hu.1 with hbefore | hcomes
  · exact .inl hbefore
  · cases e with
    | arrive v op =>
        simp only [comes] at hcomes
        split at hcomes
        · obtain rfl := List.mem_singleton.mp hcomes
          exact .inr ⟨op, rfl⟩
        · simp at hcomes
    | poll _ | work | drop _ => simp [comes] at hcomes

end Gate

namespace Host

variable {W : Type} {h : Host W} {t u : Ticket} {d : Demand} {events : List Event} {e : Event}

/-- Nobody but this caller waits or is worked for, and no rebuild but its own is under way. -/
structure Calm (h : Host W) (t : Ticket) : Prop where
  gate : ∀ u, u ≠ t → (h.gate.phase u).isPending = false
  rebuilds : ∀ u, u ≠ t → (h.phase u).isPending = false

/-- Nothing is under way. Workers that were left behind by their callers are not looked at. -/
structure Quiet (h : Host W) : Prop where
  gate : ∀ u, (h.gate.phase u).isPending = false
  rebuilds : ∀ u, (h.phase u).isPending = false

/-- A host that is quiet is calm for everybody. -/
theorem Quiet.calm (hquiet : h.Quiet) (t : Ticket) : h.Calm t :=
  ⟨fun u _ => hquiet.gate u, fun u _ => hquiet.rebuilds u⟩

/-- Nothing is under way if not for this caller either. -/
theorem Calm.quiet (hcalm : h.Calm t) (hgate : (h.gate.phase t).isPending = false)
    (hrebuild : (h.phase t).isPending = false) : h.Quiet where
  gate u := by
    by_cases hu : u = t
    · exact hu ▸ hgate
    · exact hcalm.gate u hu
  rebuilds u := by
    by_cases hu : u = t
    · exact hu ▸ hrebuild
    · exact hcalm.rebuilds u hu

/-- A caller comes with a demand and stays, and nobody else comes. Others that were there before may
do what is left to do. -/
structure ComesAlone (t : Ticket) (d : Demand) (events : List Event) : Prop where
  comes : ∃ rest, events = .arrive t d :: rest
  alone : ∀ u d', .arrive u d' ∈ events → u = t
  stays : .drop t ∉ events

/-! ### Event by event -/

/-- Only the one caller of a calm host comes to the gate. -/
theorem Calm.eq_of_gateEvent? (hcalm : h.Calm t) (halone : ∀ d, e = .arrive u d → u = t)
    {op : Operation (Native W) Reply} (hg : h.gateEvent? e = some (.arrive u op)) : u = t := by
  rcases gateEvent?_arrive hg with ⟨d, he, -⟩ | ⟨-, ⟨p, stage, hphase⟩, -⟩
  · exact halone d he
  · by_contra hu
    have hpending := hcalm.rebuilds u hu
    simp [hphase, Phase.isPending] at hpending

/-- A host stays calm for a caller as long as nobody else comes. -/
theorem Calm.step (hcalm : h.Calm t) (halone : ∀ u d, e = .arrive u d → u = t) :
    (h.step e).Calm t where
  gate u hu := by
    rw [(h.exactly e).gate, gateAfter]
    cases hg : h.gateEvent? e with
    | none => exact hcalm.gate u hu
    | some e' =>
        refine (Gate.follows_step h.gate e' u).isPending (hcalm.gate u hu) ?_
        rintro op rfl
        exact hu (hcalm.eq_of_gateEvent? (halone u) hg)
  rebuilds u hu := by
    have hbefore := hcalm.rebuilds u hu
    rcases (h.steps e).rebuilds.moves u with heq | ⟨-, he, -⟩ | ⟨hne, -, hover⟩
    · rwa [heq]
    · exact absurd (halone u _ he) hu
    · refine Phase.not_isPending_of_isOver (hover ?_)
      cases hp : h.phase u <;> simp_all [Phase.isPending, Phase.isOver]

/-- Nobody else is in the order of the gate who was not there. -/
theorem Calm.mem_order_step (hcalm : h.Calm t) (hg : h.gate.Orderly)
    (halone : ∀ u d, e = .arrive u d → u = t) (hu : u ∈ (h.step e).gate.order) :
    u ∈ h.gate.order ∨ u = t := by
  rw [(h.exactly e).gate, gateAfter] at hu
  cases hge : h.gateEvent? e with
  | none =>
      rw [hge] at hu
      exact .inl hu
  | some e' =>
      rw [hge] at hu
      rcases hg.mem_order_step hu with hbefore | ⟨op, rfl⟩
      · exact .inl hbefore
      · exact .inr (hcalm.eq_of_gateEvent? (halone u) hge)

/-- Whoever was admitted has been admitted. -/
theorem admitted_prefix_step (h : Host W) (e : Event) :
    h.gate.admitted <+: (h.step e).gate.admitted := by
  rw [(h.exactly e).gate, gateAfter]
  cases h.gateEvent? e with
  | none => exact List.prefix_refl _
  | some e' => exact Gate.admitted_prefix_step h.gate e'

/-! ### In a run -/

/-- Who was admitted stays admitted, in the same order. -/
theorem admitted_prefix_run (h : Host W) (events : List Event) :
    h.gate.admitted <+: (h.run events).gate.admitted := by
  induction events generalizing h with
  | nil => exact List.prefix_refl _
  | cons e events ih => exact (h.admitted_prefix_step e).trans (ih (h.step e))

namespace Reachable

/-- The gate of a host that has been reached is in order. -/
theorem orderly (hreach : h.Reachable) : h.gate.Orderly := by
  obtain ⟨settings, moduleConfig, platform, world, earlier, rfl⟩ := hreach
  obtain ⟨as, hk⟩ := keeps_tidy settings moduleConfig platform world earlier
  exact hk.orderly

/-- At a quiet host nobody holds the gate or waits for it. -/
theorem gate_lock_of_quiet (hreach : h.Reachable) (hquiet : h.Quiet) : h.gate.lock = .free :=
  hreach.orderly.agrees.eq_free fun u => by simp [hquiet.gate u]

/-- When a host is quiet its gate is free. -/
theorem isFree_of_quiet (hreach : h.Reachable) (hquiet : h.Quiet) : h.gate.isFree := by
  rw [Gate.isFree, hreach.gate_lock_of_quiet hquiet]
  rfl

/-- At a quiet host nobody holds the lock of the rebuilds. -/
theorem rebuilding_of_quiet (hreach : h.Reachable) (hquiet : h.Quiet) :
    h.rebuilding = .free :=
  Lock.Agrees.eq_free hreach.inLine fun u => by simp [hquiet.rebuilds u]

/-- **The others stay quiet** when only one caller comes. -/
theorem calm_run (hreach : h.Reachable) (hcalm : h.Calm t)
    (halone : ∀ u d, .arrive u d ∈ events → u = t) :
    (h.run events).Calm t ∧ ∀ u ∈ (h.run events).gate.order, u ∈ h.gate.order ∨ u = t := by
  induction events generalizing h with
  | nil => exact ⟨hcalm, fun _ => .inl⟩
  | cons e events ih =>
      have hnow : ∀ u d, e = .arrive u d → u = t := fun u d he => halone u d (by simp [he])
      have hstep := hreach.run [e]
      obtain ⟨hlast, horder⟩ := ih hstep (hcalm.step hnow) fun u d hd => halone u d (by simp [hd])
      refine ⟨hlast, fun u hu => ?_⟩
      rcases horder u hu with hu | rfl
      · exact hcalm.mem_order_step hreach.orderly hnow hu
      · exact .inr rfl

/-- **Whoever comes to a quiet host alone is the next one to be admitted.** -/
theorem admitted_run (hreach : h.Reachable) (hquiet : h.Quiet) (hnew : h.isNew t)
    (halone : ∀ u d, .arrive u d ∈ events → u = t)
    (hadmitted : t ∈ (h.run events).gate.admitted) :
    (h.run events).gate.admitted = h.gate.admitted ++ [t] := by
  obtain ⟨new, heq⟩ := h.admitted_prefix_run events
  have hnodup := (hreach.run events).orderly.nodup_admitted
  rw [← heq] at hnodup hadmitted ⊢
  have hnot : t ∉ h.gate.admitted := by
    intro hmem
    have hearly := hreach.orderly.not_early t hmem
    rw [(isNew_iff.mp hnew).1] at hearly
    simp [Gate.Phase.isEarly] at hearly
  have honly : ∀ u ∈ new, u = t := by
    intro u hu
    have horder : u ∈ (h.run events).gate.order :=
      List.mem_append_left _ (heq ▸ List.mem_append_right _ hu)
    rcases (hreach.calm_run (hquiet.calm t) halone).2 u horder with hbefore | rfl
    · rw [hreach.orderly.order_of_isFree (hreach.isFree_of_quiet hquiet)] at hbefore
      exact absurd hu ((List.nodup_append.mp hnodup).2.2 u hbefore u · rfl)
    · rfl
  have hmem : t ∈ new := (List.mem_append.mp hadmitted).resolve_left hnot
  cases new with
  | nil => simp at hmem
  | cons v new =>
      obtain rfl := honly v List.mem_cons_self
      have hrest : new = [] := by
        refine List.eq_nil_iff_forall_not_mem.mpr fun u hu => ?_
        obtain rfl := honly u (List.mem_cons_of_mem _ hu)
        exact (List.nodup_cons.mp (List.nodup_append.mp hnodup).2.1).1 hu
      rw [hrest]

end Reachable

end Host

end ScriptHost
