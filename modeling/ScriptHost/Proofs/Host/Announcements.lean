import ScriptHost.Proofs.Host.Frame
import ScriptHost.Proofs.Rebuild.Snapshots

/-!
# What the caller of a rebuild is shown

An announcement is shown at the moment it is made, whoever else is about: in every phase of a
rebuild its caller has been shown the history of its log and nothing else (`Host.Announced`). So
whoever has the progress of a rebuild was shown all of it before (`Host.recounts_run`).

## Main definitions

* `Host.Announced` — what was shown of a rebuild, phase by phase.
-/

namespace ScriptHost

namespace Host

variable {W : Type} {h : Host W} {t u : Ticket} {e : Event}

/-! ### Who is shown something -/

@[simp] theorem shown_present_self (h : Host W) (t : Ticket) (p : Progress) :
    (h.present t p).shown t = h.shown t ++ [p] := by
  simp [present]

/-- What is presented to one caller is shown to no other. -/
theorem shown_present_of_ne (h : Host W) (p : Progress) (hu : u ≠ t) :
    (h.present t p).shown u = h.shown u := by
  simp [present, hu]

/-- A rebuild that goes on shows nothing to others. -/
theorem shown_proceed_of_ne (h : Host W) (p : Progress) (legs : List Leg) (hu : u ≠ t) :
    (h.proceed t p legs).shown u = h.shown u := by
  cases legs <;> exact shown_present_of_ne h _ hu

@[simp] theorem shown_conclude_self (h : Host W) (t : Ticket) (p : Progress) :
    (h.conclude t p).shown t = h.shown t ++ [p] :=
  shown_present_self h t p

@[simp] theorem phase_conclude_self (h : Host W) (t : Ticket) (p : Progress) :
    (h.conclude t p).phase t = .ended p :=
  phase_setPhase_self (h.present t p) t (.ended p)

/-- A rebuild that ends shows nothing to others. -/
theorem shown_conclude_of_ne (h : Host W) (p : Progress) (hu : u ≠ t) :
    (h.conclude t p).shown u = h.shown u :=
  shown_present_of_ne h p hu

/-- A poll shows nothing to any other caller. -/
theorem shown_poll_of_ne (h : Host W) (hu : u ≠ t) : (h.poll t).shown u = h.shown u := by
  unfold poll
  split
  · rfl
  · split
    · exact shown_proceed_of_ne h _ _ hu
    · rfl
  · exact shown_proceed_of_ne h _ _ hu
  · exact shown_conclude_of_ne h _ hu
  · simp only [pollReload]
    split
    · rfl
    · exact shown_conclude_of_ne _ _ hu
    · exact shown_conclude_of_ne _ _ hu
  · rfl

/-- Whoever comes, others are shown nothing. -/
theorem shown_arrive_of_ne (h : Host W) (d : Demand) (hu : u ≠ t) :
    (h.arrive t d).shown u = h.shown u := by
  unfold arrive
  split
  · cases d with
    | rebuild =>
        simp only [accept, arriveRebuild]
        split
        · exact shown_proceed_of_ne _ _ _ hu
        · rfl
    | execute language source timeout =>
        simp only [accept]
        split <;> rfl
    | start | load _ | unload | reload _ | executeRequest _ | ready | visit _ => rfl
  · rfl

/-- Only a caller that comes or looks is shown something. -/
theorem shown_drop (h : Host W) (t : Ticket) : (h.drop t).shown = h.shown := by
  unfold drop
  dsimp only
  split <;> rfl

/-- Going on with a stage shows nothing yet. -/
theorem shown_advance (h : Host W) (t : Ticket) : (h.advance t).shown = h.shown := by
  unfold advance
  split
  · split <;> rename_i hk <;> obtain ⟨world, rfl⟩ := perform_eq hk <;> rfl
  · split <;> rename_i hk <;> obtain ⟨world, rfl⟩ := perform_eq hk <;> rfl
  · rfl

/-- **What is announced is shown to nobody else.** -/
theorem shown_step_of_ne (he : e.ticket? ≠ some t) : (h.step e).shown t = h.shown t := by
  cases e with
  | arrive u d => exact shown_arrive_of_ne h d (Event.ne_of_ticket? he rfl).symm
  | poll u => exact shown_poll_of_ne h (Event.ne_of_ticket? he rfl).symm
  | drop u => exact congrFun (shown_drop h u) t
  | advance u => exact congrFun (shown_advance h u) t
  | work => rfl

/-! ### Phase by phase -/

/-- What was shown of a rebuild, phase by phase. Whoever goes away is shown nothing more. -/
inductive Announced : Phase → List Progress → Prop where
  | absent : Announced .absent []
  | waiting : Announced .waiting []
  | working {p : Progress} {stage : Stage} {left : List Deed} {later : List Leg}
      {shown : List Progress}
      (hp : p.Running stage shown)
      (hlater : (stage :: later.map Leg.stage).Pairwise fun a b => a ≤ b) :
      Announced (.working p stage left later) shown
  | stopped {p : Progress} {stage : Stage} {cause : Failure} {shown : List Progress}
      (hp : p.Running stage shown) : Announced (.stopped p stage cause) shown
  | reloading {p : Progress} {shown : List Progress} (hp : p.Running .reload shown) :
      Announced (.reloading p) shown
  | ended {p : Progress} {shown : List Progress} (hp : p.Recounts shown) :
      Announced (.ended p) shown
  | abandoned {shown : List Progress} : Announced .abandoned shown
  | orphaned {left : List Deed} {shown : List Progress} : Announced (.orphaned left) shown

variable {p : Progress}

/-- A rebuild that goes on with legs in order announces the next of them, or the reload. -/
theorem announced_proceed {stage : Stage} {legs : List Leg} (hp : p.Running stage (h.shown t))
    (hlegs : (stage :: legs.map Leg.stage).Pairwise fun a b => a ≤ b) :
    Announced ((h.proceed t p legs).phase t) ((h.proceed t p legs).shown t) := by
  cases legs with
  | nil =>
      have hphase : (h.proceed t p []).phase t
        = .reloading (p.push .reload reloadAnnouncement) := phase_setPhase_self ..
      have hshown : (h.proceed t p []).shown t
        = h.shown t ++ [p.push .reload reloadAnnouncement] := shown_present_self ..
      rw [hphase, hshown]
      exact .reloading (hp.push stage.le_reload reloadAnnouncement)
  | cons leg later =>
      have hphase : (h.proceed t p (leg :: later)).phase t = .working
        (p.push leg.stage leg.announcement) leg.stage leg.deeds later := phase_setPhase_self ..
      have hshown : (h.proceed t p (leg :: later)).shown t
        = h.shown t ++ [p.push leg.stage leg.announcement] := shown_present_self ..
      obtain ⟨hfirst, hrest⟩ := List.pairwise_cons.mp hlegs
      rw [hphase, hshown]
      exact .working (hp.push (hfirst leg.stage (by simp)) leg.announcement) hrest

/-- A rebuild begins with the legs of its plan, which are in order. -/
theorem announced_beginRebuild (hshown : h.shown t = []) :
    Announced ((h.beginRebuild t).phase t) ((h.beginRebuild t).shown t) := by
  have hbegun : Progress.empty.Running .sync (h.shown t) := hshown.symm ▸ .empty
  refine announced_proceed hbegun (List.pairwise_cons.mpr ⟨fun stage _ => stage.sync_le, ?_⟩)
  exact h.settings.rebuild.ordered_plan

/-- A rebuild that ends shows its last announcement together with the outcome. -/
theorem announced_conclude {stage next : Stage} (hp : p.Running stage (h.shown t))
    (hnext : stage ≤ next) (message : String) (outcome : RebuildOutcome) :
    Announced ((h.conclude t ((p.push next message).finish outcome)).phase t)
      ((h.conclude t ((p.push next message).finish outcome)).shown t) := by
  rw [phase_conclude_self, shown_conclude_self]
  exact .ended (hp.finish hnext message outcome)

namespace Announced

/-- Whoever has no rebuild is shown nothing. -/
theorem shown_eq {shown : List Progress} (ha : Announced .absent shown) : shown = [] := by
  cases ha with
  | absent => rfl

/-- What has been announced to a caller is its phase still, when a demand comes. -/
theorem arrive (ha : Announced (h.phase t) (h.shown t)) (d : Demand) :
    Announced ((h.arrive t d).phase t) ((h.arrive t d).shown t) := by
  unfold Host.arrive
  split
  · rename_i hnew
    have hshown : h.shown t = [] := by
      rw [(isNew_iff.mp hnew).2.1] at ha
      exact ha.shown_eq
    cases d with
    | rebuild =>
        simp only [accept, arriveRebuild]
        split
        · exact announced_beginRebuild hshown
        · rw [phase_setPhase_self]
          exact hshown.symm ▸ .waiting
    | execute language source timeout =>
        simp only [accept]
        split <;> exact ha
    | start | load _ | unload | reload _ | executeRequest _ | ready | visit _ => exact ha
  · exact ha

/-- So it is after a poll, its own or that of another. -/
theorem poll (ha : Announced (h.phase t) (h.shown t)) :
    Announced ((h.poll t).phase t) ((h.poll t).shown t) := by
  have hstay : h.poll t = h → Announced ((h.poll t).phase t) ((h.poll t).shown t) :=
    fun hsame => hsame.symm ▸ ha
  generalize hphase : h.phase t = q at ha
  generalize hshown : h.shown t = shown at ha
  cases ha with
  | absent =>
      simp only [Host.poll, hphase]
      exact hshown.symm ▸ .absent
  | waiting =>
      by_cases hheld : h.rebuilding.isHeldBy t
      · simp only [Host.poll, hphase, hheld, if_true]
        exact announced_beginRebuild hshown
      · exact hstay (by simp [Host.poll, hphase, hheld])
  | @working p stage left later _ hp hlater =>
      cases left with
      | cons deed left => exact hstay (by simp only [Host.poll, hphase])
      | nil =>
          simp only [Host.poll, hphase]
          exact announced_proceed (hshown.symm ▸ hp) hlater
  | stopped hp =>
      simp only [Host.poll, hphase]
      exact announced_conclude (hshown.symm ▸ hp) (Stage.le_refl _) _ _
  | reloading hp =>
      have hp' : Progress.Running _ .reload (h.shown t) := hshown.symm ▸ hp
      simp only [Host.poll, hphase, pollReload]
      split
      · rw [hphase]
        exact .reloading hp'
      · exact announced_conclude hp' (Stage.le_refl _) _ _
      · exact announced_conclude hp' (Stage.le_refl _) _ _
  | ended _ | abandoned | orphaned => exact hstay (by simp only [Host.poll, hphase])

/-- So it is when someone leaves. -/
theorem drop (ha : Announced (h.phase t) (h.shown t)) :
    Announced ((h.drop t).phase t) ((h.drop t).shown t) := by
  rw [shown_drop]
  have hstay : h.drop t = h → Announced ((h.drop t).phase t) (h.shown t) :=
    fun hsame => hsame.symm ▸ ha
  generalize hphase : h.phase t = q at ha
  generalize hshown : h.shown t = shown at ha hstay ⊢
  cases ha with
  | absent =>
      simp only [Host.drop, hphase]
      exact .absent
  | waiting | stopped _ | reloading _ =>
      simp only [Host.drop, hphase, phase_setPhase_self]
      exact .abandoned
  | working _ _ =>
      simp only [Host.drop, hphase, phase_setPhase_self]
      exact .orphaned
  | ended _ | abandoned | orphaned => exact hstay (by simp only [Host.drop, hphase])

/-- So it is when a stage goes on. -/
theorem advance (ha : Announced (h.phase t) (h.shown t)) :
    Announced ((h.advance t).phase t) ((h.advance t).shown t) := by
  rw [shown_advance]
  have hstay : h.advance t = h → Announced ((h.advance t).phase t) (h.shown t) :=
    fun hsame => hsame.symm ▸ ha
  generalize hphase : h.phase t = q at ha
  generalize hshown : h.shown t = shown at ha hstay ⊢
  cases ha with
  | @working p stage left later _ hp hlater =>
      cases left with
      | nil => exact hstay (by simp only [Host.advance, hphase])
      | cons deed left =>
          obtain ⟨result, k, hk⟩ : ∃ result k, h.perform t deed = (result, k) := ⟨_, _, rfl⟩
          cases result with
          | ok _ =>
              simp only [Host.advance, hphase, hk, phase_setPhase_self]
              exact .working hp hlater
          | error cause =>
              simp only [Host.advance, hphase, hk, phase_setPhase_self]
              exact .stopped hp
  | @orphaned left _ =>
      cases left with
      | nil => exact hstay (by simp only [Host.advance, hphase])
      | cons deed left =>
          obtain ⟨result, k, hk⟩ : ∃ result k, h.perform t deed = (result, k) := ⟨_, _, rfl⟩
          cases result with
          | ok _ =>
              simp only [Host.advance, hphase, hk, phase_setPhase_self]
              exact .orphaned
          | error cause =>
              simp only [Host.advance, hphase, hk, phase_setPhase_self]
              exact .abandoned
  | absent | waiting | stopped _ | reloading _ | ended _ | abandoned =>
      exact hstay (by simp only [Host.advance, hphase])

/-- Every event keeps what is shown in step with the phase. -/
theorem step (ha : Announced (h.phase t) (h.shown t)) (e : Event) :
    Announced ((h.step e).phase t) ((h.step e).shown t) := by
  by_cases he : e.ticket? = some t
  · obtain ⟨d, rfl⟩ | rfl | rfl | rfl := Event.of_ticket? he
    · exact ha.arrive d
    · exact ha.poll
    · exact ha.drop
    · exact ha.advance
  · rwa [phase_step_of_ne he, shown_step_of_ne he]

/-- **What has been announced to a caller is its phase**, whatever happens. -/
theorem run (ha : Announced (h.phase t) (h.shown t)) (events : List Event) :
    Announced ((h.run events).phase t) ((h.run events).shown t) := by
  induction events generalizing h with
  | nil => exact ha
  | cons e events ih => exact ih (ha.step e)

end Announced

/-- **Whoever has the progress of a rebuild was shown all of it before.** -/
theorem recounts_run (settings : Settings) (moduleConfig : Option Bytes) (platform : Platform W)
    (world : W) (events : List Event) (t : Ticket)
    (hended : ((init settings moduleConfig platform world).run events).phase t = .ended p) :
    p.Recounts (((init settings moduleConfig platform world).run events).shown t) := by
  have hbegun : Announced ((init settings moduleConfig platform world).phase t)
    ((init settings moduleConfig platform world).shown t) := .absent
  have ha := hbegun.run events
  rw [hended] at ha
  cases ha with
  | ended hp => exact hp

end Host

end ScriptHost
