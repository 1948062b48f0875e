import ScriptHost.Proofs.Gate.Callers
import ScriptHost.Proofs.Host.Callers

/-!
# What an event leaves alone

Where `Host.Steps` tells the ways in which an event may change a host, this module tells which of
them it is: an event is exactly one event of the gate or none (`Host.gateEvent?`), does exactly one
deed or none (`Host.deed?`), and touches no rebuild but that of its own caller. What a host was set
up with stays as it is.

These are equations, so that two runs can be compared event by event.

## Main definitions

* `Host.gateEvent?` — the event of the gate that an event of the host is.
* `Host.deed?` — the deed that is done in an event, and for whom.
* `Host.refusal?` — whom an event refuses.
* `Host.Event.ticket?` — whose event it is.
-/

namespace ScriptHost

namespace Host

variable {W : Type} {h : Host W} {t u : Ticket} {e : Event}

/-- The caller of an event; none for the worker behind the gate. -/
def Event.ticket? : Event → Option Ticket
  | .arrive t _ | .poll t | .drop t | .advance t => some t
  | .work => none

/-- What a caller can do. -/
theorem Event.of_ticket? (he : e.ticket? = some t) :
    (∃ d, e = .arrive t d) ∨ e = .poll t ∨ e = .drop t ∨ e = .advance t := by
  cases e with
  | work => simp [ticket?] at he
  | arrive u d | poll u | drop u | advance u =>
      obtain rfl : u = t := Option.some.inj he
      simp

/-- An event that is not about a caller is about another one, if about any. -/
theorem Event.ne_of_ticket? (he : e.ticket? ≠ some t) (hu : e.ticket? = some u) : u ≠ t := by
  rintro rfl
  exact he hu

/-- The deed that is done in an event, and for whom. -/
def deed? (h : Host W) : Event → Option (Ticket × Deed)
  | .advance t =>
    match h.phase t with
    | .working _ _ (deed :: _) _ | .orphaned (deed :: _) => some (t, deed)
    | _ => none
  | _ => none

/-- What is outside after an event; behind the gate it may change besides. -/
def worldAfter (h : Host W) (e : Event) : W :=
  match h.deed? e with
  | some (_, deed) => (h.platform.perform h.settings.rebuild deed h.native.world).2
  | none => h.native.world

/-- The event of the gate that an event of the host is; none if the gate is passed by. -/
def gateEvent? (h : Host W) : Event → Option (Gate.Event (Native W) Reply)
  | .arrive t d => if h.isNew t then (h.operation? d).map (.arrive t) else none
  | .poll t =>
    match h.phase t with
    | .absent | .reloading _ => some (.poll t)
    | .working _ _ [] [] => some (.arrive t (h.reloading h.settings.module.path))
    | _ => none
  | .drop t =>
    match h.phase t with
    | .ended _ | .abandoned | .orphaned _ => none
    | _ => some (.drop t)
  | .work => some .work
  | .advance _ => none

/-- Whom an event refuses, and why. -/
def refusal? (h : Host W) : Event → Option (Ticket × Failure)
  | .arrive t (.execute language source timeout) =>
    if h.isNew t then
      match h.requestFor language source timeout with
      | .ok _ => none
      | .error cause => some (t, cause)
    else none
  | _ => none

/-! ### What a host was set up with -/

/-- Two hosts were set up in the same way. -/
structure SameSetup (h k : Host W) : Prop where
  settings : h.settings = k.settings
  moduleConfig : h.moduleConfig = k.moduleConfig
  platform : h.platform = k.platform

/-- Hosts set up like a third one are set up like each other. -/
theorem SameSetup.trans {h k l : Host W} (hk : SameSetup h k) (hl : SameSetup k l) :
    SameSetup h l :=
  ⟨hk.settings.trans hl.settings, hk.moduleConfig.trans hl.moduleConfig,
    hk.platform.trans hl.platform⟩

/-- Which of the two comes first does not matter. -/
theorem SameSetup.symm {h k : Host W} (hk : SameSetup h k) : SameSetup k h :=
  ⟨hk.settings.symm, hk.moduleConfig.symm, hk.platform.symm⟩

/-- They make the same of a demand. -/
theorem SameSetup.requestFor_eq {h k : Host W} (hs : SameSetup h k) (language : Option String)
    (source : String) (timeout : Option Duration) :
    h.requestFor language source timeout = k.requestFor language source timeout := by
  simp only [requestFor, hs.settings]

/-- A demand comes to the same operation at hosts that are set up alike. -/
theorem SameSetup.operation?_eq {h k : Host W} (hs : SameSetup h k) (d : Demand) :
    h.operation? d = k.operation? d := by
  cases d <;> simp only [operation?, loading, reloading, executing, hs.requestFor_eq, hs.settings,
    hs.moduleConfig, hs.platform]

/-- A rebuild that goes on leaves the setup as it was. -/
theorem sameSetup_proceed (h : Host W) (t : Ticket) (p : Progress) (legs : List Leg) :
    SameSetup (h.proceed t p legs) h := by
  cases legs <;> exact ⟨rfl, rfl, rfl⟩

/-- **No event changes the setup.** -/
theorem sameSetup_step (h : Host W) (e : Event) : SameSetup (h.step e) h := by
  cases e with
  | arrive t d =>
      change SameSetup (h.arrive t d) h
      unfold arrive
      split
      · cases d with
        | execute language source timeout =>
            unfold accept
            dsimp only
            split <;> exact ⟨rfl, rfl, rfl⟩
        | rebuild =>
            simp only [accept, arriveRebuild]
            split
            · exact (sameSetup_proceed ..).trans ⟨rfl, rfl, rfl⟩
            · exact ⟨rfl, rfl, rfl⟩
        | start | load _ | unload | reload _ | executeRequest _ | ready | visit _ =>
            exact ⟨rfl, rfl, rfl⟩
      · exact ⟨rfl, rfl, rfl⟩
  | poll t =>
      change SameSetup (h.poll t) h
      unfold poll
      split
      · exact ⟨rfl, rfl, rfl⟩
      · split
        · exact sameSetup_proceed ..
        · exact ⟨rfl, rfl, rfl⟩
      · exact sameSetup_proceed ..
      · exact ⟨rfl, rfl, rfl⟩
      · unfold pollReload
        dsimp only
        split <;> exact ⟨rfl, rfl, rfl⟩
      · exact ⟨rfl, rfl, rfl⟩
  | drop t =>
      change SameSetup (h.drop t) h
      unfold drop
      dsimp only
      split <;> exact ⟨rfl, rfl, rfl⟩
  | work => exact ⟨rfl, rfl, rfl⟩
  | advance t =>
      change SameSetup (h.advance t) h
      unfold advance
      split
      · split <;> rename_i hk <;> obtain ⟨world, rfl⟩ := perform_eq hk <;> exact ⟨rfl, rfl, rfl⟩
      · split <;> rename_i hk <;> obtain ⟨world, rfl⟩ := perform_eq hk <;> exact ⟨rfl, rfl, rfl⟩
      · exact ⟨rfl, rfl, rfl⟩

/-- **What a host was set up with stays as it is.** -/
theorem sameSetup_run (h : Host W) (events : List Event) : SameSetup (h.run events) h := by
  induction events generalizing h with
  | nil => exact ⟨rfl, rfl, rfl⟩
  | cons e events ih => exact (ih (h.step e)).trans (h.sameSetup_step e)

/-! ### The gate and the deeds -/

/-- The gate after an event: the event of the gate is done, or only the world may change. -/
def gateAfter (h : Host W) (e : Event) : Gate (Native W) Reply :=
  match h.gateEvent? e with
  | some e' => h.gate.step e'
  | none => (h.withWorld (h.worldAfter e)).gate

/-- Those who are refused after an event. -/
def refusedAfter (h : Host W) (e : Event) (u : Ticket) : Option Failure :=
  match h.refusal? e with
  | some (t, cause) => if u = t then some cause else h.refused u
  | none => h.refused u

/-- What an event does to the gate, to the list of deeds and to those who are refused. -/
structure Exactly (h : Host W) (e : Event) (k : Host W) : Prop where
  gate : k.gate = h.gateAfter e
  deeds : k.deeds = h.deeds ++ (h.deed? e).toList
  refused : k.refused = h.refusedAfter e

/-- A rebuild that goes on submits the reload after its last leg. -/
theorem gate_proceed (h : Host W) (t : Ticket) (p : Progress) (legs : List Leg) :
    (h.proceed t p legs).gate = match legs with
      | [] => h.gate.arrive t (h.reloading h.settings.module.path)
      | _ :: _ => h.gate := by
  cases legs <;> rfl

/-- A rebuild that goes on refuses no one. -/
theorem refused_proceed (h : Host W) (t : Ticket) (p : Progress) (legs : List Leg) :
    (h.proceed t p legs).refused = h.refused := by
  cases legs <;> rfl

/-- Nor does it run anything yet. -/
theorem deeds_proceed (h : Host W) (t : Ticket) (p : Progress) (legs : List Leg) :
    (h.proceed t p legs).deeds = h.deeds := by
  cases legs <;> rfl

/-- A demand does what it says, and nothing else. -/
theorem exactly_arrive (h : Host W) (t : Ticket) (d : Demand) :
    h.Exactly (.arrive t d) (h.arrive t d) := by
  by_cases hnew : h.isNew t
  · simp only [arrive, hnew, if_true]
    cases d with
    | execute language source timeout =>
        cases hr : h.requestFor language source timeout <;>
          exact ⟨by simp [accept, gateAfter, gateEvent?, operation?, hnew, hr]; rfl,
            by simp [accept, deed?, hr, submit],
            by funext u; simp [accept, refusedAfter, refusal?, hnew, hr, submit]⟩
    | rebuild =>
        have hnone : h.refusal? (.arrive t .rebuild) = none := rfl
        refine ⟨?_, ?_, ?_⟩
        · simp only [accept, arriveRebuild, gateAfter, gateEvent?, hnew, if_true, operation?,
            Option.map_none]
          split
          · exact gate_proceed ..
          · rfl
        · simp only [accept, arriveRebuild, deed?, Option.toList_none, List.append_nil]
          split
          · exact deeds_proceed ..
          · rfl
        · funext u
          simp only [accept, arriveRebuild, refusedAfter, hnone]
          split
          · exact congrFun (refused_proceed ..) u
          · rfl
    | start | load _ | unload | reload _ | executeRequest _ | ready | visit _ =>
        exact ⟨by simp [accept, gateAfter, gateEvent?, operation?, hnew]; rfl,
          by simp [accept, deed?, submit], rfl⟩
  · simp only [arrive, hnew]
    refine ⟨by simp [gateAfter, gateEvent?, hnew]; rfl, by simp [deed?], ?_⟩
    funext u
    cases d <;> simp [refusedAfter, refusal?, hnew]

/-- So does a poll. -/
theorem exactly_poll (h : Host W) (t : Ticket) : h.Exactly (.poll t) (h.poll t) := by
  unfold poll
  split
  · rename_i hphase
    exact ⟨by simp [gateAfter, gateEvent?, hphase, Gate.step], by simp [deed?], rfl⟩
  · rename_i hphase
    split
    · exact ⟨by simp only [gateAfter, gateEvent?, hphase]; exact gate_proceed ..,
        by simp [deed?, beginRebuild, deeds_proceed], refused_proceed ..⟩
    · exact ⟨by simp only [gateAfter, gateEvent?, hphase]; rfl, by simp [deed?], rfl⟩
  · rename_i later hphase
    refine ⟨?_, by simp [deed?, deeds_proceed], refused_proceed ..⟩
    rw [gate_proceed]
    cases later <;> simp only [gateAfter, gateEvent?, hphase] <;> rfl
  · rename_i hphase
    exact ⟨by simp only [gateAfter, gateEvent?, hphase]; rfl,
      by simp [deed?, conclude, setPhase, present], rfl⟩
  · rename_i hphase
    refine ⟨?_, ?_, ?_⟩
    · simp only [gateAfter, gateEvent?, hphase, pollReload]
      split <;> rfl
    · simp only [pollReload]
      split <;> simp [deed?, conclude, setPhase, present]
    · simp only [pollReload]
      split <;> rfl
  · rename_i habsent hwaiting hworking hstopped hreloading
    refine ⟨?_, by simp [deed?], rfl⟩
    cases hphase : h.phase t with
    | absent => exact absurd hphase habsent
    | waiting => exact absurd hphase hwaiting
    | working p stage left later =>
        cases left with
        | nil => exact absurd hphase (hworking p stage later)
        | cons deed left => simp only [gateAfter, gateEvent?, hphase]; rfl
    | stopped p stage cause => exact absurd hphase (hstopped p stage cause)
    | reloading p => exact absurd hphase (hreloading p)
    | ended _ | abandoned | orphaned _ => simp only [gateAfter, gateEvent?, hphase]; rfl

/-- So does a caller that leaves. -/
theorem exactly_drop (h : Host W) (t : Ticket) : h.Exactly (.drop t) (h.drop t) := by
  unfold drop
  dsimp only
  split <;> rename_i hphase <;>
    exact ⟨by simp only [gateAfter, gateEvent?, hphase]; rfl, by simp [deed?, setPhase], rfl⟩

/-- So does a stage that goes on. -/
theorem exactly_advance (h : Host W) (t : Ticket) : h.Exactly (.advance t) (h.advance t) := by
  have hperform : ∀ (deed : Deed) {k : Host W}, h.deed? (.advance t) = some (t, deed) →
      k.gate = (h.perform t deed).2.gate → k.deeds = (h.perform t deed).2.deeds →
      k.refused = (h.perform t deed).2.refused → h.Exactly (.advance t) k := by
    intro deed k hdeed hgate hdeeds hrefused
    refine ⟨?_, by rw [hdeeds, hdeed]; rfl, hrefused⟩
    simp only [hgate, gateAfter, gateEvent?, worldAfter, hdeed]
    rfl
  unfold advance
  split
  · rename_i deed left later hphase
    split <;> rename_i hk <;>
      exact hperform deed (by simp [deed?, hphase]) (by rw [hk]; rfl) (by rw [hk]; rfl)
        (by rw [hk]; rfl)
  · rename_i deed left hphase
    split <;> rename_i hk <;>
      exact hperform deed (by simp [deed?, hphase]) (by rw [hk]; rfl) (by rw [hk]; rfl)
        (by rw [hk]; rfl)
  · rename_i hworking horphaned
    have hdeed : h.deed? (.advance t) = none := by
      unfold deed?
      dsimp only
      split
      · rename_i hphase
        exact absurd hphase (hworking _ _ _ _ _)
      · rename_i hphase
        exact absurd hphase (horphaned _ _)
      · rfl
    refine ⟨?_, by simp [hdeed], rfl⟩
    simp only [gateAfter, gateEvent?, worldAfter, hdeed]
    rfl

/-- **What an event does** to the gate, to the list of deeds and to those who are refused. -/
theorem exactly (h : Host W) (e : Event) : h.Exactly e (h.step e) := by
  cases e with
  | arrive t d => exact h.exactly_arrive t d
  | poll t => exact h.exactly_poll t
  | drop t => exact h.exactly_drop t
  | work => exact ⟨rfl, by simp [deed?, step, work], rfl⟩
  | advance t => exact h.exactly_advance t

/-! ### The others -/

/-- An event touches no rebuild but that of its own caller. -/
theorem phase_step_of_ne (he : e.ticket? ≠ some t) : (h.step e).phase t = h.phase t := by
  have hother : ∀ {u : Ticket} {p : Phase}, e.ticket? = some u →
      (h.setPhase u p).phase t = h.phase t := fun hu =>
    phase_setPhase_of_ne h _ fun htu => he (htu ▸ hu)
  have hs := (h.steps e).rebuilds
  generalize (h.step e).phase = phase, (h.step e).rebuilding = l at hs
  cases hs with
  | same _ => rfl
  | waits _ | arrives _ _ _ | begins _ _ _ | ends _ | leaves _ _ | trails _ _ => exact hother rfl
  | goes he' _ _ => rcases he' with rfl | rfl <;> exact hother rfl

/-- A rebuild that is over goes on only if a worker was left behind with it. -/
theorem phase_step_of_isOver (hover : (h.phase t).isOver) (he : e ≠ .advance t) :
    (h.step e).phase t = h.phase t := by
  by_cases hmine : e.ticket? = some t
  · obtain ⟨d, rfl⟩ | rfl | rfl | rfl := Event.of_ticket? hmine
    · have hnew : ¬ h.isNew t := fun hnew => by
        simp [phase_of_isNew hnew, Phase.isOver] at hover
      rw [step, arrive, if_neg hnew]
    · cases hp : h.phase t <;> simp_all [Phase.isOver, step, poll]
    · cases hp : h.phase t <;> simp_all [Phase.isOver, step, drop]
    · exact absurd rfl he
  · exact phase_step_of_ne hmine

/-- A rebuild that has ended has ended. -/
theorem phase_step_ended {p : Progress} (hphase : h.phase t = .ended p) (e : Event) :
    (h.step e).phase t = .ended p := by
  by_cases he : e = .advance t
  · subst he
    simp only [step, advance, hphase]
  · rw [phase_step_of_isOver (by rw [hphase]; rfl) he, hphase]

/-- The deed of an event is done for the caller of the event. -/
theorem ticket?_of_deed? {deed : Deed} (hd : h.deed? e = some (t, deed)) : e = .advance t := by
  cases e with
  | advance u =>
      unfold deed? at hd
      dsimp only at hd
      split at hd <;> simp_all
  | arrive _ _ | poll _ | drop _ | work => simp [deed?] at hd

/-- An event of the host at the gate is an event of the same caller. -/
theorem ticket?_of_gateEvent? {e' : Gate.Event (Native W) Reply} (hg : h.gateEvent? e = some e') :
    e'.ticket? = e.ticket? := by
  cases e with
  | arrive u d =>
      by_cases hnew : h.isNew u
      · simp only [gateEvent?, hnew, if_true, Option.map_eq_some_iff] at hg
        obtain ⟨op, -, rfl⟩ := hg
        rfl
      · simp [gateEvent?, hnew] at hg
  | poll u | drop u =>
      unfold gateEvent? at hg
      dsimp only at hg
      split at hg <;> first | exact Option.some.inj hg ▸ rfl | simp at hg
  | work => exact Option.some.inj hg ▸ rfl
  | advance u => simp [gateEvent?] at hg

/-- What is submitted to the gate in an event, and when. -/
theorem gateEvent?_arrive {op : Operation (Native W) Reply}
    (hg : h.gateEvent? e = some (.arrive t op)) :
    (∃ d, e = .arrive t d ∧ h.isNew t ∧ h.operation? d = some op) ∨
      e = .poll t ∧ (∃ p stage, h.phase t = .working p stage [] []) ∧
        op = h.reloading h.settings.module.path := by
  cases e with
  | arrive u d =>
      by_cases hnew : h.isNew u
      · simp only [gateEvent?, hnew, if_true, Option.map_eq_some_iff, Gate.Event.arrive.injEq] at hg
        obtain ⟨_, hop, rfl, rfl⟩ := hg
        exact .inl ⟨d, rfl, hnew, hop⟩
      · simp [gateEvent?, hnew] at hg
  | poll u =>
      unfold gateEvent? at hg
      dsimp only at hg
      split at hg
      · simp at hg
      · simp at hg
      · rename_i hphase
        simp only [Option.some.injEq, Gate.Event.arrive.injEq] at hg
        obtain ⟨rfl, rfl⟩ := hg
        exact .inr ⟨rfl, ⟨_, _, hphase⟩, rfl⟩
      · simp at hg
  | drop u =>
      unfold gateEvent? at hg
      dsimp only at hg
      split at hg <;> simp at hg
  | work => simp [gateEvent?] at hg
  | advance u => simp [gateEvent?] at hg

/-- An operation comes to the gate only as what a demand, or the end of a rebuild, comes to. -/
theorem submits_of_gateEvent? {op : Operation (Native W) Reply}
    (hg : h.gateEvent? e = some (.arrive t op)) : h.Submits e t op := by
  rcases gateEvent?_arrive hg with ⟨d, rfl, hnew, hop⟩ | ⟨rfl, ⟨p, stage, hphase⟩, rfl⟩
  · exact .demand hnew hop
  · exact .reload (by simp [hphase])

/-- A caller leaves the gate only by leaving the host. -/
theorem gateEvent?_drop (hg : h.gateEvent? e = some (.drop t)) :
    e = .drop t ∧ (h.phase t).isOver = false := by
  cases e with
  | arrive u d =>
      by_cases hnew : h.isNew u <;> simp [gateEvent?, hnew] at hg
  | poll u =>
      unfold gateEvent? at hg
      dsimp only at hg
      split at hg <;> simp at hg
  | drop u =>
      cases hphase : h.phase u <;> simp only [gateEvent?, hphase] at hg
      all_goals simp_all [Phase.isOver]
  | work | advance _ => simp [gateEvent?] at hg

/-- A caller is new to the gate as long as nothing is submitted for it. -/
theorem gate_phase_step_absent_iff : (h.step e).gate.phase t = .absent ↔
    h.gate.phase t = .absent ∧ ∀ op, h.gateEvent? e ≠ some (.arrive t op) := by
  rw [(h.exactly e).gate, gateAfter]
  cases hg : h.gateEvent? e with
  | none => exact ⟨fun hp => ⟨hp, by simp⟩, And.left⟩
  | some e' =>
      rw [(Gate.follows_step h.gate e' t).absent_iff]
      simp

/-- Whoever is unknown to the gate was so before. -/
theorem gate_phase_absent_of_run {events : List Event}
    (habsent : (h.run events).gate.phase t = .absent) :
    h.gate.phase t = .absent := by
  induction events generalizing h with
  | nil => exact habsent
  | cons e events ih => exact (gate_phase_step_absent_iff.mp (ih habsent)).1

/-- As long as nothing is submitted for a caller, its events pass the gate by. -/
theorem gate_step_of_absent (he : e.ticket? = some t)
    (habsent : (h.step e).gate.phase t = .absent) :
    (h.step e).gate = (h.withWorld (h.worldAfter e)).gate := by
  obtain ⟨hbefore, hsubmit⟩ := gate_phase_step_absent_iff.mp habsent
  rw [(h.exactly e).gate, gateAfter]
  cases hg : h.gateEvent? e with
  | none => rfl
  | some e' =>
      -- The gate does not know the caller, and so leaves alone whatever it does there.
      have hworld : (h.withWorld (h.worldAfter e)).gate = h.gate := by
        cases e <;> first | rfl | simp [gateEvent?] at hg
      have hmine := ticket?_of_gateEvent? hg
      rw [hworld]
      cases e' with
      | arrive u op =>
          obtain rfl : u = t := Option.some.inj (hmine.trans he)
          exact absurd hg (hsubmit op)
      | poll u =>
          obtain rfl : u = t := Option.some.inj (hmine.trans he)
          simp [Gate.step, Gate.poll, hbefore]
      | drop u =>
          obtain rfl : u = t := Option.some.inj (hmine.trans he)
          simp [Gate.step, Gate.drop, hbefore]
      | work => simp [he, Gate.Event.ticket?] at hmine

/-- An answer that the gate has given stays, unless its caller goes away. -/
theorem gate_phase_step_answered {r : Except Failure Reply} (hr : h.gate.phase t = .answered r)
    (hdrop : h.gateEvent? e ≠ some (.drop t)) : (h.step e).gate.phase t = .answered r := by
  rw [(h.exactly e).gate, gateAfter]
  cases hg : h.gateEvent? e with
  | none => exact hr
  | some e' =>
      have hf := Gate.follows_step h.gate e' t
      dsimp only
      generalize (h.gate.step e').phase t = q at hf
      rw [hr] at hf
      cases hf with
      | stays _ => rfl
      | begins h | glances h _ => rcases h with ⟨-, h⟩ | ⟨-, h⟩ <;> simp at h
      | proceeds h _ | completes h _ => simp [Gate.Phase.work?] at h
      | leaves _ _ _ => exact absurd hg hdrop

end Host

end ScriptHost
