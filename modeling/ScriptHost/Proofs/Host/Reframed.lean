import ScriptHost.Proofs.Gate.Likeness
import ScriptHost.Proofs.Host.Contracts
import ScriptHost.Proofs.Host.Frame

/-!
# A host with another loader

What a host has to do with its loader and with what is behind its gate is little: it submits what
loads, performs deeds in the world, and learns of a reload whether it failed. So a host with another
loader, and with a gate that is in step with its own (`Gate.Paired`), goes on as it does
(`Host.step_reframe`, `Host.paired_step`).

## Main definitions

* `Host.withLoader` — the host, and from now on another loader.
* `Host.reframe` — the host with another loader and another gate.
-/

namespace ScriptHost

variable {W : Type}

/-- The platform with another loader. -/
def Platform.withLoader (p : Platform W) (l : Loader W) : Platform W :=
  { p with load := l }

namespace Host

variable {k : Host W} {l : Loader W} {g : Gate (Native W) Reply} {t u : Ticket} {e : Event}

/-- The host with another loader. -/
def withLoader (k : Host W) (l : Loader W) : Host W :=
  { k with platform := k.platform.withLoader l }

/-- The host with another loader and another gate. -/
def reframe (k : Host W) (l : Loader W) (g : Gate (Native W) Reply) : Host W :=
  { k.withLoader l with gate := g }

/-! ### Everything but the gate -/

/-- A rebuild goes on the same with another loader and gate. -/
theorem proceed_reframe (k : Host W) (l : Loader W) (g : Gate (Native W) Reply) (p : Progress)
    (legs : List Leg) :
    ∃ g', (k.reframe l g).proceed t p legs = (k.proceed t p legs).reframe l g' := by
  cases legs <;> exact ⟨_, rfl⟩

/-- A demand comes the same to both, if its caller is new at both. -/
theorem arrive_reframe (hnew : (k.reframe l g).isNew t = k.isNew t) (d : Demand) :
    ∃ g', (k.reframe l g).arrive t d = (k.arrive t d).reframe l g' := by
  unfold arrive
  rw [hnew]
  split
  · cases d with
    | start | load _ | unload | reload _ | executeRequest _ | ready | visit _ => exact ⟨_, rfl⟩
    | execute language source timeout =>
        have hrequest : (k.reframe l g).requestFor language source timeout
            = k.requestFor language source timeout := rfl
        simp only [accept, hrequest]
        cases k.requestFor language source timeout <;> exact ⟨_, rfl⟩
    | rebuild =>
        simp only [accept, arriveRebuild]
        change ∃ g', (if (k.rebuilding.request t).isHeldBy t then _ else _)
          = (if (k.rebuilding.request t).isHeldBy t then _ else _ : Host W).reframe l g'
        split
        · exact proceed_reframe { k with rebuilding := k.rebuilding.request t } l g _ _
        · exact ⟨_, rfl⟩
  · exact ⟨_, rfl⟩

/-- What is done with the answer to a reload does not depend on why it failed. -/
theorem pollReload_reframe (p : Progress)
    (hanswer : ((g.poll t).answer? t).map Except.isOk =
      ((k.gate.poll t).answer? t).map Except.isOk) :
    ∃ g', (k.reframe l g).pollReload t p = (k.pollReload t p).reframe l g' := by
  have hgate : (k.reframe l g).gate = g := rfl
  simp only [pollReload, hgate]
  cases ha : (g.poll t).answer? t with
  | none =>
      cases hb : (k.gate.poll t).answer? t with
      | none => exact ⟨_, rfl⟩
      | some _ => simp [ha, hb] at hanswer
  | some r =>
      cases hb : (k.gate.poll t).answer? t with
      | none => simp [ha, hb] at hanswer
      | some r' =>
          cases r <;> cases r' <;>
            first
            | exact ⟨_, rfl⟩
            | simp [ha, hb, Except.isOk, Except.toBool] at hanswer

/-- A poll finds the same at both, if its caller has succeeded at both or at none. -/
theorem poll_reframe
    (hanswer : ∀ p, k.phase t = .reloading p →
      ((g.poll t).answer? t).map Except.isOk = ((k.gate.poll t).answer? t).map Except.isOk) :
    ∃ g', (k.reframe l g).poll t = (k.poll t).reframe l g' := by
  have hphase : (k.reframe l g).phase t = k.phase t := rfl
  simp only [poll, hphase]
  cases hp : k.phase t with
  | absent | ended _ | abandoned | orphaned _ | stopped _ _ _ => exact ⟨_, rfl⟩
  | waiting =>
      change ∃ g', (if k.rebuilding.isHeldBy t then _ else _)
        = (if k.rebuilding.isHeldBy t then _ else _ : Host W).reframe l g'
      split
      · exact proceed_reframe k l g _ _
      · exact ⟨_, rfl⟩
  | working p stage left later =>
      cases left with
      | nil => exact proceed_reframe k l g _ _
      | cons deed left => exact ⟨_, rfl⟩
  | reloading p => exact pollReload_reframe p (hanswer p hp)

/-- A caller leaves both in the same way. -/
theorem drop_reframe (k : Host W) (l : Loader W) (g : Gate (Native W) Reply) (t : Ticket) :
    ∃ g', (k.reframe l g).drop t = (k.drop t).reframe l g' := by
  have hphase : (k.reframe l g).phase t = k.phase t := rfl
  simp only [drop, hphase]
  cases k.phase t <;> exact ⟨_, rfl⟩

/-- A stage goes on the same at both, if it runs something in the same world. -/
theorem advance_reframe
    (hworld : k.deed? (.advance t) ≠ none → g.state.world = k.native.world) :
    ∃ g', (k.reframe l g).advance t = (k.advance t).reframe l g' := by
  have hphase : (k.reframe l g).phase t = k.phase t := rfl
  have hperform : ∀ deed, k.deed? (.advance t) = some (t, deed) →
      ∃ g', (k.reframe l g).perform t deed
        = ((k.perform t deed).1, (k.perform t deed).2.reframe l g') := by
    intro deed hdeed
    have hsame : (k.reframe l g).native.world = k.native.world := hworld (by simp [hdeed])
    refine ⟨((k.reframe l g).perform t deed).2.gate, ?_⟩
    simp only [perform, hsame]
    rfl
  simp only [advance, hphase]
  cases hp : k.phase t with
  | absent | waiting | stopped _ _ _ | reloading _ | ended _ | abandoned => exact ⟨_, rfl⟩
  | working p stage left later =>
      cases left with
      | nil => exact ⟨_, rfl⟩
      | cons deed left =>
          obtain ⟨g', heq⟩ := hperform deed (by simp [deed?, hp])
          simp only [heq]
          obtain ⟨outcome, j⟩ := k.perform t deed
          cases outcome <;> exact ⟨g', rfl⟩
  | orphaned left =>
      cases left with
      | nil => exact ⟨_, rfl⟩
      | cons deed left =>
          obtain ⟨g', heq⟩ := hperform deed (by simp [deed?, hp])
          simp only [heq]
          obtain ⟨outcome, j⟩ := k.perform t deed
          cases outcome <;> exact ⟨g', rfl⟩

/-- **A host goes on as it would with another loader**, but for the gate: if the same callers are
new to the other gate, deeds are done in the same world, and reloads end equally well. -/
theorem step_reframe (hnew : ∀ t, (k.reframe l g).isNew t = k.isNew t)
    (hworld : k.deed? e ≠ none → g.state.world = k.native.world)
    (hanswer : ∀ t p, e = .poll t → k.phase t = .reloading p →
      ((g.poll t).answer? t).map Except.isOk = ((k.gate.poll t).answer? t).map Except.isOk) :
    (k.reframe l g).step e = (k.step e).reframe l ((k.reframe l g).step e).gate := by
  have hexists : ∃ g', (k.reframe l g).step e = (k.step e).reframe l g' := by
    cases e with
    | arrive t d => exact arrive_reframe (hnew t) d
    | poll t => exact poll_reframe fun p => hanswer t p rfl
    | drop t => exact k.drop_reframe l g t
    | work => exact ⟨_, rfl⟩
    | advance t => exact advance_reframe hworld
  obtain ⟨g', heq⟩ := hexists
  rw [heq]
  rfl

/-- Callers have the same answers if the gates give the same. -/
theorem answer?_reframe (hgate : k.phase t = .absent → g.answer? t = k.gate.answer? t) :
    (k.reframe l g).answer? t = k.answer? t := by
  have hrefused : (k.reframe l g).refused t = k.refused t := rfl
  have hphase : (k.reframe l g).phase t = k.phase t := rfl
  simp only [answer?, hrefused, hphase]
  cases k.refused t with
  | some _ => rfl
  | none => cases hp : k.phase t <;> first | rfl | exact hgate hp

/-! ### The gate -/

variable {c : Gate.Likeness (Native W) Reply}

/-- The same callers are new. -/
theorem isNew_reframe (hg : Gate.Paired c k.gate g) (t : Ticket) :
    (k.reframe l g).isNew t = k.isNew t := by
  have habsent := (hg.phase t).absent_iff
  rw [Bool.eq_iff_iff, isNew_iff, isNew_iff]
  exact and_congr_left fun _ => habsent

/-- What comes to the gates in an event is of the same kind, if what is submitted compares. -/
theorem gateEvent?_reframe (hg : Gate.Paired c k.gate g)
    (hdemand : ∀ t d, e = .arrive t d → k.isNew t →
      Option.Rel (c.comes t) (k.operation? d) ((k.withLoader l).operation? d))
    (hreload : ∀ t p stage, e = .poll t → k.phase t = .working p stage [] [] →
      c.comes t (k.reloading k.settings.module.path)
        ((k.withLoader l).reloading k.settings.module.path)) :
    Option.Rel (Gate.Event.Like c) (k.gateEvent? e) ((k.reframe l g).gateEvent? e) := by
  cases e with
  | arrive t d =>
      have hoperation : (k.reframe l g).operation? d = (k.withLoader l).operation? d := rfl
      simp only [gateEvent?, isNew_reframe hg, hoperation]
      split
      · rename_i hnew
        have hrel := hdemand t d rfl hnew
        generalize k.operation? d = o, (k.withLoader l).operation? d = o' at hrel
        cases hrel with
        | none => exact .none
        | some hop => exact .some (.arrive hop)
      · exact .none
  | poll t =>
      have hphase : (k.reframe l g).phase t = k.phase t := rfl
      simp only [gateEvent?, hphase]
      split
      · exact .some (.poll t)
      · exact .some (.poll t)
      · rename_i hp
        exact .some (.arrive (hreload t _ _ rfl hp))
      · exact .none
  | drop t =>
      have hphase : (k.reframe l g).phase t = k.phase t := rfl
      simp only [gateEvent?, hphase]
      cases k.phase t <;> first | exact .none | exact .some (.drop t)
  | work => exact .some .work
  | advance t => exact .none

/-- The acts that are done in an event are those that its event at the gate does. -/
theorem acts_of_gateEvent? {e' : Gate.Event (Native W) Reply} (he : k.gateEvent? e = some e') :
    k.gate.acts e' = k.acts e := by
  have hticket := ticket?_of_gateEvent? he
  cases e with
  | work => exact congrArg k.gate.acts (Option.some.inj he).symm
  | arrive _ _ | poll _ | drop _ | advance _ =>
      cases e' with
      | work => simp [Gate.Event.ticket?, Event.ticket?] at hticket
      | arrive _ _ | poll _ | drop _ => rfl

/-- **The gates stay in step**, if what is submitted compares, deeds are done in the same world, and
the states compare no less with another world outside. -/
theorem paired_step (hg : Gate.Paired c k.gate g)
    (hevents : Option.Rel (Gate.Event.Like c) (k.gateEvent? e) ((k.reframe l g).gateEvent? e))
    (hworld : k.deed? e ≠ none → g.state.world = k.native.world)
    (hrest : ∀ ts n n' world, c.rest ts n n' → c.rest ts (n.withWorld world) (n'.withWorld world))
    (hgoing : ∀ ts t w w' n n' world, c.going ts t w w' n n' →
      c.going ts t w w' (n.withWorld world) (n'.withWorld world))
    (hadmits : ∀ t ∈ (k.step e).gate.admitted, c.admits t) (hpermits : ∀ a ∈ k.acts e, c.permits a)
    (hpermits' : ∀ a ∈ (k.reframe l g).acts e, c.permits a) :
    Gate.Paired c (k.step e).gate ((k.reframe l g).step e).gate := by
  rw [(k.exactly e).gate, gateAfter] at hadmits ⊢
  rw [((k.reframe l g).exactly e).gate, gateAfter]
  generalize he : k.gateEvent? e = o, he' : (k.reframe l g).gateEvent? e = o' at hevents hadmits
  cases hevents with
  | some hlike =>
      exact hg.step hlike hadmits (acts_of_gateEvent? he ▸ hpermits)
        (acts_of_gateEvent? he' ▸ hpermits')
  | none =>
      have hdeed : (k.reframe l g).deed? e = k.deed? e := by cases e <;> rfl
      have hnative : (k.reframe l g).native.world = g.state.world := rfl
      cases hd : k.deed? e with
      | none =>
          simp only [worldAfter, hdeed, hd]
          exact hg
      | some d =>
          have hsame := hworld (by simp [hd])
          simp only [worldAfter, hdeed, hd, hnative, hsame]
          exact hg.withState (hrest _ _ _ _) fun ts t w w' _ => hgoing ts t w w' _ _ _

end Host

end ScriptHost
