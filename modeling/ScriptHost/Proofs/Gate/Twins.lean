import ScriptHost.Proofs.Gate.Order

/-!
# Gates over different states

Two gates that differ in nothing but the states behind them stay so, as long as no operation can
tell the states apart (`Gate.step_withState`). Who waits, who holds the gate, what is left of the
work in flight and what was answered is then the same at both.
-/

namespace ScriptHost

namespace Gate

variable {σ α : Type} {g : Gate σ α} {s : σ} {t : Ticket} {op : Operation σ α}

/-- The gate with another state behind it. -/
def withState (g : Gate σ α) (s : σ) : Gate σ α :=
  { g with state := s }

/-- What is asked of two states is the same. -/
def SameGlance (s s' : σ) : Operation σ α → Prop
  | .work _ => True
  | .glance f => f s = f s'

/-- Whoever enters finds nothing different. -/
theorem enter_withState (hop : SameGlance g.state s op) (t : Ticket) :
    (g.withState s).enter t op = (g.enter t op).withState s ∧ (g.enter t op).state = g.state := by
  cases op with
  | work w => exact ⟨rfl, rfl⟩
  | glance f =>
      have hsame : f g.state = f s := hop
      refine ⟨?_, rfl⟩
      simp only [enter, withState, hsame]
      rfl

/-- Coming to a gate looks at no more of its state than the operation does, and changes none of it.
-/
theorem arrive_withState (hop : SameGlance g.state s op) (t : Ticket) :
    (g.withState s).arrive t op = (g.arrive t op).withState s ∧
      (g.arrive t op).state = g.state := by
  have hphase : (g.withState s).phase t = g.phase t := rfl
  unfold arrive
  rw [hphase]
  cases g.phase t with
  | absent =>
      dsimp only
      change (if (g.lock.request t).isHeldBy t then _ else _) = _ ∧ _
      split
      · exact enter_withState (g := { g with lock := g.lock.request t }) hop t
      · exact ⟨rfl, rfl⟩
  | queued _ | running _ | orphaned _ | finished _ | answered _ | abandoned => exact ⟨rfl, rfl⟩

/-- Nor does a poll. -/
theorem poll_withState (hop : ∀ op, g.phase t = .queued op → SameGlance g.state s op) :
    (g.withState s).poll t = (g.poll t).withState s ∧ (g.poll t).state = g.state := by
  have hphase : (g.withState s).phase t = g.phase t := rfl
  unfold poll
  rw [hphase]
  cases hp : g.phase t with
  | queued op =>
      dsimp only
      change (if g.lock.isHeldBy t then _ else _) = _ ∧ _
      split
      · exact enter_withState (hop op hp) t
      · exact ⟨rfl, rfl⟩
  | finished r => exact ⟨rfl, rfl⟩
  | absent | running _ | orphaned _ | answered _ | abandoned => exact ⟨rfl, rfl⟩

/-- A caller that leaves does not look at the state at all. -/
theorem drop_withState (t : Ticket) :
    (g.withState s).drop t = (g.drop t).withState s ∧ (g.drop t).state = g.state := by
  have hphase : (g.withState s).phase t = g.phase t := rfl
  unfold drop
  rw [hphase]
  cases g.phase t <;> exact ⟨rfl, rfl⟩

/-- **Two gates go the same way** if no glance and no act in an event can tell their states
apart. -/
theorem step_withState {R : σ → σ → Prop} {e : Event σ α} (hR : R g.state s)
    (harrive : ∀ t op, e = .arrive t op → SameGlance g.state s op)
    (hpoll : ∀ t op, g.phase t = .queued op → SameGlance g.state s op)
    (hact : ∀ t change rest, g.busy? = some (t, .act change rest) →
      R (change g.state) (change s) ∧ rest g.state = rest s) :
    ∃ s', (g.withState s).step e = (g.step e).withState s' ∧ R (g.step e).state s' := by
  cases e with
  | arrive t op =>
      obtain ⟨heq, hstate⟩ := arrive_withState (harrive t op rfl) t
      exact ⟨s, heq, hstate.symm ▸ hR⟩
  | poll t =>
      obtain ⟨heq, hstate⟩ := poll_withState (hpoll t)
      exact ⟨s, heq, hstate.symm ▸ hR⟩
  | drop t =>
      obtain ⟨heq, hstate⟩ := g.drop_withState t
      exact ⟨s, heq, hstate.symm ▸ hR⟩
  | work =>
      change ∃ s', (g.withState s).work = g.work.withState s' ∧ R g.work.state s'
      have hbusy : (g.withState s).busy? = g.busy? := rfl
      unfold work
      rw [hbusy]
      cases hb : g.busy? with
      | none => exact ⟨s, rfl, hR⟩
      | some x =>
          obtain ⟨t, outcome | ⟨change, rest⟩⟩ := x
          · exact ⟨s, rfl, hR⟩
          · obtain ⟨hnext, hrest⟩ := hact t change rest hb
            refine ⟨change s, ?_, hnext⟩
            simp only [hrest]
            rfl

end Gate

end ScriptHost
