import ScriptHost.Proofs.Gate.Line
import ScriptHost.Proofs.Host.Step

/-!
# Rebuilds and their lock

How far a rebuild comes in an event (`Host.AtRebuilds.moves`), and what that has to do with the lock
that rebuilds wait for: whoever carries a rebuild on has the lock (`Host.inLine_run`). A rebuild
that is over does not come back, and a rebuild whose caller went away is over, also if its worker
still has deeds to do. Such a worker goes on without the lock.
-/

namespace ScriptHost

namespace Host

variable {W : Type} {h : Host W} {t u : Ticket}

/-- Whoever is new has no rebuild. -/
theorem phase_of_isNew (hnew : h.isNew t) : h.phase t = .absent := by
  simp only [isNew, Bool.and_eq_true, decide_eq_true_eq] at hnew
  exact hnew.1.2

/-! ### What stays -/

/-- After a rebuild went into another phase, only this one is in another phase. -/
theorem phase_setPhase_iff {p : Phase} (P : Phase → Prop) :
    P ((h.setPhase t p).phase u) ↔ u = t ∧ P p ∨ u ≠ t ∧ P (h.phase u) := by
  by_cases hut : u = t
  · subst hut
    simp
  · simp [phase_setPhase_of_ne h p hut, hut]

/-- A rebuild that is carried is waited for. -/
theorem Phase.isPending_of_isCarried {p : Phase} (hp : p.isCarried) : p.isPending := by
  cases p <;> simp_all [isCarried, isPending]

/-- One that is over is not waited for. -/
theorem Phase.not_isPending_of_isOver {p : Phase} (hp : p.isOver) : p.isPending = false := by
  cases p <;> simp_all [isOver, isPending]

/-- Nor is it carried. -/
theorem Phase.not_isCarried_of_isOver {p : Phase} (hp : p.isOver) : p.isCarried = false := by
  cases p <;> simp_all [isOver, isCarried]

/-- One whose caller has left is over. -/
theorem Phase.isOver_of_isOrphaned {p : Phase} (hp : p.isOrphaned) : p.isOver := by
  cases p <;> simp_all [isOrphaned, isOver]

/-- The caller of the rebuild went away. -/
def Phase.isGone : Phase → Bool
  | .abandoned | .orphaned _ => true
  | _ => false

/-- So is one that is gone. -/
theorem Phase.isOver_of_isGone {p : Phase} (hp : p.isGone) : p.isOver := by
  cases p <;> simp_all [isGone, isOver]

/-- The rebuild has begun: it is carried on, or over. -/
def Phase.IsBegun (p : Phase) : Prop :=
  p.isCarried ∨ p.isOver

/-- One that has begun is there. -/
theorem Phase.IsBegun.ne_absent {p : Phase} (hp : p.IsBegun) : p ≠ .absent := by
  rintro rfl
  simp [IsBegun, isCarried, isOver] at hp

namespace AtRebuilds

variable {e : Event} {phase : Ticket → Phase} {l : Lock}

/-- How far a rebuild comes in an event: it stays where it is, or it is new and asks, or it begins
or goes on, and is over if it was. -/
theorem moves (hs : h.AtRebuilds e phase l) (u : Ticket) :
    phase u = h.phase u ∨
      h.isNew u ∧ e = .arrive u .rebuild ∧ phase u ≠ .absent ∨
      h.phase u ≠ .absent ∧ (phase u).IsBegun ∧ ((h.phase u).isOver → (phase u).isOver) := by
  -- Only one rebuild goes into another phase, and what is said of it is what has to be shown.
  have hset : ∀ {t : Ticket} {p : Phase}, (u = t →
      h.isNew u ∧ e = .arrive u .rebuild ∧ p ≠ .absent ∨
      h.phase u ≠ .absent ∧ p.IsBegun ∧ ((h.phase u).isOver → p.isOver)) →
      (h.setPhase t p).phase u = h.phase u ∨
        h.isNew u ∧ e = .arrive u .rebuild ∧ (h.setPhase t p).phase u ≠ .absent ∨
        h.phase u ≠ .absent ∧ ((h.setPhase t p).phase u).IsBegun ∧
          ((h.phase u).isOver → ((h.setPhase t p).phase u).isOver) := by
    intro t p hp
    by_cases hut : u = t
    · subst hut
      rw [phase_setPhase_self]
      exact .inr (hp rfl)
    · exact .inl (phase_setPhase_of_ne h p hut)
  cases hs with
  | same _ => exact .inl rfl
  | waits hnew =>
      refine hset ?_
      rintro rfl
      exact .inl ⟨hnew, rfl, by simp⟩
  | arrives hnew _ hp =>
      refine hset ?_
      rintro rfl
      exact .inl ⟨hnew, rfl, Phase.IsBegun.ne_absent (.inl hp)⟩
  | begins hwaits _ hp =>
      refine hset ?_
      rintro rfl
      exact .inr ⟨by simp [hwaits], .inl hp, by simp [hwaits, Phase.isOver]⟩
  | goes _ hcarried hp =>
      refine hset ?_
      rintro rfl
      refine .inr ⟨Phase.IsBegun.ne_absent (.inl hcarried), .inl hp, fun hover => ?_⟩
      simp [Phase.not_isCarried_of_isOver hover] at hcarried
  | ends hcarried =>
      refine hset ?_
      rintro rfl
      exact .inr ⟨Phase.IsBegun.ne_absent (.inl hcarried), .inr rfl, fun _ => rfl⟩
  | leaves hpending hp =>
      refine hset ?_
      rintro rfl
      refine .inr ⟨?_, .inr hp, fun _ => hp⟩
      intro habsent
      simp [habsent, Phase.isPending] at hpending
  | trails horphaned hp =>
      refine hset ?_
      rintro rfl
      exact .inr ⟨Phase.IsBegun.ne_absent (.inr (Phase.isOver_of_isOrphaned horphaned)), .inr hp,
        fun _ => hp⟩

/-- A rebuild that was there is there. -/
theorem ne_absent (hs : h.AtRebuilds e phase l) (hu : h.phase u ≠ .absent) : phase u ≠ .absent := by
  rcases hs.moves u with heq | ⟨-, -, hp⟩ | ⟨-, hp, -⟩
  · rwa [heq]
  · exact hp
  · exact hp.ne_absent

/-- A rebuild is there only if a new caller asked for it. -/
theorem absent (hs : h.AtRebuilds e phase l) (hu : h.phase u = .absent)
    (he : e = .arrive u .rebuild → ¬ h.isNew u) : phase u = .absent := by
  rcases hs.moves u with heq | ⟨hnew, heq, -⟩ | ⟨hp, -, -⟩
  · rwa [heq]
  · exact absurd hnew (he heq)
  · exact absurd hu hp

/-- What has begun has begun. -/
theorem isBegun (hs : h.AtRebuilds e phase l) (hu : (h.phase u).IsBegun) : (phase u).IsBegun := by
  rcases hs.moves u with heq | ⟨hnew, -, -⟩ | ⟨-, hp, -⟩
  · rwa [heq]
  · exact absurd (phase_of_isNew hnew) hu.ne_absent
  · exact hp

/-- What is over is over. -/
theorem isOver (hs : h.AtRebuilds e phase l) (hu : (h.phase u).isOver) : (phase u).isOver := by
  rcases hs.moves u with heq | ⟨hnew, -, -⟩ | ⟨-, -, hp⟩
  · rwa [heq]
  · exact absurd (phase_of_isNew hnew) (Phase.IsBegun.ne_absent (.inr hu))
  · exact hp hu

/-- What is true only of rebuilds whose callers went away, and stays true while the worker goes on,
becomes true by a caller going away. -/
theorem left_by_drop (hs : h.AtRebuilds e phase l) {P : Phase → Bool}
    (hgone : ∀ p, P p → p.isGone) (horphaned : ∀ p, p.isOrphaned → P p) (hu : P (phase u)) :
    P (h.phase u) ∨ e = .drop u := by
  have hset : ∀ {t : Ticket} {p : Phase}, P ((h.setPhase t p).phase u) →
      u = t ∧ P p ∨ P (h.phase u) := fun hnow =>
    (phase_setPhase_iff (fun q => P q = true)).mp hnow |>.imp id And.right
  have hcarried : ∀ {p : Phase}, p.isCarried → ¬ P p := by
    intro p hp hPp
    have := hgone p hPp
    cases p <;> simp_all [Phase.isCarried, Phase.isGone]
  cases hs with
  | same _ => exact .inl hu
  | waits _ | ends _ =>
      rcases hset hu with ⟨-, hp⟩ | h
      · exact absurd (hgone _ hp) (by simp [Phase.isGone])
      · exact .inl h
  | arrives _ _ hc | begins _ _ hc | goes _ _ hc =>
      rcases hset hu with ⟨-, hp⟩ | h
      · exact absurd hp (hcarried hc)
      · exact .inl h
  | leaves _ _ =>
      rcases hset hu with ⟨rfl, -⟩ | h
      · exact .inr rfl
      · exact .inl h
  | trails hleft _ =>
      rcases hset hu with ⟨rfl, -⟩ | h
      · exact .inl (horphaned _ hleft)
      · exact .inl h

/-- A worker is left alone only by a caller that goes away. -/
theorem isOrphaned (hs : h.AtRebuilds e phase l) (hu : (phase u).isOrphaned) :
    (h.phase u).isOrphaned ∨ e = .drop u :=
  hs.left_by_drop (fun p hp => by cases p <;> simp_all [Phase.isOrphaned, Phase.isGone])
    (fun _ => id) hu

/-- Only those are gone who went away. -/
theorem isGone (hs : h.AtRebuilds e phase l) (hu : (phase u).isGone) :
    (h.phase u).isGone ∨ e = .drop u :=
  hs.left_by_drop (fun _ => id)
    (fun p hp => by cases p <;> simp_all [Phase.isOrphaned, Phase.isGone]) hu

end AtRebuilds

/-! ### The lock -/

/-- The lock and the phases of the rebuilds agree: in line are those who wait or are carried on,
and a rebuild is carried on by the holder only. -/
def InLine (phase : Ticket → Phase) (l : Lock) : Prop :=
  l.Agrees (fun t => (phase t).isPending) (fun t => (phase t).isCarried)

/-- At a new host nobody is in the line. -/
theorem inLine_init (settings : Settings) (moduleConfig : Option Bytes) (platform : Platform W)
    (world : W) :
    InLine (init settings moduleConfig platform world).phase
      (init settings moduleConfig platform world).rebuilding :=
  .free (fun _ => by simp [init, Phase.isPending]) (fun _ => by simp [init, Phase.isCarried])

/-- The books hardly change when one rebuild goes into another phase. -/
theorem isPending_setPhase_iff {p : Phase} :
    ((h.setPhase t p).phase u).isPending ↔ u = t ∧ p.isPending ∨ u ≠ t ∧ (h.phase u).isPending :=
  phase_setPhase_iff (fun q => q.isPending = true)

/-- After a change of phase a caller is carried if its own phase says so. -/
theorem isCarried_setPhase_iff {p : Phase} :
    ((h.setPhase t p).phase u).isCarried ↔ u = t ∧ p.isCarried ∨ u ≠ t ∧ (h.phase u).isCarried :=
  phase_setPhase_iff (fun q => q.isCarried = true)

/-- Whoever asks for the lock is in line, whether or not it begins at once. -/
theorem InLine.request (ha : InLine h.phase h.rebuilding) (hnew : h.isNew t) {p : Phase}
    (hp : p.isPending) (hheld : p.isCarried → (h.rebuilding.request t).holder = some t) :
    InLine (h.setPhase t p).phase (h.rebuilding.request t) := by
  have hwaits : (h.rebuilding.request t).Agrees
      (fun u => ((h.setPhase t p).phase u).isPending) (fun u => (h.phase u).isCarried) := by
    refine Lock.Agrees.request ha (by simp [phase_of_isNew hnew, Phase.isPending]) (fun u => ?_)
      (fun _ => id)
    rw [isPending_setPhase_iff]
    by_cases hut : u = t <;> simp [hut, hp]
  refine hwaits.imp (fun _ => Iff.rfl) (fun u hu => ?_)
  obtain ⟨rfl, hc⟩ | ⟨-, hc⟩ := isCarried_setPhase_iff.mp hu
  · exact .inr (hheld hc)
  · exact .inl hc

/-- A rebuild in line may be carried on if it has the lock. -/
theorem InLine.carry (ha : InLine h.phase h.rebuilding) (ht : (h.phase t).isPending)
    (hheld : h.rebuilding.holder = some t) {p : Phase} (hp : p.isCarried) :
    InLine (h.setPhase t p).phase h.rebuilding := by
  refine ha.imp (fun u => ?_) (fun u hu => ?_)
  · rw [isPending_setPhase_iff]
    by_cases hut : u = t <;> simp [hut, ht, Phase.isPending_of_isCarried hp]
  · obtain ⟨rfl, -⟩ | ⟨-, hc⟩ := isCarried_setPhase_iff.mp hu
    · exact .inr hheld
    · exact .inl hc

/-- A rebuild that is over is out of line. -/
theorem InLine.withdraw (ha : InLine h.phase h.rebuilding) {p : Phase} (hp : p.isOver) :
    InLine (h.setPhase t p).phase (h.rebuilding.withdraw t) := by
  refine Lock.Agrees.withdraw ha (fun u => ?_) (fun u hu => ?_)
  · rw [isPending_setPhase_iff, Phase.not_isPending_of_isOver hp]
    simp [and_comm]
  · obtain ⟨-, hc⟩ | ⟨hut, hc⟩ := isCarried_setPhase_iff.mp hu
    · simp [Phase.not_isCarried_of_isOver hp] at hc
    · exact ⟨hc, hut⟩

/-- The lock and the rebuilds agree after every event. -/
theorem AtRebuilds.inLine {e : Event} {phase : Ticket → Phase} {l : Lock}
    (hs : h.AtRebuilds e phase l) (ha : InLine h.phase h.rebuilding) : InLine phase l := by
  cases hs with
  | same _ => exact ha
  | waits hnew => exact ha.request hnew rfl (by simp [Phase.isCarried])
  | arrives hnew hheld hp => exact ha.request hnew (Phase.isPending_of_isCarried hp) fun _ => hheld
  | begins hwaits hheld hp => exact ha.carry (by rw [hwaits]; rfl) hheld hp
  | goes _ hcarried hp =>
      exact ha.carry (Phase.isPending_of_isCarried hcarried) (ha.holder_of_served _ hcarried) hp
  | ends _ => exact ha.withdraw rfl
  | leaves _ hp => exact ha.withdraw hp
  | @trails t p horphaned hp =>
      have hbefore := Phase.not_isPending_of_isOver (Phase.isOver_of_isOrphaned horphaned)
      refine ha.imp (fun u => ?_) (fun u hu => .inl ?_)
      · rw [isPending_setPhase_iff, Phase.not_isPending_of_isOver hp]
        by_cases hut : u = t <;> simp [hut, hbefore]
      · obtain ⟨-, hc⟩ | ⟨-, hc⟩ := isCarried_setPhase_iff.mp hu
        · simp [Phase.not_isCarried_of_isOver hp] at hc
        · exact hc

/-- The lock and the rebuilds agree at any time. -/
theorem inLine_run (ha : InLine h.phase h.rebuilding) (events : List Event) :
    InLine (h.run events).phase (h.run events).rebuilding := by
  induction events generalizing h with
  | nil => exact ha
  | cons e events ih => exact ih ((h.steps e).rebuilds.inLine ha)

end Host

/-- A platform on which everything goes well and nothing happens: what runs that only show an order
of events are tried on. -/
def Platform.calm : Platform Unit where
  load _ world :=
    (.ok {
      create := fun _ world => (([], some 0), world)
      destroy := fun _ world => ([], world)
      loadConfig := fun _ _ _ world => (([], 0), world)
      call := fun _ _ world => (([], 0), world)
      status := fun _ world => (([], 0), world) }, world)
  run _ _ world := (.ok (), world)
  remove _ world := (.ok (), world)

end ScriptHost
