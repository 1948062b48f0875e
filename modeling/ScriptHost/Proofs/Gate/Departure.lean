import ScriptHost.Proofs.Gate.Callers

/-!
# A caller that goes away after it was admitted

Once a caller was admitted, whether it stays or goes away makes no difference to anybody else: the
gates of the two runs agree in everything but the phase of that caller, event by event
(`Gate.SameBut.run`). And as long as a worker has its work, nobody else is admitted
(`Gate.admitted_run_of_inFlight`).
-/

namespace ScriptHost

namespace Gate

variable {σ α : Type} {g k : Gate σ α} {s₀ : σ} {t u : Ticket}

/-! ### Gates that differ in one caller -/

/-- Two gates agree in everything but how far a caller has come. At both it was admitted, and the
same is left of its work. -/
structure SameBut (t : Ticket) (g k : Gate σ α) : Prop where
  state : g.state = k.state
  lock : g.lock = k.lock
  admitted : g.admitted = k.admitted
  phase : ∀ u, u ≠ t → g.phase u = k.phase u
  begun : (g.phase t).isEarly = false ∧ (k.phase t).isEarly = false
  work : (g.phase t).work? = (k.phase t).work?

namespace SameBut

/-- A gate is the same as itself but for a caller that is not early. -/
theorem refl (ht : (g.phase t).isEarly = false) : SameBut t g g :=
  ⟨rfl, rfl, rfl, fun _ _ => rfl, ⟨ht, ht⟩, rfl⟩

/-- Which of the two gates comes first does not matter. -/
theorem symm (h : SameBut t g k) : SameBut t k g :=
  ⟨h.state.symm, h.lock.symm, h.admitted.symm, fun u hu => (h.phase u hu).symm, h.begun.symm,
    h.work.symm⟩

/-- Two gates that are the same as a third one but for a caller are the same as each other. -/
theorem trans {j : Gate σ α} (h : SameBut t g k) (h' : SameBut t k j) : SameBut t g j :=
  ⟨h.state.trans h'.state, h.lock.trans h'.lock, h.admitted.trans h'.admitted,
    fun u hu => (h.phase u hu).trans (h'.phase u hu), ⟨h.begun.1, h'.begun.2⟩,
    h.work.trans h'.work⟩

/-- The caller itself may go into any phase in which it was admitted and as much is left of its
work. -/
theorem setPhase_self {p : Phase σ α} (ht : (g.phase t).isEarly = false) (hp : p.isEarly = false)
    (hwork : p.work? = (g.phase t).work?) : SameBut t (g.setPhase t p) g :=
  ⟨rfl, rfl, rfl, fun _ hu => phase_setPhase_of_ne g p hu, ⟨by simpa using hp, ht⟩,
    by simpa using hwork⟩

/-- Somebody goes into the same phase at both gates, and what else happens is the same. -/
theorem update (h : SameBut t g k) {p q : Phase σ α} (hother : u ≠ t → p = q)
    (hself : u = t → (p.isEarly = false ∧ q.isEarly = false) ∧ p.work? = q.work?) (s : σ) (l : Lock)
    (ts : List Ticket) :
    SameBut t { g.setPhase u p with state := s, lock := l, admitted := ts }
      { k.setPhase u q with state := s, lock := l, admitted := ts } where
  state := rfl
  lock := rfl
  admitted := rfl
  phase v hv := by
    change (g.setPhase u p).phase v = (k.setPhase u q).phase v
    by_cases hvu : v = u
    · subst hvu
      rw [phase_setPhase_self, phase_setPhase_self, hother hv]
    · rw [phase_setPhase_of_ne g p hvu, phase_setPhase_of_ne k q hvu, h.phase v hv]
  begun := by
    change ((g.setPhase u p).phase t).isEarly = false ∧ ((k.setPhase u q).phase t).isEarly = false
    by_cases htu : t = u
    · subst htu
      rw [phase_setPhase_self, phase_setPhase_self]
      exact (hself rfl).1
    · rw [phase_setPhase_of_ne g p htu, phase_setPhase_of_ne k q htu]
      exact h.begun
  work := by
    change ((g.setPhase u p).phase t).work? = ((k.setPhase u q).phase t).work?
    by_cases htu : t = u
    · subst htu
      rw [phase_setPhase_self, phase_setPhase_self]
      exact (hself rfl).2
    · rw [phase_setPhase_of_ne g p htu, phase_setPhase_of_ne k q htu]
      exact h.work

/-- Somebody else goes into a phase. -/
theorem update_other (h : SameBut t g k) (hu : u ≠ t) (p : Phase σ α) (s : σ) (l : Lock)
    (ts : List Ticket) :
    SameBut t { g.setPhase u p with state := s, lock := l, admitted := ts }
      { k.setPhase u p with state := s, lock := l, admitted := ts } :=
  h.update (fun _ => rfl) (fun heq => absurd heq hu) s l ts

/-- Another caller may go to the same phase in both gates. -/
theorem setPhase_other (h : SameBut t g k) (hu : u ≠ t) (p : Phase σ α) :
    SameBut t (g.setPhase u p) (k.setPhase u p) := by
  have hnow := h.update_other hu p k.state k.lock k.admitted
  simpa only [Gate.setPhase, h.state, h.lock, h.admitted] using hnow

/-- Somebody else enters. -/
theorem enter (h : SameBut t g k) (hu : u ≠ t) (op : Operation σ α) :
    SameBut t (g.enter u op) (k.enter u op) := by
  cases op with
  | work w =>
      have hnow := h.update_other hu (.running w) k.state k.lock (k.admitted ++ [u])
      simpa only [Gate.enter, Gate.setPhase, h.admitted, h.state, h.lock] using hnow
  | glance f =>
      have hnow := h.update_other hu (.answered (.ok (f k.state))) k.state k.lock.release
        (k.admitted ++ [u])
      simpa only [Gate.enter, Gate.setPhase, h.admitted, h.state, h.lock] using hnow

/-- Somebody else takes its place in line. -/
theorem join (h : SameBut t g k) (hu : u ≠ t) (op : Operation σ α) :
    SameBut t (g.join u op) (k.join u op) := by
  have hnow := h.update_other hu (.queued op) k.state (k.lock.request u) k.admitted
  simpa only [Gate.join, Gate.setPhase, h.admitted, h.state, h.lock] using hnow

/-! ### Event by event -/

/-- A look of the caller itself changes nothing for the others. -/
theorem poll_self (ht : (g.phase t).isEarly = false) : SameBut t (g.poll t) g := by
  rcases poll_cases g t with ⟨op, hq, -, -⟩ | ⟨r, hr, heq⟩ | heq
  · simp [hq, Phase.isEarly] at ht
  · rw [heq]
    exact setPhase_self ht rfl (by rw [hr]; rfl)
  · rw [heq]
    exact refl ht

/-- **Whether a caller that was admitted goes away** changes nothing for the others. -/
theorem drop_self (ht : (g.phase t).isEarly = false) : SameBut t (g.drop t) g := by
  rcases drop_cases g t with ⟨op, hq, -⟩ | ⟨w, hw, heq⟩ | ⟨r, hr, heq⟩ | ⟨-, heq⟩
  · simp [hq, Phase.isEarly] at ht
  · rw [heq]
    exact setPhase_self ht rfl (by rw [hw]; rfl)
  · rw [heq]
    exact setPhase_self ht rfl (by rw [hr]; rfl)
  · rw [heq]
    exact refl ht

/-- Another caller, or the one that left, may be polled in both. -/
theorem poll (h : SameBut t g k) (u : Ticket) : SameBut t (g.poll u) (k.poll u) := by
  by_cases hu : u = t
  · subst hu
    exact (poll_self h.begun.1).trans (h.trans (poll_self h.begun.2).symm)
  · unfold Gate.poll
    rw [h.phase u hu, h.lock]
    cases k.phase u with
    | queued op =>
        dsimp only
        split
        · exact h.enter hu op
        · exact h
    | finished r => exact h.setPhase_other hu (.answered r)
    | absent | running _ | orphaned _ | answered _ | abandoned => exact h

/-- It may be dropped in both. -/
theorem drop (h : SameBut t g k) (u : Ticket) : SameBut t (g.drop u) (k.drop u) := by
  by_cases hu : u = t
  · subst hu
    exact (drop_self h.begun.1).trans (h.trans (drop_self h.begun.2).symm)
  · unfold Gate.drop
    rw [h.phase u hu]
    cases k.phase u with
    | queued op =>
        have hnow := h.update_other hu .abandoned k.state (k.lock.withdraw u) k.admitted
        simpa only [Gate.setPhase, h.admitted, h.state, h.lock] using hnow
    | running w => exact h.setPhase_other hu (.orphaned w)
    | finished r => exact h.setPhase_other hu .abandoned
    | absent | orphaned _ | answered _ | abandoned => exact h

/-- It may come to both. -/
theorem arrive (h : SameBut t g k) (u : Ticket) (op : Operation σ α) :
    SameBut t (g.arrive u op) (k.arrive u op) := by
  by_cases hu : u = t
  · subst hu
    have hcame : ∀ {p : Phase σ α}, p.isEarly = false → p ≠ .absent := by
      rintro p hp rfl
      simp [Phase.isEarly] at hp
    rwa [arrive_of_phase_ne (hcame h.begun.1), arrive_of_phase_ne (hcame h.begun.2)]
  · by_cases habsent : k.phase u = .absent
    · rw [arrive_eq habsent, arrive_eq ((h.phase u hu).trans habsent)]
      exact (h.join hu op).poll u
    · rwa [arrive_of_phase_ne habsent, arrive_of_phase_ne (h.phase u hu ▸ habsent)]

/-- Both gates are held by the same caller, or by none. -/
theorem busy? (h : SameBut t g k) : g.busy? = k.busy? := by
  have hwork : ∀ u, (g.phase u).work? = (k.phase u).work? := by
    intro u
    by_cases hu : u = t
    · exact hu ▸ h.work
    · rw [h.phase u hu]
  unfold Gate.busy?
  simp only [h.lock, hwork]

/-- The work that goes on in both is the same. -/
theorem work_step (h : SameBut t g k) : SameBut t g.work k.work := by
  unfold Gate.work
  rw [h.busy?]
  cases hb : k.busy? with
  | none => exact h
  | some x =>
      obtain ⟨u, w⟩ := x
      have hw : (k.phase u).work? = some w := (busy?_eq_some_iff.mp hb).2
      have hw' : (g.phase u).work? = some w := (busy?_eq_some_iff.mp (h.busy?.trans hb)).2
      cases w with
      | done outcome =>
          have hover : ∀ {p : Phase σ α}, p.work? = some (.done outcome) →
              (p.complete outcome).isEarly = false ∧ (p.complete outcome).work? = none := by
            intro p hp
            rcases Phase.complete_of_work? hp outcome with hc | hc <;> rw [hc] <;> exact ⟨rfl, rfl⟩
          have hnow := h.update (u := u) (p := (g.phase u).complete outcome)
            (q := (k.phase u).complete outcome) (fun hu => by rw [h.phase u hu])
            (fun _ => ⟨⟨(hover hw').1, (hover hw).1⟩, (hover hw').2.trans (hover hw).2.symm⟩)
            k.state k.lock.release k.admitted
          simpa only [Gate.setPhase, h.admitted, h.state, h.lock] using hnow
      | act change rest =>
          have hleft : ∀ {p : Phase σ α}, p.work? = some (.act change rest) →
              (p.proceed (rest k.state)).work? = some (rest k.state) := by
            intro p hp
            rw [Phase.work?_proceed, hp]
            rfl
          have hnow := h.update (u := u) (p := (g.phase u).proceed (rest k.state))
            (q := (k.phase u).proceed (rest k.state)) (fun hu => by rw [h.phase u hu])
            (fun _ => ⟨⟨(Phase.isPending_of_work? (hleft hw')).2.2,
              (Phase.isPending_of_work? (hleft hw)).2.2⟩, (hleft hw').trans (hleft hw).symm⟩)
            (change k.state) k.lock k.admitted
          simpa only [Gate.setPhase, h.admitted, h.state, h.lock] using hnow

/-- **Gates that differ in one caller go the same way.** -/
theorem step (h : SameBut t g k) (e : Event σ α) : SameBut t (g.step e) (k.step e) := by
  cases e with
  | arrive u op => exact h.arrive u op
  | poll u => exact h.poll u
  | work => exact h.work_step
  | drop u => exact h.drop u

/-- **Whatever happens at both gates leaves them the same**, but for the caller that left. -/
theorem run (h : SameBut t g k) (events : List (Event σ α)) :
    SameBut t (g.run events) (k.run events) := by
  induction events generalizing g k with
  | nil => exact h
  | cons e events ih => exact ih (h.step e)

end SameBut

/-! ### While a worker has its work -/

/-- Who enters the gate is admitted last. -/
theorem admitted_enter (g : Gate σ α) (t : Ticket) (op : Operation σ α) :
    (g.enter t op).admitted = g.admitted ++ [t] := by
  cases op <;> rfl

/-- Nobody is admitted in an event but a caller that enters, with what it comes with or came with,
and finds the state as it is. -/
theorem admitted_step_or_enter (g : Gate σ α) (e : Event σ α) :
    (g.step e).admitted = g.admitted ∨ ∃ k t op, g.step e = enter k t op ∧
      k.admitted = g.admitted ∧ k.state = g.state ∧
      (e = .arrive t op ∨ e = .poll t ∧ g.phase t = .queued op) := by
  have hsame : ∀ {k : Gate σ α}, g.step e = k → k.admitted = g.admitted →
      (g.step e).admitted = g.admitted := fun hk hadmitted => hk ▸ hadmitted
  cases e with
  | arrive u op =>
      by_cases habsent : g.phase u = .absent
      · have hstep : g.step (.arrive u op) = (g.join u op).poll u := arrive_eq habsent
        rcases poll_cases (g.join u op) u with ⟨op', hq, -, heq⟩ | ⟨r, -, heq⟩ | heq
        · obtain rfl : op = op' := Phase.queued.inj ((phase_setPhase_self g u _).symm.trans hq)
          exact .inr ⟨_, u, op, hstep.trans heq, rfl, rfl, .inl rfl⟩
        · exact .inl (hsame (hstep.trans heq) rfl)
        · exact .inl (hsame (hstep.trans heq) rfl)
      · exact .inl (hsame (arrive_of_phase_ne habsent) rfl)
  | poll u =>
      rcases poll_cases g u with ⟨op, hq, -, heq⟩ | ⟨r, -, heq⟩ | heq
      · exact .inr ⟨g, u, op, heq, rfl, rfl, .inr ⟨rfl, hq⟩⟩
      · exact .inl (hsame heq rfl)
      · exact .inl (hsame heq rfl)
  | work =>
      rcases work_cases g with ⟨_, _, _, -, heq⟩ | ⟨_, _, -, heq⟩ | ⟨-, heq⟩ <;>
        exact .inl (hsame heq rfl)
  | drop u =>
      rcases drop_cases g u with ⟨_, -, heq⟩ | ⟨_, -, heq⟩ | ⟨_, -, heq⟩ | ⟨-, heq⟩ <;>
        exact .inl (hsame heq rfl)

/-- At most one caller is admitted in an event. -/
theorem admitted_step_cases (g : Gate σ α) (e : Event σ α) :
    (g.step e).admitted = g.admitted ∨ ∃ t, (g.step e).admitted = g.admitted ++ [t] := by
  rcases admitted_step_or_enter g e with heq | ⟨k, t, op, heq, hadmitted, -⟩
  · exact .inl heq
  · exact .inr ⟨t, by rw [heq, admitted_enter, hadmitted]⟩

/-- Admissions are never taken back. -/
theorem admitted_prefix_step (g : Gate σ α) (e : Event σ α) :
    g.admitted <+: (g.step e).admitted := by
  rcases admitted_step_cases g e with heq | ⟨t, heq⟩
  · exact heq ▸ List.prefix_refl _
  · exact heq ▸ List.prefix_append _ _

/-- Who was admitted stays admitted, in the same order. -/
theorem admitted_prefix_run (g : Gate σ α) (events : List (Event σ α)) :
    g.admitted <+: (g.run events).admitted := by
  induction events generalizing g with
  | nil => exact List.prefix_refl _
  | cons e events ih => exact (admitted_prefix_step g e).trans (ih (g.step e))

/-- Nobody is admitted while a worker has the work of a caller. -/
theorem admitted_step_of_inFlight (hg : g.Orderly) (ht : g.InFlight t) (e : Event σ α) :
    (g.step e).admitted = g.admitted := by
  have hpoll : ∀ {g : Gate σ α} (u), g.Orderly → g.InFlight t →
      (g.poll u).admitted = g.admitted := by
    intro g u hg ht
    rcases poll_cases g u with ⟨op, hq, hh, -⟩ | ⟨r, -, heq⟩ | heq
    · exact absurd ht (hg.not_inFlight_of_queued hq hh t)
    · rw [heq, admitted_setPhase]
    · rw [heq]
  cases e with
  | arrive u op =>
      change (g.arrive u op).admitted = _
      by_cases habsent : g.phase u = .absent
      · have htu : t ≠ u := by
          rintro rfl
          simp [InFlight, habsent, Phase.work?] at ht
        rw [arrive_eq habsent]
        refine hpoll u (hg.join habsent) ?_
        change ((g.setPhase u (.queued op)).phase t).work?.isSome
        rwa [phase_setPhase_of_ne g _ htu]
      · rw [arrive_of_phase_ne habsent]
  | poll u => exact hpoll u hg ht
  | work =>
      change g.work.admitted = _
      rcases work_cases g with ⟨_, _, _, -, heq⟩ | ⟨_, _, -, heq⟩ | ⟨-, heq⟩ <;> rw [heq] <;> rfl
  | drop u =>
      change (g.drop u).admitted = _
      rcases drop_cases g u with ⟨_, -, heq⟩ | ⟨_, -, heq⟩ | ⟨_, -, heq⟩ | ⟨-, heq⟩ <;>
        rw [heq] <;> rfl

/-- A worker has the work of a caller that was admitted before only if it had it before. -/
theorem inFlight_of_step {e : Event σ α} (hearly : (g.phase t).isEarly = false)
    (ht : (g.step e).InFlight t) : g.InFlight t := by
  have hfollows := follows_step g e t
  unfold InFlight at ht ⊢
  generalize (g.step e).phase t = q at hfollows ht
  generalize g.phase t = p at hfollows hearly
  cases hfollows with
  | stays _ => exact ht
  | waits _ | glances _ _ | collects _ => simp [Phase.work?] at ht
  | begins hp => rcases hp with ⟨-, rfl⟩ | ⟨-, rfl⟩ <;> simp [Phase.isEarly] at hearly
  | proceeds hw _ | completes hw _ => exact Option.isSome_of_mem hw
  | leaves _ _ hwork => exact hwork ▸ ht

/-- **No other operation starts** before the worker is done with that of a caller that was
admitted. -/
theorem admitted_run_of_inFlight (hg : g.Orderly) (ht : t ∈ g.admitted) {events : List (Event σ α)}
    (hnow : (g.run events).InFlight t) : (g.run events).admitted = g.admitted := by
  induction events using List.reverseRecOn with
  | nil => rfl
  | append_singleton events e ih =>
      have hrun := hg.run events
      have hmem : t ∈ (g.run events).admitted := (admitted_prefix_run g events).subset ht
      rw [run_concat] at hnow ⊢
      have hbefore := inFlight_of_step (hrun.not_early t hmem) hnow
      rw [admitted_step_of_inFlight hrun hbefore, ih hbefore]

end Gate

end ScriptHost
