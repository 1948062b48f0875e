import ScriptHost.Proofs.Gate.Order

/-!
# Contracts behind the gate

How a property of the state behind a gate is carried through a run. A `Contract` says what
holds while nobody is worked for (`rest`), what holds while a worker is in the middle of somebody's
work (`going`), and what is known of a result (`ended`); and it shows that every single act keeps
this. Since the gate admits one at a time, nothing else has to be shown: a gate that keeps
a contract keeps it through every event (`Gate.Keeps.step`).

Both `rest` and `going` may speak of the history: of those admitted so far, in order, and of the
acts that were done, each with the caller whose act it was and the states before and after it.
-/

namespace ScriptHost

namespace Gate

variable {σ α : Type} {g : Gate σ α} {t u : Ticket}

/-- An act that was done: whose it was, and the states before and after it. -/
structure Act (σ : Type) where
  ticket : Ticket
  before : σ
  after : σ

/-- The act that is done in an event; none if the event is no act. -/
def acts (g : Gate σ α) : Event σ α → List (Act σ)
  | .work =>
    match g.busy? with
    | some (t, .act change _) => [⟨t, g.state, change g.state⟩]
    | _ => []
  | _ => []

/-- A property of the state behind a gate that every act keeps. The tickets `ts` are those
admitted before. -/
structure Contract (σ α : Type) where
  /-- The operations a caller may come with. -/
  allowed : Ticket → Operation σ α → Prop
  /-- What holds while nobody is worked for. -/
  rest : List (Act σ) → List Ticket → σ → Prop
  /-- What holds while this much of a caller's work is left. -/
  going : List (Act σ) → List Ticket → Ticket → Work σ α → σ → Prop
  /-- What is known of the result of a caller. -/
  ended : List (Act σ) → List Ticket → Ticket → Except Failure α → Prop
  enter : ∀ {as ts t w s}, rest as ts s → allowed t (.work w) → t ∉ ts → going as ts t w s
  glance : ∀ {as ts t f s}, rest as ts s → allowed t (.glance f) → t ∉ ts →
    rest as (ts ++ [t]) s ∧ ended as ts t (.ok (f s))
  act : ∀ {as ts t change next s}, going as ts t (.act change next) s →
    going (as ++ [⟨t, s, change s⟩]) ts t (next s) (change s)
  done : ∀ {as ts t outcome s}, going as ts t (.done outcome) s →
    rest as (ts ++ [t]) s ∧ ended as ts t outcome.toExcept
  later : ∀ {as ts t r a}, ended as ts t r → ended (as ++ [a]) ts t r

/-- A gate keeps a contract, with the acts that were done so far. -/
structure Keeps (c : Contract σ α) (as : List (Act σ)) (g : Gate σ α) : Prop where
  orderly : g.Orderly
  waiting : ∀ t op, g.phase t = .queued op → c.allowed t op
  rest : (∀ t, ¬ g.InFlight t) → c.rest as g.admitted g.state
  going : ∀ t w, (g.phase t).work? = some w →
    ∃ ts, g.admitted = ts ++ [t] ∧ c.going as ts t w g.state
  ended : ∀ t r, g.phase t = .finished r ∨ g.phase t = .answered r →
    ∃ ts us, g.admitted = ts ++ t :: us ∧ c.ended as ts t r

namespace Keeps

variable {c : Contract σ α} {as : List (Act σ)}

/-- A gate that nobody has come to keeps a contract that holds of the state behind it. -/
theorem init {s : σ} (h : c.rest [] [] s) : Keeps c [] (Gate.init s : Gate σ α) where
  orderly := orderly_init s
  waiting t op ht := by simp [Gate.init] at ht
  rest _ := h
  going t w hw := by simp [Gate.init, Phase.work?] at hw
  ended t r hr := by simp [Gate.init] at hr

/-- Whether or not somebody is worked for, something is known of the state. Whoever is worked for is
the last of those admitted. -/
theorem rest_or_going (hg : Keeps c as g) : c.rest as g.admitted g.state ∨
    ∃ ts t w, (g.phase t).work? = some w ∧ g.admitted = ts ++ [t] ∧ c.going as ts t w g.state := by
  by_cases hidle : ∀ t, ¬ g.InFlight t
  · exact .inl (hg.rest hidle)
  · obtain ⟨t, ht⟩ := not_forall_not.mp hidle
    obtain ⟨w, hw⟩ := Option.isSome_iff_exists.mp ht
    obtain ⟨ts, hts, hgoing⟩ := hg.going t w hw
    exact .inr ⟨ts, t, w, hw, hts, hgoing⟩

/-- A free gate keeps any contract that holds of the state behind it and of the results so far. -/
theorem renew (hg : Keeps c as g) {c' : Contract σ α} {as' : List (Act σ)} (hfree : g.isFree)
    (hrest : c'.rest as' g.admitted g.state)
    (hended : ∀ t ∈ g.admitted, ∀ ts r, c'.ended as' ts t r) : Keeps c' as' g where
  orderly := hg.orderly
  waiting t op ht := by
    have hpending : (g.phase t).isPending := by rw [ht]; rfl
    exact absurd hpending (hg.orderly.not_isPending_of_isFree hfree t)
  rest _ := hrest
  going t w hw := by
    have hpending := (Phase.isPending_of_work? hw).1
    exact absurd hpending (hg.orderly.not_isPending_of_isFree hfree t)
  ended t r hr := by
    obtain ⟨ts, us, hts, -⟩ := hg.ended t r hr
    exact ⟨ts, us, hts, hended t (by simp [hts]) ts r⟩

/-- A contract that does not mind a change of the state from outside is kept. -/
theorem withState (hg : Keeps c as g) {s : σ}
    (hrest : ∀ ts, c.rest as ts g.state → c.rest as ts s)
    (hgoing : ∀ ts t w, c.going as ts t w g.state → c.going as ts t w s) :
    Keeps c as { g with state := s } where
  orderly := hg.orderly.withState s
  waiting := hg.waiting
  rest h := hrest _ (hg.rest h)
  going t w hw := by
    obtain ⟨ts, hts, hgo⟩ := hg.going t w hw
    exact ⟨ts, hts, hgoing ts t w hgo⟩
  ended := hg.ended

/-- Whoever waits after a caller went into another phase came with what is allowed. -/
theorem waiting_setPhase (hg : Keeps c as g) {p : Phase σ α}
    (hp : ∀ op, p = .queued op → c.allowed t op) (u : Ticket) (op : Operation σ α)
    (hnow : (g.setPhase t p).phase u = .queued op) : c.allowed u op := by
  obtain ⟨rfl, hu⟩ | ⟨-, hu⟩ := setPhase_cases (· = .queued op) hnow
  · exact hp op hu
  · exact hg.waiting u op hu

/-- Whoever had a result has it still after a caller went into another phase, and more acts and more
callers make no difference. -/
theorem ended_setPhase (hg : Keeps c as g) {p : Phase σ α} {as' : List (Act σ)} {all : List Ticket}
    (hall : g.admitted <+: all) (hlater : ∀ ts u r, c.ended as ts u r → c.ended as' ts u r)
    (hp : ∀ r, p = .finished r ∨ p = .answered r →
      ∃ ts us, all = ts ++ t :: us ∧ c.ended as' ts t r) (u : Ticket) (r : Except Failure α)
    (hnow : (g.setPhase t p).phase u = .finished r ∨ (g.setPhase t p).phase u = .answered r) :
    ∃ ts us, all = ts ++ u :: us ∧ c.ended as' ts u r := by
  obtain ⟨rfl, hu⟩ | ⟨-, hu⟩ := setPhase_cases (fun q => q = .finished r ∨ q = .answered r) hnow
  · exact hp r hu
  · obtain ⟨ts, us, hts, hend⟩ := hg.ended u r hu
    obtain ⟨more, rfl⟩ := hall
    exact ⟨ts, us ++ more, by rw [hts]; simp, hlater ts u r hend⟩

/-- A contract is kept when a caller goes from one phase to another that says no more; contracts
do not speak of the lock. -/
theorem move (hg : Keeps c as g) {p : Phase σ α} (l : Lock)
    (horderly : ({ g.setPhase t p with lock := l } : Gate σ α).Orderly)
    (hqueued : p.isQueued = false) (hwork : p.work? = (g.phase t).work?)
    (hended : ∀ r, p = .finished r ∨ p = .answered r → g.phase t = .finished r) :
    Keeps c as { g.setPhase t p with lock := l } where
  orderly := horderly
  waiting := hg.waiting_setPhase fun op hp => by simp [hp, Phase.isQueued] at hqueued
  rest h := by
    refine hg.rest fun u hu => h u ?_
    change ((g.setPhase t p).phase u).work?.isSome
    by_cases hut : u = t
    · subst hut
      rwa [phase_setPhase_self, hwork]
    · rwa [phase_setPhase_of_ne g p hut]
  going u w hnow := by
    obtain ⟨rfl, hu⟩ | ⟨-, hu⟩ := setPhase_cases (fun q => q.work? = some w) hnow
    · exact hg.going u w (hwork ▸ hu)
    · exact hg.going u w hu
  ended := hg.ended_setPhase (List.prefix_refl _) (fun _ _ _ => id) fun r hr =>
    hg.ended t r (.inl (hended r hr))

/-- Whoever joins the line brings what is allowed. -/
theorem join (hg : Keeps c as g) {op : Operation σ α} (h : g.phase t = .absent)
    (hop : c.allowed t op) : Keeps c as (g.join t op) where
  orderly := hg.orderly.join h
  waiting := hg.waiting_setPhase fun op' hop' => Phase.queued.inj hop' ▸ hop
  rest hidle := by
    refine hg.rest fun u hu => hidle u ?_
    have hut : u ≠ t := by
      rintro rfl
      simp [InFlight, h, Phase.work?] at hu
    change ((g.setPhase t (.queued op)).phase u).work?.isSome
    rwa [phase_setPhase_of_ne g _ hut]
  going u w hnow := by
    obtain ⟨rfl, hu⟩ | ⟨-, hu⟩ := setPhase_cases (fun q => q.work? = some w) hnow
    · simp [Phase.work?] at hu
    · exact hg.going u w hu
  ended := hg.ended_setPhase (List.prefix_refl _) (fun _ _ _ => id) (by simp)

/-- Whoever holds the gate enters with what it brought. -/
theorem enter (hg : Keeps c as g) {op : Operation σ α} (hq : g.phase t = .queued op)
    (hh : g.lock.holder = some t) : Keeps c as (g.enter t op) := by
  have hidle := hg.orderly.not_inFlight_of_queued hq hh
  have hrest := hg.rest hidle
  have hop := hg.waiting t op hq
  have hnew := hg.orderly.notMem_admitted_of_queued hq
  have horderly := hg.orderly.enter hq hh
  have hmore : g.admitted <+: g.admitted ++ [t] := List.prefix_append _ _
  cases op with
  | work w =>
      refine ⟨horderly, hg.waiting_setPhase (by simp), fun hno => ?_, fun u v hnow => ?_,
        hg.ended_setPhase hmore (fun _ _ _ => id) (by simp)⟩
      · refine absurd ?_ (hno t)
        change ((g.setPhase t (.running w)).phase t).work?.isSome
        simp [Phase.work?]
      · obtain ⟨rfl, hu⟩ | ⟨-, hu⟩ := setPhase_cases (fun q => q.work? = some v) hnow
        · obtain rfl : w = v := Option.some.inj hu
          exact ⟨g.admitted, rfl, c.enter hrest hop hnew⟩
        · exact absurd (Option.isSome_of_mem hu) (hidle u)
  | glance f =>
      obtain ⟨hrest', hend⟩ := c.glance hrest hop hnew
      refine ⟨horderly, hg.waiting_setPhase (by simp), fun _ => hrest', fun u v hnow => ?_,
        hg.ended_setPhase hmore (fun _ _ _ => id) fun r hr => ?_⟩
      · obtain ⟨rfl, hu⟩ | ⟨-, hu⟩ := setPhase_cases (fun q => q.work? = some v) hnow
        · simp [Phase.work?] at hu
        · exact absurd (Option.isSome_of_mem hu) (hidle u)
      · obtain rfl : Except.ok (f g.state) = r := by simpa using hr
        exact ⟨g.admitted, [], rfl, hend⟩

/-- A poll lets a caller in at most. -/
theorem poll (hg : Keeps c as g) (t : Ticket) : Keeps c as (g.poll t) := by
  have horderly := hg.orderly.poll t
  rcases poll_cases g t with ⟨op, hq, hh, heq⟩ | ⟨r, hr, heq⟩ | heq
  · rw [heq]
    exact hg.enter hq hh
  · rw [heq] at horderly ⊢
    refine hg.move g.lock horderly rfl (by rw [hr]; rfl) ?_
    rintro r' (h | h)
    · exact absurd h (by simp)
    · rw [hr, Phase.answered.inj h]
  · rwa [heq]

/-- A caller that comes joins the line, and is let in at once if the gate is free. -/
theorem arrive (hg : Keeps c as g) {op : Operation σ α}
    (hop : g.phase t = .absent → c.allowed t op) : Keeps c as (g.arrive t op) := by
  cases h : g.phase t with
  | absent =>
      rw [arrive_eq h]
      exact (hg.join h (hop h)).poll t
  | queued _ | running _ | orphaned _ | finished _ | answered _ | abandoned =>
      rwa [arrive_of_phase_ne (by simp [h])]

/-- When a caller leaves, the next in the line may enter with what it brought. -/
theorem drop (hg : Keeps c as g) (t : Ticket) : Keeps c as (g.drop t) := by
  have horderly := hg.orderly.drop t
  rcases drop_cases g t with ⟨op, hq, heq⟩ | ⟨w, hw, heq⟩ | ⟨r, hr, heq⟩ | ⟨-, heq⟩
  · rw [heq] at horderly ⊢
    exact hg.move _ horderly rfl (by rw [hq]; rfl) (by simp)
  · rw [heq] at horderly ⊢
    exact hg.move g.lock horderly rfl (by rw [hw]; rfl) (by simp)
  · rw [heq] at horderly ⊢
    exact hg.move g.lock horderly rfl (by rw [hr]; rfl) (by simp)
  · rwa [heq]

/-- The worker's next act keeps a contract. -/
theorem work (hg : Keeps c as g) : Keeps c (as ++ g.acts .work) g.work := by
  have horderly := hg.orderly.work
  rcases work_cases g with ⟨t, change, next, hb, heq⟩ | ⟨t, outcome, hb, heq⟩ | ⟨hb, heq⟩
  · -- An act: the caller stays where it is, with less to do.
    obtain ⟨-, hw⟩ := busy?_eq_some_iff.mp hb
    obtain ⟨ts, hts, hgo⟩ := hg.going t _ hw
    have hacts : g.acts .work = [⟨t, g.state, change g.state⟩] := by simp [acts, hb]
    have hproceed : ((g.phase t).proceed (next g.state)).work? = some (next g.state) := by simp [hw]
    rw [heq] at horderly ⊢
    rw [hacts]
    refine ⟨horderly, hg.waiting_setPhase fun op hp => ?_, fun hno => ?_, fun u v hnow => ?_,
      hg.ended_setPhase (List.prefix_refl _) (fun _ _ _ => c.later) fun r hr => ?_⟩
    · simp [hp, Phase.work?] at hproceed
    · refine absurd ?_ (hno t)
      change ((g.setPhase t ((g.phase t).proceed (next g.state))).phase t).work?.isSome
      rw [phase_setPhase_self, hproceed]
      rfl
    · obtain ⟨rfl, hu⟩ | ⟨hut, hu⟩ := setPhase_cases (fun q => q.work? = some v) hnow
      · obtain rfl : next g.state = v := Option.some.inj (hproceed.symm.trans hu)
        exact ⟨ts, hts, c.act hgo⟩
      · exact absurd (hg.orderly.eq_of_inFlight (Option.isSome_of_mem hu) (Option.isSome_of_mem hw))
          hut
    · rcases hr with hr | hr <;> simp [hr, Phase.work?] at hproceed
  · -- The end: nobody is worked for now, and the caller has its result.
    obtain ⟨hh, hw⟩ := busy?_eq_some_iff.mp hb
    obtain ⟨ts, hts, hgo⟩ := hg.going t _ hw
    obtain ⟨hrest, hend⟩ := c.done hgo
    have hacts : g.acts .work = [] := by simp [acts, hb]
    have hcomplete := Phase.complete_of_work? hw outcome
    rw [heq] at horderly ⊢
    rw [hacts, List.append_nil]
    refine ⟨horderly, hg.waiting_setPhase fun op hp => ?_, fun _ => hts ▸ hrest, fun u v hnow => ?_,
      hg.ended_setPhase (List.prefix_refl _) (fun _ _ _ => id) fun r hr => ?_⟩
    · rcases hcomplete with hc | hc <;> simp [hc] at hp
    · obtain ⟨rfl, hu⟩ | ⟨hut, hu⟩ := setPhase_cases (fun q => q.work? = some v) hnow
      · rcases hcomplete with hc | hc <;> simp [hc, Phase.work?] at hu
      · exact absurd (hg.orderly.eq_of_inFlight (Option.isSome_of_mem hu) (Option.isSome_of_mem hw))
          hut
    · have hout : outcome.toExcept = r := by
        rcases hcomplete with hc | hc
        · simpa [hc] using hr
        · simp [hc] at hr
      exact ⟨ts, [], hts, hout ▸ hend⟩
  · have hacts : g.acts .work = [] := by simp [acts, hb]
    rw [heq, hacts, List.append_nil]
    exact hg

/-- **A contract is kept by every event**, if a caller that is new comes with an operation it
allows. -/
theorem step (hg : Keeps c as g) {e : Event σ α}
    (he : ∀ t op, e = .arrive t op → g.phase t = .absent → c.allowed t op) :
    Keeps c (as ++ g.acts e) (g.step e) := by
  cases e with
  | arrive t op => exact (List.append_nil as).symm ▸ hg.arrive (he t op rfl)
  | poll t => exact (List.append_nil as).symm ▸ hg.poll t
  | work => exact hg.work
  | drop t => exact (List.append_nil as).symm ▸ hg.drop t

/-- **A contract is kept by every run** in which callers come with operations it allows. -/
theorem run (hg : Keeps c as g) {events : List (Event σ α)}
    (he : ∀ before t op after, events = before ++ .arrive t op :: after →
      (g.run before).phase t = .absent → c.allowed t op) :
    ∃ more, Keeps c (as ++ more) (g.run events) := by
  induction events generalizing as g with
  | nil => exact ⟨[], (List.append_nil as).symm ▸ hg⟩
  | cons e events ih =>
      have hstep := hg.step fun t op (h : e = _) => he [] t op events (by rw [h]; rfl)
      obtain ⟨more, hmore⟩ := ih hstep fun before t op after (h : events = _) =>
        he (e :: before) t op after (by rw [h]; rfl)
      exact ⟨g.acts e ++ more, List.append_assoc .. ▸ hmore⟩

end Keeps

end Gate

end ScriptHost
