import ScriptHost.Proofs.Gate.Contract

/-!
# Two gates in step

How a relation between the states behind two gates is carried through two runs. It is for two gates
what a `Gate.Contract` is for one: a `Likeness` says what callers may come with in the one run and
in the other, how the states compare while nobody is worked for (`rest`) and while somebody is
(`going`), and how the results compare (`ended`); and it shows that every pair of acts keeps this.
Then the gates stay in step (`Gate.Paired.step`): the same callers wait, in the same order, the same
one is worked for, and the same ones were admitted.

What a likeness takes for granted of the two runs is who is admitted in them (`admits`) and what
acts are done (`permits`).
-/

namespace ScriptHost

namespace Gate

variable {σ α : Type} {g g' : Gate σ α} {t u : Ticket}

/-- A relation between the states behind two gates that every pair of acts keeps. The tickets `ts`
are those admitted before. -/
structure Likeness (σ α : Type) where
  /-- The operations a caller may come with in the two runs. -/
  comes : Ticket → Operation σ α → Operation σ α → Prop
  /-- How the states compare while nobody is worked for. -/
  rest : List Ticket → σ → σ → Prop
  /-- How they compare while this much of a caller's work is left. -/
  going : List Ticket → Ticket → Work σ α → Work σ α → σ → σ → Prop
  /-- How the results of a caller compare. -/
  ended : Ticket → Except Failure α → Except Failure α → Prop
  /-- Who is admitted. -/
  admits : Ticket → Prop
  /-- The acts that are done. -/
  permits : Act σ → Prop
  enter : ∀ {ts t w op s s'}, rest ts s s' → comes t (.work w) op → admits t → t ∉ ts →
    ∃ w', op = .work w' ∧ going ts t w w' s s'
  glance : ∀ {ts t f op s s'}, rest ts s s' → comes t (.glance f) op → admits t → t ∉ ts →
    ∃ f', op = .glance f' ∧ rest (ts ++ [t]) s s' ∧ ended t (.ok (f s)) (.ok (f' s'))
  act : ∀ {ts t change next w s s'}, going ts t (.act change next) w s s' →
    ∃ change' next', w = .act change' next' ∧
      (permits ⟨t, s, change s⟩ → permits ⟨t, s', change' s'⟩ →
        going ts t (next s) (next' s') (change s) (change' s'))
  done : ∀ {ts t outcome w s s'}, going ts t (.done outcome) w s s' →
    ∃ outcome', w = .done outcome' ∧ rest (ts ++ [t]) s s' ∧
      ended t outcome.toExcept outcome'.toExcept

variable {c : Likeness σ α}

/-- A caller is equally far at two gates. -/
inductive Phase.Like (c : Likeness σ α) (t : Ticket) : Phase σ α → Phase σ α → Prop where
  | absent : Like c t .absent .absent
  | queued {op op' : Operation σ α} (h : c.comes t op op') : Like c t (.queued op) (.queued op')
  | running (w w' : Work σ α) : Like c t (.running w) (.running w')
  | orphaned (w w' : Work σ α) : Like c t (.orphaned w) (.orphaned w')
  | finished {r r' : Except Failure α} (h : c.ended t r r') : Like c t (.finished r) (.finished r')
  | answered {r r' : Except Failure α} (h : c.ended t r r') : Like c t (.answered r) (.answered r')
  | abandoned : Like c t .abandoned .abandoned

/-- An event of one gate is an event of the same kind at another. -/
inductive Event.Like (c : Likeness σ α) : Event σ α → Event σ α → Prop where
  | arrive {t : Ticket} {op op' : Operation σ α} (h : c.comes t op op') :
    Like c (.arrive t op) (.arrive t op')
  | poll (t : Ticket) : Like c (.poll t) (.poll t)
  | work : Like c .work .work
  | drop (t : Ticket) : Like c (.drop t) (.drop t)

namespace Phase.Like

variable {p p' : Phase σ α}

/-- A caller is at both gates or at none. -/
theorem absent_iff (h : p.Like c t p') : p' = .absent ↔ p = .absent := by
  cases h <;> simp

/-- A caller has work to do at both gates or at none. -/
theorem isSome_work? (h : p.Like c t p') : p'.work?.isSome = p.work?.isSome := by
  cases h <;> rfl

/-- Callers in like phases go on in like phases. -/
theorem proceed (h : p.Like c t p') (w w' : Work σ α) : (p.proceed w).Like c t (p'.proceed w') := by
  cases h with
  | running _ _ => exact .running w w'
  | orphaned _ _ => exact .orphaned w w'
  | absent => exact .absent
  | queued h => exact .queued h
  | finished h => exact .finished h
  | answered h => exact .answered h
  | abandoned => exact .abandoned

/-- They end in like phases, if what they are told is like. -/
theorem complete (h : p.Like c t p') {o o' : Outcome α} (ho : c.ended t o.toExcept o'.toExcept) :
    (p.complete o).Like c t (p'.complete o') := by
  cases h with
  | running _ _ => exact .finished ho
  | orphaned _ _ => exact .abandoned
  | absent => exact .absent
  | queued h => exact .queued h
  | finished h => exact .finished h
  | answered h => exact .answered h
  | abandoned => exact .abandoned

/-- Phases that are the same are alike, if nothing is in them that has to compare. -/
theorem refl (hqueued : ∀ op, p = .queued op → c.comes t op op)
    (hended : ∀ r, p = .finished r ∨ p = .answered r → c.ended t r r) : p.Like c t p := by
  cases p with
  | absent => exact .absent
  | queued op => exact .queued (hqueued op rfl)
  | running w => exact .running w w
  | orphaned w => exact .orphaned w w
  | finished r => exact .finished (hended r (.inl rfl))
  | answered r => exact .answered (hended r (.inr rfl))
  | abandoned => exact .abandoned

end Phase.Like

/-- **Two gates are in step**: the same callers are in line and were admitted, each is equally far
at both, and the states behind the gates compare. -/
structure Paired (c : Likeness σ α) (g g' : Gate σ α) : Prop where
  orderly : g.Orderly
  lock : g'.lock = g.lock
  admitted : g'.admitted = g.admitted
  phase : ∀ t, (g.phase t).Like c t (g'.phase t)
  rest : (∀ t, ¬ g.InFlight t) → c.rest g.admitted g.state g'.state
  going : ∀ t w w', (g.phase t).work? = some w → (g'.phase t).work? = some w' →
    ∃ ts, g.admitted = ts ++ [t] ∧ c.going ts t w w' g.state g'.state

namespace Paired

/-- The states compare in one of two ways. -/
theorem states (hg : Paired c g g') : c.rest g.admitted g.state g'.state ∨
    ∃ ts t w w', g.admitted = ts ++ [t] ∧ c.going ts t w w' g.state g'.state := by
  by_cases hidle : ∀ t, ¬ g.InFlight t
  · exact .inl (hg.rest hidle)
  · obtain ⟨t, ht⟩ := not_forall_not.mp hidle
    obtain ⟨w, hw⟩ := Option.isSome_iff_exists.mp ht
    obtain ⟨w', hw'⟩ := Option.isSome_iff_exists.mp ((hg.phase t).isSome_work?.trans ht)
    obtain ⟨ts, hts, hgo⟩ := hg.going t w w' hw hw'
    exact .inr ⟨ts, t, w, w', hts, hgo⟩

/-- The states may be changed from outside, if they still compare. -/
theorem withState (hg : Paired c g g') {s s' : σ}
    (hrest : c.rest g.admitted g.state g'.state → c.rest g.admitted s s')
    (hgoing : ∀ ts t w w', g.admitted = ts ++ [t] → c.going ts t w w' g.state g'.state →
      c.going ts t w w' s s') :
    Paired c { g with state := s } { g' with state := s' } where
  orderly := hg.orderly.withState s
  lock := hg.lock
  admitted := hg.admitted
  phase := hg.phase
  rest hidle := hrest (hg.rest hidle)
  going t w w' hw hw' := by
    obtain ⟨ts, hts, hgo⟩ := hg.going t w w' hw hw'
    exact ⟨ts, hts, hgoing ts t w w' hts hgo⟩

/-- Callers are equally far after one of them went into phases that are alike. -/
theorem phase_setPhase (hg : Paired c g g') {p p' : Phase σ α} (hp : p.Like c t p') (u : Ticket) :
    ((g.setPhase t p).phase u).Like c u ((g'.setPhase t p').phase u) := by
  by_cases hut : u = t
  · subst hut
    rwa [phase_setPhase_self, phase_setPhase_self]
  · rw [phase_setPhase_of_ne g p hut, phase_setPhase_of_ne g' p' hut]
    exact hg.phase u

/-- Gates stay in step when a caller goes from one phase to another with as much of its work left.
-/
theorem move (hg : Paired c g g') {l l' : Lock} (hl : l' = l) {p p' : Phase σ α}
    (horderly : ({ g.setPhase t p with lock := l } : Gate σ α).Orderly) (hp : p.Like c t p')
    (hwork : p.work? = (g.phase t).work?) (hwork' : p'.work? = (g'.phase t).work?) :
    Paired c { g.setPhase t p with lock := l } { g'.setPhase t p' with lock := l' } where
  orderly := horderly
  lock := hl
  admitted := hg.admitted
  phase := hg.phase_setPhase hp
  rest hidle := by
    refine hg.rest fun u hu => hidle u ?_
    change ((g.setPhase t p).phase u).work?.isSome
    by_cases hut : u = t
    · subst hut
      rwa [phase_setPhase_self, hwork]
    · rwa [phase_setPhase_of_ne g p hut]
  going u w w' hw hw' := by
    change ((g.setPhase t p).phase u).work? = some w at hw
    change ((g'.setPhase t p').phase u).work? = some w' at hw'
    by_cases hut : u = t
    · subst hut
      rw [phase_setPhase_self] at hw hw'
      exact hg.going u w w' (hwork ▸ hw) (hwork' ▸ hw')
    · rw [phase_setPhase_of_ne g p hut] at hw
      rw [phase_setPhase_of_ne g' p' hut] at hw'
      exact hg.going u w w' hw hw'

/-- Two gates that are paired take a new caller with operations that are. -/
theorem join (hg : Paired c g g') {op op' : Operation σ α} (ht : g.phase t = .absent)
    (hop : c.comes t op op') : Paired c (g.join t op) (g'.join t op') := by
  have ht' := (hg.phase t).absent_iff.mpr ht
  have hlock : g'.lock.request t = g.lock.request t := congrArg (·.request t) hg.lock
  have horderly :
      ({ g.setPhase t (.queued op) with lock := g.lock.request t } : Gate σ α).Orderly :=
    hg.orderly.join ht
  exact hg.move hlock horderly (.queued hop) (by rw [ht]; rfl) (by rw [ht']; rfl)

/-- Whoever is in front enters both gates. -/
theorem enter (hg : Paired c g g') {op op' : Operation σ α} (hq : g.phase t = .queued op)
    (hop : c.comes t op op') (hh : g.lock.holder = some t) (hadmits : c.admits t) :
    Paired c (g.enter t op) (g'.enter t op') := by
  have hidle := hg.orderly.not_inFlight_of_queued hq hh
  have hrest := hg.rest hidle
  have hnew := hg.orderly.notMem_admitted_of_queued hq
  have horderly := hg.orderly.enter hq hh
  -- Nobody else is worked for.
  have hothers : ∀ {p : Phase σ α} {u v}, u ≠ t → ((g.setPhase t p).phase u).work? ≠ some v := by
    intro p u v hut hu
    rw [phase_setPhase_of_ne g p hut] at hu
    exact hidle u (Option.isSome_of_mem hu)
  have hadmitted : g'.admitted ++ [t] = g.admitted ++ [t] := congrArg (· ++ [t]) hg.admitted
  cases op with
  | work w =>
      obtain ⟨w', rfl, hgoing⟩ := c.enter hrest hop hadmits hnew
      refine ⟨horderly, hg.lock, hadmitted, hg.phase_setPhase (.running w w'), fun hno => ?_,
        fun u v v' hv hv' => ?_⟩
      · refine absurd ?_ (hno t)
        change ((g.setPhase t (.running w)).phase t).work?.isSome
        simp [Phase.work?]
      · change ((g.setPhase t (.running w)).phase u).work? = some v at hv
        change ((g'.setPhase t (.running w')).phase u).work? = some v' at hv'
        by_cases hut : u = t
        · subst hut
          rw [phase_setPhase_self] at hv hv'
          obtain rfl : w = v := Option.some.inj hv
          obtain rfl : w' = v' := Option.some.inj hv'
          exact ⟨g.admitted, rfl, hgoing⟩
        · exact absurd hv (hothers hut)
  | glance f =>
      obtain ⟨f', rfl, hrest', hended⟩ := c.glance hrest hop hadmits hnew
      refine ⟨horderly, congrArg Lock.release hg.lock, hadmitted,
        hg.phase_setPhase (.answered hended), fun _ => hrest', fun u v v' hv _ => ?_⟩
      change ((g.setPhase t (.answered (.ok (f g.state)))).phase u).work? = some v at hv
      by_cases hut : u = t
      · subst hut
        simp [Phase.work?] at hv
      · exact absurd hv (hothers hut)

/-- Paired gates stay so when a caller is polled at both, if those admitted by it may be. -/
theorem poll (hg : Paired c g g') (t : Ticket)
    (hadmits : ∀ u ∈ (g.poll t).admitted, c.admits u) : Paired c (g.poll t) (g'.poll t) := by
  have horderly := hg.orderly.poll t
  have hlike := hg.phase t
  unfold Gate.poll at horderly hadmits ⊢
  generalize hp : g.phase t = p, hp' : g'.phase t = p' at hlike horderly hadmits
  cases hlike with
  | @queued op op' hop =>
      simp only [hg.lock] at hadmits ⊢
      by_cases hheld : g.lock.isHeldBy t
      · simp only [hheld, if_true] at hadmits ⊢
        have hh : g.lock.holder = some t := by simpa [Lock.isHeldBy] using hheld
        exact hg.enter hp hop hh (hadmits t (by cases op <;> simp [Gate.enter]))
      · simpa only [hheld, Bool.false_eq_true, if_false] using hg
  | finished hended =>
      exact hg.move hg.lock horderly (.answered hended) (by rw [hp]; rfl) (by rw [hp']; rfl)
  | absent | running _ _ | orphaned _ _ | answered _ | abandoned => exact hg

/-- They stay so when a caller comes to both. -/
theorem arrive (hg : Paired c g g') {op op' : Operation σ α} (hop : c.comes t op op')
    (hadmits : ∀ u ∈ (g.arrive t op).admitted, c.admits u) :
    Paired c (g.arrive t op) (g'.arrive t op') := by
  by_cases ht : g.phase t = .absent
  · rw [arrive_eq ht] at hadmits ⊢
    rw [arrive_eq ((hg.phase t).absent_iff.mpr ht)]
    exact (hg.join ht hop).poll t hadmits
  · rwa [arrive_of_phase_ne ht, arrive_of_phase_ne (mt (hg.phase t).absent_iff.mp ht)]

/-- They stay so when a caller leaves both. -/
theorem drop (hg : Paired c g g') (t : Ticket) : Paired c (g.drop t) (g'.drop t) := by
  have horderly := hg.orderly.drop t
  have hlike := hg.phase t
  unfold Gate.drop at horderly ⊢
  generalize hp : g.phase t = p, hp' : g'.phase t = p' at hlike horderly
  cases hlike with
  | queued _ =>
      exact hg.move (congrArg (·.withdraw t) hg.lock) horderly .abandoned (by rw [hp]; rfl)
        (by rw [hp']; rfl)
  | running w w' =>
      exact hg.move hg.lock horderly (.orphaned w w') (by rw [hp]; rfl) (by rw [hp']; rfl)
  | finished _ => exact hg.move hg.lock horderly .abandoned (by rw [hp]; rfl) (by rw [hp']; rfl)
  | absent | orphaned _ _ | answered _ | abandoned => exact hg

/-- The worker of one gate is busy for whom that of the other is. -/
theorem busy? (hg : Paired c g g') {w : Work σ α} (hb : g.busy? = some (t, w)) :
    ∃ ts w', g'.busy? = some (t, w') ∧ g.admitted = ts ++ [t] ∧
      c.going ts t w w' g.state g'.state := by
  obtain ⟨hh, hw⟩ := busy?_eq_some_iff.mp hb
  have hsome : (g'.phase t).work?.isSome := by simp [(hg.phase t).isSome_work?, hw]
  obtain ⟨w', hw'⟩ := Option.isSome_iff_exists.mp hsome
  obtain ⟨ts, hts, hgo⟩ := hg.going t w w' hw hw'
  exact ⟨ts, w', busy?_eq_some_iff.mpr ⟨hg.lock ▸ hh, hw'⟩, hts, hgo⟩

/-- If one of them is free, so is the other. -/
theorem busy?_eq_none (hg : Paired c g g') (hb : g.busy? = none) : g'.busy? = none := by
  by_contra hsome
  obtain ⟨⟨t, w'⟩, hb'⟩ := Option.ne_none_iff_exists'.mp hsome
  obtain ⟨hh, hw'⟩ := busy?_eq_some_iff.mp hb'
  obtain ⟨w, hw⟩ := Option.isSome_iff_exists.mp
    ((hg.phase t).isSome_work?.symm.trans (Option.isSome_of_mem hw'))
  simp [busy?_eq_some_iff.mpr ⟨hg.lock ▸ hh, hw⟩] at hb

/-- The workers of both gates do an act. -/
theorem work_act (hg : Paired c g g') {change change' : σ → σ} {next next' : σ → Work σ α}
    {ts : List Ticket} (hb : g.busy? = some (t, .act change next))
    (hb' : g'.busy? = some (t, .act change' next')) (hts : g.admitted = ts ++ [t])
    (hnext : c.going ts t (next g.state) (next' g'.state) (change g.state) (change' g'.state)) :
    Paired c g.work g'.work := by
  have hw := (busy?_eq_some_iff.mp hb).2
  have hw' := (busy?_eq_some_iff.mp hb').2
  have hleft : ((g.phase t).proceed (next g.state)).work? = some (next g.state) := by simp [hw]
  have hleft' : ((g'.phase t).proceed (next' g'.state)).work? = some (next' g'.state) := by
    simp [hw']
  have horderly := hg.orderly.work
  simp only [Gate.work, hb, hb'] at horderly ⊢
  refine ⟨horderly, hg.lock, hg.admitted,
    hg.phase_setPhase ((hg.phase t).proceed (next g.state) (next' g'.state)), fun hno => ?_,
    fun u v v' hv hv' => ?_⟩
  · refine absurd ?_ (hno t)
    change ((g.setPhase t _).phase t).work?.isSome
    rw [phase_setPhase_self, hleft]
    rfl
  · change ((g.setPhase t _).phase u).work? = some v at hv
    change ((g'.setPhase t _).phase u).work? = some v' at hv'
    by_cases hut : u = t
    · subst hut
      rw [phase_setPhase_self, hleft] at hv
      rw [phase_setPhase_self, hleft'] at hv'
      obtain rfl := Option.some.inj hv
      obtain rfl := Option.some.inj hv'
      exact ⟨ts, hts, hnext⟩
    · rw [phase_setPhase_of_ne g _ hut] at hv
      exact absurd (hg.orderly.eq_of_inFlight (Option.isSome_of_mem hv) (Option.isSome_of_mem hw))
        hut

/-- The workers of both gates hand them back. -/
theorem work_done (hg : Paired c g g') {outcome outcome' : Outcome α}
    (hb : g.busy? = some (t, .done outcome)) (hb' : g'.busy? = some (t, .done outcome'))
    (hrest : c.rest g.admitted g.state g'.state)
    (hended : c.ended t outcome.toExcept outcome'.toExcept) : Paired c g.work g'.work := by
  have hw := (busy?_eq_some_iff.mp hb).2
  have hover : ((g.phase t).complete outcome).work? = none := by
    rcases Phase.complete_of_work? hw outcome with hc | hc <;> rw [hc] <;> rfl
  have horderly := hg.orderly.work
  simp only [Gate.work, hb, hb'] at horderly ⊢
  refine ⟨horderly, congrArg Lock.release hg.lock, hg.admitted,
    hg.phase_setPhase ((hg.phase t).complete hended), fun _ => hrest, fun u v v' hv _ => ?_⟩
  change ((g.setPhase t _).phase u).work? = some v at hv
  by_cases hut : u = t
  · subst hut
    simp [hover] at hv
  · rw [phase_setPhase_of_ne g _ hut] at hv
    exact absurd (hg.orderly.eq_of_inFlight (Option.isSome_of_mem hv) (Option.isSome_of_mem hw)) hut

/-- They stay so when the work goes on at both, if its acts are permitted. -/
theorem work (hg : Paired c g g') (hpermits : ∀ a ∈ g.acts .work, c.permits a)
    (hpermits' : ∀ a ∈ g'.acts .work, c.permits a) : Paired c g.work g'.work := by
  rcases hb : g.busy? with - | ⟨t, w⟩
  · have hb' := hg.busy?_eq_none hb
    simpa only [Gate.work, hb, hb'] using hg
  · obtain ⟨ts, w', hb', hts, hgo⟩ := hg.busy? hb
    cases w with
    | act change next =>
        obtain ⟨change', next', rfl, hnext⟩ := c.act hgo
        exact hg.work_act hb hb' hts
          (hnext (hpermits _ (by simp [acts, hb])) (hpermits' _ (by simp [acts, hb'])))
    | done outcome =>
        obtain ⟨outcome', rfl, hrest, hended⟩ := c.done hgo
        exact hg.work_done hb hb' (hts ▸ hrest) hended

/-- **Two gates stay in step** in events of the same kind, if the likeness allows who is admitted
and which acts are done. -/
theorem step (hg : Paired c g g') {e e' : Event σ α} (he : e.Like c e')
    (hadmits : ∀ u ∈ (g.step e).admitted, c.admits u) (hpermits : ∀ a ∈ g.acts e, c.permits a)
    (hpermits' : ∀ a ∈ g'.acts e', c.permits a) : Paired c (g.step e) (g'.step e') := by
  cases he with
  | arrive hop => exact hg.arrive hop hadmits
  | poll t => exact hg.poll t hadmits
  | work => exact hg.work hpermits hpermits'
  | drop t => exact hg.drop t

end Paired

end Gate

end ScriptHost
