import ScriptHost.Proofs.Gate.Line

/-!
# Order at the gate

What the phases of the callers have to do with the line at the lock, whatever callers and the
worker do (`Gate.Orderly`): those in line are those who wait or are worked for, work is done
only for the holder, and nobody is admitted twice.

The machine of `Gate.step` does at most two things at a time. A caller that arrives first
joins the line and then looks whether it can go on (`Gate.arrive_eq`); whoever looks either
enters or collects a result. So order is kept by `Gate.step` once it is kept by `join`, `enter`,
`work` and the ways of leaving.
-/

namespace ScriptHost

namespace Gate

variable {σ α : Type} {g : Gate σ α} {t u : Ticket}

/-! ### Phases -/

/-- The caller waits, or a worker has its work. -/
def Phase.isPending : Phase σ α → Bool
  | .queued _ | .running _ | .orphaned _ => true
  | _ => false

/-- The caller waits. -/
def Phase.isQueued : Phase σ α → Bool
  | .queued _ => true
  | _ => false

/-- The caller was not admitted so far. -/
def Phase.isEarly : Phase σ α → Bool
  | .absent | .queued _ => true
  | _ => false

/-- A worker has the work of a caller. -/
def InFlight (g : Gate σ α) (t : Ticket) : Prop :=
  (g.phase t).work?.isSome

/-- A caller whose work goes on waits for it, and is past the line. -/
theorem Phase.isPending_of_work? {p : Phase σ α} {w : Work σ α} (h : p.work? = some w) :
    p.isPending = true ∧ p.isQueued = false ∧ p.isEarly = false := by
  cases p <;> simp_all [work?, isPending, isQueued, isEarly]

@[simp] theorem Phase.work?_proceed (p : Phase σ α) (left : Work σ α) :
    (p.proceed left).work? = p.work?.map fun _ => left := by
  cases p <;> rfl

@[simp] theorem Phase.isPending_proceed (p : Phase σ α) (left : Work σ α) :
    (p.proceed left).isPending = p.isPending := by
  cases p <;> rfl

/-- Work that is done is over for its caller. -/
theorem Phase.complete_of_work? {p : Phase σ α} {w : Work σ α} (h : p.work? = some w)
    (outcome : Outcome α) :
    p.complete outcome = .finished outcome.toExcept ∨ p.complete outcome = .abandoned := by
  cases p <;> simp_all [work?, complete]

/-- The worker is busy for the holder of the gate, with work it has for that caller. -/
theorem busy?_eq_some_iff {w : Work σ α} :
    g.busy? = some (t, w) ↔ g.lock.holder = some t ∧ (g.phase t).work? = some w := by
  simp only [busy?, Option.bind_eq_some_iff, Option.map_eq_some_iff, Prod.mk.injEq]
  constructor
  · rintro ⟨u, hu, v, hv, rfl, rfl⟩
    exact ⟨hu, hv⟩
  · rintro ⟨ht, hw⟩
    exact ⟨t, ht, w, hw, rfl, rfl⟩

/-! ### Order -/

/-- The phases of the callers, the line and the list of those admitted agree: in line are those
who wait and those a worker has work for, and a worker has work for the holder only. -/
structure Orderly (g : Gate σ α) : Prop where
  agrees : g.lock.Agrees (fun t => (g.phase t).isPending) g.InFlight
  nodup_admitted : g.admitted.Nodup
  /-- Nobody is admitted who has not yet been in front. -/
  not_early : ∀ t ∈ g.admitted, (g.phase t).isEarly = false

/-- A gate with nobody at it is in order. -/
theorem orderly_init (s : σ) : (init s : Gate σ α).Orderly where
  agrees := .free (by simp [init, Phase.isPending]) (by simp [init, InFlight, Phase.work?])
  nodup_admitted := List.nodup_nil
  not_early t ht := by simp [init] at ht

namespace Orderly

/-- Whoever has work in flight holds the gate. -/
theorem holder_of_inFlight (hg : g.Orderly) (ht : g.InFlight t) : g.lock.holder = some t :=
  hg.agrees.holder_of_served t ht

/-- **Mutual exclusion**: no two callers are worked for at the same time. -/
theorem eq_of_inFlight (hg : g.Orderly) (ht : g.InFlight t) (hu : g.InFlight u) : t = u :=
  hg.agrees.eq_of_served ht hu

/-- Nobody waits or is worked for at a free gate. -/
theorem not_isPending_of_isFree (hg : g.Orderly) (hfree : g.isFree) (t : Ticket) :
    ¬ (g.phase t).isPending := by
  have hholder : g.lock.holder = none := by simpa [isFree] using hfree
  rw [← hg.agrees.mem_line t, Lock.line, hholder, hg.agrees.proper hholder]
  simp

/-- A caller that is absent is not in line. -/
theorem notMem_line_of_absent (hg : g.Orderly) (h : g.phase t = .absent) : t ∉ g.lock.line := by
  rw [hg.agrees.mem_line t, h]
  simp [Phase.isPending]

end Orderly

/-! ### What happens to a caller -/

/-- A new caller takes its place in line. -/
def join (g : Gate σ α) (t : Ticket) (op : Operation σ α) : Gate σ α :=
  { g.setPhase t (.queued op) with lock := g.lock.request t }

/-- Whoever arrives joins the line and looks whether it is in front. -/
theorem arrive_eq {op : Operation σ α} (h : g.phase t = .absent) :
    g.arrive t op = (g.join t op).poll t := by
  have hset : ∀ p q : Phase σ α, (fun u => if u = t then q else if u = t then p else g.phase u)
      = fun u => if u = t then q else g.phase u := by
    intro p q
    funext u
    split <;> rfl
  by_cases hheld : (g.lock.request t).isHeldBy t = true
  · cases op with
    | work w => simp [arrive, poll, join, h, hheld, enter, setPhase, hset]
    | glance f => simp [arrive, poll, join, h, hheld, enter, setPhase, hset]
  · simp [arrive, poll, join, h, hheld, setPhase]

/-- Whoever was here before does not arrive again. -/
theorem arrive_of_phase_ne {op : Operation σ α} (h : g.phase t ≠ .absent) : g.arrive t op = g := by
  unfold arrive
  split
  · exact absurd ‹_› h
  · rfl

/-- What a look can do: enter, if the caller waits and is in front; collect a result; or
nothing. -/
theorem poll_cases (g : Gate σ α) (t : Ticket) :
    (∃ op, g.phase t = .queued op ∧ g.lock.holder = some t ∧ g.poll t = g.enter t op) ∨
    (∃ r, g.phase t = .finished r ∧ g.poll t = g.setPhase t (.answered r)) ∨
    g.poll t = g := by
  cases h : g.phase t with
  | queued op =>
      by_cases hheld : g.lock.holder = some t
      · exact .inl ⟨op, rfl, hheld, by simp [poll, h, Lock.isHeldBy, hheld]⟩
      · exact .inr (.inr (by simp [poll, h, Lock.isHeldBy, hheld]))
  | finished r => exact .inr (.inl ⟨r, rfl, by simp [poll, h]⟩)
  | absent | running w | orphaned w | answered r | abandoned =>
      exact .inr (.inr (by simp [poll, h]))

/-- What a step of the worker can do: an act, or the end of the work; or nothing. -/
theorem work_cases (g : Gate σ α) :
    (∃ t change rest, g.busy? = some (t, .act change rest) ∧
      g.work = { g.setPhase t ((g.phase t).proceed (rest g.state)) with state := change g.state }) ∨
    (∃ t outcome, g.busy? = some (t, .done outcome) ∧
      g.work = { g.setPhase t ((g.phase t).complete outcome) with lock := g.lock.release }) ∨
    (g.busy? = none ∧ g.work = g) := by
  rcases h : g.busy? with - | ⟨t, outcome | ⟨change, rest⟩⟩
  · exact .inr (.inr ⟨rfl, by simp [work, h]⟩)
  · exact .inr (.inl ⟨t, outcome, rfl, by simp [work, h]⟩)
  · exact .inl ⟨t, change, rest, rfl, by simp [work, h]⟩

/-- What a caller that goes away can do: give up its place, leave its work to the worker, leave
its result; or nothing. -/
theorem drop_cases (g : Gate σ α) (t : Ticket) :
    (∃ op, g.phase t = .queued op ∧
      g.drop t = { g.setPhase t .abandoned with lock := g.lock.withdraw t }) ∨
    (∃ w, g.phase t = .running w ∧ g.drop t = g.setPhase t (.orphaned w)) ∨
    (∃ r, g.phase t = .finished r ∧ g.drop t = g.setPhase t .abandoned) ∨
    ((g.phase t).isQueued = false ∧ g.drop t = g) := by
  cases h : g.phase t with
  | queued op => exact .inl ⟨op, rfl, by simp [drop, h]⟩
  | running w => exact .inr (.inl ⟨w, rfl, by simp [drop, h]⟩)
  | finished r => exact .inr (.inr (.inl ⟨r, rfl, by simp [drop, h]⟩))
  | absent | orphaned w | answered r | abandoned =>
      exact .inr (.inr (.inr ⟨rfl, by simp [drop, h]⟩))

/-- What is true of somebody's phase after a caller was put into another one: it is the new
phase, or it was true before. -/
theorem setPhase_cases {p : Phase σ α} (P : Phase σ α → Prop) (h : P ((g.setPhase t p).phase u)) :
    u = t ∧ P p ∨ u ≠ t ∧ P (g.phase u) := by
  by_cases hu : u = t
  · subst hu
    rw [phase_setPhase_self] at h
    exact .inl ⟨rfl, h⟩
  · rw [phase_setPhase_of_ne g p hu] at h
    exact .inr ⟨hu, h⟩

/-- The callers in some kind of phase are, after a caller went into another one, the same but for
this caller. -/
theorem setPhase_iff {p : Phase σ α} (P : Phase σ α → Prop) (u : Ticket) :
    P ((g.setPhase t p).phase u) ↔ u = t ∧ P p ∨ u ≠ t ∧ P (g.phase u) := by
  refine ⟨setPhase_cases P, ?_⟩
  rintro (⟨rfl, h⟩ | ⟨hu, h⟩)
  · rwa [phase_setPhase_self]
  · rwa [phase_setPhase_of_ne g p hu]

namespace Orderly

/-- Nobody is early who was admitted, whoever goes on. -/
theorem not_early_setPhase (hg : g.Orderly) {p : Phase σ α}
    (hp : t ∈ g.admitted → p.isEarly = false) (u : Ticket) (hu : u ∈ g.admitted) :
    ((g.setPhase t p).phase u).isEarly = false := by
  rw [setPhase_iff (fun q => q.isEarly = false)]
  by_cases hut : u = t
  · exact .inl ⟨hut, hp (hut ▸ hu)⟩
  · exact .inr ⟨hut, hg.not_early u hu⟩

/-- Order is kept when a caller goes from one phase to another that says the same about it. -/
theorem setPhase (hg : g.Orderly) {p : Phase σ α} (hpending : p.isPending = (g.phase t).isPending)
    (hwork : p.work?.isSome = (g.phase t).work?.isSome)
    (hearly : p.isEarly = (g.phase t).isEarly) : (g.setPhase t p).Orderly where
  agrees := by
    refine hg.agrees.imp (fun u => ?_) (fun u hu => .inl ?_)
    · rw [setPhase_iff (fun q => q.isPending = true), hpending]
      by_cases hut : u = t <;> simp [hut]
    · obtain ⟨rfl, h⟩ | ⟨-, h⟩ := setPhase_cases (fun q => q.work?.isSome) hu
      · exact hwork.symm.trans h
      · exact h
  nodup_admitted := hg.nodup_admitted
  not_early := hg.not_early_setPhase fun ht => hearly.trans (hg.not_early t ht)

/-- Order does not depend on the state behind the gate. -/
theorem withState (hg : g.Orderly) (s : σ) : ({ g with state := s } : Gate σ α).Orderly :=
  ⟨hg.agrees, hg.nodup_admitted, hg.not_early⟩

/-- Order is kept when a caller withdraws from the line and its phase says so. -/
theorem withdraw (hg : g.Orderly) {p : Phase σ α} (hp : p.isPending = false)
    (hwork : p.work? = none) (hearly : p.isEarly = false) :
    ({ g.setPhase t p with lock := g.lock.withdraw t } : Gate σ α).Orderly where
  agrees := by
    refine hg.agrees.withdraw (fun u => ?_) (fun u hu => ?_)
    · change ((g.setPhase t p).phase u).isPending ↔ _
      rw [setPhase_iff (fun q => q.isPending = true), hp]
      by_cases hut : u = t <;> simp [hut]
    · obtain ⟨rfl, h⟩ | ⟨hut, h⟩ := setPhase_cases (fun q => q.work?.isSome) hu
      · simp [hwork] at h
      · exact ⟨h, hut⟩
  nodup_admitted := hg.nodup_admitted
  not_early := hg.not_early_setPhase fun _ => hearly

/-- Order is kept when the holder lets go and its phase says so. -/
theorem release (hg : g.Orderly) (hh : g.lock.holder = some t) {p : Phase σ α}
    (hp : p.isPending = false) (hwork : p.work? = none) (hearly : p.isEarly = false) :
    ({ g.setPhase t p with lock := g.lock.release } : Gate σ α).Orderly := by
  have hw := hg.withdraw (t := t) hp hwork hearly
  rwa [Lock.withdraw, if_pos hh] at hw

/-- A gate stays in order when somebody joins the line. -/
theorem join (hg : g.Orderly) {op : Operation σ α} (h : g.phase t = .absent) :
    (g.join t op).Orderly where
  agrees := by
    refine hg.agrees.request (by simp [h, Phase.isPending]) (fun u => ?_) (fun u hu => ?_)
    · change ((g.setPhase t (.queued op)).phase u).isPending ↔ _
      rw [setPhase_iff (fun q => q.isPending = true)]
      by_cases hut : u = t <;> simp [hut, Phase.isPending]
    · obtain ⟨rfl, hf⟩ | ⟨-, hf⟩ := setPhase_cases (fun q => q.work?.isSome) hu
      · simp [Phase.work?] at hf
      · exact hf
  nodup_admitted := hg.nodup_admitted
  not_early := hg.not_early_setPhase fun ht => by
    simpa [h, Phase.isEarly] using hg.not_early t ht

/-- Nobody is worked for while the caller in front still waits. -/
theorem not_inFlight_of_queued (hg : g.Orderly) {op : Operation σ α} (hq : g.phase t = .queued op)
    (hh : g.lock.holder = some t) (u : Ticket) : ¬ g.InFlight u := by
  intro hu
  obtain rfl : u = t := Option.some.inj ((hg.holder_of_inFlight hu).symm.trans hh)
  simp [InFlight, hq, Phase.work?] at hu

/-- A caller that still waits was not admitted. -/
theorem notMem_admitted_of_queued (hg : g.Orderly) {op : Operation σ α}
    (hq : g.phase t = .queued op) : t ∉ g.admitted := fun ht => by
  simpa [hq, Phase.isEarly] using hg.not_early t ht

/-- The line without its holder. -/
theorem line_release (hg : g.Orderly) (hh : g.lock.holder = some t) :
    g.lock.release.line = g.lock.line.filter (· ≠ t) := by
  have hline := Lock.line_withdraw hg.agrees.nodup_line t
  rwa [Lock.withdraw, if_pos hh] at hline

/-- Whoever is in no early phase may be admitted, once. -/
theorem admitOne (hg : g.Orderly) (hnew : t ∉ g.admitted) (hearly : (g.phase t).isEarly = false) :
    ({ g with admitted := g.admitted ++ [t] } : Gate σ α).Orderly where
  agrees := hg.agrees
  nodup_admitted := List.concat_eq_append ▸ List.Nodup.concat hnew hg.nodup_admitted
  not_early u hu := by
    rcases List.mem_append.mp hu with hu | hu
    · exact hg.not_early u hu
    · exact List.mem_singleton.mp hu ▸ hearly

/-- So it does when its holder enters. -/
theorem enter (hg : g.Orderly) {op : Operation σ α} (hq : g.phase t = .queued op)
    (hh : g.lock.holder = some t) : (g.enter t op).Orderly := by
  have hnew := hg.notMem_admitted_of_queued hq
  cases op with
  | work w =>
      have hbegun : (g.setPhase t (.running w)).Orderly := by
        refine ⟨hg.agrees.imp (fun u => ?_) (fun u hu => ?_), hg.nodup_admitted,
          hg.not_early_setPhase fun _ => rfl⟩
        · rw [setPhase_iff (fun q => q.isPending = true)]
          by_cases hut : u = t <;> simp [hut, hq, Phase.isPending]
        · obtain ⟨rfl, -⟩ | ⟨-, h⟩ := setPhase_cases (fun q => q.work?.isSome) hu
          · exact .inr hh
          · exact .inl h
      exact hbegun.admitOne hnew (by simp [Phase.isEarly])
  | glance f =>
      exact (hg.release hh (p := .answered (.ok (f g.state))) rfl rfl rfl).admitOne hnew
        (by change ((g.setPhase t _).phase t).isEarly = false; simp [Phase.isEarly])

/-- So it does when somebody is polled. -/
theorem poll (hg : g.Orderly) (t : Ticket) : (g.poll t).Orderly := by
  rcases poll_cases g t with ⟨op, hq, hh, heq⟩ | ⟨r, hr, heq⟩ | heq <;> rw [heq]
  · exact hg.enter hq hh
  · exact hg.setPhase (by rw [hr]; rfl) (by rw [hr]; rfl) (by rw [hr]; rfl)
  · exact hg

/-- So it does when somebody comes. -/
theorem arrive (hg : g.Orderly) (t : Ticket) (op : Operation σ α) : (g.arrive t op).Orderly := by
  cases h : g.phase t with
  | absent =>
      rw [arrive_eq h]
      exact (hg.join h).poll t
  | queued _ | running _ | orphaned _ | finished _ | answered _ | abandoned =>
      rwa [arrive_of_phase_ne (by simp [h])]

/-- So it does when work goes on. -/
theorem work (hg : g.Orderly) : g.work.Orderly := by
  rcases work_cases g with ⟨t, change, rest, hb, heq⟩ | ⟨t, outcome, hb, heq⟩ | ⟨-, heq⟩ <;>
    rw [heq]
  · obtain ⟨-, hw⟩ := busy?_eq_some_iff.mp hb
    have hproceed : ((g.phase t).proceed (rest g.state)).work? = some (rest g.state) := by simp [hw]
    exact (hg.setPhase (by simp) (by simp [hw]) (by
      rw [(Phase.isPending_of_work? hproceed).2.2, (Phase.isPending_of_work? hw).2.2])).withState _
  · obtain ⟨hh, hw⟩ := busy?_eq_some_iff.mp hb
    rcases Phase.complete_of_work? hw outcome with hc | hc <;> rw [hc] <;>
      exact hg.release hh rfl rfl rfl
  · exact hg

/-- So it does when somebody leaves. -/
theorem drop (hg : g.Orderly) (t : Ticket) : (g.drop t).Orderly := by
  rcases drop_cases g t with ⟨op, hq, heq⟩ | ⟨w, hw, heq⟩ | ⟨r, hr, heq⟩ | ⟨-, heq⟩ <;> rw [heq]
  · exact hg.withdraw rfl rfl rfl
  · exact hg.setPhase (by rw [hw]; rfl) (by rw [hw]; rfl) (by rw [hw]; rfl)
  · exact hg.setPhase (by rw [hr]; rfl) (by rw [hr]; rfl) (by rw [hr]; rfl)
  · exact hg

/-- **Order is kept by every event.** -/
theorem step (hg : g.Orderly) (e : Event σ α) : (g.step e).Orderly := by
  cases e with
  | arrive t op => exact hg.arrive t op
  | poll t => exact hg.poll t
  | work => exact hg.work
  | drop t => exact hg.drop t

/-- Order is kept by every run. -/
theorem run (hg : g.Orderly) (events : List (Event σ α)) : (g.run events).Orderly := by
  induction events generalizing g with
  | nil => exact hg
  | cons e events ih => exact ih (hg.step e)

end Orderly

end Gate

end ScriptHost
