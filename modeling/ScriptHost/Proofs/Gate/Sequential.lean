import ScriptHost.Proofs.Gate.Callers
import ScriptHost.Proofs.Gate.Contract

/-!
# The gate as a sequential machine

Whatever callers and the worker do, a gate does the operations that pass it as if they were done
one after another, each in one go (`Gate.run_refines`).

The sequential machine knows nothing of callers, locks or workers. It has the operations in the
order in which their callers first asked, without those whose callers went away while they still
waited (`Gate.callers`, `Gate.quitters`), and it folds their effects over the first state
(`Gate.stateAfter`). `Gate.Refines` says what a run of the gate has to do with it.

## Proof idea

The state, what is left of the work that is under way, and the results are kept by a contract
(`Gate.sequential`). That the callers are admitted in the order in which they came is a matter
of the line alone: those admitted followed by those who wait (`Gate.order`) only grow at the end,
and lose only those who go away.
-/

namespace ScriptHost

variable {σ α : Type}

/-- What an operation does with nobody else about: how it ends, and the state it leaves. -/
def Operation.effect : Operation σ α → σ → Outcome α × σ
  | .work w, s => w.run s
  | .glance f, s => (.ok (f s), s)

namespace Gate

variable {g : Gate σ α} {s₀ : σ} {events : List (Event σ α)} {t u : Ticket} {op : Operation σ α}

/-! ### What the events say -/

/-- The callers that go away in an event while they wait. -/
def quits (g : Gate σ α) : Event σ α → List Ticket
  | .drop t => if (g.phase t).isQueued then [t] else []
  | _ => []

/-- Those who went away while they waited. -/
def quitters (g : Gate σ α) : List (Event σ α) → List Ticket
  | [] => []
  | e :: events => g.quits e ++ (g.step e).quitters events

/-- The state that is left when the operations of some callers are done one after another. -/
def stateAfter (s₀ : σ) (events : List (Event σ α)) (ts : List Ticket) : σ :=
  (ts.filterMap (operation? events)).foldl (fun s op => (op.effect s).2) s₀

/-- How the operation of a caller ends when it is done after those of some others. -/
def resultAfter (s₀ : σ) (events : List (Event σ α)) (ts : List Ticket) (op : Operation σ α) :
    Except Failure α :=
  (op.effect (stateAfter s₀ events ts)).1.toExcept

/-- Those who wait, the first to come in front. -/
def queue (g : Gate σ α) : List Ticket :=
  g.lock.line.filter fun t => (g.phase t).isQueued

/-- The gate, after some events, is where the sequential machine is. -/
structure Refines (s₀ : σ) (events : List (Event σ α)) (g : Gate σ α) : Prop where
  /-- At most one operation is in flight. -/
  alone : ∀ t u, g.InFlight t → g.InFlight u → t = u
  /-- Nobody's operation is done twice. -/
  once : g.admitted.Nodup
  /-- The operations are done in the order in which their callers first asked; those are left out
  whose callers went away while they waited, and no others. -/
  in_order : g.admitted ++ g.queue
    = (callers events).filter (· ∉ quitters (init s₀ : Gate σ α) events)
  /-- With no operation in flight, the state is what those admitted leave one after another. -/
  state : (∀ t, ¬ g.InFlight t) → g.state = stateAfter s₀ events g.admitted
  /-- The operation in flight is the last one admitted, and the worker is on the way to what the
  operation does in one go to the state the others leave. -/
  under_way : ∀ t w, (g.phase t).work? = some w → ∃ ts op, g.admitted = ts ++ [t] ∧
    operation? events t = some op ∧ w.run g.state = op.effect (stateAfter s₀ events ts)
  /-- Whoever has an answer has that of its own operation, done after those before it. -/
  answer : ∀ t r, g.answer? t = some r → ∃ ts us op, g.admitted = ts ++ t :: us ∧
    operation? events t = some op ∧ r = resultAfter s₀ events ts op
  /-- Whoever stays is told that answer once its operation is no longer in flight. -/
  told : ∀ ts t us, g.admitted = ts ++ t :: us → ¬ g.InFlight t → .drop t ∉ events →
    ∃ op, operation? events t = some op ∧
      (g.poll t).answer? t = some (resultAfter s₀ events ts op)
  /-- When an operation ends, however it ends, nobody's is in flight, and the gate is with the
  first of those who wait, or free if there are none. -/
  reopens : ∀ e t, g.InFlight t → ¬ (g.step e).InFlight t →
    (∀ u, ¬ (g.step e).InFlight u) ∧ (g.step e).lock.holder = (g.step e).queue.head?

/-! ### Along the events -/

theorem quitters_concat (g : Gate σ α) (events : List (Event σ α)) (e : Event σ α) :
    g.quitters (events ++ [e]) = g.quitters events ++ (g.run events).quits e := by
  induction events generalizing g with
  | nil => simp [quitters, run]
  | cons e' events ih => simp [quitters, run, ih (g.step e')]

theorem stateAfter_concat {ts : List Ticket} (h : operation? events t = some op) :
    stateAfter s₀ events (ts ++ [t]) = (op.effect (stateAfter s₀ events ts)).2 := by
  simp [stateAfter, List.filterMap_append, h]

/-- **The contract of the sequential machine**: at rest the state is what the operations admitted so
far leave, and a worker is on the way to what the next one leaves. -/
def sequential (s₀ : σ) (events : List (Event σ α)) : Contract σ α where
  allowed t op := operation? events t = some op
  rest _ ts s := s = stateAfter s₀ events ts
  going _ ts t w s := ∃ op, operation? events t = some op ∧
    w.run s = op.effect (stateAfter s₀ events ts)
  ended _ ts t r := ∃ op, operation? events t = some op ∧ r = resultAfter s₀ events ts op
  enter hs hop _ := ⟨_, hop, by rw [hs]; rfl⟩
  glance := by
    intro as ts t f s hs hop _
    refine ⟨?_, _, hop, by rw [hs]; rfl⟩
    rw [stateAfter_concat hop, hs]
    rfl
  act h := h
  done := by
    rintro as ts t outcome s ⟨op, hop, heffect⟩
    have hend : op.effect (stateAfter s₀ events ts) = (outcome, s) := heffect.symm
    refine ⟨?_, op, hop, ?_⟩
    · rw [stateAfter_concat hop, hend]
    · rw [resultAfter, hend]
  later := id

/-- Every run keeps the contract that its own arrivals make. -/
theorem keeps_sequential (s₀ : σ) (events : List (Event σ α)) :
    ∃ as, Keeps (sequential s₀ events) as ((init s₀).run events) := by
  refine (Keeps.init (c := sequential s₀ events) rfl).run ?_
  intro before t op after hevents habsent
  have hnew := (absent_run_iff s₀ before t).mp habsent
  have hop : operation? (before ++ [.arrive t op]) t = some op := by
    rw [operation?_concat, hnew]
    simp
  have := operation?_append hop after
  rwa [List.append_assoc, List.singleton_append, ← hevents] at this

/-! ### The order of admission -/

/-- Those admitted, and behind them those who wait. -/
def order (g : Gate σ α) : List Ticket :=
  g.admitted ++ g.queue

/-- The callers that come in an event. -/
def comes (g : Gate σ α) : Event σ α → List Ticket
  | .arrive t _ => match g.phase t with
    | .absent => [t]
    | _ => []
  | _ => []

/-- A caller that no longer waits is no longer in the queue, and the others stay in theirs. -/
theorem queue_setPhase {p : Phase σ α} {l : Lock} (hp : p.isQueued = false)
    (hline : l.line.filter (· ≠ t) = g.lock.line.filter (· ≠ t)) :
    ({ g.setPhase t p with lock := l } : Gate σ α).queue = g.queue.filter (· ≠ t) := by
  have hothers : ∀ u ∈ l.line, ((g.setPhase t p).phase u).isQueued
      = ((g.phase u).isQueued && decide (u ≠ t)) := by
    intro u _
    by_cases hu : u = t
    · subst hu
      simp [hp]
    · simp [phase_setPhase_of_ne g p hu, hu]
  change l.line.filter (fun u => ((g.setPhase t p).phase u).isQueued) = _
  rw [List.filter_congr hothers, ← List.filter_filter, hline, queue, List.filter_comm]

/-- A caller that did not wait is not missed in the queue. -/
theorem queue_filter_of_not_queued (h : (g.phase t).isQueued = false) :
    g.queue.filter (· ≠ t) = g.queue := by
  refine List.filter_eq_self.mpr fun u hu => ?_
  have hqueued := (List.mem_filter.mp hu).2
  have hne : u ≠ t := by
    rintro rfl
    rw [h] at hqueued
    exact absurd hqueued (by simp)
  simpa using hne

/-- Whoever enters was the first of those who wait. -/
theorem queue_enter (hg : g.Orderly) (hq : g.phase t = .queued op) (hh : g.lock.holder = some t) :
    g.queue = t :: (g.enter t op).queue := by
  have hline := Lock.line_release hh
  have hrest := hg.line_release hh
  have hfront : g.queue = t :: g.queue.filter (· ≠ t) := by
    have hbehind : g.queue.filter (· ≠ t)
        = g.lock.release.line.filter fun u => (g.phase u).isQueued := by
      rw [hrest, queue, List.filter_comm]
    rw [hbehind, queue, hline, List.filter_cons_of_pos (by simp [hq, Phase.isQueued])]
  rw [hfront]
  congr 1
  cases op with
  | work w => exact (queue_setPhase (g := g) (p := .running w) rfl rfl).symm
  | glance f =>
      refine (queue_setPhase (g := g) (p := .answered (.ok (f g.state))) rfl ?_).symm
      change g.lock.release.line.filter _ = _
      rw [hrest]
      simp [List.filter_filter]

/-- Whoever joins the line waits behind all others. -/
theorem queue_join (hg : g.Orderly) (h : g.phase t = .absent) (op : Operation σ α) :
    (g.join t op).queue = g.queue ++ [t] := by
  have hnot := hg.notMem_line_of_absent h
  have hothers : ∀ u ∈ g.lock.line,
      ((g.setPhase t (.queued op)).phase u).isQueued = (g.phase u).isQueued := by
    intro u hu
    have hne : u ≠ t := by
      rintro rfl
      exact hnot hu
    rw [phase_setPhase_of_ne g _ hne]
  change (g.lock.request t).line.filter (fun u => ((g.setPhase t (.queued op)).phase u).isQueued)
    = _
  rw [Lock.line_request hg.agrees.proper, List.filter_append, List.filter_congr hothers]
  simp [queue, Phase.isQueued]

/-- A look changes nothing about the order. -/
theorem order_poll (hg : g.Orderly) (t : Ticket) : (g.poll t).order = g.order := by
  rcases poll_cases g t with ⟨op, hq, hh, heq⟩ | ⟨r, hr, heq⟩ | heq <;> rw [heq]
  · have hadmitted : (g.enter t op).admitted = g.admitted ++ [t] := by cases op <;> rfl
    rw [order, hadmitted, order, queue_enter hg hq hh]
    simp
  · have hqueue : (g.setPhase t (.answered r)).queue = g.queue :=
      (queue_setPhase (g := g) (l := g.lock) rfl rfl).trans
        (queue_filter_of_not_queued (by rw [hr]; rfl))
    rw [order, hqueue, admitted_setPhase, order]

/-- The work behind the gate changes nothing about the order. -/
theorem order_work (hg : g.Orderly) : g.work.order = g.order := by
  have hsame : ∀ {t : Ticket} {w : Work σ α} {p : Phase σ α} {l : Lock},
      (g.phase t).work? = some w → p.isQueued = false →
      l.line.filter (· ≠ t) = g.lock.line.filter (· ≠ t) →
      ({ g.setPhase t p with lock := l } : Gate σ α).queue = g.queue := fun hw hp hl =>
    (queue_setPhase hp hl).trans (queue_filter_of_not_queued (Phase.isPending_of_work? hw).2.1)
  rcases work_cases g with ⟨t, change, rest, hb, heq⟩ | ⟨t, outcome, hb, heq⟩ | ⟨-, heq⟩ <;>
    rw [heq]
  · obtain ⟨-, hw⟩ := busy?_eq_some_iff.mp hb
    have hproceed : ((g.phase t).proceed (rest g.state)).work? = some (rest g.state) := by simp [hw]
    exact congrArg (g.admitted ++ ·)
      (hsame (l := g.lock) hw (Phase.isPending_of_work? hproceed).2.1 rfl)
  · obtain ⟨hh, hw⟩ := busy?_eq_some_iff.mp hb
    refine congrArg (g.admitted ++ ·) (hsame hw ?_ ?_)
    · rcases Phase.complete_of_work? hw outcome with hc | hc <;> rw [hc] <;> rfl
    · rw [hg.line_release hh]
      simp [List.filter_filter]

/-- **The order only grows at the end**, and loses only those who go away while they wait. -/
theorem order_step (hg : g.Orderly) (e : Event σ α) :
    (g.step e).order = (g.order ++ g.comes e).filter (· ∉ g.quits e) := by
  cases e with
  | arrive t op =>
      suffices h : (g.arrive t op).order = g.order ++ g.comes (.arrive t op) by
        simpa [quits, step] using h
      cases h : g.phase t with
      | absent =>
          rw [arrive_eq h, order_poll (hg.join h), order, queue_join hg h]
          simp [order, comes, h, join]
      | queued _ | running _ | orphaned _ | finished _ | answered _ | abandoned =>
          rw [arrive_of_phase_ne (by simp [h])]
          simp [comes, h]
  | poll t => simpa [quits, comes, step] using order_poll hg t
  | work => simpa [quits, comes, step] using order_work hg
  | drop t =>
      have hstay : ∀ {p : Phase σ α}, (g.phase t).isQueued = false → p.isQueued = false →
          (g.setPhase t p).order
            = (g.order ++ g.comes (.drop t)).filter (· ∉ g.quits (.drop t)) := by
        intro p ht hp
        have hqueue : (g.setPhase t p).queue = g.queue :=
          (queue_setPhase (g := g) (l := g.lock) hp rfl).trans (queue_filter_of_not_queued ht)
        rw [order, hqueue]
        simp [order, quits, comes, ht]
      change (g.drop t).order = _
      rcases drop_cases g t with ⟨op, hq, heq⟩ | ⟨w, hw, heq⟩ | ⟨r, hr, heq⟩ | ⟨hq, heq⟩ <;>
        rw [heq]
      · have hadmitted : g.admitted.filter (· ≠ t) = g.admitted := by
          refine List.filter_eq_self.mpr fun u hu => ?_
          have hne : u ≠ t := fun h => hg.notMem_admitted_of_queued hq (h ▸ hu)
          simpa using hne
        have hqueue :=
          queue_setPhase (g := g) (t := t) (p := .abandoned) (l := g.lock.withdraw t) rfl
            (by rw [Lock.line_withdraw hg.agrees.nodup_line]; simp [List.filter_filter])
        rw [order, hqueue]
        simp only [order, quits, comes, hq, Phase.isQueued, if_true, List.append_nil,
          List.mem_singleton, List.filter_append]
        exact congrArg (· ++ _) hadmitted.symm
      · exact hstay (by rw [hw]; rfl) rfl
      · exact hstay (by rw [hr]; rfl) rfl
      · simp [quits, comes, hq]

/-! ### Refinement -/

/-- Those who come in an event are the callers it adds. -/
theorem callers_concat (s₀ : σ) (events : List (Event σ α)) (e : Event σ α) :
    callers (events ++ [e]) = callers events ++ ((init s₀).run events).comes e := by
  rw [callers, arrivals_concat]
  cases e with
  | arrive t op =>
      have hiff := absent_run_iff s₀ events t
      cases h : ((init s₀).run events).phase t with
      | absent =>
          rw [h, operation?] at hiff
          simp [callers, meet, comes, h, hiff.mp rfl]
      | queued _ | running _ | orphaned _ | finished _ | answered _ | abandoned =>
          rw [h, operation?] at hiff
          have hcame : ((arrivals events).lookup t).isSome := by
            rw [Option.isSome_iff_ne_none]
            simpa using hiff
          simp [callers, meet, comes, h, hcame]
  | poll _ | work | drop _ => simp [callers, meet, comes]

/-- Only those go away while they wait who came. -/
theorem not_absent_of_mem_quitters (h : t ∈ quitters (init s₀) events) :
    ((init s₀).run events).phase t ≠ .absent := by
  induction events using List.reverseRecOn with
  | nil => simp [quitters] at h
  | append_singleton events e ih =>
      rw [run_concat, Ne, (follows_step _ e t).absent_iff]
      rintro ⟨habsent, -⟩
      rw [quitters_concat, List.mem_append] at h
      rcases h with h | h
      · exact ih h habsent
      · cases e with
        | drop u =>
            by_cases hu : (((init s₀).run events).phase u).isQueued
            · obtain rfl : t = u := by simpa [quits, hu] using h
              simp [habsent, Phase.isQueued] at hu
            · simp [quits, hu] at h
        | arrive _ _ | poll _ | work => simp [quits] at h

/-- **First come, first served**: those admitted and those who wait are, in this order, the callers
in the order in which they came, without those who went away while they waited. -/
theorem order_run (s₀ : σ) (events : List (Event σ α)) :
    ((init s₀).run events).order
      = (callers events).filter (· ∉ quitters (init s₀ : Gate σ α) events) := by
  induction events using List.reverseRecOn with
  | nil => rfl
  | append_singleton events e ih =>
      have hg : ((init s₀).run events).Orderly := (orderly_init s₀).run events
      have hnew : (((init s₀).run events).comes e).filter (· ∉ quitters (init s₀) events)
          = ((init s₀).run events).comes e := by
        refine List.filter_eq_self.mpr fun t ht => decide_eq_true fun hquit => ?_
        have hcame := not_absent_of_mem_quitters hquit
        cases e with
        | arrive u op => cases h : ((init s₀).run events).phase u <;> simp_all [comes]
        | poll _ | work | drop _ => simp [comes] at ht
      rw [run_concat, order_step hg, ih, callers_concat s₀, quitters_concat]
      conv_lhs => rw [← hnew, ← List.filter_append, List.filter_filter]
      exact List.filter_congr fun t _ => by simp [Bool.and_comm]

/-- With nobody in flight, everybody in line waits. -/
theorem queue_eq_line (hg : g.Orderly) (h : ∀ t, ¬ g.InFlight t) : g.queue = g.lock.line := by
  refine List.filter_eq_self.mpr fun t ht => ?_
  have hpending := (hg.agrees.mem_line t).mp ht
  have hidle := h t
  cases hp : g.phase t <;> simp_all [InFlight, Phase.work?, Phase.isPending, Phase.isQueued]

/-- When the work of a caller ends, the gate is let go. -/
theorem reopens_step (hg : g.Orderly) (e : Event σ α) (h : g.InFlight t)
    (hend : ¬ (g.step e).InFlight t) :
    (∀ u, ¬ (g.step e).InFlight u) ∧ (g.step e).lock.holder = (g.step e).queue.head? := by
  have hidle : ∀ u, ¬ (g.step e).InFlight u := by
    -- Work ends in no event but the worker's own.
    have hwork : e = .work := by
      have hf := follows_step g e t
      unfold InFlight at h hend
      generalize (g.step e).phase t = q at hf hend
      generalize g.phase t = p at hf h
      cases hf with
      | stays _ => exact absurd h hend
      | leaves _ _ hsame => exact absurd (hsame ▸ h) hend
      | proceeds _ _ | completes _ _ => rfl
      | waits _ | collects _ => simp [Phase.work?] at h
      | begins _ => simp [Phase.work?] at hend
      | glances hp _ => rcases hp with ⟨-, rfl⟩ | ⟨-, rfl⟩ <;> simp [Phase.work?] at h
    subst hwork
    intro u hu
    change g.work.InFlight u at hu
    change ¬ g.work.InFlight t at hend
    rcases work_cases g with ⟨v, change, rest, hb, heq⟩ | ⟨v, outcome, hb, heq⟩ | ⟨-, heq⟩ <;>
      rw [heq] at hu hend
    · obtain ⟨-, hw⟩ := busy?_eq_some_iff.mp hb
      obtain rfl := hg.eq_of_inFlight h (Option.isSome_of_mem hw)
      refine hend ?_
      change ((g.setPhase t _).phase t).work?.isSome
      simp [hw]
    · obtain ⟨-, hw⟩ := busy?_eq_some_iff.mp hb
      obtain ⟨rfl, hu⟩ | ⟨huv, hu⟩ := setPhase_cases (fun q => q.work?.isSome) hu
      · rcases Phase.complete_of_work? hw outcome with hc | hc <;> simp [hc, Phase.work?] at hu
      · exact huv (hg.eq_of_inFlight hu (Option.isSome_of_mem hw))
    · exact hend h
  have hafter := hg.step e
  refine ⟨hidle, ?_⟩
  rw [queue_eq_line hafter hidle]
  exact Lock.holder_eq_head? hafter.agrees.proper

theorem phase_of_answer? {r : Except Failure α} (h : g.answer? t = some r) :
    g.phase t = .answered r := by
  cases hp : g.phase t <;> simp_all [answer?]

/-- **A gate is a sequential machine.** Whatever callers and the worker do, a gate that was free
does the operations that pass it one after another. -/
theorem run_refines (s₀ : σ) (events : List (Event σ α)) :
    Refines s₀ events ((init s₀).run events) := by
  obtain ⟨as, hk⟩ := keeps_sequential s₀ events
  have hg := hk.orderly
  refine ⟨fun t u => hg.eq_of_inFlight, hg.nodup_admitted, order_run s₀ events, hk.rest, ?_, ?_, ?_,
    fun e t => reopens_step hg e⟩
  · intro t w hw
    obtain ⟨ts, hts, op, hop, heffect⟩ := hk.going t w hw
    exact ⟨ts, op, hts, hop, heffect⟩
  · intro t r hr
    obtain ⟨ts, us, hts, op, hop, hresult⟩ := hk.ended t r (.inr (phase_of_answer? hr))
    exact ⟨ts, us, op, hts, hop, hresult⟩
  · intro ts t us hts hidle hstay
    have hearly := hg.not_early t (by rw [hts]; simp)
    have hhere : ¬ (((init s₀).run events).phase t).isGone := fun h => hstay (isGone_run h)
    -- Of all phases only those with a result are left.
    obtain ⟨r, hr, hpoll⟩ : ∃ r, (((init s₀).run events).phase t = .finished r ∨
        ((init s₀).run events).phase t = .answered r) ∧
        (((init s₀).run events).poll t).answer? t = some r := by
      cases h : ((init s₀).run events).phase t with
      | finished r => exact ⟨r, .inl rfl, by simp [poll, h, answer?]⟩
      | answered r => exact ⟨r, .inr rfl, by simp [poll, h, answer?]⟩
      | absent | queued _ => simp [h, Phase.isEarly] at hearly
      | running _ => simp [InFlight, h, Phase.work?] at hidle
      | orphaned _ | abandoned => simp [h, Phase.isGone] at hhere
    obtain ⟨ts', us', hts', op, hop, rfl⟩ := hk.ended t r hr
    have hsplit := hts.symm.trans hts'
    have hnodup := hg.nodup_admitted
    rw [hts, List.nodup_middle, List.nodup_cons, List.mem_append, not_or] at hnodup
    obtain ⟨rfl, -, -⟩ :=
      (List.append_cons_inj_of_notMem hnodup.1.1 hnodup.1.2).mp hsplit
    exact ⟨op, hop, hpoll⟩

/-- The second of three callers goes away while it waits, and the work of the third breaks down: the
state is what the first and the third leave, and each of them is told how its own operation ended.
-/
theorem run_refines_quitter :
    let append (outcome : Nat → Outcome Nat) (k : Nat) : Operation Nat Nat :=
      .work (.task fun n => (outcome n, 10 * n + k))
    let events : List (Event Nat Nat) := [.arrive 1 (append .ok 1), .arrive 2 (append .ok 2),
      .arrive 3 (append (fun _ => .panicked) 3), .work, .drop 2, .work, .poll 3, .work, .work]
    let g := (init 0).run events
    Refines 0 events g ∧ (∀ t, ¬ g.InFlight t) ∧ g.admitted = [1, 3] ∧
      g.state = stateAfter 0 events [1, 3] ∧ stateAfter 0 events [1, 3] = 13 ∧
      (g.poll 1).answer? 1 = some (.ok 0) ∧
      (g.poll 3).answer? 3 = some (.error (.workerPanicked Outcome.panicDetail)) := by
  intro append events g
  have hrefines : Refines 0 events g := run_refines 0 events
  have hadmitted : g.admitted = [1, 3] := by decide +kernel
  have hlock : g.lock.holder = none := by decide +kernel
  have hidle : ∀ t, ¬ g.InFlight t := by
    intro t ht
    have hholder : g.lock.holder = some t := ((orderly_init 0).run events).holder_of_inFlight ht
    rw [hlock] at hholder
    cases hholder
  have hfirst : operation? events 1 = some (append .ok 1) := rfl
  have hthird : operation? events 3 = some (append (fun _ => .panicked) 3) := rfl
  obtain ⟨_, hop, htold⟩ := hrefines.told [] 1 [3] hadmitted (hidle 1) (by simp [events])
  obtain ⟨_, hop', htold'⟩ := hrefines.told [1] 3 [] hadmitted (hidle 3) (by simp [events])
  obtain rfl := Option.some.inj (hop.symm.trans hfirst)
  obtain rfl := Option.some.inj (hop'.symm.trans hthird)
  have hnobody : stateAfter 0 events [] = 0 := by decide +kernel
  have honce : stateAfter 0 events [1] = 1 := by decide +kernel
  rw [resultAfter, hnobody] at htold
  rw [resultAfter, honce] at htold'
  have hstate := hrefines.state hidle
  rw [hadmitted] at hstate
  exact ⟨hrefines, hidle, hadmitted, hstate, by decide +kernel, htold, htold'⟩

end Gate

end ScriptHost
