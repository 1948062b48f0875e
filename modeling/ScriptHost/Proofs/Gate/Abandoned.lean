import ScriptHost.Proofs.Gate.Departure
import ScriptHost.Proofs.Gate.Progress
import ScriptHost.Proofs.Gate.Sequential

/-!
# Abandoned callers

A caller that goes away is not noticed by anybody else (`Gate.drop_unnoticed`). What this means
depends on whether it was admitted:

* If it still waited, or had been granted the gate and did not know yet, the run is as good as any
  run in which it never came (`Gate.NeverCame`): operations pass in the same order, with the same
  results, and leave the same state.
* If it was admitted, the run is the one in which it stayed, event by event, and nobody
  else is admitted before its operation has ended.

Runs in which it never came are not the same event by event: while the gate is granted to a caller
that does not know, somebody who would be admitted waits. So what is compared are results, and the
state of a gate that is free; and every run leads to one (`Gate.exists_isFree`).

## Proof idea

The results and the state of a gate are those of the sequential machine (`Gate.keeps_sequential`),
and that knows nothing of events but the order of those admitted (`Gate.order_run`). It is the same
in both runs, with or without a caller that went away while it waited.
-/

namespace ScriptHost

namespace Gate

variable {σ α : Type} {g k : Gate σ α} {s₀ : σ} {t u : Ticket} {op : Operation σ α}
  {events others : List (Event σ α)}

/-! ### Results -/

/-- The result that there is for a caller, whether or not it knows. -/
def Phase.result? : Phase σ α → Option (Except Failure α)
  | .finished r | .answered r => some r
  | _ => none

theorem Phase.result?_eq_some_iff {p : Phase σ α} {r : Except Failure α} :
    p.result? = some r ↔ p = .finished r ∨ p = .answered r := by
  cases p <;> simp [result?]

/-- The result of a caller is that of its operation, done after those of the callers admitted before
it. -/
theorem result_run {r : Except Failure α}
    (hr : (((init s₀).run events).phase t).result? = some r) :
    ∃ ts us op, ((init s₀).run events).admitted = ts ++ t :: us ∧ operation? events t = some op ∧
      r = resultAfter s₀ events ts op := by
  obtain ⟨as, hk⟩ := keeps_sequential s₀ events
  obtain ⟨ts, us, hts, op, hop, hresult⟩ := hk.ended t r (Phase.result?_eq_some_iff.mp hr)
  exact ⟨ts, us, op, hts, hop, hresult⟩

/-- At a free gate there is a result for everybody who was admitted and did not go away. -/
theorem Orderly.exists_result (hg : g.Orderly) (hfree : g.isFree) (ht : t ∈ g.admitted)
    (hhere : ¬ (g.phase t).isGone) : ∃ r, (g.phase t).result? = some r := by
  have hearly := hg.not_early t ht
  have hidle := hg.not_isPending_of_isFree hfree t
  cases hp : g.phase t with
  | finished r | answered r => exact ⟨r, rfl⟩
  | absent => simp [hp, Phase.isEarly] at hearly
  | queued _ | running _ | orphaned _ => simp [hp, Phase.isPending] at hidle
  | abandoned => simp [hp, Phase.isGone] at hhere

/-- At a free gate nobody waits, so the order is that of those admitted. -/
theorem Orderly.order_of_isFree (hg : g.Orderly) (hfree : g.isFree) : g.order = g.admitted := by
  have hqueue : g.queue = [] := by
    refine List.filter_eq_nil_iff.mpr fun t ht => ?_
    exact absurd ((hg.agrees.mem_line t).mp ht) (hg.not_isPending_of_isFree hfree t)
  rw [order, hqueue, List.append_nil]

/-- A free gate has the state that the operations of those admitted leave one after another. -/
theorem state_run (hfree : ((init s₀).run events).isFree) :
    ((init s₀).run events).state = stateAfter s₀ events ((init s₀).run events).admitted := by
  obtain ⟨as, hk⟩ := keeps_sequential s₀ events
  refine hk.rest fun t ht => ?_
  obtain ⟨w, hw⟩ := Option.isSome_iff_exists.mp ht
  exact hk.orderly.not_isPending_of_isFree hfree t (Phase.isPending_of_work? hw).1

/-- Nobody has two places in the order. -/
theorem Orderly.nodup_order (hg : g.Orderly) : g.order.Nodup := by
  refine List.nodup_append.mpr ⟨hg.nodup_admitted, hg.agrees.nodup_line.filter _, ?_⟩
  rintro t ht _ hqueue rfl
  have hqueued := (List.mem_filter.mp hqueue).2
  have hearly := hg.not_early t ht
  cases hp : g.phase t <;> simp_all [Phase.isQueued, Phase.isEarly]

/-! ### Runs without a caller -/

/-- A run in which a caller never came. The others come in the order in which they came, for what
they came for, and those of them that go away while they wait do so here too. -/
structure NeverCame (s₀ : σ) (t : Ticket) (events others : List (Event σ α)) : Prop where
  arrivals : arrivals others = (arrivals events).filter (·.1 ≠ t)
  quitters : ∀ u, u ∈ quitters (init s₀) others ↔ u ∈ quitters (init s₀) events ∧ u ≠ t

/-- Nobody but one caller can tell two runs apart: all operations but its own pass in the same order
and have the same results, and where both gates are free they are done with the same callers and
leave the same state. -/
structure Alike (t : Ticket) (g k : Gate σ α) : Prop where
  order : g.order = k.order
  results : ∀ u, u ≠ t → ∀ r r', (g.phase u).result? = some r → (k.phase u).result? = some r' →
    r = r'
  state : g.isFree → k.isFree → g.state = k.state
  settled : g.isFree → k.isFree → ∀ u, u ≠ t → ¬ (g.phase u).isGone → ¬ (k.phase u).isGone →
    (g.phase u).result? = (k.phase u).result?

/-- What a caller came for does not depend on another one. -/
theorem lookup_filter_of_ne (came : List (Ticket × Operation σ α)) (hu : u ≠ t) :
    (came.filter (·.1 ≠ t)).lookup u = came.lookup u := by
  induction came with
  | nil => rfl
  | cons a came ih =>
      by_cases hat : a.1 = t
      · have hua : (u == a.1) = false := beq_false_of_ne (hat ▸ hu)
        rw [List.filter_cons_of_neg (by simpa using hat), ih, List.lookup_cons, hua]
      · rw [List.filter_cons_of_pos (by simpa using hat), List.lookup_cons, List.lookup_cons, ih]

namespace NeverCame

/-- The others come for the same. -/
theorem operation? (h : NeverCame s₀ t events others) (hu : u ≠ t) :
    Gate.operation? others u = Gate.operation? events u := by
  rw [Gate.operation?, h.arrivals, Gate.operation?, lookup_filter_of_ne _ hu]

/-- Everybody passes in the order in which it passed. -/
theorem order (h : NeverCame s₀ t events others) (ht : t ∈ Gate.quitters (init s₀) events) :
    ((init s₀).run events).order = ((init s₀).run others).order := by
  have hcallers : callers others = (callers events).filter (· ≠ t) := by
    rw [callers, callers, h.arrivals, List.filter_map]
    rfl
  rw [order_run, order_run, hcallers, List.filter_filter]
  refine List.filter_congr fun u _ => ?_
  by_cases hut : u = t
  · simp [hut, ht]
  · simp [h.quitters u, hut]

/-- The others leave the same state. -/
theorem stateAfter (h : NeverCame s₀ t events others) {ts : List Ticket} (hts : t ∉ ts) :
    Gate.stateAfter s₀ others ts = Gate.stateAfter s₀ events ts := by
  have hsame : ∀ u ∈ ts, Gate.operation? others u = Gate.operation? events u := fun u hu =>
    h.operation? fun hut => hts (hut ▸ hu)
  rw [Gate.stateAfter, Gate.stateAfter, List.filterMap_congr hsame]

/-- **A caller that went away while it waited might never have come.** -/
theorem alike (h : NeverCame s₀ t events others) (ht : t ∈ Gate.quitters (init s₀) events) :
    Alike t ((init s₀).run events) ((init s₀).run others) := by
  have hg : ((init s₀).run events).Orderly := (orderly_init s₀).run events
  have hk : ((init s₀).run others).Orderly := (orderly_init s₀).run others
  have horder := h.order ht
  have hnot : t ∉ ((init s₀).run events).order := by
    rw [order_run, List.mem_filter]
    simp [ht]
  have hresults : ∀ u, u ≠ t → ∀ r r', (((init s₀).run events).phase u).result? = some r →
      (((init s₀).run others).phase u).result? = some r' → r = r' := by
    intro u hut r r' hr hr'
    obtain ⟨ts, us, op, hts, hop, rfl⟩ := result_run hr
    obtain ⟨ts', us', op', hts', hop', rfl⟩ := result_run hr'
    have hsplit : ts ++ u :: (us ++ ((init s₀).run events).queue)
        = ts' ++ u :: (us' ++ ((init s₀).run others).queue) := by
      simpa [Gate.order, hts, hts'] using horder
    have hnodup := hk.nodup_order
    rw [Gate.order, hts', List.append_assoc, List.cons_append, List.nodup_middle, List.nodup_cons,
      List.mem_append, not_or] at hnodup
    obtain ⟨rfl, -, -⟩ := (List.append_cons_inj_of_notMem hnodup.1.1 hnodup.1.2).mp hsplit.symm
    obtain rfl : op = op' := Option.some.inj (hop.symm.trans ((h.operation? hut).symm.trans hop'))
    have hbefore : t ∉ ts' := fun hmem => hnot (by simp [Gate.order, hts, hmem])
    rw [resultAfter, resultAfter, h.stateAfter hbefore]
  refine ⟨horder, hresults, fun hfree hfree' => ?_, fun hfree hfree' u hut hhere hhere' => ?_⟩
  · have hadmitted := hg.order_of_isFree hfree
    have hadmitted' := hk.order_of_isFree hfree'
    rw [state_run hfree, state_run hfree', ← hadmitted', ← horder, ← hadmitted, h.stateAfter hnot]
  · by_cases hu : u ∈ ((init s₀).run events).order
    · -- Both runs are done with this caller, and its results are the same.
      obtain ⟨r, hr⟩ := hg.exists_result hfree (hg.order_of_isFree hfree ▸ hu) hhere
      obtain ⟨r', hr'⟩ := hk.exists_result hfree'
        (hk.order_of_isFree hfree' ▸ horder ▸ hu) hhere'
      rw [hr, hr', hresults u hut r r' hr hr']
    · -- It never passed the gate.
      have hnone : ∀ {es : List (Event σ α)}, u ∉ ((init s₀).run es).order →
          (((init s₀).run es).phase u).result? = none := by
        intro es hes
        refine Option.eq_none_iff_forall_ne_some.mpr fun r hr => hes ?_
        obtain ⟨ts, us, op, hts, -, -⟩ := result_run hr
        simp [Gate.order, hts]
      rw [hnone hu, hnone (horder ▸ hu)]

end NeverCame

/-! ### Leaving out a caller -/

theorem quitters_append (g : Gate σ α) (before after : List (Event σ α)) :
    g.quitters (before ++ after) = g.quitters before ++ (g.run before).quitters after := by
  induction before generalizing g with
  | nil => rfl
  | cons e before ih =>
      rw [List.cons_append, quitters, quitters, ih, List.append_assoc]
      rfl

/-- Only those give up a place that go away. -/
theorem drop_mem_of_mem_quitters (h : t ∈ g.quitters events) : .drop t ∈ events := by
  induction events generalizing g with
  | nil => simp [quitters] at h
  | cons e events ih =>
      rw [quitters, List.mem_append] at h
      rcases h with h | h
      · cases e with
        | drop u =>
            by_cases hu : (g.phase u).isQueued
            · obtain rfl : t = u := by simpa [quits, hu] using h
              exact List.mem_cons_self
            · simp [quits, hu] at h
        | arrive _ _ | poll _ | work => simp [quits] at h
      · exact List.mem_cons_of_mem _ (ih h)

/-- Without the events of a caller, the others are those who come. -/
theorem arrivals_filter (events : List (Event σ α)) (t : Ticket) :
    arrivals (events.filter (·.ticket? ≠ some t)) = (arrivals events).filter (·.1 ≠ t) := by
  induction events using List.reverseRecOn with
  | nil => rfl
  | append_singleton events e ih =>
      rw [List.filter_append, arrivals_concat]
      by_cases he : e.ticket? = some t
      · rw [List.filter_cons_of_neg (by simpa using he), List.filter_nil, List.append_nil, ih]
        cases e with
        | arrive u op =>
            obtain rfl : u = t := Option.some.inj he
            by_cases hcame : ((arrivals events).lookup u).isSome <;> simp [meet, hcame]
        | poll _ | drop _ => rfl
        | work => cases he
      · rw [List.filter_cons_of_pos (by simpa using he), List.filter_nil, arrivals_concat, ih]
        cases e with
        | arrive u op =>
            have hut : u ≠ t := fun heq => he (congrArg some heq)
            simp only [meet, lookup_filter_of_ne _ hut]
            split
            · rfl
            · simp [hut]
        | poll _ | drop _ | work => rfl

/-- If nobody else goes away, a run without the events of a caller is one in which it never came. -/
theorem neverCame_filter (h : ∀ u, .drop u ∈ events → u = t) :
    NeverCame s₀ t events (events.filter (·.ticket? ≠ some t)) where
  arrivals := arrivals_filter events t
  quitters u := by
    constructor
    · intro hu
      have hdrop := List.mem_filter.mp (drop_mem_of_mem_quitters hu)
      obtain rfl := h u hdrop.1
      simp [Event.ticket?] at hdrop
    · rintro ⟨hu, hut⟩
      exact absurd (h u (drop_mem_of_mem_quitters hu)) hut

/-! ### Going away -/

/-- **What becomes of the others** when a caller goes away between some events and others. -/
structure Unnoticed (s₀ : σ) (before : List (Event σ α)) (t : Ticket) (after : List (Event σ α)) :
    Prop where
  /-- A caller that was not admitted might never have come. -/
  waiting : (((init s₀).run before).phase t).isQueued → ∀ others,
    NeverCame s₀ t (before ++ .drop t :: after) others →
    Alike t ((init s₀).run (before ++ .drop t :: after)) ((init s₀).run others)
  /-- If nobody else goes away, leaving out its events makes a run in which it never came. -/
  alone : (∀ u, .drop u ∈ before ++ after → u = t) →
    NeverCame s₀ t (before ++ .drop t :: after)
      ((before ++ .drop t :: after).filter (·.ticket? ≠ some t))
  /-- A caller that was admitted might as well have stayed. -/
  begun : t ∈ ((init s₀).run before).admitted →
    SameBut t ((init s₀).run (before ++ .drop t :: after)) ((init s₀).run (before ++ after))
  /-- Until the operation of a caller that was admitted has ended, no other one starts. -/
  excluded : t ∈ ((init s₀).run before).admitted → ∀ soon,
    ((init s₀).run (before ++ .drop t :: soon)).InFlight t →
    ((init s₀).run (before ++ .drop t :: soon)).admitted = ((init s₀).run before).admitted
  /-- The gate goes on: with callers that look and a worker that works it is free in the end. -/
  ends : ∃ more : List (Event σ α), (∀ e ∈ more, e.isCalm) ∧
    ((init s₀).run (before ++ .drop t :: (after ++ more))).isFree

/-- **Nobody notices a caller that goes away**, at whatever point it does. -/
theorem drop_unnoticed (s₀ : σ) (before : List (Event σ α)) (t : Ticket)
    (after : List (Event σ α)) : Unnoticed s₀ before t after := by
  have hg : ((init s₀).run before).Orderly := (orderly_init s₀).run before
  have hrun : ∀ later, (init s₀).run (before ++ later) = ((init s₀).run before).run later :=
    fun _ => List.foldl_append
  refine ⟨fun hqueued others hnever => ?_, fun hothers => ?_, fun hadmitted => ?_,
    fun hadmitted soon hflight => ?_, ?_⟩
  · refine hnever.alike ?_
    rw [quitters_append, quitters, List.mem_append, List.mem_append]
    exact .inr (.inl (by simp [quits, hqueued]))
  · refine neverCame_filter fun u hu => ?_
    rw [List.mem_append, List.mem_cons] at hu
    rcases hu with hu | hu | hu
    · exact hothers u (List.mem_append_left _ hu)
    · exact Event.drop.inj hu
    · exact hothers u (List.mem_append_right _ hu)
  · rw [hrun, hrun]
    exact (SameBut.drop_self (hg.not_early t hadmitted)).run after
  · rw [hrun] at hflight ⊢
    have hdrop : (((init s₀).run before).step (.drop t)).admitted =
        ((init s₀).run before).admitted :=
      (SameBut.drop_self (hg.not_early t hadmitted)).admitted
    exact (admitted_run_of_inFlight (hg.drop t) (hdrop ▸ hadmitted) hflight).trans hdrop
  · obtain ⟨more, hcalm, hfree⟩ :=
      exists_isFree ((orderly_init s₀).run (before ++ .drop t :: after))
    refine ⟨more, hcalm, ?_⟩
    rwa [← List.cons_append, ← List.append_assoc, run, List.foldl_append]

/-- A caller that was granted the gate and goes away before it knows might never have come; one that
goes away while it is worked for might have stayed. The others pass after either of them. -/
theorem drop_unnoticed_granted :
    let append (k : Nat) : Operation Nat Nat := .work (.task fun n => (.ok n, 10 * n + k))
    let came : List (Event Nat Nat) := [.arrive 1 (append 1), .arrive 2 (append 2)]
    let before := came ++ [.work, .work]
    let after : List (Event Nat Nat) := [.arrive 3 (append 3), .work, .work]
    let events := before ++ .drop 2 :: after
    let others := events.filter (·.ticket? ≠ some 2)
    (((init 0).run before).phase 2).isQueued ∧ ((init 0).run before).lock.holder = some 2 ∧
      NeverCame 0 2 events others ∧ Alike 2 ((init 0).run events) ((init 0).run others) ∧
      ((init 0).run events).state = 13 ∧ ((init 0).run events).admitted = [1, 3] ∧
      1 ∈ ((init 0).run came).admitted ∧
      SameBut 1 ((init 0).run (came ++ .drop 1 :: [.work, .work, .poll 2]))
        ((init 0).run (came ++ [.work, .work, .poll 2])) := by
  intro append came before after events others
  have hgranted := drop_unnoticed 0 before 2 after
  have hbegun := drop_unnoticed 0 came 1 [.work, .work, .poll 2]
  have hnever : NeverCame 0 2 events others :=
    hgranted.alone fun u hu => by simp [before, came, after] at hu
  have hadmitted : 1 ∈ ((init 0).run came).admitted := List.mem_singleton_self 1
  exact ⟨rfl, rfl, hnever, hgranted.waiting rfl others hnever, rfl, rfl, hadmitted,
    hbegun.begun hadmitted⟩

end Gate

end ScriptHost
