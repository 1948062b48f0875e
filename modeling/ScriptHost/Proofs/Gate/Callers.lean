import Mathlib.Data.List.Induction
import ScriptHost.Proofs.Gate.Order

/-!
# The callers of a gate

What can become of a single caller: the ways in which an event changes its phase
(`Gate.Phase.Follows`), and what a run has to do with the events of its own. A caller is told
apart by its ticket, so only its first arrival counts (`Gate.arrivals`).
-/

namespace ScriptHost

namespace Gate

variable {σ α : Type} {g : Gate σ α} {s₀ : σ} {t u : Ticket} {op : Operation σ α}

/-! ### In an event -/

/-- The caller of an event; none for the worker. -/
def Event.ticket? : Event σ α → Option Ticket
  | .arrive t _ | .poll t | .drop t => some t
  | .work => none

/-- The caller went away, with or without a worker that has its work. -/
def Phase.isGone : Phase σ α → Bool
  | .orphaned _ | .abandoned => true
  | _ => false

/-- What an event can do to the phase of a caller. -/
inductive Phase.Follows (t : Ticket) : Event σ α → Phase σ α → Phase σ α → Prop where
  | stays {e : Event σ α} {p : Phase σ α} (h : p = .absent → ∀ op, e ≠ .arrive t op) :
      Follows t e p p
  | waits (op : Operation σ α) : Follows t (.arrive t op) .absent (.queued op)
  | begins {e : Event σ α} {p : Phase σ α} {w : Work σ α}
      (h : e = .arrive t (.work w) ∧ p = .absent ∨ e = .poll t ∧ p = .queued (.work w)) :
      Follows t e p (.running w)
  | glances {e : Event σ α} {p : Phase σ α} {f : σ → α}
      (h : e = .arrive t (.glance f) ∧ p = .absent ∨ e = .poll t ∧ p = .queued (.glance f))
      (s : σ) :
      Follows t e p (.answered (.ok (f s)))
  | collects (r : Except Failure α) : Follows t (.poll t) (.finished r) (.answered r)
  | proceeds {p : Phase σ α} {w : Work σ α} (h : p.work? = some w) (left : Work σ α) :
      Follows t .work p (p.proceed left)
  | completes {p : Phase σ α} {w : Work σ α} (h : p.work? = some w) (outcome : Outcome α) :
      Follows t .work p (p.complete outcome)
  | leaves {p q : Phase σ α} (hp : p ≠ .absent) (hgone : q.isGone) (hwork : q.work? = p.work?) :
      Follows t (.drop t) p q

/-- Events change the phases of callers in these ways only. -/
theorem follows_step (g : Gate σ α) (e : Event σ α) (u : Ticket) :
    Phase.Follows u e (g.phase u) ((g.step e).phase u) := by
  have hself : ∀ {v : Ticket} {p : Phase σ α}, Phase.Follows v e (g.phase v) p →
      (u ≠ v → ∀ op, e ≠ .arrive u op) →
        Phase.Follows u e (g.phase u) ((g.setPhase v p).phase u) := by
    intro v p hp hother
    by_cases hu : u = v
    · subst hu
      rwa [phase_setPhase_self]
    · rw [phase_setPhase_of_ne g p hu]
      exact .stays fun _ => hother hu
  cases e with
  | arrive v op =>
      have hother : u ≠ v → ∀ op', Event.arrive v op ≠ .arrive u op' := by
        rintro hu op' h
        exact hu (Event.arrive.inj h).1.symm
      change Phase.Follows u _ _ ((g.arrive v op).phase u)
      by_cases hv : g.phase v = .absent
      · unfold arrive
        rw [hv]
        dsimp only
        split
        · cases op with
          | work w => exact hself (.begins (.inl ⟨rfl, hv⟩)) hother
          | glance f => exact hself (.glances (.inl ⟨rfl, hv⟩) g.state) hother
        · exact hself (hv ▸ .waits op) hother
      · rw [arrive_of_phase_ne hv]
        refine .stays fun h op' => ?_
        exact hother (fun hu => hv (hu ▸ h)) op'
  | poll v =>
      change Phase.Follows u _ _ ((g.poll v).phase u)
      rcases poll_cases g v with ⟨op, hq, -, heq⟩ | ⟨r, hr, heq⟩ | heq <;> rw [heq]
      · cases op with
        | work w => exact hself (.begins (.inr ⟨rfl, hq⟩)) (by simp)
        | glance f => exact hself (.glances (.inr ⟨rfl, hq⟩) g.state) (by simp)
      · exact hself (hr ▸ .collects r) (by simp)
      · exact .stays (by simp)
  | work =>
      change Phase.Follows u _ _ (g.work.phase u)
      rcases work_cases g with ⟨v, change, rest, hb, heq⟩ | ⟨v, outcome, hb, heq⟩ | ⟨-, heq⟩ <;>
        rw [heq]
      · exact hself (.proceeds (busy?_eq_some_iff.mp hb).2 (rest g.state)) (by simp)
      · exact hself (.completes (busy?_eq_some_iff.mp hb).2 outcome) (by simp)
      · exact .stays (by simp)
  | drop v =>
      change Phase.Follows u _ _ ((g.drop v).phase u)
      rcases drop_cases g v with ⟨op, hq, heq⟩ | ⟨w, hw, heq⟩ | ⟨r, hr, heq⟩ | ⟨-, heq⟩ <;> rw [heq]
      · exact hself (.leaves (by simp [hq]) rfl (by rw [hq]; rfl)) (by simp)
      · exact hself (.leaves (by simp [hw]) rfl (by rw [hw]; rfl)) (by simp)
      · exact hself (.leaves (by simp [hr]) rfl (by rw [hr]; rfl)) (by simp)
      · exact .stays (by simp)

/-- Whoever arrived is not absent, and nobody becomes absent again. -/
theorem Phase.Follows.absent_iff {e : Event σ α} {p q : Phase σ α} (h : Follows t e p q) :
    q = .absent ↔ p = .absent ∧ ∀ op, e ≠ .arrive t op := by
  cases h with
  | stays h => exact ⟨fun hp => ⟨hp, h hp⟩, And.left⟩
  | waits op => simp
  | begins h => rcases h with ⟨rfl, rfl⟩ | ⟨rfl, rfl⟩ <;> simp
  | glances h s => rcases h with ⟨rfl, rfl⟩ | ⟨rfl, rfl⟩ <;> simp
  | collects r => simp
  | proceeds h left => cases p <;> simp_all [work?, proceed]
  | completes h outcome => cases p <;> simp_all [work?, complete]
  | leaves hp hgone _ =>
      have hq : q ≠ .absent := by
        rintro rfl
        simp [isGone] at hgone
      simp [hp, hq]

/-- Only those are gone who went away. -/
theorem Phase.Follows.isGone {e : Event σ α} {p q : Phase σ α} (h : Follows t e p q)
    (hq : q.isGone) : p.isGone ∨ e = .drop t := by
  cases h with
  | stays _ => exact .inl hq
  | waits _ | begins _ | glances _ _ | collects _ => simp [Phase.isGone] at hq
  | proceeds hw left => cases p <;> simp_all [work?, proceed, Phase.isGone]
  | completes hw outcome => cases p <;> simp_all [work?, complete, Phase.isGone]
  | leaves _ _ _ => exact .inr rfl

/-! ### Arrivals -/

/-- Notes a caller that comes for the first time. -/
def meet (came : List (Ticket × Operation σ α)) : Event σ α → List (Ticket × Operation σ α)
  | .arrive t op => if (came.lookup t).isSome then came else came ++ [(t, op)]
  | _ => came

/-- Those who came and what they came for, in the order in which they first asked. -/
def arrivals (events : List (Event σ α)) : List (Ticket × Operation σ α) :=
  events.foldl meet []

/-- Those who came, in the order in which they first asked. -/
def callers (events : List (Event σ α)) : List Ticket :=
  (arrivals events).map Prod.fst

/-- What a caller came for. -/
def operation? (events : List (Event σ α)) (t : Ticket) : Option (Operation σ α) :=
  (arrivals events).lookup t

theorem arrivals_concat (events : List (Event σ α)) (e : Event σ α) :
    arrivals (events ++ [e]) = meet (arrivals events) e :=
  List.foldl_append

/-- The first arrival of a caller decides what it came for. -/
theorem operation?_concat (events : List (Event σ α)) (e : Event σ α) (t : Ticket) :
    operation? (events ++ [e]) t = (operation? events t).or
      (match e with | .arrive u op => if u = t then some op else none | _ => none) := by
  rw [operation?, arrivals_concat]
  cases e with
  | arrive u op =>
      by_cases hu : ((arrivals events).lookup u).isSome
      · by_cases hut : u = t
        · subst hut
          obtain ⟨op', hop'⟩ := Option.isSome_iff_exists.mp hu
          simp [meet, operation?, hop']
        · simp [meet, operation?, hu, hut]
      · rw [meet, if_neg hu, List.lookup_append]
        by_cases hut : u = t
        · simp [hut, operation?]
        · have htu : (t == u) = false := beq_false_of_ne (Ne.symm hut)
          simp [hut, operation?, List.lookup_cons, htu]
  | poll _ | work | drop _ => simp [meet, operation?]

/-- Whatever a caller came for, it has come. -/
theorem arrive_mem_of_operation? {events : List (Event σ α)} (h : operation? events t = some op) :
    .arrive t op ∈ events := by
  induction events using List.reverseRecOn with
  | nil => simp [operation?, arrivals] at h
  | append_singleton events e ih =>
      rw [operation?_concat, Option.or_eq_some_iff] at h
      rcases h with h | ⟨-, h⟩
      · exact List.mem_append_left _ (ih h)
      · cases e with
        | arrive u op' =>
            simp only [Option.ite_none_right_eq_some, Option.some.injEq] at h
            obtain ⟨rfl, rfl⟩ := h
            simp
        | poll _ | work | drop _ => simp at h

/-- Later events do not change what a caller came for. -/
theorem operation?_append {events : List (Event σ α)} (h : operation? events t = some op)
    (later : List (Event σ α)) : operation? (events ++ later) t = some op := by
  induction later using List.reverseRecOn with
  | nil => simpa using h
  | append_singleton later e ih => rw [← List.append_assoc, operation?_concat, ih]; rfl

/-! ### In a run -/

theorem run_concat (g : Gate σ α) (events : List (Event σ α)) (e : Event σ α) :
    g.run (events ++ [e]) = (g.run events).step e :=
  List.foldl_append

/-- A caller is absent as long as it has not come. -/
theorem absent_run_iff (s₀ : σ) (events : List (Event σ α)) (t : Ticket) :
    ((init s₀).run events).phase t = .absent ↔ operation? events t = none := by
  induction events using List.reverseRecOn with
  | nil => simp [run, init, operation?, arrivals]
  | append_singleton events e ih =>
      rw [run_concat, (follows_step _ e t).absent_iff, ih, operation?_concat, Option.or_eq_none_iff]
      refine and_congr_right fun _ => ?_
      cases e with
      | arrive u op => by_cases hu : u = t <;> simp [hu]
      | poll _ | work | drop _ => simp

/-- Only those are gone who went away. -/
theorem isGone_run {events : List (Event σ α)}
    (h : (((init s₀).run events).phase t).isGone) : .drop t ∈ events := by
  induction events using List.reverseRecOn with
  | nil => simp [run, init, Phase.isGone] at h
  | append_singleton events e ih =>
      rw [run_concat] at h
      rcases (follows_step _ e t).isGone h with hbefore | rfl
      · exact List.mem_append_left _ (ih hbefore)
      · simp

end Gate

end ScriptHost
