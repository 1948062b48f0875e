import Mathlib.Data.List.Nodup
import ScriptHost.Gate.Basic

/-!
# The line at a lock

A lock and its queue are one line of callers, the holder in front. Everything that happens to
a lock happens to an end of this line, or takes a caller out of it.

`Lock.Proper` is what makes the line a faithful picture: nobody waits for a lock that nobody
holds. All operations keep it, and under it the line determines the holder
(`Lock.holder_eq_head?`).

Whoever uses a lock keeps books of its own on its callers. `Lock.Agrees` says that the books are
right: they have those in line as pending, and nobody as served but the holder.
-/

namespace ScriptHost

namespace Lock

variable {l : Lock} {t u : Ticket}

/-- Everybody in line, the holder first. -/
def line (l : Lock) : List Ticket :=
  l.holder.toList ++ l.waiting

/-- Nobody waits for a lock that nobody holds. -/
def Proper (l : Lock) : Prop :=
  l.holder = none → l.waiting = []

@[simp] theorem line_free : free.line = [] := rfl

/-- Nobody waits for a free lock. -/
theorem proper_free : free.Proper := fun _ => rfl

/-- The holder is the head of the line. -/
theorem holder_eq_head? (hl : l.Proper) : l.holder = l.line.head? := by
  cases h : l.holder with
  | none => simp [line, h, hl h]
  | some t => simp [line, h]

/-! ### Asking -/

/-- A request is granted at once if the lock is free. -/
theorem proper_request (l : Lock) (t : Ticket) : (l.request t).Proper := by
  cases h : l.holder <;> simp [Proper, request, h]

/-- Whoever asks stands at the end of the line. -/
theorem line_request (hl : l.Proper) (t : Ticket) : (l.request t).line = l.line ++ [t] := by
  cases h : l.holder with
  | none => simp [line, request, h, hl h]
  | some u => simp [line, request, h]

/-- Asking for a lock does not take it away from its holder. -/
theorem holder_request_of_some (h : l.holder = some u) (t : Ticket) :
    (l.request t).holder = some u := by
  simp [request, h]

/-! ### Letting go -/

/-- A lock that is given up goes to the next in the line. -/
theorem proper_release (l : Lock) : l.release.Proper := by
  cases h : l.waiting <;> simp [Proper, release, h]

/-- When the holder lets go, the others move up. -/
theorem line_release (h : l.holder = some t) : l.line = t :: l.release.line := by
  cases hw : l.waiting <;> simp [line, release, h, hw]

/-- A caller that is not in front leaves the holder alone. -/
theorem holder_withdraw_of_ne (h : l.holder = some u) (hu : u ≠ t) :
    (l.withdraw t).holder = some u := by
  simp [withdraw, h, hu]

/-- So it does when its holder withdraws. -/
theorem proper_withdraw (hl : l.Proper) (t : Ticket) : (l.withdraw t).Proper := by
  unfold withdraw
  split
  · exact proper_release l
  · intro h
    simp [hl h]

/-- Whoever withdraws leaves the line, and the order of the others stays. -/
theorem line_withdraw (hn : l.line.Nodup) (t : Ticket) :
    (l.withdraw t).line = l.line.filter (· ≠ t) := by
  unfold withdraw
  split
  · rename_i h
    have hline := line_release h
    rw [hline, List.nodup_cons] at hn
    rw [hline, List.filter_cons_of_neg (by simp), List.filter_eq_self.mpr]
    intro u hu
    have hne : u ≠ t := fun e => hn.1 (e ▸ hu)
    simpa using hne
  · rename_i h
    cases hh : l.holder with
    | none => simp [line, hh]
    | some u =>
        have hu : u ≠ t := fun e => h (e ▸ hh)
        simp [line, hh, hu]

/-! ### Callers that do not matter -/

/-- A proper lock is nothing but its line. -/
theorem eq_of_line {m : Lock} (hl : l.Proper) (hm : m.Proper) (h : l.line = m.line) : l = m := by
  have hholder : l.holder = m.holder := by rw [holder_eq_head? hl, holder_eq_head? hm, h]
  have hwaiting : l.waiting = m.waiting := by
    rw [line, line, hholder] at h
    exact List.append_cancel_left h
  cases l
  exact congr (congrArg mk hholder) hwaiting

/-- When somebody withdraws, nobody comes to stand in the line twice. -/
theorem nodup_line_withdraw (hn : l.line.Nodup) (t : Ticket) : (l.withdraw t).line.Nodup :=
  line_withdraw hn t ▸ hn.filter _

/-- Whoever is not in line has nothing to give up. -/
theorem withdraw_of_notMem (hl : l.Proper) (hn : l.line.Nodup) (ht : t ∉ l.line) :
    l.withdraw t = l := by
  refine eq_of_line (proper_withdraw hl t) hl ?_
  rw [line_withdraw hn, List.filter_eq_self]
  intro u hu
  have hne : u ≠ t := fun e => ht (e ▸ hu)
  simpa using hne

/-- A place is given up once. -/
theorem withdraw_self (hl : l.Proper) (hn : l.line.Nodup) (t : Ticket) :
    (l.withdraw t).withdraw t = l.withdraw t :=
  withdraw_of_notMem (proper_withdraw hl t) (nodup_line_withdraw hn t) (by simp [line_withdraw hn])

/-- Two callers may give up their places in either order. -/
theorem withdraw_comm (hl : l.Proper) (hn : l.line.Nodup) (t u : Ticket) :
    (l.withdraw t).withdraw u = (l.withdraw u).withdraw t := by
  refine eq_of_line (proper_withdraw (proper_withdraw hl t) u)
    (proper_withdraw (proper_withdraw hl u) t) ?_
  rw [line_withdraw (nodup_line_withdraw hn t), line_withdraw (nodup_line_withdraw hn u),
    line_withdraw hn, line_withdraw hn, List.filter_filter, List.filter_filter]
  simp only [Bool.and_comm]

/-- Whoever asks and gives up its place has not been there. -/
theorem withdraw_request (hl : l.Proper) (hn : l.line.Nodup) (ht : t ∉ l.line) :
    (l.request t).withdraw t = l := by
  have hnodup : (l.request t).line.Nodup := by
    rw [line_request hl, ← List.concat_eq_append]
    exact hn.concat ht
  refine eq_of_line (proper_withdraw (proper_request l t) t) hl ?_
  rw [line_withdraw hnodup, line_request hl, List.filter_append, List.filter_eq_self.mpr]
  · simp
  · intro u hu
    have hne : u ≠ t := fun e => ht (e ▸ hu)
    simpa using hne

/-- Nobody stands behind a caller; it need not be in line itself. -/
def IsLast (l : Lock) (t : Ticket) : Prop :=
  ∃ ts, t ∉ ts ∧ (l.line = ts ∨ l.line = ts ++ [t])

/-- Whoever comes new is the last in the line. -/
theorem isLast_request (hl : l.Proper) (ht : t ∉ l.line) : (l.request t).IsLast t :=
  ⟨l.line, ht, .inr (line_request hl t)⟩

/-- The last stays the last when others leave. -/
theorem IsLast.withdraw (hlast : l.IsLast t) (hn : l.line.Nodup) (u : Ticket) :
    (l.withdraw u).IsLast t := by
  obtain ⟨ts, ht, hline⟩ := hlast
  refine ⟨ts.filter (· ≠ u), fun hmem => ht (List.mem_of_mem_filter hmem), ?_⟩
  rw [line_withdraw hn]
  rcases hline with h | h <;> rw [h]
  · exact .inl rfl
  · by_cases htu : t = u <;> simp [htu]

/-- Whoever is last and holds the lock is alone. -/
theorem IsLast.line_eq (hlast : l.IsLast t) (hheld : l.holder = some t) : l.line = [t] := by
  obtain ⟨ts, ht, hline⟩ := hlast
  have hfront : l.line = t :: l.waiting := by simp [line, hheld]
  rcases hline with h | h
  · exact absurd (h ▸ hfront ▸ List.mem_cons_self) ht
  · cases ts with
    | nil => exact h
    | cons u ts =>
        obtain rfl : t = u := (List.cons.inj (hfront.symm.trans h)).1
        exact absurd List.mem_cons_self ht

/-- Nobody gets the lock because the last in line gives up its place. -/
theorem IsLast.isHeldBy_withdraw (hlast : l.IsLast t) (hu : u ≠ t) :
    (l.withdraw t).isHeldBy u = l.isHeldBy u := by
  by_cases hheld : l.holder = some t
  · have hwaiting : l.waiting = [] := by simpa [line, hheld] using hlast.line_eq hheld
    simp [Lock.withdraw, hheld, release, hwaiting, isHeldBy, hu.symm]
  · simp [Lock.withdraw, hheld, isHeldBy]

/-! ### Books on the callers -/

/-- In line are those who are pending, and nobody is served but the holder. -/
structure Agrees (l : Lock) (pending served : Ticket → Prop) : Prop where
  proper : l.Proper
  nodup_line : l.line.Nodup
  mem_line : ∀ t, t ∈ l.line ↔ pending t
  holder_of_served : ∀ t, served t → l.holder = some t

namespace Agrees

variable {pending served pending' served' : Ticket → Prop}

/-- A free lock agrees with callers of which none waits or is served. -/
theorem free (hp : ∀ t, ¬ pending t) (hs : ∀ t, ¬ served t) : free.Agrees pending served :=
  ⟨proper_free, List.nodup_nil, fun t => by simp [hp t], fun t ht => absurd ht (hs t)⟩

/-- The lock is free if nobody is pending. -/
theorem eq_free (h : l.Agrees pending served) (hp : ∀ t, ¬ pending t) : l = Lock.free :=
  eq_of_line h.proper proper_free <| List.eq_nil_iff_forall_not_mem.mpr fun t ht =>
    hp t ((h.mem_line t).mp ht)

/-- At most one caller is served. -/
theorem eq_of_served (h : l.Agrees pending served) (ht : served t) (hu : served u) : t = u :=
  Option.some.inj ((h.holder_of_served t ht).symm.trans (h.holder_of_served u hu))

/-- The same callers are pending, and nobody new is served but the holder. -/
theorem imp (h : l.Agrees pending served) (hp : ∀ t, pending' t ↔ pending t)
    (hs : ∀ t, served' t → served t ∨ l.holder = some t) : l.Agrees pending' served' :=
  ⟨h.proper, h.nodup_line, fun t => (h.mem_line t).trans (hp t).symm,
    fun t ht => (hs t ht).elim (h.holder_of_served t) id⟩

/-- A caller that was not pending is. -/
theorem request (h : l.Agrees pending served) (ht : ¬ pending t)
    (hp : ∀ u, pending' u ↔ pending u ∨ u = t) (hs : ∀ u, served' u → served u) :
    (l.request t).Agrees pending' served' where
  proper := proper_request l t
  nodup_line := by
    rw [line_request h.proper, ← List.concat_eq_append]
    exact List.Nodup.concat (fun hmem => ht ((h.mem_line t).mp hmem)) h.nodup_line
  mem_line u := by
    rw [line_request h.proper, List.mem_append, List.mem_singleton, hp, h.mem_line]
  holder_of_served u hu := holder_request_of_some (h.holder_of_served u (hs u hu)) t

/-- A caller is no longer pending, and nobody else that is served loses its place. -/
theorem withdraw (h : l.Agrees pending served) (hp : ∀ u, pending' u ↔ pending u ∧ u ≠ t)
    (hs : ∀ u, served' u → served u ∧ u ≠ t) : (l.withdraw t).Agrees pending' served' where
  proper := proper_withdraw h.proper t
  nodup_line := line_withdraw h.nodup_line t ▸ h.nodup_line.filter _
  mem_line u := by
    rw [line_withdraw h.nodup_line, List.mem_filter, hp, h.mem_line]
    simp
  holder_of_served u hu :=
    holder_withdraw_of_ne (h.holder_of_served u (hs u hu).1) (hs u hu).2

/-- For the holder, to withdraw is to let go. -/
theorem release (h : l.Agrees pending served) (ht : l.holder = some t)
    (hp : ∀ u, pending' u ↔ pending u ∧ u ≠ t) (hs : ∀ u, served' u → served u ∧ u ≠ t) :
    l.release.Agrees pending' served' := by
  have hw := h.withdraw hp hs
  rwa [Lock.withdraw, if_pos ht] at hw

end Agrees

end Lock

end ScriptHost
