import ScriptHost.Proofs.Host.Rebuilds

/-!
# Rebuilds at the checkout

Which deeds of different rebuilds can get in each other's way. A rebuild does its deeds under the
lock as long as its caller stays; but a worker that has begun a leg finishes it also when its
caller has gone away, and then the lock is somebody else's. `Host.overlap_iff` says that this is the
only way: deeds of two rebuilds overlap exactly when one of them is such a late one.

## Main definitions

* `Overlap` — a deed of one rebuild lies between two of another.
* `Host.toils` — the deeds of a run, each with a mark if its caller had gone away.
-/

namespace ScriptHost

/-- A deed of one rebuild lies between two deeds of another. -/
def Overlap (owners : List Ticket) : Prop :=
  ∃ a b, a ≠ b ∧ [a, b, a].Sublist owners

namespace Host

variable {W : Type} {h : Host W} {t : Ticket}

/-- The deeds of a run. -/
def toils (h : Host W) : List Event → List Toil
  | [] => []
  | e :: events => h.toil e ++ (h.step e).toils events

/-- The deeds a host has noted are those of its events. -/
theorem deeds_run (h : Host W) (events : List Event) :
    (h.run events).deeds.map Prod.fst = h.deeds.map Prod.fst ++
      (h.toils events).map Toil.ticket := by
  induction events generalizing h with
  | nil => simp [run, toils]
  | cons e events ih =>
      change ((h.step e).run events).deeds.map Prod.fst = _
      rw [ih, (h.steps e).deeds, toils, List.map_append, List.append_assoc]

/-! ### Deeds done under the lock -/

/-- What is found at the end of a list, or before it. -/
theorem sublist_concat_cases {α : Type} (xs : List α) {ys : List α} {x y : α}
    (hsub : (xs ++ [x]).Sublist (ys ++ [y])) : (xs ++ [x]).Sublist ys ∨ xs.Sublist ys ∧ x = y := by
  rw [← List.reverse_sublist, List.reverse_append, List.reverse_append] at hsub
  rcases List.cons_sublist_cons'.mp hsub with h | ⟨rfl, h⟩
  · exact .inl (by simpa using h.reverse)
  · exact .inr ⟨by simpa using h.reverse, rfl⟩

/-- What is known of the deeds done so far: their rebuilds have begun; those before a deed that was
not late are over, unless they are that deed's own; so no such deed lies between two that are
not late. -/
structure Apart (done : List Toil) (h : Host W) : Prop where
  inLine : InLine h.phase h.rebuilding
  begun : ∀ x ∈ done, (h.phase x.ticket).IsBegun
  passed : ∀ a b late, a ≠ b → [⟨a, late⟩, ⟨b, false⟩].Sublist done → (h.phase a).isOver
  apart : ∀ a b late, a ≠ b → ¬ [⟨a, late⟩, ⟨b, false⟩, ⟨a, false⟩].Sublist done

/-- The deed of an event keeps the rebuilds apart. -/
theorem Apart.step {done : List Toil} (ha : Apart done h) (e : Event) :
    Apart (done ++ h.toil e) (h.step e) := by
  have hs := (h.steps e).rebuilds
  have hbegun : ∀ {t}, (h.phase t).IsBegun → ((h.step e).phase t).IsBegun := hs.isBegun
  have hover : ∀ {t}, (h.phase t).isOver → ((h.step e).phase t).isOver := hs.isOver
  have hline := hs.inLine ha.inLine
  rcases h.toil_cases e with htoil | ⟨t, late, htoil, hphase⟩ <;> rw [htoil]
  · rw [List.append_nil]
    exact ⟨hline, fun x hx => hbegun (ha.begun x hx),
      fun a b late hab hsub => hover (ha.passed a b late hab hsub), ha.apart⟩
  · have ht : (h.phase t).IsBegun :=
      hphase.imp And.right fun ho => Phase.isOver_of_isOrphaned ho.2
    refine ⟨hline, ?_, ?_, ?_⟩
    · intro x hx
      rcases List.mem_append.mp hx with hx | hx
      · exact hbegun (ha.begun x hx)
      · exact List.mem_singleton.mp hx ▸ hbegun ht
    · intro a b late' hab hsub
      rcases sublist_concat_cases [Toil.mk a late'] hsub with hsub | ⟨hbefore, heq⟩
      · exact hover (ha.passed a b late' hab hsub)
      · -- The new deed is not late, so its rebuild has the lock, and no other is carried on.
        obtain ⟨rfl, rfl⟩ := Toil.mk.inj heq
        obtain ⟨-, hcarried⟩ | ⟨hlate, -⟩ := hphase
        · rcases ha.begun ⟨a, late'⟩ (List.singleton_sublist.mp hbefore) with hc | ho
          · exact absurd (ha.inLine.eq_of_served hc hcarried) hab
          · exact hover ho
        · exact absurd hlate (by simp)
    · intro a b late' hab hsub
      rcases sublist_concat_cases [Toil.mk a late', Toil.mk b false] hsub with hsub | ⟨hbefore, heq⟩
      · exact ha.apart a b late' hab hsub
      · -- The rebuild of the new deed would be over, and is carried on.
        obtain ⟨rfl, rfl⟩ := Toil.mk.inj heq
        have ho := ha.passed a b late' hab hbefore
        obtain ⟨-, hcarried⟩ | ⟨hlate, -⟩ := hphase
        · simp [Phase.not_isCarried_of_isOver ho] at hcarried
        · exact absurd hlate (by simp)

theorem Apart.run {done : List Toil} (ha : Apart done h) (events : List Event) :
    Apart (done ++ h.toils events) (h.run events) := by
  induction events generalizing h done with
  | nil => simpa [toils, Host.run] using ha
  | cons e events ih =>
      have hlast := ih (ha.step e)
      rwa [List.append_assoc] at hlast

theorem apart_run (settings : Settings) (moduleConfig : Option Bytes) (platform : Platform W)
    (world : W) (events : List Event) :
    let h := init settings moduleConfig platform world
    Apart (h.toils events) (h.run events) := by
  have hbegun : Apart [] (init settings moduleConfig platform world) :=
    ⟨inLine_init .., by simp, by simp, by simp⟩
  exact hbegun.run events

/-- A late deed is done for a caller that went away. -/
theorem drop_mem_of_late (horphaned : (h.phase t).isOrphaned = false) {events : List Event}
    (ht : ⟨t, true⟩ ∈ h.toils events) : .drop t ∈ events := by
  induction events generalizing h with
  | nil => simp [toils] at ht
  | cons e events ih =>
      rcases List.mem_append.mp ht with hnow | hlater
      · rcases h.toil_cases e with htoil | ⟨u, late, htoil, hphase⟩
        · simp [htoil] at hnow
        · obtain ⟨rfl, rfl⟩ := Toil.mk.inj (List.mem_singleton.mp (htoil ▸ hnow))
          simp [horphaned] at hphase
      · by_cases hstill : ((h.step e).phase t).isOrphaned = false
        · exact List.mem_cons_of_mem _ (ih hstill hlater)
        · rcases (h.steps e).rebuilds.isOrphaned (by simpa using hstill) with hbefore | rfl
          · simp [horphaned] at hbefore
          · exact List.mem_cons_self

/-! ### Overlaps -/

/-- **Only a late deed overlaps.** Whatever callers and workers do, a deed of one rebuild lies
between two of another exactly when, of three such deeds, the one in the middle or the last is done
by a worker whose caller went away. -/
theorem overlap_iff (settings : Settings) (moduleConfig : Option Bytes) (platform : Platform W)
    (world : W) (events : List Event) :
    let h := init settings moduleConfig platform world
    Overlap ((h.run events).deeds.map Prod.fst) ↔
      ∃ (a b : Ticket) (late₁ late₂ late₃ : Bool), a ≠ b ∧
        [⟨a, late₁⟩, ⟨b, late₂⟩, ⟨a, late₃⟩].Sublist (h.toils events) ∧
        (late₂ ∧ .drop b ∈ events ∨ late₃ ∧ .drop a ∈ events) := by
  intro h
  have howners : (h.run events).deeds.map Prod.fst = (h.toils events).map Toil.ticket := by
    rw [deeds_run]
    rfl
  rw [howners]
  constructor
  · rintro ⟨a, b, hab, hsub⟩
    obtain ⟨toils, hsub, hmap⟩ := List.sublist_map_iff.mp hsub
    match toils, hmap with
    | [⟨a₁, late₁⟩, ⟨b₁, late₂⟩, ⟨a₂, late₃⟩], hmap =>
      obtain ⟨rfl, rfl, rfl⟩ : a = a₁ ∧ b = b₁ ∧ a = a₂ := by simpa using hmap
      refine ⟨a, b, late₁, late₂, late₃, hab, hsub, ?_⟩
      cases late₂ with
      | true => exact .inl ⟨rfl, drop_mem_of_late rfl (hsub.subset (by simp))⟩
      | false =>
          cases late₃ with
          | true => exact .inr ⟨rfl, drop_mem_of_late rfl (hsub.subset (by simp))⟩
          | false =>
              have hapart := apart_run settings moduleConfig platform world events
              exact absurd hsub (hapart.apart a b late₁ hab)
  · rintro ⟨a, b, late₁, late₂, late₃, hab, hsub, -⟩
    exact ⟨a, b, hab, hsub.map Toil.ticket⟩

/-- Deeds do overlap: the first caller goes away after one deed, and its worker does the next one
when the second rebuild has begun. -/
theorem overlap_of_late_worker :
    Overlap (((init {} none .calm ()).run
      [.arrive 1 .rebuild, .advance 1, .drop 1, .arrive 2 .rebuild, .advance 2,
        .advance 1]).deeds.map Prod.fst) :=
  ⟨1, 2, by decide, by decide⟩

end Host

end ScriptHost
