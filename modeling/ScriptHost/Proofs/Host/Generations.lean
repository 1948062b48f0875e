import ScriptHost.Proofs.Host.Contracts

/-!
# Generations of the module

Every rebuild that is admitted to the gate installs a module, and this one stays until the next
rebuild is admitted. `Generation` says which module that is after some callers were admitted, and
`Served` that all of them but the rebuilds had to do with it alone. This is a contract of the
gate (`Host.swap`), as long as no load fails.

What a caller did is read off the acts of the worker behind the gate: `madeBy` collects what the
acts that were done for it made of the trace.
-/

namespace ScriptHost

variable {W : Type}

/-! ### What was done for whom -/

/-- What an act made of the trace. -/
def madeIn (a : Gate.Act (Native W)) : List Event :=
  a.after.trace.drop a.before.trace.length

/-- What the acts done for a caller made of the trace. -/
def madeBy (as : List (Gate.Act (Native W))) (t : Ticket) : List Event :=
  (as.filter (·.ticket = t)).flatMap madeIn

/-- Of two lists of acts a caller has made the events of the one and then of the other. -/
theorem madeBy_append (as bs : List (Gate.Act (Native W))) (t : Ticket) :
    madeBy (as ++ bs) t = madeBy as t ++ madeBy bs t := by
  simp [madeBy]

/-- An act that only adds to the trace adds what it made. -/
theorem trace_append_madeIn (a : Gate.Act (Native W)) (h : a.before.trace <+: a.after.trace) :
    a.before.trace ++ madeIn a = a.after.trace := by
  obtain ⟨more, hmore⟩ := h
  simp [madeIn, ← hmore]

/-- The loader was asked for a module and failed or panicked. -/
def Event.failsToLoad : Event → Bool
  | .load _ handle => handle.isNone
  | _ => false

/-- No load failed. -/
def Flawless (as : List (Gate.Act (Native W))) : Prop :=
  ∀ a ∈ as, ∀ e ∈ madeIn a, e.failsToLoad = false

instance (as : List (Gate.Act (Native W))) : Decidable (Flawless as) :=
  inferInstanceAs (Decidable (∀ a ∈ as, ∀ e ∈ madeIn a, e.failsToLoad = false))

section

variable {as : List (Gate.Act (Native W))} {a : Gate.Act (Native W)} {t : Ticket}

/-- The caller of one act more has made the events of it as well. -/
theorem madeBy_concat_self (as : List (Gate.Act (Native W))) (a : Gate.Act (Native W)) :
    madeBy (as ++ [a]) a.ticket = madeBy as a.ticket ++ madeIn a := by
  simp [madeBy, List.filter_append]

/-- Nobody else has made any more. -/
theorem madeBy_concat_of_ne (as : List (Gate.Act (Native W))) (h : a.ticket ≠ t) :
    madeBy (as ++ [a]) t = madeBy as t := by
  simp [madeBy, List.filter_append, h]

/-- Nothing was done for whom no act was done. -/
theorem madeBy_eq_nil (h : ∀ a ∈ as, a.ticket ≠ t) : madeBy as t = [] := by
  have hnone : as.filter (·.ticket = t) = [] := by simpa [List.filter_eq_nil_iff] using h
  rw [madeBy, hnone]
  rfl

/-- A run in which no load failed is one in which none had failed before. -/
theorem Flawless.of_concat (h : Flawless (as ++ [a])) : Flawless as :=
  fun b hb => h b (List.mem_append_left _ hb)

/-- No load failed that was done for somebody. -/
theorem Flawless.of_mem_madeBy (h : Flawless as) {e : Event} (he : e ∈ madeBy as t) :
    e.failsToLoad = false := by
  obtain ⟨a, ha, hea⟩ := List.mem_flatMap.mp he
  exact h a (List.mem_of_mem_filter ha) e hea

end

/-! ### Generations -/

section

variable {rebuilds : Ticket → Prop} {first : Handle} {as as' : List (Gate.Act (Native W))}
  {ts : List Ticket} {t : Ticket} {handle : Handle}

/-- The module after some callers were admitted: the one that the last rebuild among them loaded
in the end, or the first one if there is none. -/
inductive Generation (rebuilds : Ticket → Prop) (first : Handle)
    (as : List (Gate.Act (Native W))) : List Ticket → Handle → Prop where
  | initial {ts : List Ticket} (hts : ∀ t ∈ ts, ¬ rebuilds t) :
      Generation rebuilds first as ts first
  | swapped {ts us : List Ticket} {r : Ticket} {before : List Event} {path : Path} {handle : Handle}
      (hr : rebuilds r) (hmade : madeBy as r = before ++ [.load path (some handle)])
      (hus : ∀ u ∈ us, ¬ rebuilds u) : Generation rebuilds first as (ts ++ r :: us) handle

/-- There is only one such module. -/
theorem Generation.unique {handle' : Handle} (h : Generation rebuilds first as ts handle)
    (h' : Generation rebuilds first as ts handle') : handle = handle' := by
  -- Of two rebuilds that are both the last one, none comes after the other.
  have hlast : ∀ {vs us us' : List Ticket} {r r' : Ticket}, rebuilds r' → (∀ u ∈ us, ¬ rebuilds u) →
      r :: us = vs ++ r' :: us' → r = r' := by
    intro vs us us' r r' hr' hus heq
    cases vs with
    | nil => exact (List.cons.inj heq).1
    | cons v vs => exact absurd hr' (hus r' (by simp [(List.cons.inj heq).2]))
  cases h with
  | initial hts =>
      cases h' with
      | initial _ => rfl
      | @swapped _ _ r _ _ _ hr _ _ => exact absurd hr (hts r (by simp))
  | @swapped vs us r _ _ _ hr hmade hus =>
      generalize hall : vs ++ r :: us = all at h'
      cases h' with
      | initial hts => exact absurd hr (hts r (by simp [← hall]))
      | @swapped vs' us' r' _ _ _ hr' hmade' hus' =>
          obtain rfl : r = r' := by
            rcases List.append_eq_append_iff.mp hall with ⟨more, -, hbehind⟩ | ⟨more, -, hbehind⟩
            · exact hlast hr' hus hbehind
            · exact (hlast hr hus' hbehind).symm
          have hsame := (List.append_inj' (hmade.symm.trans hmade') rfl).2
          obtain ⟨-, heq⟩ := ScriptHost.Event.load.inj (List.singleton_inj.mp hsame)
          exact Option.some.inj heq

/-- Whoever is no rebuild leaves the module. -/
theorem Generation.concat (h : Generation rebuilds first as ts handle) (ht : ¬ rebuilds t) :
    Generation rebuilds first as (ts ++ [t]) handle := by
  have hmore : ∀ {us : List Ticket}, (∀ u ∈ us, ¬ rebuilds u) → ∀ u ∈ us ++ [t], ¬ rebuilds u := by
    intro us hus u hu
    rcases List.mem_append.mp hu with hu | hu
    · exact hus u hu
    · exact List.mem_singleton.mp hu ▸ ht
  cases h with
  | initial hts => exact .initial (hmore hts)
  | swapped hr hmade hus =>
      rw [List.append_assoc, List.cons_append]
      exact .swapped hr hmade (hmore hus)

/-- Only what was done for those admitted counts. -/
theorem Generation.congr (h : Generation rebuilds first as ts handle)
    (has : ∀ t ∈ ts, madeBy as' t = madeBy as t) : Generation rebuilds first as' ts handle := by
  cases h with
  | initial hts => exact .initial hts
  | swapped hr hmade hus => exact .swapped hr ((has _ (by simp)).trans hmade) hus

/-- All who were admitted, but for the rebuilds, entered only the module that was there when they
were. -/
def Served (rebuilds : Ticket → Prop) (first : Handle) (as : List (Gate.Act (Native W)))
    (ts : List Ticket) : Prop :=
  ∀ us t vs, ts = us ++ t :: vs → ¬ rebuilds t →
    ∃ handle, Generation rebuilds first as us handle ∧ ∀ e ∈ madeBy as t, e.entry? = some handle

/-- How callers were served is told from the events that they have made. -/
theorem Served.congr (h : Served rebuilds first as ts)
    (has : ∀ t ∈ ts, madeBy as' t = madeBy as t) : Served rebuilds first as' ts := by
  intro us t vs hts ht
  obtain ⟨handle, hgeneration, hmade⟩ := h us t vs hts ht
  refine ⟨handle, hgeneration.congr fun u hu => has u (by simp [hts, hu]), ?_⟩
  rwa [has t (by simp [hts])]

/-- One more caller. -/
theorem Served.concat (h : Served rebuilds first as ts)
    (ht : ¬ rebuilds t → ∃ handle, Generation rebuilds first as ts handle ∧
      ∀ e ∈ madeBy as t, e.entry? = some handle) : Served rebuilds first as (ts ++ [t]) := by
  intro us u vs hsplit hu
  rcases List.eq_nil_or_concat vs with rfl | ⟨vs', v, rfl⟩
  · obtain ⟨rfl, heq⟩ := List.append_inj' hsplit rfl
    obtain rfl := List.singleton_inj.mp heq
    exact ht hu
  · rw [List.concat_eq_append, ← List.cons_append, ← List.append_assoc] at hsplit
    exact h us u vs' (List.append_inj' hsplit rfl).1 hu

end

namespace Host

/-! ### The contract -/

/-- What callers may come with: rebuilds with a reload, and the others with what leaves the module
alone. An execution may fail for want of a module only if there is none. -/
def SwapOperation (rebuilds executes : Ticket → Prop) (t : Ticket) :
    Operation (Native W) Reply → Prop
  | .work w =>
    (rebuilds t → ∀ n : Native W, Native.Meets n.swaps (fun _ n' => n.Swapped n') w n) ∧
      (¬ rebuilds t → ∀ n : Native W, Native.Meets n.executes (fun o n' =>
        (executes t → o = .failed .notReady → n.slot.loaded = none) ∧ n.Executing [] n') w n)
  | .glance _ => ¬ rebuilds t

/-- After some callers were admitted, and with no operation in flight, the slot has the module of
the current generation. -/
structure Swapped (past : List ScriptHost.Event) (rebuilds : Ticket → Prop) (first : Handle)
    (as : List (Gate.Act (Native W))) (ts : List Ticket) (n : Native W) : Prop where
  trace : n.trace = past ++ as.flatMap madeIn
  acted : ∀ a ∈ as, a.ticket ∈ ts
  loaded : Flawless as → ∃ m, n.slot.loaded = some m ∧ Generation rebuilds first as ts m.handle
  served : Flawless as → Served rebuilds first as ts

/-- The operation of a caller is in flight, and it began with `n₀`. -/
structure Swapping (past : List ScriptHost.Event) (rebuilds executes : Ticket → Prop)
    (first : Handle) (as : List (Gate.Act (Native W))) (ts : List Ticket) (t : Ticket)
    (n₀ : Native W) (w : Work (Native W) Reply) (n : Native W) : Prop where
  trace : n.trace = past ++ as.flatMap madeIn
  new : t ∉ ts
  acted : ∀ a ∈ as, a.ticket ∈ ts ∨ a.ticket = t
  loaded : Flawless as → ∃ m, n₀.slot.loaded = some m ∧ Generation rebuilds first as ts m.handle
  served : Flawless as → Served rebuilds first as ts
  made : n.trace = n₀.trace ++ madeBy as t
  rebuild : rebuilds t → (∃ made, n₀.Swapping made n) ∧
    Native.Meets n₀.swaps (fun _ n' => n₀.Swapped n') w n
  execution : ¬ rebuilds t → (∃ instances, n₀.Executing instances n) ∧
    Native.Meets n₀.executes (fun o n' =>
      (executes t → o = .failed .notReady → n₀.slot.loaded = none) ∧ n₀.Executing [] n') w n

section

variable {past : List ScriptHost.Event} {rebuilds executes : Ticket → Prop} {first : Handle}
  {as : List (Gate.Act (Native W))} {ts : List Ticket} {t : Ticket} {n₀ n : Native W}

/-- The world outside does not matter to what was swapped. -/
theorem Swapped.withWorld (h : Swapped past rebuilds first as ts n) (world : W) :
    Swapped past rebuilds first as ts (n.withWorld world) :=
  ⟨h.trace, h.acted, h.loaded, h.served⟩

/-- Nor does it to what is being swapped. -/
theorem Swapping.withWorld {w : Work (Native W) Reply}
    (h : Swapping past rebuilds executes first as ts t n₀ w n) (world : W) :
    Swapping past rebuilds executes first as ts t n₀ w (n.withWorld world) where
  trace := h.trace
  new := h.new
  acted := h.acted
  loaded := h.loaded
  served := h.served
  made := h.made
  rebuild ht := by
    obtain ⟨⟨made, hmade⟩, hmeets⟩ := h.rebuild ht
    exact ⟨⟨made, hmade.withWorld world⟩, hmeets.withWorld world⟩
  execution ht := by
    obtain ⟨⟨instances, hinstances⟩, hmeets⟩ := h.execution ht
    exact ⟨⟨instances, hinstances.withWorld world⟩, hmeets.withWorld world⟩

/-- What is made by the operation in flight is known of it. -/
theorem Swapping.made_eq {w : Work (Native W) Reply} {made : List ScriptHost.Event}
    (h : Swapping past rebuilds executes first as ts t n₀ w n)
    (hmade : n.trace = n₀.trace ++ made) :
    madeBy as t = made :=
  List.append_cancel_left (h.made.symm.trans hmade)

/-- An act of the operation in flight. -/
theorem Swapping.act {change : Native W → Native W} {next : Native W → Work (Native W) Reply}
    (h : Swapping past rebuilds executes first as ts t n₀ (.act change next) n) :
    Swapping past rebuilds executes first (as ++ [⟨t, n, change n⟩]) ts t n₀
      (next n) (change n) := by
  have hothers : ∀ u ∈ ts, madeBy (as ++ [⟨t, n, change n⟩]) u = madeBy as u := fun u hu =>
    madeBy_concat_of_ne as fun htu : t = u => h.new (htu ▸ hu)
  have hgrown : n.trace <+: (change n).trace := by
    by_cases ht : rebuilds t
    · exact ((h.rebuild ht).2 n.world).1.1
    · exact ((h.execution ht).2 n.world).1.1
  have hmade : (change n).trace = n.trace ++ madeIn ⟨t, n, change n⟩ :=
    (trace_append_madeIn ⟨t, n, change n⟩ hgrown).symm
  refine ⟨?_, h.new, ?_, fun hf => ?_, fun hf => ?_, ?_, fun ht => ?_, fun ht => ?_⟩
  · simp [hmade, h.trace]
  · intro a ha
    rcases List.mem_append.mp ha with ha | ha
    · exact h.acted a ha
    · exact .inr (List.mem_singleton.mp ha ▸ rfl)
  · obtain ⟨m, hm, hgeneration⟩ := h.loaded hf.of_concat
    exact ⟨m, hm, hgeneration.congr hothers⟩
  · exact (h.served hf.of_concat).congr hothers
  · rw [madeBy_concat_self as ⟨t, n, change n⟩, ← List.append_assoc, ← h.made, hmade]
  · exact ⟨((h.rebuild ht).2 n.world).1.2, ((h.rebuild ht).2 n.world).2⟩
  · exact ⟨((h.execution ht).2 n.world).1.2, ((h.execution ht).2 n.world).2⟩

/-- What was done for the caller in flight was done to the module that was there, unless it is a
rebuild. -/
theorem Swapping.served_now {w : Work (Native W) Reply} {instances : List (Handle × Instance)}
    (h : Swapping past rebuilds executes first as ts t n₀ w n) (hf : Flawless as)
    (hn : n₀.Executing instances n) :
    ∃ handle, Generation rebuilds first as ts handle ∧
      ∀ e ∈ madeBy as t, e.entry? = some handle := by
  obtain ⟨m, hm, hgeneration⟩ := h.loaded hf
  obtain ⟨made, hmade⟩ := hn.since
  refine ⟨m.handle, hgeneration, fun e he => ?_⟩
  rw [h.made_eq hmade.trace] at he
  obtain ⟨m', hm', hentry⟩ := hmade.of_kind e he
  rwa [← Option.some.inj (hm.symm.trans hm')] at hentry

/-- The end of the operation in flight. -/
theorem Swapping.done {outcome : Outcome Reply}
    (h : Swapping past rebuilds executes first as ts t n₀ (.done outcome) n) :
    Swapped past rebuilds first as (ts ++ [t]) n := by
  refine ⟨h.trace, fun a ha => ?_, fun hf => ?_, fun hf => ?_⟩
  · simpa using h.acted a ha
  · by_cases ht : rebuilds t
    · obtain ⟨before, path, hmade⟩ := (h.rebuild ht).2 n.world
      have heq := h.made_eq hmade.trace
      cases hm : n.slot.loaded with
      | none =>
          have hmem : .load path none ∈ madeBy as t := by
            rw [heq]
            simp [Native.withWorld, hm]
          have hfails := hf.of_mem_madeBy hmem
          simp [Event.failsToLoad] at hfails
      | some m =>
          have hlast : madeBy as t = before ++ [.load path (some m.handle)] := by
            rw [heq]
            simp [Native.withWorld, hm]
          exact ⟨m, rfl, .swapped ht hlast (by simp)⟩
    · obtain ⟨m, hm, hgeneration⟩ := h.loaded hf
      have hslot : n.slot = n₀.slot := ((h.execution ht).2 n.world).2.slot
      exact ⟨m, hslot ▸ hm, hgeneration.concat ht⟩
  · refine (h.served hf).concat fun ht => ?_
    obtain ⟨instances, hn⟩ := (h.execution ht).1
    exact h.served_now hf hn

/-- An execution that is done failed for want of a module only if a load had failed. -/
theorem Swapping.ne_notReady {outcome : Outcome Reply}
    (h : Swapping past rebuilds executes first as ts t n₀ (.done outcome) n) (hf : Flawless as)
    (he : executes t) (ht : ¬ rebuilds t) : outcome.toExcept ≠ .error .notReady := by
  intro hnot
  have houtcome : outcome = .failed .notReady := by
    cases outcome <;> simp_all [Outcome.toExcept]
  obtain ⟨m, hm, -⟩ := h.loaded hf
  have hnone := ((h.execution ht).2 n.world).1 he houtcome
  simp [hm] at hnone

end

/-- **The contract of a hot swap**: as long as no load fails, whoever is admitted finds the module
of the current generation, and has to do with no other. -/
def swap (past : List ScriptHost.Event) (earlier : List Ticket)
    (rebuilds executes : Ticket → Prop) (hdisjoint : ∀ t, executes t → ¬ rebuilds t)
    (first : Handle) : Gate.Contract (Native W) Reply where
  allowed := SwapOperation rebuilds executes
  rest as ts n := ∃ new, ts = earlier ++ new ∧ Swapped past rebuilds first as new n
  going as ts t w n := ∃ new n₀, ts = earlier ++ new ∧
    Swapping past rebuilds executes first as new t n₀ w n
  ended as _ t r := Flawless as → executes t → r ≠ .error .notReady
  enter := by
    rintro as _ t w n ⟨new, rfl, hs⟩ hop ht
    have hnew : t ∉ new := fun h => ht (List.mem_append_right _ h)
    have hnothing : madeBy as t = [] := madeBy_eq_nil fun a ha hat => hnew (hat ▸ hs.acted a ha)
    exact ⟨new, n, rfl, hs.trace, hnew, fun a ha => .inl (hs.acted a ha), hs.loaded, hs.served,
      by simp [hnothing], fun hr => ⟨⟨[], .begin n⟩, hop.1 hr n⟩,
      fun hr => ⟨⟨[], .begin n⟩, hop.2 hr n⟩⟩
  glance := by
    rintro as _ t f n ⟨new, rfl, hs⟩ hop ht
    have hnew : t ∉ new := fun h => ht (List.mem_append_right _ h)
    have hnothing : madeBy as t = [] := madeBy_eq_nil fun a ha hat => hnew (hat ▸ hs.acted a ha)
    refine ⟨⟨new ++ [t], List.append_assoc .., hs.trace, ?_, fun hf => ?_, fun hf => ?_⟩, by simp⟩
    · exact fun a ha => List.mem_append_left _ (hs.acted a ha)
    · obtain ⟨m, hm, hgeneration⟩ := hs.loaded hf
      exact ⟨m, hm, hgeneration.concat hop⟩
    · obtain ⟨m, -, hgeneration⟩ := hs.loaded hf
      exact (hs.served hf).concat fun _ => ⟨m.handle, hgeneration, by simp [hnothing]⟩
  act := by
    rintro as _ t change next n ⟨new, n₀, rfl, hs⟩
    exact ⟨new, n₀, rfl, hs.act⟩
  done := by
    rintro as _ t outcome n ⟨new, n₀, rfl, hs⟩
    exact ⟨⟨new ++ [t], List.append_assoc .., hs.done⟩,
      fun hf he => hs.ne_notReady hf he (hdisjoint t he)⟩
  later h hf := h hf.of_concat

end Host

end ScriptHost
