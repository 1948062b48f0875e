import ScriptHost.Proofs.Host.Errands

/-!
# The ledger of a host

What each caller's operation did behind the gate, from the state it found to its result. All that
passed between the host and native code was done for somebody, and what was done for one caller
stands together, in the order of admission (`Host.Ledger`). What a caller is answered is how its own
operation ended (`Host.worked_of_answered`).

## Proof idea

A caller has its answer while others act, so what is known of an answer must not depend on how much
was done since. It is told by the states that the caller's own acts have found: they decide what is
left of its work (`Work.left`), and work that is done stays done.

## Main definitions

* `Work.left` — what is left of work whose acts have found some states.
* `Host.Underway` — work that began where the work of those before it had ended.
* `Host.Ledger` — what was done for all those admitted, one after another.
-/

namespace ScriptHost

variable {W : Type}

/-- What is left of work whose acts have found these states. -/
def Work.left {σ α : Type} : Work σ α → List σ → Work σ α
  | .act _ rest, s :: found => (rest s).left found
  | w, _ => w

namespace Work

variable {σ α : Type}

@[simp] theorem left_nil (w : Work σ α) : w.left [] = w := by
  cases w <;> rfl

/-- Work that is done stays done. -/
@[simp] theorem left_done (outcome : Outcome α) (found : List σ) :
    (done outcome : Work σ α).left found = .done outcome := by
  cases found <;> rfl

/-- What is left after some states and more is what is left after the more of what the first leave.
-/
theorem left_append (w : Work σ α) (found more : List σ) :
    w.left (found ++ more) = (w.left found).left more := by
  induction found generalizing w with
  | nil => rw [List.nil_append, left_nil]
  | cons s found ih =>
      cases w with
      | done outcome => simp only [left_done]
      | act change rest => exact ih (rest s)

end Work

namespace Host

/-- The states that the acts done for a caller have found. -/
def found (as : List (Gate.Act (Native W))) (t : Ticket) : List (Native W) :=
  (as.filter (·.ticket = t)).map (·.before)

section

variable {brings : Ticket → Operation (Native W) Reply → Prop} {as : List (Gate.Act (Native W))}
  {a : Gate.Act (Native W)} {ts us : List Ticket} {t u : Ticket} {w left : Work (Native W) Reply}
  {n₀ n : Native W} {past : List ScriptHost.Event}

/-- The caller of one act more has found one state more. -/
theorem found_concat_self (as : List (Gate.Act (Native W))) (a : Gate.Act (Native W)) :
    found (as ++ [a]) a.ticket = found as a.ticket ++ [a.before] := by
  simp [found, List.filter_append]

/-- Nobody else has found any more. -/
theorem found_concat_of_ne (as : List (Gate.Act (Native W))) (h : a.ticket ≠ t) :
    found (as ++ [a]) t = found as t := by
  simp [found, List.filter_append, h]

/-- For whom no act was done, none has found anything. -/
theorem found_eq_nil (h : ∀ a ∈ as, a.ticket ≠ t) : found as t = [] := by
  have hnone : as.filter (·.ticket = t) = [] := by simpa [List.filter_eq_nil_iff] using h
  rw [found, hnone]
  rfl

/-- What was done for others is not more after an act. -/
theorem flatMap_madeBy_concat (h : a.ticket ∉ ts) :
    ts.flatMap (madeBy (as ++ [a])) = ts.flatMap (madeBy as) :=
  List.flatMap_congr fun _ hu => madeBy_concat_of_ne as fun hau => h (hau ▸ hu)

/-- Work that began with a tidy `n₀`, after this past, has come to `n`. Its acts have kept
whatever it promises, and what is left leads to whatever it was to lead to. -/
structure Underway (as : List (Gate.Act (Native W))) (past : List ScriptHost.Event) (t : Ticket)
    (w : Work (Native W) Reply) (n₀ n : Native W) : Prop where
  tidy : n₀.Tidy []
  past : n₀.trace = past
  made : n.trace = n₀.trace ++ madeBy as t
  kept : ∀ {promise : Native W → Native W → Prop} {post : Outcome Reply → Native W → Prop},
    Native.Meets promise post w n₀ →
      (∀ a ∈ as, a.ticket = t → promise a.before a.after) ∧
        Native.Meets promise post (w.left (found as t)) n

namespace Underway

/-- Work that has not begun is under way with nothing done. -/
theorem begin (htidy : n.Tidy []) (hnew : ∀ a ∈ as, a.ticket ≠ t) (w : Work (Native W) Reply) :
    Underway as n.trace t w n n where
  tidy := htidy
  past := rfl
  made := by rw [madeBy_eq_nil hnew, List.append_nil]
  kept hw := by
    rw [found_eq_nil hnew, Work.left_nil]
    exact ⟨fun a ha hat => absurd hat (hnew a ha), hw⟩

/-- The world outside may change under it. -/
theorem withWorld (h : Underway as past t w n₀ n) (world : W) :
    Underway as past t w n₀ (n.withWorld world) :=
  ⟨h.tidy, h.past, h.made, fun hw => (h.kept hw).imp_right (·.withWorld world)⟩

/-- One more act of the work. -/
theorem act (h : Underway as past t w n₀ n) (hgrows : GrowingOperation (.work w))
    {change : Native W → Native W} {rest : Native W → Work (Native W) Reply}
    (hleft : w.left (found as t) = .act change rest) :
    Underway (as ++ [⟨t, n, change n⟩]) past t w n₀ (change n) ∧
      w.left (found (as ++ [⟨t, n, change n⟩]) t) = rest n := by
  have hrest : w.left (found (as ++ [⟨t, n, change n⟩]) t) = rest n := by
    rw [found_concat_self as ⟨t, n, change n⟩, Work.left_append, hleft]
    exact Work.left_nil _
  refine ⟨⟨h.tidy, h.past, ?_, fun hw => ?_⟩, hrest⟩
  · have hgrown : n.trace <+: (change n).trace := by
      have hkept := (h.kept (hgrows n₀)).2
      rw [hleft] at hkept
      exact (hkept n.world).1
    rw [madeBy_concat_self as ⟨t, n, change n⟩, ← List.append_assoc, ← h.made]
    exact (trace_append_madeIn ⟨t, n, change n⟩ hgrown).symm
  · obtain ⟨hpromised, hkept⟩ := h.kept hw
    rw [hleft] at hkept
    rw [hrest]
    refine ⟨fun a ha hat => ?_, (hkept n.world).2⟩
    rcases List.mem_append.mp ha with ha | ha
    · exact hpromised a ha hat
    · obtain rfl := List.mem_singleton.mp ha
      exact (hkept n.world).1

/-- An act of others makes no difference to work that has been done. -/
theorem concat_of_ne (h : Underway as past t w n₀ n) (ha : a.ticket ≠ t) :
    Underway (as ++ [a]) past t w n₀ n where
  tidy := h.tidy
  past := h.past
  made := by rw [madeBy_concat_of_ne as ha, h.made]
  kept hw := by
    obtain ⟨hpromised, hkept⟩ := h.kept hw
    rw [found_concat_of_ne as ha]
    refine ⟨fun b hb hbt => ?_, hkept⟩
    rcases List.mem_append.mp hb with hb | hb
    · exact hpromised b hb hbt
    · exact absurd (List.mem_singleton.mp hb ▸ hbt) ha

/-- Work that is done has led to whatever it was to lead to. -/
theorem post {outcome : Outcome Reply} (h : Underway as past t w n₀ n)
    (hdone : w.left (found as t) = .done outcome) {promise : Native W → Native W → Prop}
    {post : Outcome Reply → Native W → Prop} (hw : Native.Meets promise post w n₀) :
    post outcome n := by
  have hkept := (h.kept hw).2
  rw [hdone] at hkept
  exact hkept n.world

end Underway

/-! ### The contract -/

/-- What was done so far for a caller that was admitted after these: its work, from where theirs
had ended, or nothing. -/
inductive Entry (brings : Ticket → Operation (Native W) Reply → Prop)
    (as : List (Gate.Act (Native W))) (ts : List Ticket) (t : Ticket) : Prop where
  | worked {w : Work (Native W) Reply} {n₀ n : Native W} (hop : brings t (.work w))
      (hw : Underway as (ts.flatMap (madeBy as)) t w n₀ n)
  | glanced {f : Native W → Reply} (hop : brings t (.glance f)) (hmade : madeBy as t = [])

/-- An act of others makes no difference to an entry. -/
theorem Entry.concat (h : Entry brings as ts t) (hts : a.ticket ∉ ts) (ht : a.ticket ≠ t) :
    Entry brings (as ++ [a]) ts t := by
  cases h with
  | worked hop hw =>
      rw [← flatMap_madeBy_concat hts] at hw
      exact .worked hop (hw.concat_of_ne ht)
  | glanced hop hmade => exact .glanced hop ((madeBy_concat_of_ne as ht).trans hmade)

/-- There is an entry for each of these callers. -/
def Entries (brings : Ticket → Operation (Native W) Reply → Prop)
    (as : List (Gate.Act (Native W))) (ts : List Ticket) : Prop :=
  ∀ us t vs, ts = us ++ t :: vs → Entry brings as us t

/-- One entry more is an entry. -/
theorem Entries.concat (h : Entries brings as ts) (ht : Entry brings as ts t) :
    Entries brings as (ts ++ [t]) := by
  intro us u vs hsplit
  cases vs using List.reverseRecOn with
  | nil =>
      obtain ⟨rfl, heq⟩ := List.append_inj' hsplit rfl
      exact List.singleton_inj.mp heq ▸ ht
  | append_singleton vs v =>
      rw [← List.cons_append, ← List.append_assoc] at hsplit
      exact h us u vs (List.append_inj' hsplit rfl).1

/-- **The ledger while nobody is worked for**: what passed between the host and native code is what
was done for those admitted, in the order of admission. -/
structure Ledger (brings : Ticket → Operation (Native W) Reply → Prop)
    (as : List (Gate.Act (Native W))) (ts : List Ticket) (n : Native W) : Prop where
  tidy : n.Tidy []
  whole : n.trace = ts.flatMap (madeBy as)
  acted : ∀ a ∈ as, a.ticket ∈ ts
  entries : Entries brings as ts

/-- The ledger while somebody is worked for. -/
structure Open (brings : Ticket → Operation (Native W) Reply → Prop)
    (as : List (Gate.Act (Native W))) (ts : List Ticket) (t : Ticket)
    (left : Work (Native W) Reply) (n : Native W) : Prop where
  new : t ∉ ts
  acted : ∀ a ∈ as, a.ticket ∈ ts ∨ a.ticket = t
  entries : Entries brings as ts
  underway : ∃ w n₀, brings t (.work w) ∧ TidyOperation (.work w) ∧ GrowingOperation (.work w) ∧
    Underway as (ts.flatMap (madeBy as)) t w n₀ n ∧ w.left (found as t) = left

/-- What is known of the result of a caller: its own acts have found what decides it. -/
inductive Settled (brings : Ticket → Operation (Native W) Reply → Prop)
    (as : List (Gate.Act (Native W))) (t : Ticket) : Except Failure Reply → Prop where
  | worked {w : Work (Native W) Reply} {outcome : Outcome Reply} (hop : brings t (.work w))
      (hdone : w.left (found as t) = .done outcome) : Settled brings as t outcome.toExcept
  | glanced {f : Native W → Reply} (hop : brings t (.glance f)) (n : Native W) :
      Settled brings as t (.ok (f n))

/-- An act of the open entry leaves it open, with that act noted. -/
theorem Open.act {change : Native W → Native W} {rest : Native W → Work (Native W) Reply}
    (h : Open brings as ts t (.act change rest) n) :
    Open brings (as ++ [⟨t, n, change n⟩]) ts t (rest n) (change n) := by
  obtain ⟨w, n₀, hop, htidy, hgrows, hunderway, hleft⟩ := h.underway
  obtain ⟨hnow, hrest⟩ := hunderway.act hgrows hleft
  refine ⟨h.new, fun a ha => ?_, fun us u vs hsplit => ?_, w, n₀, hop, htidy, hgrows, ?_, hrest⟩
  · rcases List.mem_append.mp ha with ha | ha
    · exact h.acted a ha
    · exact .inr (List.mem_singleton.mp ha ▸ rfl)
  · refine (h.entries us u vs hsplit).concat (fun ht => h.new ?_) fun ht => h.new ?_
    · rw [hsplit]
      exact List.mem_append_left _ ht
    · rw [hsplit]
      exact List.mem_append_right _ (ht ▸ List.mem_cons_self)
  · rw [flatMap_madeBy_concat h.new]
    exact hnow

/-- The end of the operation in flight: one more entry. -/
theorem Open.done {outcome : Outcome Reply} (h : Open brings as ts t (.done outcome) n) :
    Ledger brings as (ts ++ [t]) n ∧ Settled brings as t outcome.toExcept := by
  obtain ⟨w, n₀, hop, htidy, -, hunderway, hdone⟩ := h.underway
  refine ⟨⟨?_, ?_, fun a ha => by simpa using h.acted a ha,
    h.entries.concat (.worked hop hunderway)⟩, .worked hop hdone⟩
  · exact hunderway.post hdone (htidy n₀ hunderway.tidy)
  · rw [hunderway.made, hunderway.past, List.flatMap_append, List.flatMap_singleton]

/-- **The contract of the ledger.** -/
def ledger (brings : Ticket → Operation (Native W) Reply → Prop) :
    Gate.Contract (Native W) Reply where
  allowed t op := brings t op ∧ TidyOperation op ∧ GrowingOperation op
  rest as ts n := Ledger brings as ts n
  going as ts t left n := Open brings as ts t left n
  ended as _ t r := Settled brings as t r
  enter := by
    rintro as ts t w n hs ⟨hop, htidy, hgrows⟩ ht
    have hnew : ∀ a ∈ as, a.ticket ≠ t := fun a ha hat => ht (hat ▸ hs.acted a ha)
    refine ⟨ht, fun a ha => .inl (hs.acted a ha), hs.entries, w, n, hop, htidy, hgrows, ?_, ?_⟩
    · exact hs.whole ▸ Underway.begin hs.tidy hnew w
    · rw [found_eq_nil hnew, Work.left_nil]
  glance := by
    rintro as ts t f n hs ⟨hop, -, -⟩ ht
    have hmade : madeBy as t = [] := madeBy_eq_nil fun a ha hat => ht (hat ▸ hs.acted a ha)
    refine ⟨⟨hs.tidy, ?_, fun a ha => List.mem_append_left _ (hs.acted a ha),
      hs.entries.concat (.glanced hop hmade)⟩, .glanced hop n⟩
    rw [List.flatMap_append, List.flatMap_singleton, hmade, List.append_nil, hs.whole]
  act h := h.act
  done h := h.done
  later := by
    intro as _ t r a h
    cases h with
    | glanced hop n => exact .glanced hop n
    | worked hop hdone =>
        refine .worked hop ?_
        by_cases hat : a.ticket = t
        · subst hat
          rw [found_concat_self, Work.left_append, hdone, Work.left_done]
        · rw [found_concat_of_ne as hat, hdone]

/-! ### At any time -/

/-- Whether or not an operation is in flight, all that passed between the host and native code was
done for those admitted, one after another. -/
theorem whole_of_keeps {g : Gate (Native W) Reply} (hk : Gate.Keeps (ledger brings) as g) :
    g.state.trace = g.admitted.flatMap (madeBy as) ∧ Entries brings as g.admitted := by
  rcases hk.rest_or_going with hs | ⟨ts, u, left, -, hadmitted, hs⟩
  · exact ⟨hs.whole, hs.entries⟩
  · obtain ⟨w, n₀, hop, -, -, hunderway, -⟩ := hs.underway
    rw [hadmitted]
    refine ⟨?_, hs.entries.concat (.worked hop hunderway)⟩
    rw [hunderway.made, hunderway.past, List.flatMap_append, List.flatMap_singleton]

/-- Whoever is acted for was admitted. -/
theorem mem_admitted_of_keeps {g : Gate (Native W) Reply} (hk : Gate.Keeps (ledger brings) as g)
    (ha : a ∈ as) : a.ticket ∈ g.admitted := by
  rcases hk.rest_or_going with hs | ⟨ts, u, left, -, hadmitted, hs⟩
  · exact hs.acted a ha
  · rw [hadmitted, List.mem_append, List.mem_singleton]
    exact hs.acted a ha

end

/-! ### In a run -/

section

variable (settings : Settings) (moduleConfig : Option Bytes) (platform : Platform W) (world : W)
  (events : List Event)

/-- Every run of a host keeps its ledger. -/
theorem keeps_ledger :
    let h := init settings moduleConfig platform world
    Gate.Keeps (ledger (h.Brings events)) (h.actsOf events) (h.run events).gate := by
  intro h
  have hbegun : Gate.Keeps (ledger (h.Brings events)) [] h.gate :=
    .init ⟨.nil _, rfl, by simp, by simp [Entries]⟩
  refine keeps_run ?_ ?_ ?_ hbegun
  · exact fun _ _ _ _ hs => ⟨hs.tidy, hs.whole, hs.acted, hs.entries⟩
  · intro as ts t left n world' hs
    obtain ⟨w, n₀, hop, htidy, hgrows, hunderway, hleft⟩ := hs.underway
    exact ⟨hs.new, hs.acted, hs.entries, w, n₀, hop, htidy, hgrows, hunderway.withWorld world',
      hleft⟩
  · intro before e after t op heq hop _
    have hb := hop.brings heq
    exact ⟨hb, hb.tidy, hb.growing⟩

/-- **The trace of a host** is what was done for those admitted, in the order of admission. -/
theorem trace_run :
    let h := init settings moduleConfig platform world
    (h.run events).native.trace = (h.run events).gate.admitted.flatMap (madeBy (h.actsOf events)) :=
  (whole_of_keeps (keeps_ledger settings moduleConfig platform world events)).1

variable {events} {t : Ticket} {w : Work (Native W) Reply}

/-- Whoever was admitted with work has begun it where the work of those before had ended. -/
theorem underway_of_admitted {us vs : List Ticket}
    (hadmitted : ((init settings moduleConfig platform world).run events).gate.admitted
      = us ++ t :: vs)
    (hop : (init settings moduleConfig platform world).Brings events t (.work w)) :
    let as := (init settings moduleConfig platform world).actsOf events
    ∃ n₀ n, Underway as (us.flatMap (madeBy as)) t w n₀ n := by
  have hk := keeps_ledger settings moduleConfig platform world events
  cases (whole_of_keeps hk).2 us t vs hadmitted with
  | worked hop' hw =>
      obtain rfl := Operation.work.inj (hop'.unique hop)
      exact ⟨_, _, hw⟩
  | glanced hop' _ => cases hop'.unique hop

/-- **An answer is how the caller's own operation ended.** -/
theorem worked_of_answered {r : Except Failure Reply}
    (hr : ((init settings moduleConfig platform world).run events).gate.phase t = .answered r)
    (hop : (init settings moduleConfig platform world).Brings events t (.work w)) :
    let h := init settings moduleConfig platform world
    ∃ us vs n₀ n outcome, (h.run events).gate.admitted = us ++ t :: vs ∧
      Underway (h.actsOf events) (us.flatMap (madeBy (h.actsOf events))) t w n₀ n ∧
      w.left (found (h.actsOf events) t) = .done outcome ∧ r = outcome.toExcept := by
  intro h
  obtain ⟨us, vs, hadmitted, hended⟩ :=
    (keeps_ledger settings moduleConfig platform world events).ended t r (.inr hr)
  obtain ⟨n₀, n, hw⟩ := underway_of_admitted settings moduleConfig platform world hadmitted hop
  cases hended with
  | worked hop' hdone =>
      obtain rfl := Operation.work.inj (Brings.unique hop' hop)
      exact ⟨us, vs, n₀, n, _, hadmitted, hw, hdone, rfl⟩
  | glanced hop' _ => cases Brings.unique hop' hop

end

end Host

end ScriptHost
