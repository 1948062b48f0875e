import ScriptHost.Proofs.Host.Executions
import ScriptHost.Proofs.Text.Decoding

/-!
# What a report holds

The lines of a report are what the caller's own instance has sent, nothing more and nothing less, in
the order in which it was sent (`Host.run_captures`): whatever callers and modules do, and whenever
the records come, also while the instance is made or destroyed.

Every record with an accumulator becomes one line (`Record.Transcribes`), also one that holds
nothing. A line is what the record holds as text; where this is no text, there is a replacement
character for each maximal ill-formed beginning.

## Main definitions

* `Record.Transcribes` — which line a record becomes.
* `Host.Captured` — where a report and its lines come from.
-/

namespace ScriptHost

variable {W : Type}

namespace Record

/-- The line that a record becomes. -/
structure Transcribes (r : Record) (line : String) : Prop where
  /-- A null pointer or a length of zero stands for nothing, whatever the other one is. -/
  empty : r.message = none ∨ r.length = 0 → line = ""
  /-- Text is kept as it is, line ends and NULs included. -/
  kept : ∀ text, r.content = Utf8.encode text → line = text
  /-- Any other record is read character by character, with a replacement for each maximal
  ill-formed beginning. -/
  read : Utf8.Reads r.content line.toList

/-- It is what the host makes of the bytes. -/
theorem transcribes_iff {r : Record} {line : String} :
    r.Transcribes line ↔ Utf8.decodeLossy r.content = line := by
  refine ⟨fun h => Utf8.reads_iff.mp h.read, ?_⟩
  rintro rfl
  refine ⟨fun h => ?_, fun text h => ?_, Utf8.reads_decodeLossy r.content⟩
  · have hnothing : r.content = [] := by
      rcases h with h | h <;> simp [content, h]
    rw [hnothing]
    exact Utf8.reads_iff.mp .nil
  · rw [h, Utf8.decodeLossy_encode]

/-- The lines of some records are those of the records with an accumulator, one by one. -/
theorem forall₂_transcribes (rs : List Record) :
    List.Forall₂ Transcribes (rs.filter (·.hasAccumulator)) (lines rs) := by
  induction rs with
  | nil => exact .nil
  | cons r rs ih =>
      cases haccumulator : r.hasAccumulator with
      | true =>
          have hline : r.line? = some (Utf8.decodeLossy r.content) := by simp [line?, haccumulator]
          rw [List.filter_cons_of_pos haccumulator, lines, List.filterMap_cons_some hline]
          exact .cons (transcribes_iff.mpr rfl) ih
      | false =>
          have hnone : r.line? = none := by simp [line?, haccumulator]
          rw [List.filter_cons_of_neg (by simp [haccumulator]), lines,
            List.filterMap_cons_none hnone]
          exact ih

end Record

namespace Native

/-- An execution that ends well is the life of one instance, and has the lines of all its records.
-/
theorem Protocol.exists_instance {request : Request} {config : Option Bytes}
    {slot : Option (LoadedModule W)} {made : List Event} {invocation : Invocation}
    (h : Protocol request config slot made (.ok invocation)) :
    (∃ handle i created used destroyed, Uses handle i request config invocation.status used ∧
      made = .create handle request.timeout.toSingle created (some i) ::
        (used ++ [.destroy handle i destroyed])) ∧
      invocation.lines = Record.lines (made.flatMap Event.records) := by
  cases h with
  | destroyed m hused hentries _ => exact ⟨⟨m.handle, _, _, _, _, hused, hentries⟩, rfl⟩

end Native

namespace Host

/-- **Where a report comes from**: from the one execution that its caller asked for. -/
structure Captured (h : Host W) (events : List Event) (t : Ticket) (report : Report) : Prop where
  /-- All that passed between the host and native code was done for those admitted, for one after
  another. -/
  whole : (h.run events).native.trace
    = (h.run events).gate.admitted.flatMap (madeBy (h.actsOf events))
  /-- The caller was admitted once. -/
  once : (h.run events).gate.admitted.count t = 1
  /-- What was done for it is the life of one instance: it is made for the request of the caller,
  used, and destroyed. -/
  own : ∃ request handle i created used destroyed, h.Asks events t request ∧
    Native.Uses handle i request h.moduleConfig report.status used ∧
    madeBy (h.actsOf events) t
      = .create handle request.timeout.toSingle created (some i) ::
        (used ++ [.destroy handle i destroyed])
  /-- Each act makes one entry at most, and what is noted of it, the records with it, is what the
  module in the slot has answered. -/
  answered : ∀ a ∈ h.actsOf events, a.ticket = t → Native.enters a.before a.after
  /-- The lines are, one by one, those of the records that were sent meanwhile and came with an
  accumulator. -/
  lines : List.Forall₂ Record.Transcribes
    (((madeBy (h.actsOf events) t).flatMap ScriptHost.Event.records).filter (·.hasAccumulator))
    report.lines

/-- **Reports hold what was sent**, all of it, once and in order, and nothing that was sent to
others; in every run of every host. -/
theorem run_captures (settings : Settings) (moduleConfig : Option Bytes) (platform : Platform W)
    (world : W) (events : List Event) (t : Ticket) (report : Report)
    (hanswer : ((init settings moduleConfig platform world).run events).answer? t
      = some (.ok (.report report))) :
    (init settings moduleConfig platform world).Captured events t report := by
  obtain ⟨request, hasks, hgate⟩ :=
    asks_of_report settings moduleConfig platform world hanswer
  obtain ⟨us, vs, n₀, result, hadmitted, -, -, hmade, hresult⟩ :=
    execution_of_answered settings moduleConfig platform world
      (Native.executions_sized request moduleConfig) hasks hgate
  have hnodup :=
    (keeps_ledger settings moduleConfig platform world events).orderly.nodup_admitted
  have hmem : t ∈ ((init settings moduleConfig platform world).run events).gate.admitted := by
    simp [hadmitted]
  cases result with
  | error failure => cases hresult
  | ok invocation =>
      obtain rfl := Reply.report.inj (Except.ok.inj hresult)
      rcases hmade with hprotocol | ⟨-, failure, hfailed⟩
      · obtain ⟨⟨handle, i, created, used, destroyed, hused, hentries⟩, hlines⟩ :=
          hprotocol.exists_instance
        have hall := Record.forall₂_transcribes
          ((madeBy ((init settings moduleConfig platform world).actsOf events) t).flatMap
            ScriptHost.Event.records)
        rw [← hlines] at hall
        exact ⟨trace_run settings moduleConfig platform world events,
          List.count_eq_one_of_mem hnodup hmem,
          ⟨request, handle, i, created, used, destroyed, hasks, hused, hentries⟩,
          enters_of_asks settings moduleConfig platform world hasks, hall⟩
      · cases hfailed

/-- Two executions at once, on a module that sends records at every opportunity: each report has
those of its own instance, to the end. -/
theorem run_captures_both :
    let entry : EntryPoints Nat := {
      create := fun _ n => (([.ofBytes [0x61, 0x00, 0x0A]], some n), n + 1)
      destroy := fun _ n => ([⟨none, 7, true⟩, ⟨some [0x78], 0, true⟩], n)
      loadConfig := fun _ _ _ n => (([.ofBytes [0x63]], 0), n)
      call := fun i _ n =>
        (([⟨some [0x30 + UInt8.ofNat i, 0xE2, 0x82, 0x41], 4, true⟩,
          ⟨some [0x42], 1, false⟩], 0), n)
      status := fun _ n => (([.ofBytes [0x73]], 0), n) }
    let platform : Platform Nat := {
      load := fun _ n => (.ok entry, n)
      run := fun _ _ n => (.ok (), n)
      remove := fun _ n => (.ok (), n) }
    let h := init {} (some []) platform 0
    let request : Request := ⟨.script, "1", 10, 0, by decide⟩
    let events : List Event :=
      [.arrive 0 .start, .work, .work, .work, .arrive 1 (.executeRequest request),
        .arrive 2 (.executeRequest request)] ++ List.replicate 7 .work ++ [.poll 1, .poll 2] ++
      List.replicate 7 .work ++ [.poll 2]
    let report := fun lines : List String =>
      Report.ofInvocation ⟨lines, 0⟩ .script Fence.messageBudget
    h.Captured events 1 (report ["a\x00\n", "c", "0\uFFFDA", "s", "", ""]) ∧
      h.Captured events 2 (report ["a\x00\n", "c", "1\uFFFDA", "s", "", ""]) := by
  intro entry platform h request events report
  have hfirst : (h.run events).answer? 1
      = some (.ok (.report (report ["a\x00\n", "c", "0\uFFFDA", "s", "", ""]))) := by
    decide +kernel
  have hsecond : (h.run events).answer? 2
      = some (.ok (.report (report ["a\x00\n", "c", "1\uFFFDA", "s", "", ""]))) := by
    decide +kernel
  exact ⟨run_captures _ _ _ _ events 1 _ hfirst, run_captures _ _ _ _ events 2 _ hsecond⟩

end Host

end ScriptHost
