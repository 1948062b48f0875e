import ScriptHost.Proofs.Host.Rebuilds
import ScriptHost.Proofs.Module.Acts
import ScriptHost.Proofs.Text.Encoding

/-!
# The call protocol

What one execution makes of the trace, entry by entry, and how it ends. There are four ways
(`Native.Protocol`), and which of them it is depends on the slot, on what the module hands back for
an instance and on its answer to the configuration, but on nothing else: the status that the module
is asked for at the end has no part in it.

Every entry is one that the module in the slot was asked for and has answered so: what is noted of
it is what came back, in the world in which it was made. In one go the next entry is made in the
world that this one left.

This holds of an execution in one go and of one whose acts the worker does one by one, in whatever
way the world outside changes between two of them (`Native.invoke_protocol`).
-/

namespace ScriptHost

variable {W α β : Type}

namespace Native

/-! ### The four ways -/

/-- The entry that gives an instance its configuration, if there is one, and the module's answer to
it. -/
inductive Configures (handle : Handle) (i : Instance) :
    Option Bytes → Int32 → List Event → Prop where
  | nothing : Configures handle i none 0 []
  | content (content : Bytes) (records : List Record) (status : Int32) :
    Configures handle i (some content) status
      [.loadConfig handle i content (UInt32.ofNat content.length) records status]

/-- What is done with an instance between its making and its destruction: the outcome, and the
entries in order. -/
inductive Uses (handle : Handle) (i : Instance) (request : Request) (config : Option Bytes) :
    Int32 → List Event → Prop where
  /-- The configuration is refused, and the answer to it is the outcome. -/
  | refused {status : Int32} {configured : List Event}
    (hconfigured : Configures handle i config status configured) (hstatus : status ≠ 0) :
    Uses handle i request config status configured
  /-- The source is run, and the answer to it is the outcome, whatever the module says of its status
  afterwards. -/
  | called {status asked : Int32} {length : UInt32} {called queried : List Record}
    {configured : List Event} (hconfigured : Configures handle i config 0 configured)
    (hlength : length.toNat = request.source.utf8ByteSize) :
    Uses handle i request config status (configured ++ [
      .call handle i ⟨none, request.tag.byte, Utf8.encode request.source, length⟩ called status,
      .status handle i queried asked])

/-- **The call protocol** of a request with an optional configuration: for the module in the slot,
the entries that are made, in order, each as the module has answered it, and the result. The lines
of the result are those of all the records that the entries sent. -/
inductive Protocol (request : Request) (config : Option Bytes) :
    Option (LoadedModule W) → List Event → Except Failure Invocation → Prop where
  /-- With no module loaded there is no entry. -/
  | unloaded : Protocol request config none [] (.error .notReady)
  /-- The module hands back no instance, and nothing follows. -/
  | uncreated (m : LoadedModule W) (records : List Record)
    (hanswered : m.Answered (.create m.handle request.timeout.toSingle records none)) :
    Protocol request config (some m)
      [.create m.handle request.timeout.toSingle records none] (.error .instanceCreation)
  /-- The instance that the module hands back is used, and destroyed in the end. -/
  | destroyed (m : LoadedModule W) {i : Instance} {status : Int32} {created destroyed : List Record}
    {used entries : List Event} (hused : Uses m.handle i request config status used)
    (hentries : entries = .create m.handle request.timeout.toSingle created (some i) ::
      (used ++ [.destroy m.handle i destroyed]))
    (hanswered : ∀ e ∈ entries, m.Answered e) :
    Protocol request config (some m) entries
      (.ok ⟨Record.lines (entries.flatMap Event.records), status⟩)

/-! ### Entry by entry -/

/-- An execution that began with `n₀` has made these entries, which the module in the slot has
answered, and the slot is as it was. -/
structure Entered (n₀ : Native W) (made : List Event) (n : Native W) : Prop where
  trace : n.trace = n₀.trace ++ made
  slot : n.slot = n₀.slot
  answered : ∀ m, n₀.slot.loaded = some m → ∀ e ∈ made, m.Answered e

/-- What an act that makes one entry at most promises: nothing changes, or the module in the slot is
entered and its answer noted. -/
def enters (n n' : Native W) : Prop :=
  n' = n ∨ ∃ m e, n.slot.loaded = some m ∧ EntryMade m e n n'

namespace Entered

variable {n₀ n : Native W} {made : List Event} {m : LoadedModule W}

/-- Nothing has been entered yet. -/
theorem begin (n : Native W) : Entered n [] n :=
  ⟨(List.append_nil _).symm, rfl, fun _ _ => by simp⟩

/-- The world outside may change in between. -/
theorem withWorld (h : Entered n₀ made n) (world : W) : Entered n₀ made (n.withWorld world) :=
  ⟨h.trace, h.slot, h.answered⟩

/-- One more entry to the module in the slot, and what follows it. -/
theorem ask_bind {f : Native W → α × Native W} {k : α → Work (Native W) β}
    {post : Outcome β → Native W → Prop} (h : Entered n₀ made n) (hm : n₀.slot.loaded = some m)
    (entry : α → Event) (hf : ∀ n, EntryMade m (entry (f n).1) n (f n).2)
    (hk : ∀ a n', Entered n₀ (made ++ [entry a]) n' → Meets enters post (k a) n') :
    Meets enters post (.ask f >>= k) n := by
  refine .ask_bind fun world => ?_
  have hmade := hf (n.withWorld world)
  have hnow := h.withWorld world
  have hloaded : (n.withWorld world).slot.loaded = some m := by rw [hnow.slot, hm]
  refine ⟨.inr ⟨m, _, hloaded, hmade⟩, hk _ _ ⟨?_, hmade.slot.trans hnow.slot, ?_⟩⟩
  · rw [hmade.trace, hnow.trace, List.append_assoc]
  · intro m' hm' e he
    obtain rfl : m = m' := Option.some.inj (hm.symm.trans hm')
    rcases List.mem_append.mp he with he | he
    · exact h.answered m hm e he
    · exact List.mem_singleton.mp he ▸ hmade.answered

/-- The source is run and the status asked for. -/
theorem runningSource (h : Entered n₀ made n) (hm : n₀.slot.loaded = some m) (i : Instance)
    (request : Request) (hsize : request.source.utf8ByteSize < UInt32.size) :
    Meets enters (fun o n' => ∃ called queried status asked length,
        length.toNat = request.source.utf8ByteSize ∧ o = .ok (called ++ queried, status) ∧
        Entered n₀ (made ++ [
          .call m.handle i ⟨none, request.tag.byte, Utf8.encode request.source, length⟩ called
            status,
          .status m.handle i queried asked]) n')
      (runningSource m i request) n := by
  have hlength : (UInt32.ofNat (Utf8.encode request.source).length).toNat
      = request.source.utf8ByteSize := by
    rw [Utf8.length_encode]
    exact UInt32.toNat_ofNat_of_lt' hsize
  refine h.ask_bind hm (fun answer => .call m.handle i _ answer.1 answer.2)
    (entryMade_call m i request) ?_
  intro called n' hcalled
  refine hcalled.ask_bind hm (fun answer => .status m.handle i answer.1 answer.2)
    (entryMade_status m i) ?_
  intro asked n'' hasked world
  rw [List.append_assoc] at hasked
  exact ⟨_, _, _, _, _, hlength, rfl, hasked.withWorld world⟩

/-- The instance is used. -/
theorem usingInstance (h : Entered n₀ made n) (hm : n₀.slot.loaded = some m) (i : Instance)
    (request : Request) (config : Option Bytes)
    (hsize : request.source.utf8ByteSize < UInt32.size) :
    Meets enters (fun o n' => ∃ status used, Uses m.handle i request config status used ∧
        o = .ok (used.flatMap Event.records, status) ∧ Entered n₀ (made ++ used) n')
      (usingInstance m i request config) n := by
  cases config with
  | none =>
      refine (h.runningSource hm i request hsize).mono (fun _ _ => id) ?_
      rintro o n' ⟨called, queried, status, asked, length, hlength, rfl, hmade⟩
      refine ⟨status, _, .called .nothing hlength, ?_, hmade⟩
      simp [Event.records]
  | some content =>
      refine h.ask_bind hm (fun answer => .loadConfig m.handle i content _ answer.1 answer.2)
        (entryMade_loadConfig m i content) ?_
      rintro ⟨records, status⟩ n' hconfigured
      dsimp only
      split
      · rename_i hstatus
        obtain rfl : status = 0 := hstatus
        refine .bind ((hconfigured.runningSource hm i request hsize).mono (fun _ _ => id) ?_)
        rintro o n'' ⟨called, queried, status, asked, length, hlength, rfl, hmade⟩ world
        rw [List.append_assoc] at hmade
        refine ⟨status, _, .called (.content content records 0) hlength, ?_, hmade.withWorld world⟩
        simp [Event.records]
      · rename_i hstatus
        intro world
        refine ⟨status, _, .refused (.content content records status) hstatus, ?_,
          hconfigured.withWorld world⟩
        simp [Event.records]

/-- The request is run on a module. -/
theorem runningOn (h : Entered n₀ [] n) (hm : n₀.slot.loaded = some m) (request : Request)
    (config : Option Bytes) (hsize : request.source.utf8ByteSize < UInt32.size) :
    Meets enters (fun o n' => ∃ made result, o = .ofExcept result ∧
        Protocol request config (some m) made result ∧ Entered n₀ made n')
      (runningOn m request config) n := by
  refine h.ask_bind hm (fun answer => .create m.handle _ answer.1 answer.2)
    (entryMade_create m request.timeout.toSingle) ?_
  rintro ⟨created, - | i⟩ n' hcreated
  · have hanswered := hcreated.answered m hm _ (List.mem_singleton_self _)
    exact fun world => ⟨_, .error .instanceCreation, rfl, .uncreated m created hanswered,
      hcreated.withWorld world⟩
  · refine .bind ((hcreated.usingInstance hm i request config hsize).mono (fun _ _ => id) ?_)
    rintro o n'' ⟨status, used, huses, rfl, hused⟩
    refine hused.ask_bind hm (fun records => .destroy m.handle i records)
      (entryMade_destroy m i) ?_
    intro destroyed n₃ hdestroyed world
    rw [List.append_assoc, List.append_assoc] at hdestroyed
    refine ⟨_, _, ?_, .destroyed m huses rfl (hdestroyed.answered m hm),
      hdestroyed.withWorld world⟩
    simp [Event.records, Outcome.ofExcept]

end Entered

/-- An execution whose acts are done one by one keeps to the protocol. -/
theorem meets_protocol (n₀ : Native W) (request : Request) (config : Option Bytes)
    (hsize : request.source.utf8ByteSize < UInt32.size) :
    Meets enters (fun o n => ∃ made result, o = .ofExcept result ∧
        Protocol request config n₀.slot.loaded made result ∧ Entered n₀ made n)
      (invoking request config) n₀ := by
  refine .ask_bind fun world => ?_
  have hbegun : Entered n₀ [] (n₀.withWorld world) := (Entered.begin n₀).withWorld world
  refine ⟨.inl rfl, ?_⟩
  dsimp only
  have hsame : (n₀.withWorld world).slot.loaded = n₀.slot.loaded := rfl
  rw [hsame]
  cases hm : n₀.slot.loaded with
  | none => exact fun world' => ⟨[], _, rfl, .unloaded, hbegun.withWorld world'⟩
  | some m =>
      dsimp only
      rw [if_neg (Nat.not_le.mpr hsize)]
      exact hbegun.runningOn hm request config hsize

/-! ### In one go -/

/-- From one state to another the module in the slot was entered again and again, with nobody else
about. -/
structure EnteredAll (n n' : Native W) : Prop where
  slot : n'.slot = n.slot
  answered : ∃ made, n'.trace = n.trace ++ made ∧
    ∀ m, n.slot.loaded = some m → m.AnswersAll n.world made n'.world

namespace EnteredAll

/-- Where nothing was done, nothing was entered. -/
theorem refl (n : Native W) : EnteredAll n n :=
  ⟨rfl, [], (List.append_nil _).symm, fun _ _ => .nil _⟩

/-- One more entry before the others. -/
theorem trans_enters {n₁ n₂ n₃ : Native W} (h : enters n₁ n₂) (hall : EnteredAll n₂ n₃) :
    EnteredAll n₁ n₃ := by
  rcases h with rfl | ⟨m, e, hm, hmade⟩
  · exact hall
  · obtain ⟨hslot, made, htrace, hanswers⟩ := hall
    refine ⟨hslot.trans hmade.slot, e :: made, ?_, fun m' hm' => ?_⟩
    · rw [htrace, hmade.trace, List.append_assoc, List.singleton_append]
    · obtain rfl : m = m' := Option.some.inj (hm.symm.trans hm')
      exact .cons hmade.answers (hanswers m (by rw [hmade.slot, hm]))

end EnteredAll

/-- Results are told apart as outcomes. -/
theorem ofExcept_inj {r r' : Except Failure α} (h : Outcome.ofExcept r = .ofExcept r') :
    r = r' := by
  cases r <;> cases r' <;> simp_all [Outcome.ofExcept]

/-- **Every execution keeps to the call protocol**, for a source of less than `2 ^ 32` bytes: in one
go, each entry in the world that the one before it left, and act by act in a world that changes in
between. The slot stays as it is. -/
theorem invoke_protocol (request : Request) (config : Option Bytes) (n : Native W)
    (hsize : request.source.utf8ByteSize < UInt32.size) :
    (∃ made, Protocol request config n.slot.loaded made (n.invoke request config).1 ∧
        Entered n made (n.invoke request config).2 ∧ ∀ m, n.slot.loaded = some m →
          m.AnswersAll n.world made (n.invoke request config).2.world) ∧
      Meets enters (fun o n' => ∃ made result, o = .ofExcept result ∧
          Protocol request config n.slot.loaded made result ∧ Entered n made n')
        (invoking request config) n := by
  have hmeets := n.meets_protocol request config hsize
  refine ⟨?_, hmeets⟩
  obtain ⟨made, result, hresult, hprotocol, hmade⟩ := hmeets.run
  obtain ⟨-, made', htrace, hanswers⟩ :=
    hmeets.run_trans EnteredAll.refl fun _ _ _ => EnteredAll.trans_enters
  rw [run_invoking] at hresult hmade htrace hanswers
  obtain rfl := ofExcept_inj hresult
  obtain rfl : made = made' := List.append_cancel_left (hmade.trace.symm.trans htrace)
  exact ⟨made, hprotocol, hmade, hanswers⟩

/-- A request with a configuration on a module that takes it: five entries, and the answer to the
source. -/
theorem invoke_protocol_calm :
    let n := ((init "vm.so" ()).load Platform.calm.load "vm.so").2
    let request : Request := ⟨.script, "1 + 1", 10, 0, by decide⟩
    request.source.utf8ByteSize < UInt32.size ∧
      ∃ made, Protocol request (some [1]) n.slot.loaded made (n.invoke request (some [1])).1 ∧
        Entered n made (n.invoke request (some [1])).2 ∧ ∀ m, n.slot.loaded = some m →
          m.AnswersAll n.world made (n.invoke request (some [1])).2.world := by
  intro n request
  have hsize : request.source.utf8ByteSize < UInt32.size := by decide
  exact ⟨hsize, (invoke_protocol request (some [1]) n hsize).1⟩

end Native

end ScriptHost
