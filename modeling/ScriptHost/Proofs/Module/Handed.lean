import ScriptHost.Proofs.Module.Protocol

/-!
# What the entries of an execution are handed

An execution hands each entry what its request and its configuration say, and one that makes no
entry ends with an error (`Native.Handed`). This is the call protocol without the order of the
entries and without the answers to them, and it holds for sources of any size: one that is too large
makes no entry.

## Main definitions

* `Native.Executions` — a property of what an execution makes of the trace and of its result, in one
  go and act by act in a changing world.
-/

namespace ScriptHost

variable {W : Type} {request : Request} {config : Option Bytes}

/-- An entry is handed what the request and the configuration say. Of a configuration the length may
be cut to 32 bits, of a source it is not. -/
def Event.Hands (request : Request) (config : Option Bytes) : Event → Prop
  | .create _ maxRuntime _ _ => maxRuntime = request.timeout.toSingle
  | .loadConfig _ _ content length _ _ =>
    config = some content ∧ length = UInt32.ofNat content.length
  | .call _ _ arguments _ _ =>
    arguments.tag = request.tag.byte ∧ arguments.code = Utf8.encode request.source ∧
      arguments.length.toNat = arguments.code.length
  | _ => True

namespace Native

/-- A property of what an execution makes of the trace and of its result holds in one go, and act by
act in a world that changes in between. -/
def Executions (request : Request) (config : Option Bytes) (n : Native W)
    (property : List Event → Except Failure Invocation → Prop) : Prop :=
  (∃ made, property made (n.invoke request config).1 ∧
      Entered n made (n.invoke request config).2) ∧
    Meets enters (fun o n' => ∃ made result, o = .ofExcept result ∧ property made result ∧
      Entered n made n') (invoking request config) n

namespace Executions

variable {n : Native W} {property property' : List Event → Except Failure Invocation → Prop}

/-- In one go is a way of going act by act. -/
theorem of_meets (h : Meets enters (fun o n' => ∃ made result, o = .ofExcept result ∧
    property made result ∧ Entered n made n') (invoking request config) n) :
    Executions request config n property := by
  refine ⟨?_, h⟩
  obtain ⟨made, result, hresult, hproperty, hmade⟩ := h.run
  rw [run_invoking] at hresult hmade
  obtain rfl := ofExcept_inj hresult
  exact ⟨made, hproperty, hmade⟩

/-- What holds of all executions may be weakened. -/
theorem mono (h : Executions request config n property)
    (himp : ∀ made result, property made result → property' made result) :
    Executions request config n property' := by
  obtain ⟨⟨made, hproperty, hmade⟩, hmeets⟩ := h
  refine ⟨⟨made, himp _ _ hproperty, hmade⟩, hmeets.mono (fun _ _ => id) ?_⟩
  rintro o n' ⟨made', result, hresult, hproperty', hmade'⟩
  exact ⟨made', result, hresult, himp _ _ hproperty', hmade'⟩

end Executions

/-- Every execution of a source that is not too large keeps to the call protocol. -/
theorem executions_protocol (config : Option Bytes) (n : Native W)
    (hsize : request.source.utf8ByteSize < UInt32.size) :
    Executions request config n (Protocol request config n.slot.loaded) :=
  .of_meets (n.meets_protocol request config hsize)

/-- Every entry of an execution is handed what the request and the configuration say, and without an
entry there is an error. -/
structure Handed (request : Request) (config : Option Bytes) (made : List Event)
    (result : Except Failure Invocation) : Prop where
  hands : ∀ e ∈ made, e.Hands request config
  error_of_nil : made = [] → ∃ failure, result = .error failure

/-- Configuring an instance hands over the configuration, and nothing else. -/
theorem Configures.hands {handle : Handle} {i : Instance} {status : Int32} {made : List Event}
    (h : Configures handle i config status made) : ∀ e ∈ made, e.Hands request config := by
  cases h with
  | nothing => simp
  | content content records status =>
      rw [List.forall_mem_singleton]
      exact ⟨rfl, rfl⟩

/-- Using it hands over the configuration and the source. -/
theorem Uses.hands {handle : Handle} {i : Instance} {status : Int32} {made : List Event}
    (h : Uses handle i request config status made) : ∀ e ∈ made, e.Hands request config := by
  cases h with
  | refused hconfigured _ => exact hconfigured.hands
  | called hconfigured hlength =>
      rw [← Utf8.length_encode] at hlength
      rw [List.forall_mem_append]
      refine ⟨hconfigured.hands, ?_⟩
      rw [List.forall_mem_cons, List.forall_mem_singleton]
      exact ⟨⟨rfl, rfl, hlength⟩, trivial⟩

/-- What keeps to the protocol hands over what it should. -/
theorem Protocol.handed {slot : Option (LoadedModule W)} {made : List Event}
    {result : Except Failure Invocation} (h : Protocol request config slot made result) :
    Handed request config made result := by
  cases h with
  | unloaded => exact ⟨by simp, fun _ => ⟨_, rfl⟩⟩
  | uncreated m records _ =>
      refine ⟨?_, fun hnil => (List.cons_ne_nil _ _ hnil).elim⟩
      rw [List.forall_mem_singleton]
      rfl
  | destroyed m hused hentries _ =>
      subst hentries
      refine ⟨?_, fun hnil => (List.cons_ne_nil _ _ hnil).elim⟩
      rw [List.forall_mem_cons, List.forall_mem_append, List.forall_mem_singleton]
      exact ⟨rfl, hused.hands, trivial⟩

/-- **Every execution hands over what it should.** -/
theorem executions_handed (request : Request) (config : Option Bytes) (n₀ : Native W) :
    Executions request config n₀ (Handed request config) := by
  by_cases hsize : request.source.utf8ByteSize < UInt32.size
  · exact (executions_protocol config n₀ hsize).mono fun _ _ hprotocol => hprotocol.handed
  · -- Whatever is in the slot, no entry is made.
    refine .of_meets (.ask_bind fun world => ?_)
    have hbegun : Entered n₀ [] (n₀.withWorld world) := (Entered.begin n₀).withWorld world
    refine ⟨.inl rfl, ?_⟩
    have hfail (failure : Failure) (world' : W) : ∃ made result,
        (Outcome.failed failure : Outcome Invocation) = .ofExcept result ∧
          Handed request config made result ∧
          Entered n₀ made ((n₀.withWorld world).withWorld world') :=
      ⟨[], .error failure, rfl, ⟨by simp, fun _ => ⟨failure, rfl⟩⟩, hbegun.withWorld world'⟩
    dsimp only
    split
    · exact hfail _
    · rw [if_pos (Nat.not_lt.mp hsize)]
      exact hfail _

end Native

end ScriptHost
