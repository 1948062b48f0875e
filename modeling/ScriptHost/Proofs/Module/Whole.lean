import ScriptHost.Proofs.Module.Handed

/-!
# Sources and configurations arrive whole

A module is given a source and a configuration each with a length of 32 bits, and reads no more than
that. A source always arrives whole: one that is too large is refused before the module is entered.
A configuration arrives whole exactly if it is shorter than `2 ^ 32` bytes
(`Native.arrives_whole_iff`); of a longer one the module that is given it sees the first
`length % 2 ^ 32` bytes.
-/

namespace ScriptHost

variable {W : Type} {request : Request} {config : Option Bytes} {made : List Event}
  {result : Except Failure Invocation}

namespace Native

/-- What is read of a source is all of it. -/
def SourceWhole (request : Request) (made : List Event) : Prop :=
  ∀ handle i arguments records status, .call handle i arguments records status ∈ made →
    arguments.code.take arguments.length.toNat = Utf8.encode request.source

/-- What is read of a configuration is all of it. -/
def ConfigWhole (config : Option Bytes) (made : List Event) : Prop :=
  ∀ handle i content length records status,
    .loadConfig handle i content length records status ∈ made →
      some (content.take length.toNat) = config

/-- An error without an entry, or all of what is handed over is read. -/
def WholeOrNothing (request : Request) (config : Option Bytes) (made : List Event)
    (result : Except Failure Invocation) : Prop :=
  (made = [] ∧ ∃ failure, result = .error failure) ∨
    (ConfigWhole config made ∧ SourceWhole request made)

/-- A configuration is handed over. -/
def Configured (made : List Event) : Prop :=
  ∃ handle i content length records status,
    .loadConfig handle i content length records status ∈ made

namespace Handed

/-- The source arrives whole wherever it is handed over. -/
theorem sourceWhole (h : Handed request config made result) : SourceWhole request made := by
  intro handle i arguments records status hmem
  obtain ⟨-, hcode, hlength⟩ := h.hands _ hmem
  rw [hlength, List.take_length, hcode]

/-- What is read of a configuration is cut where its length is. -/
theorem read_of_mem (h : Handed request config made result) {handle : Handle} {i : Instance}
    {content : Bytes} {length : UInt32} {records : List Record} {status : Int32}
    (hmem : .loadConfig handle i content length records status ∈ made) :
    config = some content ∧
      content.take length.toNat = content.take (content.length % UInt32.size) := by
  obtain ⟨hconfig, rfl⟩ := h.hands _ hmem
  exact ⟨hconfig, by rw [UInt32.toNat_ofNat']⟩

/-- A configuration arrives whole exactly if its length fits the number that is handed over with it.
-/
theorem configWhole_iff (h : Handed request config made result) :
    ConfigWhole config made ↔
      (Configured made → ∀ content, config = some content → content.length < UInt32.size) := by
  constructor
  · rintro hwhole ⟨handle, i, content, length, records, status, hmem⟩ content' hcontent'
    obtain ⟨hcontent, hread⟩ := h.read_of_mem hmem
    obtain rfl : content = content' := Option.some.inj (hcontent.symm.trans hcontent')
    have hall := hwhole _ _ _ _ _ _ hmem
    rw [hread, hcontent] at hall
    have hlength := congrArg List.length (Option.some.inj hall)
    rw [List.length_take] at hlength
    have hlt : content.length % UInt32.size < UInt32.size := Nat.mod_lt _ (by decide)
    omega
  · intro hfits handle i content length records status hmem
    obtain ⟨hcontent, hread⟩ := h.read_of_mem hmem
    have hlt := hfits ⟨_, _, _, _, _, _, hmem⟩ content hcontent
    rw [hread, Nat.mod_eq_of_lt hlt, List.take_length, hcontent]

/-- With no entry there is nothing that could have been read. -/
theorem wholeOrNothing_iff (h : Handed request config made result) :
    WholeOrNothing request config made result ↔ ConfigWhole config made := by
  refine ⟨?_, fun hconfig => .inr ⟨hconfig, h.sourceWhole⟩⟩
  rintro (⟨rfl, -⟩ | ⟨hconfig, -⟩)
  · intro _ _ _ _ _ _ hmem
    cases hmem
  · exact hconfig

end Handed

/-- **When everything arrives whole or not at all.** Without an entry there is an error, and a
source that is handed over is read in whole. With the configuration it is the same unless it has
`2 ^ 32` bytes or more and is handed over all the same. -/
theorem arrives_whole_iff (request : Request) (config : Option Bytes) (n : Native W) :
    Executions request config n fun made result =>
      (made = [] → ∃ failure, result = .error failure) ∧ SourceWhole request made ∧
        (WholeOrNothing request config made result ↔
          (Configured made → ∀ content, config = some content → content.length < UInt32.size)) := by
  refine (executions_handed request config n).mono fun made result h => ?_
  exact ⟨h.error_of_nil, h.sourceWhole, h.wholeOrNothing_iff.trans h.configWhole_iff⟩

/-! ### A configuration that is lost -/

/-- Among more events there is still a configuration. -/
theorem Configured.mono {made' : List Event} (h : Configured made) (hsub : made ⊆ made') :
    Configured made' := by
  obtain ⟨handle, i, content, length, records, status, hmem⟩ := h
  exact ⟨handle, i, content, length, records, status, hsub hmem⟩

/-- An instance that is used with a configuration has been given one. -/
theorem Uses.configured {handle : Handle} {i : Instance} {content : Bytes} {status : Int32}
    (h : Uses handle i request (some content) status made) : Configured made := by
  cases h with
  | refused hconfigured _ =>
      cases hconfigured
      exact ⟨_, _, _, _, _, _, List.mem_singleton_self _⟩
  | called hconfigured _ =>
      cases hconfigured
      exact ⟨_, _, _, _, _, _, List.mem_cons_self⟩

/-- A configuration of any size is handed over as soon as there is an instance. -/
theorem configured_of_created {m : LoadedModule W} (content : Bytes) {n : Native W} {i : Instance}
    (hm : n.slot.loaded = some m) (hsize : request.source.utf8ByteSize < UInt32.size)
    (hcreated : (m.entry.create request.timeout.toSingle n.world).1.2 = some i) :
    ∃ made, Entered n made (n.invoke request (some content)).2 ∧
      Handed request (some content) made (n.invoke request (some content)).1 ∧
      Configured made := by
  obtain ⟨⟨made, hprotocol, hmade⟩, -⟩ :=
    executions_protocol (some content) n hsize
  refine ⟨made, hmade, hprotocol.handed, ?_⟩
  have hok : ∃ invocation, (n.invoke request (some content)).1 = .ok invocation := by
    rw [invoke, hm]
    dsimp only
    rw [if_neg (Nat.not_le.mpr hsize), runOn, enterCreate]
    dsimp only
    rw [hcreated]
    exact ⟨_, rfl⟩
  obtain ⟨invocation, hok⟩ := hok
  rw [hok, hm] at hprotocol
  cases hprotocol with
  | destroyed m hused hentries _ =>
      subst hentries
      refine hused.configured.mono fun e he => ?_
      exact List.mem_cons_of_mem _ (List.mem_append_left _ he)

/-- A configuration of `2 ^ 32` bytes is handed over, and it is not read in whole. -/
theorem config_lost :
    let n := ((init "vm.so" ()).load Platform.calm.load "vm.so").2
    let request : Request := ⟨.script, "1 + 1", 10, 0, by decide⟩
    let config : Option Bytes := some (List.replicate UInt32.size 0)
    ∃ made, Entered n made (n.invoke request config).2 ∧
      ¬ WholeOrNothing request config made (n.invoke request config).1 := by
  intro n request config
  have hsize : request.source.utf8ByteSize < UInt32.size := by decide
  obtain ⟨made, hmade, hhanded, hconfigured⟩ :=
    configured_of_created (n := n) (List.replicate UInt32.size 0) rfl hsize rfl
  refine ⟨made, hmade, fun hwhole => ?_⟩
  have hfits := hhanded.configWhole_iff.mp (hhanded.wholeOrNothing_iff.mp hwhole) hconfigured
  have hlt := hfits (List.replicate UInt32.size 0) rfl
  rw [List.length_replicate] at hlt
  exact Nat.lt_irrefl _ hlt

end Native

end ScriptHost
