import ScriptHost.Proofs.Host.Admission
import ScriptHost.Proofs.Host.Creation
import ScriptHost.Proofs.Host.Unstuck
import ScriptHost.Proofs.Number.Durations
import ScriptHost.Proofs.Settings.Checks

/-!
# What can be left to the settings

A host that was set up can always use its defaults (`Host.run_defaults`). Whoever brings a source
and nothing else makes a request of it, in the default language and with the default timeout; and
the module that is loaded when the caller is admitted is entered with these, and with the
configuration that was read when the host was set up. Nothing that happens in between makes a
difference, to the file, to the module or at the gate.

## Proof idea

The settings were checked and the configuration was read when the host was set up
(`Host.create_eq_ok_iff`), and both stay as they are. So the demand is not refused
(`Host.asks_default`), and what is known of executions is known of this one from the moment of its
admission (`Host.execution_of_admits`).

## Main definitions

* `Host.ByDefault` — what becomes of a source that is brought with nothing else.
-/

namespace ScriptHost

open Number

variable {W : Type}

namespace Native

variable {request : Request} {config : Option Bytes} {m : Option (LoadedModule W)}
  {made : List Event} {result : Except Failure Invocation}

/-- Without a module the result is that there is none, and only then. -/
theorem Protocol.notReady_iff (h : Protocol request config m made result) :
    result = .error .notReady ↔ m = none := by
  cases h <;> simp

/-- No request that was made is said to be a bad one. -/
theorem Protocol.accepted (h : Protocol request config m made result) :
    (∀ language, result ≠ .error (.unsupportedLanguage language)) ∧
      ∀ detail, result ≠ .error (.config detail) := by
  cases h <;> simp

/-- A configuration that is not too large reaches the module whole. -/
theorem Protocol.config_whole (h : Protocol request config m made result)
    (hsize : ∀ content ∈ config, content.length < UInt32.size) {handle : Handle} {i : Instance}
    {content : Bytes} {length : UInt32} {records : List Record} {status : Int32}
    (hmem : .loadConfig handle i content length records status ∈ made) :
    config = some content ∧ length.toNat = content.length := by
  obtain ⟨hconfig, rfl⟩ := h.handed.hands _ hmem
  exact ⟨hconfig, UInt32.toNat_ofNat_of_lt' (hsize content hconfig)⟩

end Native

namespace Host

/-- **What becomes of a source** that a new caller brings with nothing else. -/
structure ByDefault (settings : Settings) (files : FileTree) (cwd : Location) (h : Host W)
    (events : List Event) (t : Ticket) (request : Request) : Prop where
  /-- There is a default language, and it is taken. -/
  language : Tag.ofLanguage settings.execution.defaultLanguage = .ok request.tag
  /-- The default timeout is a duration, and it is taken. -/
  timeout : Duration.ofSeconds? settings.execution.defaultTimeout = some request.timeout
  /-- It is rounded to nanoseconds. -/
  nearest : |(request.timeout.totalNanos : ℚ)
    - settings.execution.defaultTimeout.toRat * 1000000000| ≤ 1 / 2
  /-- The configuration is what the file held when the host was set up. -/
  configured : ∀ path, settings.module.configFile = some path →
    ∃ content, files.readFile cwd path = .ok content ∧ h.moduleConfig = some content
  /-- Without a file there is none. -/
  unconfigured : settings.module.configFile = none → h.moduleConfig = none
  /-- The caller is answered, unless it goes away. -/
  comes : (h.run events).Attends t → (h.run events).Comes fun k => ∃ r, k.answer? t = some r
  /-- The answer is not that the language or a setting is a bad one. -/
  accepted : ∀ r, (h.run events).answer? t = some r →
    (∀ language, r ≠ .error (.unsupportedLanguage language)) ∧ ∀ detail, r ≠ .error (.config detail)
  /-- Before the answer the caller was admitted. -/
  admitted : ∀ r, (h.run events).answer? t = some r →
    ∃ before e after, events = before ++ e :: after ∧ (h.run before).Admits e t
  /-- The answer is that there is no module exactly if none is loaded at that moment. -/
  notReady : ∀ before e after r, events = before ++ e :: after → (h.run before).Admits e t →
    (h.run events).answer? t = some r →
    (r = .error .notReady ↔ (h.run before).native.slot.loaded = none)
  /-- What is loaded then is entered with the request and the configuration, and answers. What was
  done so far is a beginning of that; with an answer it is all of it, and the answer is the
  result. -/
  entered : ∀ before e after, events = before ++ e :: after → (h.run before).Admits e t →
    ∃ made result,
      Native.Protocol request h.moduleConfig (h.run before).native.slot.loaded made result ∧
        madeBy (h.actsOf events) t <+: made ∧
        ∀ r, (h.run events).answer? t = some r → madeBy (h.actsOf events) t = made ∧
          r = result.map fun i =>
            .report (Report.ofInvocation i request.tag settings.execution.outputBudget)
  /-- Each act makes one entry at most, and what is noted of it is what the module has answered, in
  the world in which it was made. -/
  answered : ∀ a ∈ h.actsOf events, a.ticket = t → Native.enters a.before a.after
  /-- No byte of the configuration is missing. -/
  whole : ∀ before e after, events = before ++ e :: after → (h.run before).Admits e t →
    ∀ handle i content length records status,
      .loadConfig handle i content length records status ∈ madeBy (h.actsOf events) t →
      h.moduleConfig = some content ∧ length.toNat = content.length

variable {settings : Settings} {files : FileTree} {cwd : Location} {platform : Platform W}
  {world : W} {h : Host W} {events before after : List Event} {t : Ticket} {source : String}
  {request : Request} {e : Event} {moduleConfig : Option Bytes}

/-- Settings that were accepted make a request of every source. -/
theorem asks_default (hcheck : h.settings.check = .ok ()) (hnew : (h.run before).isNew t)
    (source : String) (after : List Event) :
    ∃ tag, Tag.ofLanguage h.settings.execution.defaultLanguage = .ok tag ∧
      h.Asks (before ++ .arrive t (.execute none source none) :: after) t
        ⟨tag, source, h.settings.execution.timeout⟩ := by
  obtain ⟨tag, htag⟩ := (Settings.check_eq_ok_iff.mp hcheck).language
  exact ⟨tag, htag, before, _, after, rfl, hnew, .made (h.requestFor_eq_ok none source none htag)⟩

/-- Where the execution of a request ends that was admitted, from what was in the slot. -/
theorem protocol_of_admits (hsource : request.source.utf8ByteSize < UInt32.size)
    (hasks : (init settings moduleConfig platform world).Asks events t request)
    (heq : events = before ++ e :: after)
    (hadmits : ((init settings moduleConfig platform world).run before).Admits e t) :
    let h := init settings moduleConfig platform world
    ∃ made result,
      Native.Protocol request moduleConfig (h.run before).native.slot.loaded made result ∧
        madeBy (h.actsOf events) t <+: made ∧
        ∀ r, (h.run events).answer? t = some r → madeBy (h.actsOf events) t = made ∧
          r = result.map fun i =>
            .report (Report.ofInvocation i request.tag settings.execution.outputBudget) := by
  subst heq
  obtain ⟨made, result, hprotocol, hbegun, hanswered⟩ :=
    execution_of_admits hasks hadmits (Native.executions_protocol moduleConfig _ hsource)
  exact ⟨made, result, hprotocol, hbegun, fun r hr => hanswered r (hasks.answered hr)⟩

/-- **Defaults can always be used.** Whatever else callers, modules and commands do, and whatever
happens to the file of the configuration. -/
theorem run_defaults (hcreate : create settings files cwd platform world = .ok h)
    (hconfig : ∀ content ∈ h.moduleConfig, content.length < UInt32.size)
    (hsource : source.utf8ByteSize < UInt32.size) (hnew : (h.run before).isNew t)
    (after : List Event) :
    ∃ request, request.source = source ∧ h.ByDefault settings files cwd
      (before ++ .arrive t (.execute none source none) :: after) t request := by
  obtain ⟨hcheck, moduleConfig, hread, rfl⟩ := create_eq_ok_iff.mp hcreate
  obtain ⟨tag, htag, hasks⟩ := asks_default hcheck hnew source after
  obtain ⟨-, htimeout⟩ := (Settings.check_eq_ok_iff.mp hcheck).ofSeconds?
  obtain ⟨hconfigured, hunconfigured⟩ := Settings.of_readModuleConfig_eq_ok hread
  have hadmitted := fun r hr => exists_admits_of_answered (r := r) hasks (hasks.answered hr)
  refine ⟨⟨tag, source, settings.execution.timeout⟩, rfl, ?_⟩
  constructor
  case language => exact htag
  case timeout => exact htimeout
  case nearest => exact Duration.abs_totalNanos_sub_le htimeout
  case configured => exact hconfigured
  case unconfigured => exact hunconfigured
  case comes => exact Reachable.comes_answer ⟨settings, moduleConfig, platform, world, _, rfl⟩
  case accepted =>
    intro r hr
    obtain ⟨before, e, after, heq, hadmits⟩ := hadmitted r hr
    obtain ⟨made, result, hprotocol, -, hanswered⟩ :=
      protocol_of_admits hsource hasks heq hadmits
    obtain ⟨-, rfl⟩ := hanswered r hr
    obtain ⟨hlanguage, hsetting⟩ := hprotocol.accepted
    cases result <;> simp_all [Except.map]
  case admitted => exact hadmitted
  case notReady =>
    intro before e after r heq hadmits hr
    obtain ⟨made, result, hprotocol, -, hanswered⟩ :=
      protocol_of_admits hsource hasks heq hadmits
    obtain ⟨-, rfl⟩ := hanswered r hr
    rw [← hprotocol.notReady_iff]
    cases result <;> simp [Except.map]
  case entered => exact fun before e after heq => protocol_of_admits hsource hasks heq
  case answered => exact enters_of_asks settings moduleConfig platform world hasks
  case whole =>
    intro before e after heq hadmits handle i content length records status hmem
    obtain ⟨made, result, hprotocol, hbegun, -⟩ :=
      protocol_of_admits hsource hasks heq hadmits
    exact hprotocol.config_whole hconfig (hbegun.subset hmem)

/-- With a configuration of two bytes: the caller comes after the start of the module, and the
configuration is among what the module is entered with. -/
theorem run_defaults_configured :
    let settings : Settings := { module := { configFile := some "vm.cfg" } }
    let files : FileTree := .ofList [(["vm.cfg"], .file [1, 2] false)]
    let before : List Event := [.arrive 0 .start, .work, .work, .work]
    let after : List Event := List.replicate 7 .work ++ [.poll 1]
    let events := before ++ .arrive 1 (.execute none "1 + 1" none) :: after
    ∃ h, create settings files [] Platform.calm () = .ok h ∧
      (∀ content ∈ h.moduleConfig, content.length < UInt32.size) ∧
      "1 + 1".utf8ByteSize < UInt32.size ∧ (h.run before).isNew 1 ∧
      .loadConfig 0 0 [1, 2] 2 [] 0 ∈ (h.run events).native.trace ∧
      ∃ request, request.source = "1 + 1" ∧ h.ByDefault settings files [] events 1 request := by
  intro settings files before after events
  have hcreate : create settings files [] Platform.calm () =
      .ok (init settings (some [1, 2]) Platform.calm ()) :=
    create_eq_ok_iff.mpr ⟨by decide +kernel, _, by rfl, rfl⟩
  have hconfig : ∀ content ∈ (some [1, 2] : Option Bytes), content.length < UInt32.size := by
    decide
  have hsource : "1 + 1".utf8ByteSize < UInt32.size := by decide
  exact ⟨_, hcreate, hconfig, hsource, by rfl, by decide +kernel,
    run_defaults hcreate hconfig hsource (by rfl) after⟩

end Host

end ScriptHost
