import ScriptHost.Host.Session

/-!
# How a host is set up

A host is set up with settings that are accepted and with the configuration that was read for its
module at that time, and begins with nothing done (`Host.create_eq_ok_iff`).
-/

namespace ScriptHost

/-- A configuration that was read is what the file held, if one is set. -/
theorem Settings.of_readModuleConfig_eq_ok {s : Settings} {files : FileTree} {cwd : Location}
    {config : Option Bytes} (hread : s.readModuleConfig files cwd = .ok config) :
    (∀ path, s.module.configFile = some path →
      ∃ content, files.readFile cwd path = .ok content ∧ config = some content) ∧
      (s.module.configFile = none → config = none) := by
  unfold readModuleConfig at hread
  constructor
  · intro path hpath
    rw [hpath] at hread
    cases hcontent : files.readFile cwd path with
    | ok content => exact ⟨content, rfl, by simpa [hcontent, eq_comm] using hread⟩
    | error e => simp [hcontent] at hread
  · intro hpath
    rw [hpath] at hread
    exact (Except.ok.inj hread).symm

namespace Host

variable {W : Type} {settings : Settings} {files : FileTree} {cwd : Location}
  {platform : Platform W} {world : W} {h : Host W}

/-- A host is made exactly if the settings pass the check and the configuration can be read. -/
theorem create_eq_ok_iff : create settings files cwd platform world = .ok h ↔
    settings.check = .ok () ∧ ∃ moduleConfig,
      settings.readModuleConfig files cwd = .ok moduleConfig ∧
        h = init settings moduleConfig platform world := by
  unfold create
  cases settings.check with
  | error e =>
      refine iff_of_false (fun h => ?_) fun h => ?_
      · cases h
      · cases h.1
  | ok accepted =>
      cases settings.readModuleConfig files cwd with
      | error e =>
          refine iff_of_false (fun h => ?_) fun h => ?_
          · cases h
          · obtain ⟨-, _, hread, -⟩ := h
            cases hread
      | ok moduleConfig =>
          constructor
          · intro h
            exact ⟨rfl, moduleConfig, rfl, (Except.ok.inj h).symm⟩
          · rintro ⟨-, _, hread, rfl⟩
            obtain rfl := Except.ok.inj hread
            rfl

/-- A host that was opened on a site was set up there, after the cleanup. -/
theorem openOn_eq_ok {part : Part W Site}
    (hopened : (openOn part platform settings world).1 = .ok h) :
    settings.check = .ok () ∧ ∃ moduleConfig,
      h = init settings moduleConfig platform (openOn part platform settings world).2 := by
  obtain ⟨hcheck, moduleConfig, -, heq⟩ := create_eq_ok_iff.mp hopened
  exact ⟨hcheck, moduleConfig, heq⟩

end Host

end ScriptHost
