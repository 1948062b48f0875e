import ScriptHost.Proofs.Host.Opening

/-!
# What a refused start leaves behind

A host is opened in two steps: leftovers of an earlier host are removed from the shadow directory,
and then the settings are checked and the configuration of the module is read. A host that is
refused for its settings or its configuration has been through the first step all the same. Nothing
but leftovers is different afterwards, and where there are none, nothing at all
(`Host.refused_start`); a leftover is gone (`Host.refused_start_cleans`).

## Main definitions

* `Host.StartFault` — why a host is refused.
-/

namespace ScriptHost

/-- With no leftovers a cleanup changes nothing. -/
theorem Shadow.files_cleanUp_of_no_leftovers {files : FileTree} {cwd : Location} {directory : Path}
    (h : ∀ k, ¬ Takes files cwd directory k) : (cleanUp files cwd directory).2 = files := by
  by_cases hl : ∃ l, files.resolve cwd directory = .ok l ∧ files.find? l = some .directory
  · obtain ⟨l, hl, hdirectory⟩ := hl
    rw [cleanUp_of_no_leftovers hl hdirectory h]
  · exact cleanUp_of_not_directory fun l hr hd => hl ⟨l, hr, hd⟩

namespace Host

/-- Why a host is refused on a site: its settings have a fault, or the file of the configuration
cannot be read. -/
inductive StartFault (settings : Settings) (s : Site) : Failure → Prop where
  | settings {e : Failure} (hcheck : settings.check = .error e) : StartFault settings s e
  | configuration {e : Failure} (hcheck : settings.check = .ok ())
    (hread : settings.readModuleConfig s.files s.cwd = .error e) : StartFault settings s e

variable {platform : Platform Site} {settings : Settings} {s : Site} {e : Failure}

theorem startFault_of_openOn (hrefused : (openOn .whole platform settings s).1 = .error e) :
    StartFault settings (openOn .whole platform settings s).2 e := by
  generalize hafter : (openOn .whole platform settings s).2 = after
  have hcreate : create settings after.files after.cwd platform after = .error e := by
    rw [← hafter]
    exact hrefused
  unfold create at hcreate
  cases hcheck : settings.check with
  | error e' =>
      rw [hcheck] at hcreate
      obtain rfl := Except.error.inj hcreate
      exact .settings hcheck
  | ok accepted =>
      refine .configuration hcheck ?_
      cases hread : settings.readModuleConfig after.files after.cwd with
      | error e' =>
          rw [hcheck, hread] at hcreate
          obtain rfl := Except.error.inj hcreate
          rfl
      | ok content =>
          rw [hcheck, hread] at hcreate
          cases hcreate

/-- **What a refused start leaves behind.** A host that is refused has a fault in its settings or a
configuration that cannot be read. Nothing outside the file tree is different afterwards, and
nothing in it but the places of leftovers, which are files with the name of a library directly in
the shadow directory. With no leftovers the file tree is exactly what it was. A leftover that is not
the file of the module itself is gone. -/
theorem refused_start (hrefused : (openOn .whole platform settings s).1 = .error e) :
    let after := (openOn .whole platform settings s).2
    let Leftover := Shadow.Takes s.files s.cwd settings.module.shadowDir
    StartFault settings after e ∧ after = { s with files := after.files } ∧
      (∀ k, ¬ Leftover k → after.files.find? k = s.files.find? k) ∧
      ((∀ k, ¬ Leftover k) → after.files = s.files) ∧
      ∀ k, Leftover k → s.files.resolve s.cwd settings.module.path ≠ .ok k →
        after.files.find? k = none := by
  intro after Leftover
  have hafter : after
      = { s with files := (Shadow.cleanUp s.files s.cwd settings.module.shadowDir).2 } :=
    site_openOn platform settings s
  refine ⟨startFault_of_openOn hrefused, ?_⟩
  rw [hafter]
  refine ⟨rfl, fun k hk => ?_, fun hnone => ?_, fun k hk _ => ?_⟩
  · exact Shadow.find?_cleanUp_of_not_takes hk
  · exact Shadow.files_cleanUp_of_no_leftovers hnone
  · exact Shadow.find?_cleanUp_of_takes hk

/-- A site with a leftover in the shadow directory, and a file next to it that is none. -/
def siteWithLeftover : Site where
  files := .ofList [(["shadow"], .directory), (["shadow", "old.so"], .file [1] false),
    (["shadow", "notes.txt"], .file [2] false)]
  cwd := []
  environment := []
  linker := .bare
  machine := .empty

/-- Settings that build with no jobs are refused; the file that is no leftover is kept. -/
theorem refused_start_keeps :
    let settings : Settings :=
      { module := { shadowDir? := some "shadow" }, rebuild := { jobs := 0 } }
    let s := siteWithLeftover
    let opened := openOn .whole (Site.platform "sqfvm_") settings s
    let e : Failure := .config "rebuild.jobs must be at least 1"
    opened.1 = .error e ∧ StartFault settings opened.2 e ∧
      opened.2.files.find? ["shadow", "notes.txt"] = some (.file [2] false) := by
  intro settings s opened e
  have hrefused : opened.1 = .error e := by rfl
  obtain ⟨hfault, -, hkept, -, -⟩ := refused_start hrefused
  refine ⟨hrefused, hfault, (hkept _ ?_).trans (by decide)⟩
  rw [takes_file_iff (by decide : s.files.find? ["shadow", "notes.txt"] = some (.file [2] false))]
  rintro ⟨directory, name, hl, hname, -⟩
  have hlast : "notes.txt" = name := by simpa using congrArg List.getLast? hl
  subst hlast
  revert hname
  decide

/-- The same start takes the leftover away, so that the file tree is not what it was. -/
theorem refused_start_cleans :
    let settings : Settings :=
      { module := { shadowDir? := some "shadow" }, rebuild := { jobs := 0 } }
    let s := siteWithLeftover
    let opened := openOn .whole (Site.platform "sqfvm_") settings s
    opened.1 = .error (.config "rebuild.jobs must be at least 1") ∧
      s.files.find? ["shadow", "old.so"] = some (.file [1] false) ∧
      opened.2.files.find? ["shadow", "old.so"] = none ∧ opened.2.files ≠ s.files := by
  intro settings s opened
  have hgone : opened.2.files.find? ["shadow", "old.so"] = none := by decide
  have hthere : s.files.find? ["shadow", "old.so"] = some (.file [1] false) := by decide
  refine ⟨by rfl, hthere, hgone, fun hsame => ?_⟩
  rw [hsame, hthere] at hgone
  cases hgone

end Host

end ScriptHost
