import Mathlib.Data.String.Basic
import ScriptHost.Host.Session
import ScriptHost.Proofs.Files.Cleaning

/-!
# Opening a host

What opening a host does to the files of its site, whether it succeeds or not. All it does is the
cleanup of the shadow directory, and that goes by names alone: the file of the module is lost
exactly if the shadow directory is the directory it lies in, its name is that of a library, and its
path below the shadow directory is one the system takes (`Host.openOn_keeps_module_iff`). The
directory that is used when no other one is set is never that one, as long as it is no link: a file
tree has none, and no permissions either.

## Main definitions

* `FileTree.FileAt` — what a path leads to.
-/

namespace ScriptHost

/-- A path leads to a file. -/
structure FileTree.FileAt (t : FileTree) (cwd : Location) (p : Path) (l : Location)
    (content : Bytes) (executable : Bool) : Prop where
  resolve : t.resolve cwd p = .ok l
  find? : t.find? l = some (.file content executable)

namespace Host

variable {l : Location} {content : Bytes} {executable : Bool}

/-- Opening a host cleans the shadow directory, and does nothing else. -/
theorem site_openOn (platform : Platform Site) (settings : Settings) (s : Site) :
    (openOn .whole platform settings s).2
      = { s with files := (Shadow.cleanUp s.files s.cwd settings.module.shadowDir).2 } := rfl

/-- A file is a leftover if its directory is cleaned, its name is that of a library, and its path
below the directory is one the system takes. -/
theorem takes_file_iff {files : FileTree} {cwd : Location} {shadow : Path}
    (hfile : files.find? l = some (.file content executable)) :
    Shadow.Takes files cwd shadow l ↔
      ∃ directory name, l = directory ++ [name] ∧ Shadow.isLibraryName name = true ∧
        files.resolve cwd shadow = .ok directory ∧ files.find? directory = some .directory ∧
        FileTree.refusal? (Path.join shadow name) = none := by
  constructor
  · rintro ⟨directory, name, rfl, hresolve, hdirectory, hleftover⟩
    obtain ⟨hname, hpath, -⟩ := Shadow.isLeftover_iff.mp hleftover
    exact ⟨directory, name, rfl, hname, hresolve, hdirectory, hpath⟩
  · rintro ⟨directory, name, rfl, hname, hresolve, hdirectory, hpath⟩
    refine ⟨directory, name, rfl, hresolve, hdirectory, ?_⟩
    exact Shadow.isLeftover_iff.mpr ⟨hname, hpath, _, hfile, Entry.noConfusion⟩

/-- The directory that is used when no other one is set is not the one that the module lies in, in a
file tree without links. -/
theorem not_takes_defaultShadowDir {files : FileTree} {cwd : Location} {p : Path}
    (hfile : files.FileAt cwd p l content executable) :
    ¬ Shadow.Takes files cwd (defaultShadowDir p) l := by
  rintro ⟨directory, name, rfl, hresolve, -, -⟩
  have hne : files.find? (directory ++ [name]) ≠ some .directory := by simp [hfile.find?]
  obtain ⟨above, rfl, hl⟩ := FileTree.resolve_defaultShadowDir hfile.resolve hne hresolve
  -- The module is at most one step below the directory in which the shadow directory lies.
  rcases hl with hl | ⟨last, hl⟩
  · have hlength := congrArg List.length hl
    simp only [List.length_append, List.length_singleton, List.length_dropLast] at hlength
    omega
  · have hlength := congrArg List.length hl
    simp only [List.length_append, List.length_singleton] at hlength
    omega

/-- **When opening a host keeps the file of its module.** Whether the host is opened or not, the
path of the module leads to the same file with the same content afterwards, unless the shadow
directory is the directory that the file lies in, the file has the name of a library, and the path
of that name below the shadow directory is one the system takes. With no shadow directory set the
file is always kept.

All of this is about file trees without symbolic links and without permissions (`FileTree`). Both
count for what is kept with no shadow directory set: where the directory that is used then is a link
to the one that the module lies in, the cleanup finds the module in it; and where permissions forbid
a removal, a file is kept that is lost here. -/
theorem openOn_keeps_module_iff (platform : Platform Site) (settings : Settings) (s : Site)
    (hfile : s.files.FileAt s.cwd settings.module.path l content executable) :
    let after := (openOn .whole platform settings s).2
    (after.files.FileAt after.cwd settings.module.path l content executable ↔
      ¬ ∃ directory name, l = directory ++ [name] ∧ Shadow.isLibraryName name = true ∧
        s.files.resolve s.cwd settings.module.shadowDir = .ok directory ∧
        s.files.find? directory = some .directory ∧
        FileTree.refusal? (Path.join settings.module.shadowDir name) = none) ∧
    (settings.module.shadowDir? = none →
      after.files.FileAt after.cwd settings.module.path l content executable) := by
  intro after
  have hafter : after
      = { s with files := (Shadow.cleanUp s.files s.cwd settings.module.shadowDir).2 } :=
    site_openOn platform settings s
  rw [hafter]
  have hkept : ¬ Shadow.Takes s.files s.cwd settings.module.shadowDir l →
      (Shadow.cleanUp s.files s.cwd settings.module.shadowDir).2.FileAt s.cwd
        settings.module.path l content executable := fun h =>
    ⟨Shadow.resolve_cleanUp hfile.resolve h,
      (Shadow.find?_cleanUp_of_not_takes h).trans hfile.find?⟩
  refine ⟨?_, fun hnone => ?_⟩
  · rw [← takes_file_iff hfile.find?]
    refine ⟨fun h htakes => ?_, hkept⟩
    have hgone := Shadow.find?_cleanUp_of_takes htakes
    rw [h.find?] at hgone
    cases hgone
  · have hshadow : settings.module.shadowDir = defaultShadowDir settings.module.path := by
      rw [ModuleSettings.shadowDir, hnone, Option.getD_none]
    exact hkept (hshadow ▸ not_takes_defaultShadowDir hfile)

/-- A site with a module in a directory of its own and a leftover of it next to it. -/
def siteWithModule : Site where
  files := .ofList [(["lib"], .directory), (["lib", "vm.so"], .file [1] true),
    (["lib", ".vmbridge-shadow"], .directory),
    (["lib", ".vmbridge-shadow", "vm.so"], .file [2] true)]
  cwd := []
  environment := []
  linker := .bare
  machine := .empty

/-- Without a shadow directory in the settings the leftover is taken away and the module is not. -/
theorem openOn_keeps_module_lib :
    let settings : Settings := { module := { path := "lib/vm.so" } }
    let s := siteWithModule
    let after := (openOn .whole (Site.platform "sqfvm_") settings s).2
    s.files.FileAt s.cwd settings.module.path ["lib", "vm.so"] [1] true ∧
      after.files.FileAt after.cwd settings.module.path ["lib", "vm.so"] [1] true ∧
      after.files.find? ["lib", ".vmbridge-shadow", "vm.so"] = none := by
  intro settings s after
  have hfile : s.files.FileAt s.cwd settings.module.path ["lib", "vm.so"] [1] true :=
    ⟨by decide, by decide⟩
  exact ⟨hfile, (openOn_keeps_module_iff (Site.platform "sqfvm_") settings s hfile).2 rfl,
    by decide⟩

/-- The directory of the module as the shadow directory: the module is gone before it is loaded. -/
theorem openOn_loses_module :
    let settings : Settings := { module := { path := "lib/vm.so", shadowDir? := some "lib" } }
    let s := siteWithModule
    let after := (openOn .whole (Site.platform "sqfvm_") settings s).2
    s.files.FileAt s.cwd settings.module.path ["lib", "vm.so"] [1] true ∧
      after.files.find? ["lib", "vm.so"] = none ∧
      after.files.resolve after.cwd settings.module.path = .error .noEntry := by
  intro settings s after
  exact ⟨⟨by decide, by decide⟩, by decide, by decide⟩

end Host

end ScriptHost
