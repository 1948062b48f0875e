import ScriptHost.Module.Library

/-!
# Libraries that are no modules

There are three reasons for which a path has no module (`Library.Unusable`), and only for these does
loading it fail (`Library.load_eq_error_iff`).

## Main definitions

* `Library.Unusable` — why a path has no module.
-/

namespace ScriptHost

namespace Library

variable {W : Type} {lib : Library W} {read : Bytes → Option (Library W)}
  {linker : Linker W} {symbolPrefix name : String} {files : FileTree} {cwd : Location}
  {path : Path}

/-- Why a path has no module. -/
inductive Unusable (read : Bytes → Option (Library W)) (linker : Linker W)
    (symbolPrefix : String) (files : FileTree) (cwd : Location) (path : Path) : Prop where
  /-- There is nothing. -/
  | missing (hmissing : files.exists? cwd path = false)
  /-- It is not a library. -/
  | unreadable (hopen : open? read linker files cwd path = none)
  /-- It lacks a symbol. -/
  | lacking {lib : Library W} {name : String}
      (hopen : open? read linker files cwd path = some lib) (hname : name ∈ entryPointNames)
      (hlacks : lib.resolve (symbolName symbolPrefix name) = none)

/-- An entry point is missing exactly if its symbol resolves to nothing. -/
theorem find_eq_error_iff (path : Path) : (∃ e, lib.find path symbolPrefix name = .error e) ↔
    lib.resolve (symbolName symbolPrefix name) = none := by
  unfold find
  cases lib.resolve (symbolName symbolPrefix name) <;> simp

/-- One step after another goes well if both do. -/
theorem exists_bind_eq_ok_iff {α β : Type} {x : Except Failure α} {f : α → Except Failure β} :
    (∃ b, (x >>= f) = .ok b) ↔ ∃ a, x = .ok a ∧ ∃ b, f a = .ok b := by
  cases x with
  | error e => simp [Bind.bind, Except.bind]
  | ok a => simp [Bind.bind, Except.bind]

/-- A library binds if it has a symbol for each name. -/
theorem exists_bind_eq_ok_iff_find : (∃ entry, lib.bind path symbolPrefix = .ok entry) ↔
    ∀ name ∈ entryPointNames, ∃ f, lib.find path symbolPrefix name = .ok f := by
  unfold bind
  simp only [exists_bind_eq_ok_iff, entryPointNames, List.forall_mem_cons, List.not_mem_nil,
    false_imp_iff, implies_true, and_true]
  constructor
  · rintro ⟨create, hcreate, destroy, hdestroy, config, hconfig, call, hcall, status, hstatus, -⟩
    exact ⟨⟨create, hcreate⟩, ⟨destroy, hdestroy⟩, ⟨config, hconfig⟩, ⟨call, hcall⟩,
      ⟨status, hstatus⟩⟩
  · rintro ⟨⟨create, hcreate⟩, ⟨destroy, hdestroy⟩, ⟨config, hconfig⟩, ⟨call, hcall⟩,
      ⟨status, hstatus⟩⟩
    exact ⟨create, hcreate, destroy, hdestroy, config, hconfig, call, hcall, status, hstatus, _,
      rfl⟩

/-- A result is an error if it is not a value. -/
theorem exists_eq_error_iff {α : Type} {x : Except Failure α} :
    (∃ e, x = .error e) ↔ ¬ ∃ a, x = .ok a := by
  cases x <;> simp

/-- A library cannot be bound exactly if one of its entry points is missing. -/
theorem bind_eq_error_iff (path : Path) : (∃ e, lib.bind path symbolPrefix = .error e) ↔
    ∃ name ∈ entryPointNames, lib.resolve (symbolName symbolPrefix name) = none := by
  simp only [exists_eq_error_iff, exists_bind_eq_ok_iff_find, ← find_eq_error_iff path]
  simp

/-- **A path has no module** for one of three reasons. -/
theorem load_eq_error_iff :
    (∃ e, (load read linker symbolPrefix files cwd path).1 = .error e) ↔
      Unusable read linker symbolPrefix files cwd path := by
  constructor
  · rintro ⟨e, hload⟩
    unfold load at hload
    split at hload
    · rename_i hexists
      split at hload
      · rename_i hopen
        exact .unreadable hopen
      · rename_i lib hopen
        cases hbind : lib.bind path symbolPrefix with
        | ok entry => simp [hbind] at hload
        | error e =>
            obtain ⟨name, hname, hlacks⟩ := (bind_eq_error_iff path).mp ⟨e, hbind⟩
            exact .lacking hopen hname hlacks
    · rename_i hmissing
      exact .missing (Bool.eq_false_iff.mpr hmissing)
  · intro hunusable
    unfold load
    cases hunusable with
    | missing hmissing => exact ⟨_, by rw [if_neg (by simp [hmissing])]⟩
    | unreadable hopen =>
        rw [hopen]
        split <;> exact ⟨_, rfl⟩
    | lacking hopen hname hlacks =>
        obtain ⟨e, hbind⟩ := (bind_eq_error_iff path).mpr ⟨_, hname, hlacks⟩
        rw [hopen]
        dsimp only
        rw [hbind]
        split <;> exact ⟨_, rfl⟩

end Library

end ScriptHost
