import ScriptHost.Proofs.Module.History
import ScriptHost.Proofs.Module.Libraries
import ScriptHost.Site

/-!
# All entry points or none

What comes of loading a module from a library. The path has to exist, the file there has to be a
library, and the library has to export the symbols of all five entry points; then each entry point
is bound to the symbol of its own name. Otherwise nothing is bound: the error tells what was missing
first, a library that was opened is closed again, and the slot is left empty
(`Native.load_all_or_nothing`).

## Main definitions

* `Library.Exports`, `Library.Complete` — the symbols of a library.
* `Library.Opens` — the library that a path leads to.
* `Library.FirstMissing` — the symbol that an error names.
* `Library.Bound` — what an entry point is bound to.
* `Library.Answered` — the four ways in which a load ends.
-/

namespace ScriptHost

variable {V W : Type}

namespace Library

variable {lib : Library W} {read : Bytes → Option (Library W)} {linker : Linker W}
  {symbolPrefix symbol name : String} {names : List String} {files : FileTree} {cwd : Location}
  {path : Path} {entry : EntryPoints W} {e : Failure}

/-- A library exports a symbol, and under a name that can be asked for. -/
def Exports (lib : Library W) (symbol : String) : Prop :=
  '\x00' ∉ symbol.toList ∧ (lib.symbol? symbol).isSome

/-- A library exports the symbols of all entry points. -/
def Complete (lib : Library W) (symbolPrefix : String) : Prop :=
  ∀ name ∈ entryPointNames, lib.Exports (symbolName symbolPrefix name)

/-- A path leads to a library. -/
def Opens (read : Bytes → Option (Library W)) (linker : Linker W) (files : FileTree)
    (cwd : Location) (path : Path) (lib : Library W) : Prop :=
  ∃ content, files.readFile cwd (linker.expandPath path) = .ok content ∧ read content = some lib

/-- The first of some names whose symbol a library lacks. -/
inductive FirstMissing (lib : Library W) (symbolPrefix : String) : String → List String → Prop
  | here {name : String} {names : List String}
    (hlacks : ¬ lib.Exports (symbolName symbolPrefix name)) :
    FirstMissing lib symbolPrefix name (name :: names)
  | later {name other : String} {names : List String}
    (hexports : lib.Exports (symbolName symbolPrefix other))
    (hrest : FirstMissing lib symbolPrefix name names) :
    FirstMissing lib symbolPrefix name (other :: names)

/-- Every entry point is what the library has under its own name. -/
structure Bound (lib : Library W) (symbolPrefix : String) (entry : EntryPoints W) : Prop where
  create : (lib.resolve (symbolName symbolPrefix "create_instance")).map (·.create)
    = some entry.create
  destroy : (lib.resolve (symbolName symbolPrefix "destroy_instance")).map (·.destroy)
    = some entry.destroy
  loadConfig : (lib.resolve (symbolName symbolPrefix "load_config")).map (·.loadConfig)
    = some entry.loadConfig
  call : (lib.resolve (symbolName symbolPrefix "call")).map (·.call) = some entry.call
  status : (lib.resolve (symbolName symbolPrefix "status")).map (·.status) = some entry.status

/-- How a load ends, and what was opened and closed meanwhile. -/
inductive Answered (read : Bytes → Option (Library W)) (linker : Linker W) (symbolPrefix : String)
    (files : FileTree) (cwd : Location) (path : Path) :
      Except Failure (EntryPoints W) → List Handling → Prop
  /-- There is nothing. -/
  | absent (hmissing : files.exists? cwd path = false) :
    Answered read linker symbolPrefix files cwd path (.error (.load path absentDetail)) []
  /-- It is not a library. -/
  | unopened {detail : String} (hexists : files.exists? cwd path = true)
    (hnone : ∀ lib, ¬ Opens read linker files cwd path lib) (hdetail : detail ≠ absentDetail) :
    Answered read linker symbolPrefix files cwd path (.error (.load path detail)) []
  /-- It lacks a symbol. -/
  | lacking {lib : Library W} {name detail : String} (hexists : files.exists? cwd path = true)
    (hopens : Opens read linker files cwd path lib)
    (hfirst : lib.FirstMissing symbolPrefix name entryPointNames) :
    Answered read linker symbolPrefix files cwd path
      (.error (.missingSymbol path (symbolName symbolPrefix name) detail))
      [.opened path, .closed path]
  /-- It is a module. -/
  | bound {lib : Library W} {entry : EntryPoints W} (hexists : files.exists? cwd path = true)
    (hopens : Opens read linker files cwd path lib) (hbound : lib.Bound symbolPrefix entry) :
    Answered read linker symbolPrefix files cwd path (.ok entry) [.opened path]

/-! ### Symbols -/

/-- A symbol is found exactly if the library exports it. -/
theorem isSome_resolve_iff : (lib.resolve symbol).isSome ↔ lib.Exports symbol := by
  rw [resolve, Exports]
  split <;> simp_all

/-- An entry point is found as what its symbol resolves to. -/
theorem find_eq_ok_iff {found : EntryPoints W} :
    lib.find path symbolPrefix name = .ok found ↔
      lib.resolve (symbolName symbolPrefix name) = some found := by
  rw [find]
  split <;> simp_all

/-- An entry point is found exactly if its symbol is exported. -/
theorem exists_find_iff :
    (∃ found, lib.find path symbolPrefix name = .ok found) ↔
      lib.Exports (symbolName symbolPrefix name) := by
  simp only [find_eq_ok_iff, ← isSome_resolve_iff, Option.isSome_iff_exists]

/-- The names are gone through in their order, and the first one that is missing is told. -/
theorem firstMissing_of_find {α : Type} {next : EntryPoints W → Except Failure α}
    (h : (lib.find path symbolPrefix name >>= next) = .error e)
    (hnext : ∀ found, next found = .error e → ∃ missing,
      lib.FirstMissing symbolPrefix missing names ∧
        e = .missingSymbol path (symbolName symbolPrefix missing) systemDetail) :
    ∃ missing, lib.FirstMissing symbolPrefix missing (name :: names) ∧
      e = .missingSymbol path (symbolName symbolPrefix missing) systemDetail := by
  cases hfind : lib.find path symbolPrefix name with
  | error cause =>
      have hnone : ¬ ∃ found, lib.find path symbolPrefix name = .ok found := by
        rw [hfind]
        simp
      have hcause : cause = .missingSymbol path (symbolName symbolPrefix name) systemDetail := by
        rw [find] at hfind
        split at hfind <;> simp_all
      rw [hfind] at h
      exact ⟨name, .here (mt exists_find_iff.mpr hnone), (Except.error.inj h).symm.trans hcause⟩
  | ok found =>
      rw [hfind] at h
      obtain ⟨missing, hfirst, he⟩ := hnext found h
      exact ⟨missing, .later (exists_find_iff.mp ⟨found, hfind⟩) hfirst, he⟩

/-- **A library that does not bind lacks a symbol**, and the error names the first. -/
theorem firstMissing_of_bind (h : lib.bind path symbolPrefix = .error e) :
    ∃ missing, lib.FirstMissing symbolPrefix missing entryPointNames ∧
      e = .missingSymbol path (symbolName symbolPrefix missing) systemDetail := by
  refine firstMissing_of_find h fun create h => ?_
  refine firstMissing_of_find h fun destroy h => ?_
  refine firstMissing_of_find h fun loadConfig h => ?_
  refine firstMissing_of_find h fun call h => ?_
  refine firstMissing_of_find h fun status h => ?_
  cases h

/-- What follows a success has succeeded itself. -/
theorem bind_eq_ok {α β : Type} {x : Except Failure α} {next : α → Except Failure β} {b : β}
    (h : (x >>= next) = .ok b) : ∃ a, x = .ok a ∧ next a = .ok b := by
  cases x with
  | error cause => cases h
  | ok a => exact ⟨a, rfl, h⟩

/-- **Every entry point is bound to its own name.** -/
theorem bound_of_bind (h : lib.bind path symbolPrefix = .ok entry) :
    lib.Bound symbolPrefix entry := by
  obtain ⟨create, hcreate, h⟩ := bind_eq_ok h
  obtain ⟨destroy, hdestroy, h⟩ := bind_eq_ok h
  obtain ⟨loadConfig, hloadConfig, h⟩ := bind_eq_ok h
  obtain ⟨call, hcall, h⟩ := bind_eq_ok h
  obtain ⟨status, hstatus, h⟩ := bind_eq_ok h
  obtain rfl := Except.ok.inj h
  rw [find_eq_ok_iff] at hcreate hdestroy hloadConfig hcall hstatus
  constructor
  · rw [hcreate, Option.map_some]
  · rw [hdestroy, Option.map_some]
  · rw [hloadConfig, Option.map_some]
  · rw [hcall, Option.map_some]
  · rw [hstatus, Option.map_some]

/-- A library that can be bound has all its entry points. -/
theorem Bound.complete (h : lib.Bound symbolPrefix entry) : lib.Complete symbolPrefix := by
  have hsome : ∀ {α : Type} {f : EntryPoints W → α} {name : String} {a : α},
      (lib.resolve (symbolName symbolPrefix name)).map f = some a →
        lib.Exports (symbolName symbolPrefix name) := by
    intro α f name a heq
    rw [← isSome_resolve_iff, ← Option.isSome_map (f := f), heq, Option.isSome_some]
  simp only [Complete, entryPointNames, List.forall_mem_cons, List.not_mem_nil, false_imp_iff,
    implies_true, and_true]
  exact ⟨hsome h.create, hsome h.destroy, hsome h.loadConfig, hsome h.call, hsome h.status⟩

/-! ### Libraries -/

/-- A path with a slash is opened as a file. -/
theorem open?_eq_some_iff (hslash : '/' ∈ path.toList) :
    open? read linker files cwd path = some lib ↔ Opens read linker files cwd path lib := by
  rw [open?, if_pos (by simpa using hslash), ofFile?, Opens]
  cases files.readFile cwd (linker.expandPath path) <;> simp

/-- **How a load ends.** -/
theorem answered_load (symbolPrefix : String) (hslash : '/' ∈ path.toList) :
    Answered read linker symbolPrefix files cwd path
      (load read linker symbolPrefix files cwd path).1
      (load read linker symbolPrefix files cwd path).2 := by
  rw [load]
  split
  · rename_i hexists
    cases hopen : open? read linker files cwd path with
    | none =>
        refine .unopened hexists (fun lib hopens => ?_) (by decide)
        rw [(open?_eq_some_iff hslash).mpr hopens] at hopen
        cases hopen
    | some lib =>
        have hopens := (open?_eq_some_iff hslash).mp hopen
        dsimp only
        cases hbind : lib.bind path symbolPrefix with
        | ok entry => exact .bound hexists hopens (bound_of_bind hbind)
        | error e =>
            obtain ⟨missing, hfirst, rfl⟩ := firstMissing_of_bind hbind
            exact .lacking hexists hopens hfirst
  · rename_i hmissing
    exact .absent (Bool.eq_false_iff.mpr hmissing)

/-- A library that lacks a symbol was opened and is closed again. -/
theorem Answered.closed {r : Except Failure (EntryPoints W)} {handled : List Handling}
    {path' : Path} {detail : String}
    (h : Answered read linker symbolPrefix files cwd path r handled)
    (hr : r = .error (.missingSymbol path' symbol detail)) :
    handled = [.opened path, .closed path] := by
  cases h with
  | lacking => rfl
  | absent | unopened | bound => cases hr

/-- **When a load succeeds.** -/
theorem exists_load_eq_ok_iff (hslash : '/' ∈ path.toList) :
    (∃ entry, (load read linker symbolPrefix files cwd path).1 = .ok entry) ↔
      files.exists? cwd path = true ∧ ∃ lib, Opens read linker files cwd path lib ∧
        lib.Complete symbolPrefix := by
  constructor
  · rintro ⟨entry, hload⟩
    have hanswered : Answered read linker symbolPrefix files cwd path
        (load read linker symbolPrefix files cwd path).1
        (load read linker symbolPrefix files cwd path).2 := answered_load symbolPrefix hslash
    rw [hload] at hanswered
    generalize (load read linker symbolPrefix files cwd path).2 = handled at hanswered
    cases hanswered with
    | bound hexists hopens hbound => exact ⟨hexists, _, hopens, hbound.complete⟩
  · rintro ⟨hexists, lib, hopens, hcomplete⟩
    by_contra hnone
    have hfound : open? read linker files cwd path = some lib :=
      (open?_eq_some_iff hslash).mpr hopens
    cases load_eq_error_iff.mp (exists_eq_error_iff.mpr hnone) with
    | missing hmissing => simp [hexists] at hmissing
    | unreadable hopen => simp [hfound] at hopen
    | lacking hopen hname hlacks =>
        obtain rfl := Option.some.inj (hfound.symm.trans hopen)
        have hsome := isSome_resolve_iff.mpr (hcomplete _ hname)
        simp [hlacks] at hsome

end Library

namespace Native

/-- **A load binds all entry points or none.** For a path with a slash it succeeds exactly if the
path exists, a library lies there, and the library exports the symbols of all five names. It always
ends in one of the four ways, in which everything that was opened for nothing is closed again. And a
slot that is loaded by it holds what was bound, or nothing. -/
theorem load_all_or_nothing (read : Bytes → Option (Library W)) (linker : Linker W)
    (symbolPrefix : String) (files : FileTree) (cwd : Location) (path : Path)
    (hslash : '/' ∈ path.toList) (lift : EntryPoints W → EntryPoints V) (loader : Loader V)
    (n : Native V)
    (hloader : (loader path n.world).1
      = .ofExcept ((Library.load read linker symbolPrefix files cwd path).1.map lift)) :
    let answer := Library.load read linker symbolPrefix files cwd path
    let after := n.load loader path
    ((∃ entry, answer.1 = .ok entry) ↔
      files.exists? cwd path = true ∧ ∃ lib, Library.Opens read linker files cwd path lib ∧
        lib.Complete symbolPrefix) ∧
    Library.Answered read linker symbolPrefix files cwd path answer.1 answer.2 ∧
    (∀ entry, answer.1 = .ok entry →
      after.1 = .ok () ∧ after.2.slot = ⟨path, some ⟨n.handles, lift entry⟩⟩) ∧
    (∀ e, answer.1 = .error e → after.1 = .failed e ∧ after.2.slot = ⟨path, none⟩) := by
  intro answer after
  have houtcome : after.1 = (loader path n.world).1.map fun _ => () :=
    outcome_perform (x := .load path) rfl loader n
  have hslot : after.2.slot = ⟨path, (loader path n.world).1.value?.map (⟨n.handles, ·⟩)⟩ :=
    slot_perform (x := .load path) rfl loader n
  rw [hloader] at houtcome hslot
  refine ⟨Library.exists_load_eq_ok_iff hslash, Library.answered_load symbolPrefix hslash, ?_, ?_⟩
  · intro entry hanswer
    rw [hanswer] at houtcome hslot
    exact ⟨houtcome, hslot⟩
  · intro e hanswer
    rw [hanswer] at houtcome hslot
    exact ⟨houtcome, hslot⟩

/-- A site with a library in the working directory that lacks some symbols. -/
def siteWithLibrary (missing : List String) : Site where
  files := .ofList
    [(["vm.so"], .file (LineMachine.Image.without 1 false "sqfvm_" missing).encode true)]
  cwd := []
  environment := []
  linker := .bare
  machine := .empty

/-- Of two symbols that a library lacks the first is named, the library is closed, and the slot is
empty, although there was a module in it before. -/
theorem load_all_or_nothing_lacking :
    let s := siteWithLibrary ["load_config", "status"]
    let loader := Site.loader "sqfvm_"
    let image := LineMachine.Image.without 1 false "" []
    let entry := Site.machinePart.liftEntryPoints image.entryPoints
    let n : Native Site := { init "./old.so" s with slot := ⟨"./old.so", some ⟨0, entry⟩⟩ }
    let answer :=
      Library.load LineMachine.readLibrary s.linker "sqfvm_" s.files s.cwd "./vm.so"
    let e := .missingSymbol "./vm.so" "sqfvm_load_config" Library.systemDetail
    '/' ∈ "./vm.so".toList ∧
      (loader "./vm.so" n.world).1 = .ofExcept (answer.1.map Site.machinePart.liftEntryPoints) ∧
      answer.1 = .error e ∧ answer.2 = [.opened "./vm.so", .closed "./vm.so"] ∧
      (n.load loader "./vm.so").1 = .failed e ∧
      (n.load loader "./vm.so").2.slot = ⟨"./vm.so", none⟩ := by
  intro s loader image entry n answer e
  have hslash : '/' ∈ "./vm.so".toList := by decide
  have herror : answer.1.map (fun _ => ()) = .error e := by decide +kernel
  have hanswer : answer.1 = .error e := by
    cases h : answer.1 with
    | ok entry => simp [h, Except.map] at herror
    | error cause => simpa [h, Except.map] using herror
  obtain ⟨-, hanswered, -, hfailed⟩ := load_all_or_nothing LineMachine.readLibrary s.linker
    "sqfvm_" s.files s.cwd "./vm.so" hslash Site.machinePart.liftEntryPoints loader n rfl
  have hhandled : answer.2 = [.opened "./vm.so", .closed "./vm.so"] := hanswered.closed hanswer
  exact ⟨hslash, rfl, hanswer, hhandled, hfailed e hanswer⟩

end Native

end ScriptHost
