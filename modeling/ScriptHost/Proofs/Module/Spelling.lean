import Mathlib.Data.String.Basic
import ScriptHost.Proofs.Files.Resolution
import ScriptHost.Proofs.Module.Binding

/-!
# Two spellings of a path

A relative path and the same path with `./` in front name the same file, and the file is looked for
under both spellings alike. The library is not: without a slash in its path it is not the file that
is opened but what is found by name elsewhere. Loading a library ends alike under both spellings
exactly if the path has a slash and leaves room for two more bytes, or if what is found by name
happens to be as good as the file (`Library.load_alike_iff`).

## Main definitions

* `Library.Alike` — two loads end alike.
* `Library.AsGood` — two libraries that are opened, or not, bind alike.
* `Library.NoneOfSystem` — what is to be known of the system's own libraries.
-/

namespace ScriptHost

variable {W : Type}

namespace FileTree

variable {t : FileTree} {cwd here l next : Location} {p : Path} {part : String}

/-- What goes one step is no longer than a name. -/
theorem utf8ByteSize_le_of_step (h : t.step here part = .ok next) :
    part.utf8ByteSize ≤ maxName := by
  rw [step, (step_cases h).1] at h
  dsimp only at h
  split at h
  · rename_i hidle
    rcases (by simpa using hidle : part = "" ∨ part = ".") with rfl | rfl <;> decide
  · split at h
    · rename_i hup
      rw [hup]
      decide
    · split at h
      · cases h
      · rename_i hshort
        exact Nat.not_lt.mp hshort

/-- A path without a slash that names something is no longer than a name. -/
theorem utf8ByteSize_le_of_resolve (hslash : '/' ∉ p.toList) (h : t.resolve cwd p = .ok l) :
    p.utf8ByteSize ≤ maxName := by
  obtain ⟨-, hwalk⟩ := resolve_eq_ok_iff.mp h
  rw [Path.parts, Path.splitSlash_of_notMem hslash, List.map_singleton, String.ofList_toList,
    walk_singleton] at hwalk
  exact utf8ByteSize_le_of_step hwalk

/-- A path that begins with a dot is relative. -/
theorem isAbsolute_dot (p : Path) : Path.isAbsolute ("./" ++ p) = false := by
  simp [Path.isAbsolute]

/-- Its first part is the dot. -/
theorem parts_dot (p : Path) : Path.parts ("./" ++ p) = "." :: Path.parts p := by
  have h : ("./" ++ p).toList = ['.'] ++ '/' :: p.toList := by simp
  rw [Path.parts, h, Path.splitSlash_append_slash]
  rfl

/-- **A path with `./` in front leads to the same place**, if it is not too long then. -/
theorem resolve_dot (hrelative : Path.isAbsolute p = false)
    (hfits : ("./" ++ p).utf8ByteSize ≤ maxPath) (h : t.resolve cwd p = .ok l) :
    t.resolve cwd ("./" ++ p) = .ok l := by
  obtain ⟨hallowed, hwalk⟩ := resolve_eq_ok_iff.mp h
  have horigin : origin cwd p = cwd := by rw [origin, hrelative]; rfl
  rw [horigin] at hwalk
  refine resolve_eq_ok_iff.mpr ⟨?_, ?_⟩
  · have hnul : '\x00' ∉ p.toList := by
      intro hmem
      rw [refusal?, if_pos (by simpa using hmem)] at hallowed
      cases hallowed
    rw [refusal?, if_neg (by simpa using hnul), if_neg (Nat.not_lt.mpr hfits), if_neg (by simp)]
  · -- The first step of the path begins in the working directory, and so does the dot.
    have hdirectory : t.find? cwd = some .directory := by
      obtain ⟨part, parts, hparts⟩ : ∃ part parts, Path.parts p = part :: parts := by
        rw [Path.parts]
        exact List.exists_cons_of_ne_nil (by simpa using Path.splitSlash_ne_nil p.toList)
      rw [hparts] at hwalk
      obtain ⟨next, hstep, -⟩ := walk_cons.mp hwalk
      exact (step_cases hstep).1
    have hdotted : origin cwd ("./" ++ p) = cwd := by rw [origin, isAbsolute_dot]; rfl
    rw [parts_dot, hdotted]
    refine walk_cons.mpr ⟨cwd, ?_, hwalk⟩
    rw [step, hdirectory]
    rfl

/-- What is too long names nothing. -/
theorem exists?_of_long (h : maxPath < p.utf8ByteSize) : t.exists? cwd p = false := by
  have hrefused : ∃ e, refusal? p = some e := by
    rw [refusal?, if_pos h]
    split
    · exact ⟨_, rfl⟩
    · exact ⟨_, rfl⟩
  obtain ⟨e, he⟩ := hrefused
  rw [exists?, resolve, he]

/-- A path exists exactly if it leads somewhere. -/
theorem exists?_eq_true_iff : t.exists? cwd p = true ↔ ∃ l, t.resolve cwd p = .ok l := by
  rw [exists?]
  cases t.resolve cwd p <;> simp

end FileTree

namespace Library

open FileTree (maxPath)

variable {read : Bytes → Option (Library W)} {linker : Linker W} {symbolPrefix : String}
  {files : FileTree} {cwd : Location} {p path : Path} {a b : Option (Library W)}
  {r r' : Except Failure (EntryPoints W)}

/-- Two loads end alike: both well, or both with an error of one kind. -/
inductive Alike : Except Failure (EntryPoints W) → Except Failure (EntryPoints W) → Prop
  | ok {entry entry' : EntryPoints W} : Alike (.ok entry) (.ok entry')
  | load {path path' : Path} {detail detail' : String} :
    Alike (.error (.load path detail)) (.error (.load path' detail'))
  | missingSymbol {path path' : Path} {symbol symbol' detail detail' : String} :
    Alike (.error (.missingSymbol path symbol detail))
      (.error (.missingSymbol path' symbol' detail'))

/-- What is opened in one place is as good as what is opened in another one: there is a library in
both or in none, and the one exports all that is needed if the other does. -/
def AsGood (symbolPrefix : String) (a b : Option (Library W)) : Prop :=
  (a = none ↔ b = none) ∧
    ((∃ lib, a = some lib ∧ lib.Complete symbolPrefix) ↔
      ∃ lib, b = some lib ∧ lib.Complete symbolPrefix)

/-- None of the system's own libraries has all symbols of a module. -/
def NoneOfSystem (linker : Linker W) (symbolPrefix : String) : Prop :=
  ∀ name lib, linker.system? name = some lib → ¬ lib.Complete symbolPrefix

/-- How a load ends is decided by what is opened. -/
inductive EndsAs (symbolPrefix : String) :
    Option (Library W) → Except Failure (EntryPoints W) → Prop
  | unopened {path : Path} {detail : String} :
    EndsAs symbolPrefix none (.error (.load path detail))
  | lacking {lib : Library W} {path : Path} {symbol detail : String}
    (hlacks : ¬ lib.Complete symbolPrefix) :
    EndsAs symbolPrefix (some lib) (.error (.missingSymbol path symbol detail))
  | bound {lib : Library W} {entry : EntryPoints W} (hcomplete : lib.Complete symbolPrefix) :
    EndsAs symbolPrefix (some lib) (.ok entry)

/-- Two loads end alike exactly if what they open is as good. -/
theorem EndsAs.alike_iff (h : EndsAs symbolPrefix a r) (h' : EndsAs symbolPrefix b r') :
    Alike r r' ↔ AsGood symbolPrefix a b := by
  constructor
  · intro halike
    cases halike with
    | ok =>
        cases h with
        | bound hcomplete => cases h' with
          | bound hcomplete' => simp [AsGood, hcomplete, hcomplete']
    | load =>
        cases h
        cases h'
        simp [AsGood]
    | missingSymbol =>
        cases h with
        | lacking hlacks => cases h' with
          | lacking hlacks' => simp [AsGood, hlacks, hlacks']
  · rintro ⟨hnone, hsome⟩
    cases h with
    | unopened =>
        cases h' with
        | unopened => exact .load
        | lacking _ | bound _ => simp at hnone
    | lacking hlacks =>
        cases h' with
        | unopened => simp at hnone
        | lacking _ => exact .missingSymbol
        | bound hcomplete => simp [hlacks, hcomplete] at hsome
    | bound hcomplete =>
        cases h' with
        | unopened => simp at hnone
        | lacking hlacks => simp [hlacks, hcomplete] at hsome
        | bound _ => exact .ok

/-- A library that lacks a symbol is not complete. -/
theorem FirstMissing.not_forall {lib : Library W} {name : String} {names : List String}
    (h : lib.FirstMissing symbolPrefix name names) :
    ¬ ∀ name ∈ names, lib.Exports (symbolName symbolPrefix name) := by
  induction h with
  | here hlacks => exact fun hall => hlacks (hall _ (List.mem_cons_self ..))
  | later _ _ ih => exact fun hall => ih fun name hname => hall name (List.mem_cons_of_mem _ hname)

/-- How a load of a path that exists ends is decided by what the linker opens. -/
theorem endsAs_load (hexists : files.exists? cwd path = true) :
    EndsAs symbolPrefix (open? read linker files cwd path)
      (load read linker symbolPrefix files cwd path).1 := by
  rw [load, if_pos hexists]
  cases open? read linker files cwd path with
  | none => exact .unopened
  | some lib =>
      dsimp only
      cases hbind : lib.bind path symbolPrefix with
      | ok entry => exact .bound (bound_of_bind hbind).complete
      | error e =>
          obtain ⟨missing, hfirst, rfl⟩ := firstMissing_of_bind hbind
          exact .lacking hfirst.not_forall

/-! ### The other spelling -/

/-- Names behind dollar signs are replaced in both spellings alike. -/
theorem expandPath_dot (linker : Linker W) (p : Path) :
    linker.expandPath ("./" ++ p) = "./" ++ linker.expandPath p := by
  have hlist : ("./" ++ p).toList = '.' :: '/' :: p.toList := by simp
  have hlength : ("./" ++ p).length = p.length + 2 := by
    rw [String.length_append, Nat.add_comm]
    rfl
  rw [Linker.expandPath, hlist, hlength]
  change String.ofList ('.' :: '/' :: linker.expandFrom p.length p.toList) = _
  rw [← String.toList_inj]
  simp [Linker.expandPath]

/-- With `./` in front the library is always read from the file. -/
theorem open?_dot (hrelative : Path.isAbsolute p = false) (hself : linker.expandPath p = p)
    (hfits : ("./" ++ p).utf8ByteSize ≤ maxPath) (hexists : files.exists? cwd p = true) :
    open? read linker files cwd ("./" ++ p) = ofFile? read files cwd p := by
  obtain ⟨l, hl⟩ := FileTree.exists?_eq_true_iff.mp hexists
  rw [open?, if_pos (by simp), expandPath_dot, hself, ofFile?, ofFile?, FileTree.readFile,
    FileTree.readFile, hl, FileTree.resolve_dot hrelative hfits hl]

/-- Spelled with a dot the path leads to the file itself, unless it is too long. -/
theorem endsAs_dot (hrelative : Path.isAbsolute p = false) (hself : linker.expandPath p = p)
    (hexists : files.exists? cwd p = true) :
    EndsAs symbolPrefix
      (if ("./" ++ p).utf8ByteSize ≤ maxPath then ofFile? read files cwd p else none)
      (load read linker symbolPrefix files cwd ("./" ++ p)).1 := by
  split
  · rename_i hfits
    have hopen : open? read linker files cwd ("./" ++ p) = ofFile? read files cwd p :=
      open?_dot hrelative hself hfits hexists
    rw [← hopen]
    refine endsAs_load ?_
    obtain ⟨l, hl⟩ := FileTree.exists?_eq_true_iff.mp hexists
    exact FileTree.exists?_eq_true_iff.mpr ⟨l, FileTree.resolve_dot hrelative hfits hl⟩
  · rename_i hlong
    rw [load, FileTree.exists?_of_long (Nat.not_le.mp hlong)]
    exact .unopened

/-- **When a library loads alike under both spellings of its path.** The path is relative and names
something, and no part of it stands for another path. If it has a slash, it must leave room for two
more bytes, or not be a library at all. If it has none, what is found by that name must be as good
as the file; and as long as no directories are searched and none of the system's own libraries is a
module, nothing that is found by a name is one. -/
theorem load_alike_iff (read : Bytes → Option (Library W)) (linker : Linker W)
    (symbolPrefix : String) (files : FileTree) (cwd : Location) (p : Path)
    (hrelative : Path.isAbsolute p = false) (hexists : files.exists? cwd p = true)
    (hself : linker.expandPath p = p) :
    let named := (load read linker symbolPrefix files cwd p).1
    let dotted := (load read linker symbolPrefix files cwd ("./" ++ p)).1
    (Alike named dotted ↔
      if '/' ∈ p.toList then
        ("./" ++ p).utf8ByteSize ≤ maxPath ∨ ofFile? read files cwd p = none
      else AsGood symbolPrefix (open? read linker files cwd p) (ofFile? read files cwd p)) ∧
    ('/' ∉ p.toList → linker.searchPath = [] → NoneOfSystem linker symbolPrefix →
      ∀ entry, named ≠ .ok entry) := by
  intro named dotted
  have hnamed : EndsAs symbolPrefix (open? read linker files cwd p) named :=
    endsAs_load hexists
  constructor
  · rw [hnamed.alike_iff (endsAs_dot hrelative hself hexists)]
    by_cases hslash : '/' ∈ p.toList
    · have hopen : open? read linker files cwd p = ofFile? read files cwd p := by
        rw [open?, if_pos (by simpa using hslash), hself]
      rw [hopen, if_pos hslash]
      split
      · rename_i hfits
        exact iff_of_true ⟨Iff.rfl, Iff.rfl⟩ (.inl hfits)
      · rename_i hlong
        cases ofFile? read files cwd p <;> simp only [AsGood, hlong] <;> simp
    · obtain ⟨l, hl⟩ := FileTree.exists?_eq_true_iff.mp hexists
      have hshort := FileTree.utf8ByteSize_le_of_resolve hslash hl
      have hfits : ("./" ++ p).utf8ByteSize ≤ maxPath := by
        rw [String.utf8ByteSize_append]
        exact (Nat.add_le_add_left hshort _).trans (by decide)
      rw [if_pos hfits, if_neg hslash]
  · intro hslash hsearch hsystem entry hok
    have hopen : open? read linker files cwd p = linker.system? p := by
      rw [open?, if_neg (by simpa using hslash), search?, hsearch]
      rfl
    rw [hopen, hok] at hnamed
    generalize hfound : linker.system? p = found at hnamed
    cases hnamed with
    | bound hcomplete => exact hsystem p _ hfound hcomplete

/-- A library with all entry points, in the working directory and in a directory below it. -/
def treeWithLibraries : FileTree :=
  let content := (LineMachine.Image.without 1 false "sqfvm_" []).encode
  .ofList [(["vm.so"], .file content true), (["lib"], .directory),
    (["lib", "vm.so"], .file content true)]

/-- The library below the working directory loads under both spellings. -/
theorem load_alike_iff_below :
    let p := "lib/vm.so"
    let linker : Linker LineMachine.State := .bare
    let run := load LineMachine.readLibrary linker "sqfvm_" treeWithLibraries []
    Path.isAbsolute p = false ∧ treeWithLibraries.exists? [] p = true ∧ linker.expandPath p = p ∧
      Alike (run p).1 (run ("./" ++ p)).1 ∧ (run p).1.toOption.isSome = true := by
  intro p linker run
  have hrelative : Path.isAbsolute p = false := by decide
  have hexists : treeWithLibraries.exists? [] p = true := by decide +kernel
  have hself : linker.expandPath p = p := by decide +kernel
  obtain ⟨halike, -⟩ := load_alike_iff LineMachine.readLibrary linker "sqfvm_" treeWithLibraries []
    p hrelative hexists hself
  rw [if_pos (by decide)] at halike
  exact ⟨hrelative, hexists, hself, halike.mpr (.inl (by decide)), by decide +kernel⟩

/-- The library in the working directory is there under its bare name, and it loads with `./` in
front of it only. -/
theorem load_bare_fails :
    let p := "vm.so"
    let run := load LineMachine.readLibrary .bare "sqfvm_" treeWithLibraries []
    Path.isAbsolute p = false ∧ treeWithLibraries.exists? [] p = true ∧
      (run ("./" ++ p)).1.toOption.isSome = true ∧ ¬ Alike (run p).1 (run ("./" ++ p)).1 := by
  intro p run
  have hbare : (run p).1.map (fun _ => ()) = .error (.load p systemDetail) := by decide +kernel
  have hdotted : (run ("./" ++ p)).1.toOption.isSome = true := by decide +kernel
  refine ⟨by decide, by decide +kernel, hdotted, fun halike => ?_⟩
  generalize (run p).1 = named at hbare halike
  generalize (run ("./" ++ p)).1 = dotted at hdotted halike
  cases halike with
  | ok => cases hbare
  | load | missingSymbol => cases hdotted

end Library

end ScriptHost
