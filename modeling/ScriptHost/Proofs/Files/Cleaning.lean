import Mathlib.Data.List.Nodup
import ScriptHost.Proofs.Files.Resolution
import ScriptHost.Shadow

/-!
# What a cleanup takes away

The exact effect of a cleanup on a file tree. The sweep takes names away while it goes through them,
and still what it removes can be told from the tree it begins with (`Shadow.sweep_eq`), since a
directory holds a name once at most. The places of leftovers are empty afterwards
(`Shadow.find?_cleanUp_of_takes`), and at every other place lies what lay there before
(`Shadow.find?_cleanUp_of_not_takes`). Directories are no leftovers, so a path to anything that is
not taken away leads to the same place as before (`Shadow.resolve_cleanUp`).

## Main definitions

* `Shadow.isLeftover` — what a sweep of a directory removes.
* `Shadow.Takes` — the places of leftovers.
-/

namespace ScriptHost

namespace FileTree

variable {t : FileTree} {l k : Location} {name : String}

theorem isSome_find?_iff (h : l ≠ []) : (t.find? l).isSome ↔ l ∈ t.entries.map (·.1) := by
  rw [find?, if_neg (by simpa using h), List.lookup_isSome_iff]
  simp

/-- Nothing lies at a location that was cleared. -/
theorem find?_erase_self (h : l ≠ []) : (t.erase l).find? l = none := by
  rw [← Option.not_isSome_iff_eq_none, isSome_find?_iff h]
  exact t.notMem_erase l

/-- The names in a directory are those at which something lies. -/
theorem mem_names_iff : name ∈ t.names l ↔ (t.find? (l ++ [name])).isSome := by
  rw [isSome_find?_iff (by simp), names, List.mem_filterMap, List.mem_map]
  refine exists_congr fun e => and_congr_right fun _ => ?_
  constructor
  · intro h
    split at h
    · rename_i last hlast
      split at h
      · rename_i hl
        obtain rfl := Option.some.inj h
        obtain ⟨above, habove⟩ := List.getLast?_eq_some_iff.mp hlast
        rw [habove, ← hl, habove, List.dropLast_concat]
      · cases h
    · cases h
  · intro h
    simp [h]

/-- A directory holds a name once at most. -/
theorem nodup_names : (t.names l).Nodup := by
  have hnames : t.names l = (t.entries.map (·.1)).filterMap fun k =>
      k.getLast?.bind fun name => if k.dropLast = l then some name else none := by
    rw [names, List.filterMap_map]
    congr 1
    funext e
    dsimp only [Function.comp_apply]
    cases e.1.getLast? <;> rfl
  rw [hnames]
  refine List.Nodup.filterMap (fun k k' name hk hk' => ?_) t.nodup
  -- A place is told from its last name and what stands before it.
  obtain ⟨last, hlast, hl⟩ := Option.bind_eq_some_iff.mp hk
  obtain ⟨last', hlast', hl'⟩ := Option.bind_eq_some_iff.mp hk'
  obtain ⟨front, rfl⟩ := List.getLast?_eq_some_iff.mp hlast
  obtain ⟨front', rfl⟩ := List.getLast?_eq_some_iff.mp hlast'
  simp_all

/-- Clearing some places below a location leaves all others as they are. -/
theorem find?_foldl_erase_of_ne {names : List String} (hk : ∀ n ∈ names, k ≠ l ++ [n]) :
    (names.foldl (fun t n => t.erase (l ++ [n])) t).find? k = t.find? k := by
  induction names generalizing t with
  | nil => rfl
  | cons n names ih =>
      rw [List.foldl_cons, ih fun m hm => hk m (List.mem_cons_of_mem _ hm)]
      exact find?_erase_of_ne t (hk n (List.mem_cons_self ..))

/-- Clearing some places below a location clears each of them. -/
theorem find?_foldl_erase_of_mem {names : List String} (hname : name ∈ names) :
    (names.foldl (fun t n => t.erase (l ++ [n])) t).find? (l ++ [name]) = none := by
  induction names generalizing t with
  | nil => cases hname
  | cons n names ih =>
      rw [List.foldl_cons]
      by_cases hrest : name ∈ names
      · exact ih hrest
      · obtain rfl : name = n := (List.mem_cons.mp hname).resolve_right hrest
        rw [find?_foldl_erase_of_ne, find?_erase_self (by simp)]
        intro m hm heq
        obtain rfl : name = m := List.singleton_inj.mp (List.append_cancel_left heq)
        exact hrest hm

end FileTree

namespace Shadow

open FileTree

variable {files : FileTree} {cwd l k : Location} {directory p : Path} {name : String}

/-! ### The sweep -/

/-- A leftover: a file, not a directory, with the name of a library, whose path below the directory
is one the system takes. -/
def isLeftover (files : FileTree) (directory : Path) (l : Location) (name : String) : Bool :=
  isLibraryName name && (refusal? (Path.join directory name)).isNone &&
    match files.find? (l ++ [name]) with
    | some .directory | none => false
    | some _ => true

theorem isLeftover_iff :
    isLeftover files directory l name = true ↔
      isLibraryName name = true ∧ refusal? (Path.join directory name) = none ∧
        ∃ e, files.find? (l ++ [name]) = some e ∧ e ≠ .directory := by
  rw [isLeftover, Bool.and_eq_true, Bool.and_eq_true, Option.isNone_iff_eq_none, and_assoc]
  rcases files.find? (l ++ [name]) with _ | ⟨⟩ | _ | _ | _ <;> simp

variable (files l directory) in
/-- A name with the extension of a library is removed exactly if it is a leftover. -/
theorem unlink_eq (hname : isLibraryName name = true) :
    (isLeftover files directory l name = true ∧
        unlink files directory l name = .ok (files.erase (l ++ [name]))) ∨
      (isLeftover files directory l name = false ∧
        ∃ e, unlink files directory l name = .error e) := by
  rw [isLeftover, unlink, hname]
  cases refusal? (Path.join directory name) with
  | some e => exact .inr ⟨rfl, e, rfl⟩
  | none =>
      rcases files.find? (l ++ [name]) with _ | ⟨⟩ | _ | _ | _
      · exact .inr ⟨rfl, _, rfl⟩
      · exact .inr ⟨rfl, _, rfl⟩
      · exact .inl ⟨rfl, rfl⟩
      · exact .inl ⟨rfl, rfl⟩
      · exact .inl ⟨rfl, rfl⟩

/-- What is taken away under one name changes nothing about the others. -/
theorem isLeftover_erase {other : String} (h : name ≠ other) :
    isLeftover (files.erase (l ++ [other])) directory l name =
      isLeftover files directory l name := by
  rw [isLeftover, isLeftover, find?_erase_of_ne files (by simpa using h)]

/-- **A sweep removes what is a leftover when it begins**, and counts it. -/
theorem sweep_eq {names : List String} (hnodup : names.Nodup) :
    sweep directory l names files =
      let leftovers := names.filter (isLeftover files directory l)
      (leftovers.length, leftovers.foldl (fun t name => t.erase (l ++ [name])) files) := by
  induction names generalizing files with
  | nil => rfl
  | cons name names ih =>
      obtain ⟨hnotMem, hnodup⟩ := List.nodup_cons.mp hnodup
      rw [sweep]
      by_cases hname : isLibraryName name = true
      · rw [if_pos hname]
        rcases unlink_eq files l directory hname with
          ⟨htakes, hunlink⟩ | ⟨hkeeps, e, hunlink⟩
        · have hothers : names.filter (isLeftover (files.erase (l ++ [name])) directory l)
              = names.filter (isLeftover files directory l) :=
            List.filter_congr fun m hm => isLeftover_erase fun heq => hnotMem (heq ▸ hm)
          rw [hunlink, List.filter_cons_of_pos htakes]
          simp only [ih hnodup, hothers, List.length_cons, List.foldl_cons]
        · rw [hunlink, List.filter_cons_of_neg (by simp [hkeeps])]
          exact ih hnodup
      · rw [if_neg hname, List.filter_cons_of_neg (by simp [isLeftover, hname])]
        exact ih hnodup

/-! ### The cleanup -/

/-- The place of a leftover in a directory. -/
def Takes (files : FileTree) (cwd : Location) (directory : Path) (k : Location) : Prop :=
  ∃ l name, k = l ++ [name] ∧ files.resolve cwd directory = .ok l ∧
    files.find? l = some .directory ∧ isLeftover files directory l name = true

theorem cleanUp_of_directory (hl : files.resolve cwd directory = .ok l)
    (hdirectory : files.find? l = some .directory) :
    let leftovers := (files.names l).filter (isLeftover files directory l)
    cleanUp files cwd directory
      = (.ok leftovers.length, leftovers.foldl (fun t name => t.erase (l ++ [name])) files) := by
  simp [cleanUp, exists?, readDirectory, hl, hdirectory, bind, Except.bind, sweep_eq nodup_names]

/-- A directory that cannot be read is left as it is. -/
theorem cleanUp_of_not_directory
    (h : ∀ l, files.resolve cwd directory = .ok l → files.find? l ≠ some .directory) :
    (cleanUp files cwd directory).2 = files := by
  rw [cleanUp]
  split
  · split
    · rename_i l names hl hnames
      rw [readDirectory, hl] at hnames
      have hdirectory := h l hl
      simp only [bind, Except.bind] at hnames
      split at hnames <;> simp_all
    · rfl
    · rfl
  · rfl

theorem mem_leftovers_iff :
    name ∈ (files.names l).filter (isLeftover files directory l) ↔
      isLeftover files directory l name = true := by
  rw [List.mem_filter, mem_names_iff, and_iff_right_iff_imp, isLeftover_iff]
  rintro ⟨-, -, e, he, -⟩
  rw [he]
  rfl

/-- With no leftovers the cleanup of a directory changes nothing. -/
theorem cleanUp_of_no_leftovers (hl : files.resolve cwd directory = .ok l)
    (hdirectory : files.find? l = some .directory) (h : ∀ k, ¬ Takes files cwd directory k) :
    cleanUp files cwd directory = (.ok 0, files) := by
  have hnone : (files.names l).filter (isLeftover files directory l) = [] := by
    refine List.eq_nil_iff_forall_not_mem.mpr fun name hname => ?_
    exact h _ ⟨l, name, rfl, hl, hdirectory, mem_leftovers_iff.mp hname⟩
  rw [cleanUp_of_directory hl hdirectory, hnone]
  rfl

/-- Leftovers are taken away. -/
theorem find?_cleanUp_of_takes (h : Takes files cwd directory k) :
    (cleanUp files cwd directory).2.find? k = none := by
  obtain ⟨l, name, rfl, hl, hdirectory, hleftover⟩ := h
  rw [cleanUp_of_directory hl hdirectory]
  exact find?_foldl_erase_of_mem (mem_leftovers_iff.mpr hleftover)

/-- Nothing but leftovers is taken away. -/
theorem find?_cleanUp_of_not_takes (h : ¬ Takes files cwd directory k) :
    (cleanUp files cwd directory).2.find? k = files.find? k := by
  by_cases hl : ∃ l, files.resolve cwd directory = .ok l ∧ files.find? l = some .directory
  · obtain ⟨l, hl, hdirectory⟩ := hl
    rw [cleanUp_of_directory hl hdirectory]
    refine find?_foldl_erase_of_ne fun name hname heq => ?_
    exact h ⟨l, name, heq, hl, hdirectory, mem_leftovers_iff.mp hname⟩
  · rw [cleanUp_of_not_directory fun l hr hd => hl ⟨l, hr, hd⟩]

variable (cwd directory) in
/-- A directory is no leftover. -/
theorem not_takes_of_directory (hk : files.find? k = some .directory) :
    ¬ Takes files cwd directory k := by
  rintro ⟨l, name, rfl, -, -, hleftover⟩
  obtain ⟨-, -, e, he, hne⟩ := isLeftover_iff.mp hleftover
  exact hne (Option.some.inj (he.symm.trans hk))

/-- A path to something that is not taken away leads there afterwards, too. -/
theorem resolve_cleanUp (hk : files.resolve cwd p = .ok k) (h : ¬ Takes files cwd directory k) :
    (cleanUp files cwd directory).2.resolve cwd p = .ok k := by
  refine resolve_of_agree (fun m hm => ?_) (find?_cleanUp_of_not_takes h) hk
  rw [find?_cleanUp_of_not_takes (not_takes_of_directory cwd directory hm), hm]

/-- A cleanup leaves no leftovers. -/
theorem not_takes_cleanUp : ¬ Takes (cleanUp files cwd directory).2 cwd directory k := by
  by_cases hl : ∃ l, files.resolve cwd directory = .ok l ∧ files.find? l = some .directory
  · obtain ⟨l, hl, hdirectory⟩ := hl
    have hafter := resolve_cleanUp hl (not_takes_of_directory cwd directory hdirectory)
    rintro ⟨l', name, rfl, hl', -, hleftover⟩
    obtain rfl : l = l' := Except.ok.inj (hafter.symm.trans hl')
    obtain ⟨hname, hpath, e, he, hne⟩ := isLeftover_iff.mp hleftover
    by_cases htakes : Takes files cwd directory (l ++ [name])
    · rw [find?_cleanUp_of_takes htakes] at he
      cases he
    · rw [find?_cleanUp_of_not_takes htakes] at he
      exact htakes ⟨l, name, rfl, hl, hdirectory, isLeftover_iff.mpr ⟨hname, hpath, e, he, hne⟩⟩
  · rw [cleanUp_of_not_directory fun l hr hd => hl ⟨l, hr, hd⟩]
    rintro ⟨l, name, -, hr, hd, -⟩
    exact hl ⟨l, hr, hd⟩

end Shadow

end ScriptHost
