import ScriptHost.Proofs.Files.Cleaning
import ScriptHost.Proofs.Text.Cutting

/-!
# Exactly the leftovers

A cleanup goes by the name of a library, and a name is one if it can be cut at a dot into something
and one of three extensions (`Shadow.isLibraryName_iff`). What it removes it removes by path
(`Shadow.unlink_eq_removeFile`), so a path that is longer than the system takes keeps a file where
it is. The cleanup of a directory removes exactly the places this leaves (`Shadow.cleanUp_exact`),
and counts them; there is nothing left for a second one.

## Main definitions

* `Shadow.Removable` — the places a cleanup of a directory may clear.
-/

namespace ScriptHost

/-! ### Paths below a directory -/

namespace FileTree

variable {t : FileTree} {cwd here l : Location} {base : Path} {name : String}

/-- Empty parts lead nowhere from a directory. -/
theorem walk_replicate_empty (hhere : t.find? here = some .directory) (n : Nat) :
    (List.replicate n "").foldlM (step t) here = .ok here := by
  induction n with
  | zero => rfl
  | succ n ih =>
      have hstep : t.step here "" = .ok here := by
        rw [step, hhere]
        rfl
      exact walk_cons.mpr ⟨here, hstep, ih⟩

theorem walk_splitSlash_replicate (hhere : t.find? here = some .directory) (n : Nat) :
    ((Path.splitSlash (List.replicate n '/')).map String.ofList).foldlM (step t) here
      = .ok here := by
  have hparts : Path.splitSlash (List.replicate n '/') = List.replicate (n + 1) [] := by
    induction n with
    | zero => rfl
    | succ n ih =>
        rw [List.replicate_succ, Path.splitSlash_slash, ih]
        rfl
  rw [hparts, List.map_replicate]
  exact walk_replicate_empty hhere (n + 1)

/-- The walk to a name below a directory is the walk to the directory and one step. -/
theorem walk_join (hname : '/' ∉ name.toList) (hl : t.resolve cwd base = .ok l) :
    (Path.parts (Path.join base name)).foldlM (step t) (origin cwd (Path.join base name))
      = t.step l name := by
  obtain ⟨hallowed, hwalk⟩ := resolve_eq_ok_iff.mp hl
  have hbase : base.toList ≠ [] := by
    intro hempty
    obtain rfl := String.toList_eq_nil_iff.mp hempty
    simp [refusal?] at hallowed
  have hrelative : Path.isAbsolute name = false := by
    rw [Path.isAbsolute, decide_eq_false_iff_not]
    exact fun h => hname (List.mem_of_mem_head? h)
  -- A slash at the end of the directory and the one put after it cut off the name in the same way.
  obtain ⟨front, idle, hsplit, hjoin, hidle⟩ : ∃ front idle,
      Path.splitSlash base.toList = front ++ idle ∧
      Path.splitSlash (Path.join base name).toList = front ++ [name.toList] ∧
      ∀ part ∈ idle, part = [] := by
    rw [Path.toList_join hrelative, if_neg hbase]
    split
    · rename_i hslash
      obtain ⟨cs, hcs⟩ := List.getLast?_eq_some_iff.mp hslash
      refine ⟨Path.splitSlash cs, [[]], ?_, ?_, by simp⟩
      · rw [hcs, Path.splitSlash_append_slash]
        rfl
      · rw [hcs, List.append_assoc, List.singleton_append, Path.splitSlash_append_slash,
          Path.splitSlash_of_notMem hname]
    · exact ⟨Path.splitSlash base.toList, [], by simp,
        by rw [Path.splitSlash_append_slash, Path.splitSlash_of_notMem hname], by simp⟩
  have horigin : origin cwd (Path.join base name) = origin cwd base := by
    have hhead : (Path.join base name).toList.head? = base.toList.head? := by
      rw [Path.toList_join hrelative, if_neg hbase]
      split <;> exact List.head?_append_of_ne_nil _ hbase
    rw [origin, origin, Path.isAbsolute, Path.isAbsolute, hhead]
  rw [Path.parts, hsplit, List.map_append] at hwalk
  obtain ⟨mid, hfront, hrest⟩ := walk_append.mp hwalk
  obtain rfl : l = mid := by
    refine walk_idle (fun part hpart => ?_) hrest
    obtain ⟨cs, hcs, rfl⟩ := List.mem_map.mp hpart
    exact .inl (by rw [hidle cs hcs])
  rw [Path.parts, hjoin, List.map_append, List.foldlM_append, horigin, hfront, List.map_singleton,
    String.ofList_toList]
  change [name].foldlM (step t) l = _
  rw [List.foldlM_cons]
  cases t.step l name <;> rfl

end FileTree

namespace Shadow

open FileTree

variable {files : FileTree} {cwd l k : Location} {directory : Path} {name : String}

/-! ### Names of libraries -/

/-- The extension of a name is what follows its last dot, with something before that. -/
theorem extensionOfName?_eq_some_iff {extension : String} :
    Path.extensionOfName? name = some extension ↔
      ∃ stem, name.toList = stem ++ '.' :: extension.toList ∧ stem ≠ [] ∧
        '.' ∉ extension.toList := by
  rw [Path.extensionOfName?]
  constructor
  · intro h
    have hcut := List.takeWhile_append_dropWhile (p := (· ≠ '.')) (l := name.toList.reverse)
    split at h
    · cases h
    · rename_i c stem hdrop
      split at h
      · cases h
      · rename_i hstem
        obtain rfl := Option.some.inj h
        have hdot : c = '.' := by
          have hhead := List.head?_dropWhile_not (· ≠ '.') name.toList.reverse
          rw [hdrop] at hhead
          simpa using hhead
        rw [hdrop, hdot] at hcut
        refine ⟨stem.reverse, ?_, by simpa using hstem, fun hmem => ?_⟩
        · rw [String.toList_ofList]
          simpa using (congrArg List.reverse hcut).symm
        · rw [String.toList_ofList, List.mem_reverse] at hmem
          simpa using List.all_eq_true.mp List.all_takeWhile _ hmem
  · rintro ⟨stem, hname, hstem, hdot⟩
    have hrev : name.toList.reverse = extension.toList.reverse ++ '.' :: stem.reverse := by
      rw [hname]
      simp
    have hplain : ∀ c ∈ extension.toList.reverse, (decide (c ≠ '.')) = true := fun c hc => by
      rw [decide_eq_true_eq]
      rintro rfl
      exact hdot (List.mem_reverse.mp hc)
    rw [hrev, List.dropWhile_append_of_pos hplain, List.takeWhile_append_of_pos hplain]
    simp [hstem]

/-- **The name of a library**: something, a dot, and one of the extensions. -/
theorem isLibraryName_iff :
    isLibraryName name = true ↔
      ∃ stem extension, name = stem ++ "." ++ extension ∧ stem ≠ "" ∧
        extension ∈ libraryExtensions := by
  have hplain : ∀ extension ∈ libraryExtensions, '.' ∉ extension.toList := by decide
  constructor
  · intro h
    rw [isLibraryName] at h
    split at h
    · rename_i extension hextension
      obtain ⟨stem, hname, hstem, -⟩ := extensionOfName?_eq_some_iff.mp hextension
      refine ⟨String.ofList stem, extension, ?_, ?_, by simpa using h⟩
      · rw [← String.toList_inj, hname]
        simp
      · simpa using hstem
    · cases h
  · rintro ⟨stem, extension, rfl, hstem, hmem⟩
    have hextension : Path.extensionOfName? (stem ++ "." ++ extension) = some extension :=
      extensionOfName?_eq_some_iff.mpr
        ⟨stem.toList, by simp, by simpa using hstem, hplain extension hmem⟩
    rw [isLibraryName, hextension]
    simpa using hmem

/-! ### What is removed -/

/-- **A name is removed by its path**: what the removal of the file at that path does. -/
theorem unlink_eq_removeFile (hl : files.resolve cwd directory = .ok l)
    (hdirectory : files.find? l = some .directory) (hlibrary : isLibraryName name = true)
    (hslash : '/' ∉ name.toList) (hshort : name.utf8ByteSize ≤ maxName) :
    unlink files directory l name = files.removeFile cwd (Path.join directory name) := by
  rw [unlink, removeFile, resolve, walk_join hslash hl]
  cases refusal? (Path.join directory name) with
  | some e => rfl
  | none =>
      -- The name of a library is a step down.
      have hdown : ¬ (name.isEmpty || name = ".") = true ∧ name ≠ ".." := by
        refine ⟨fun h => ?_, ?_⟩
        · rcases Bool.or_eq_true_iff.mp h with h | h
          · rw [String.isEmpty_iff] at h
            subst h
            revert hlibrary
            decide
          · obtain rfl := of_decide_eq_true h
            revert hlibrary
            decide
        · rintro rfl
          revert hlibrary
          decide
      dsimp only
      rw [step, hdirectory]
      dsimp only
      rw [if_neg hdown.1, if_neg hdown.2, if_neg (Nat.not_lt.mpr hshort)]
      cases hthere : files.find? (l ++ [name]) with
      | none => simp [bind, Except.bind]
      | some e => cases e <;> simp [bind, Except.bind, hthere]

/-- The places a cleanup of a directory may clear: those of files, directly in it, with the name of
a library and a path below the directory that is not too long. -/
def Removable (files : FileTree) (directory : Path) (l k : Location) : Prop :=
  ∃ name e, k = l ++ [name] ∧ files.find? k = some e ∧ e ≠ .directory ∧
    (∃ stem extension, name = stem ++ "." ++ extension ∧ stem ≠ "" ∧
      extension ∈ ["dll", "so", "dylib"]) ∧
    '\x00' ∉ name.toList ∧ (Path.join directory name).utf8ByteSize ≤ maxPath

/-- The system takes the path of a name below a directory if it is short enough. -/
theorem refusal?_join_eq_none_iff (hl : files.resolve cwd directory = .ok l) :
    refusal? (Path.join directory name) = none ↔
      '\x00' ∉ name.toList ∧ (Path.join directory name).utf8ByteSize ≤ maxPath := by
  have hallowed := (resolve_eq_ok_iff.mp hl).1
  have hdirectory : directory.toList ≠ [] ∧ '\x00' ∉ directory.toList := by
    refine ⟨fun hempty => ?_, fun hnul => ?_⟩
    · obtain rfl := String.toList_eq_nil_iff.mp hempty
      simp [refusal?] at hallowed
    · simp [refusal?, hnul] at hallowed
  obtain ⟨hnul, hne⟩ : ('\x00' ∈ (Path.join directory name).toList ↔ '\x00' ∈ name.toList) ∧
      (Path.join directory name).toList ≠ [] := by
    by_cases habsolute : Path.isAbsolute name = true
    · have hjoin : Path.join directory name = name := by simp [Path.join, habsolute]
      refine ⟨by rw [hjoin], fun hempty => ?_⟩
      rw [hjoin] at hempty
      simp [Path.isAbsolute, hempty] at habsolute
    · rw [Path.toList_join (Bool.eq_false_iff.mpr habsolute), if_neg hdirectory.1]
      split <;> simp [hdirectory]
  rw [refusal?, if_congr (List.contains_iff_mem.trans hnul) rfl rfl,
    if_neg (c := (Path.join directory name).isEmpty = true)
      (by rwa [String.isEmpty_iff, ← String.toList_eq_nil_iff])]
  by_cases h : '\x00' ∈ name.toList
  · simp [h]
  · rw [if_neg h]
    split <;> simp_all

theorem takes_iff_removable (hl : files.resolve cwd directory = .ok l)
    (hdirectory : files.find? l = some .directory) :
    Takes files cwd directory k ↔ Removable files directory l k := by
  have hleftover (name : String) : isLeftover files directory l name = true ↔
      ∃ e, files.find? (l ++ [name]) = some e ∧ e ≠ .directory ∧
        (∃ stem extension, name = stem ++ "." ++ extension ∧ stem ≠ "" ∧
          extension ∈ libraryExtensions) ∧
        '\x00' ∉ name.toList ∧ (Path.join directory name).utf8ByteSize ≤ maxPath := by
    rw [isLeftover_iff, isLibraryName_iff, refusal?_join_eq_none_iff hl]
    constructor
    · rintro ⟨hname, hpath, e, he, hne⟩
      exact ⟨e, he, hne, hname, hpath⟩
    · rintro ⟨e, he, hne, hname, hpath⟩
      exact ⟨hname, hpath, e, he, hne⟩
  constructor
  · rintro ⟨l', name, rfl, hl', -, h⟩
    obtain rfl : l = l' := Except.ok.inj (hl.symm.trans hl')
    obtain ⟨e, he⟩ := (hleftover name).mp h
    exact ⟨name, e, rfl, he⟩
  · rintro ⟨name, e, rfl, he⟩
    exact ⟨l, name, rfl, hl, hdirectory, (hleftover name).mpr ⟨e, he⟩⟩

/-! ### The cleanup -/

theorem cleanUp_of_not_exists (h : files.exists? cwd directory = false) :
    cleanUp files cwd directory = (.ok 0, files) := by
  rw [cleanUp, h]
  rfl

/-- What is no directory cannot be cleaned. -/
theorem cleanUp_of_file (hl : files.resolve cwd directory = .ok l)
    (hdirectory : files.find? l ≠ some .directory) :
    ∃ e, cleanUp files cwd directory = (.error e, files) := by
  rw [cleanUp, exists?, readDirectory, hl]
  cases hthere : files.find? l with
  | none => exact ⟨.noEntry, by simp [bind, Except.bind, hthere]⟩
  | some e =>
      cases e with
      | directory => exact absurd hthere hdirectory
      | file _ _ | device _ | utility _ =>
          exact ⟨.notDirectory, by simp [bind, Except.bind, hthere]⟩

/-- **Exactly the leftovers are removed.** The cleanup of a path that names nothing answers zero,
and that of something that is no directory fails; neither changes anything. The cleanup of a
directory clears exactly the places it may clear, answers how many they are, and leaves everything
else as it is. After a cleanup that does not fail, another one removes nothing and answers zero. -/
theorem cleanUp_exact (files : FileTree) (cwd : Location) (directory : Path) :
    (files.exists? cwd directory = false → cleanUp files cwd directory = (.ok 0, files)) ∧
    (∀ l, files.resolve cwd directory = .ok l → files.find? l ≠ some .directory →
      ∃ e, cleanUp files cwd directory = (.error e, files)) ∧
    (∀ l, files.resolve cwd directory = .ok l → files.find? l = some .directory →
      ∃ (removed : List Location) (after : FileTree),
        removed.Nodup ∧ (∀ k, k ∈ removed ↔ Removable files directory l k) ∧
        cleanUp files cwd directory = (.ok removed.length, after) ∧
        ∀ k, after.find? k = if k ∈ removed then none else files.find? k) ∧
    ∀ count after, cleanUp files cwd directory = (.ok count, after) →
      cleanUp after cwd directory = (.ok 0, after) := by
  refine ⟨cleanUp_of_not_exists, fun l => cleanUp_of_file, fun l hl hdirectory => ?_,
    fun count after hclean => ?_⟩
  · have hmem (k : Location) :
        k ∈ ((files.names l).filter (isLeftover files directory l)).map (l ++ [·]) ↔
          Takes files cwd directory k := by
      simp only [List.mem_map, mem_leftovers_iff]
      constructor
      · rintro ⟨name, hleftover, rfl⟩
        exact ⟨l, name, rfl, hl, hdirectory, hleftover⟩
      · rintro ⟨l', name, rfl, hl', -, hleftover⟩
        obtain rfl : l = l' := Except.ok.inj (hl.symm.trans hl')
        exact ⟨name, hleftover, rfl⟩
    have hcleaned := cleanUp_of_directory hl hdirectory
    refine ⟨_, (cleanUp files cwd directory).2, ?_,
      fun k => (hmem k).trans (takes_iff_removable hl hdirectory), ?_, fun k => ?_⟩
    · exact (nodup_names.filter _).map fun name name' h => by simpa using h
    · rw [hcleaned, List.length_map]
    · split
      · rename_i hk
        exact find?_cleanUp_of_takes ((hmem k).mp hk)
      · rename_i hk
        exact find?_cleanUp_of_not_takes fun h => hk ((hmem k).mpr h)
  · obtain rfl : (cleanUp files cwd directory).2 = after := congrArg Prod.snd hclean
    cases hl : files.resolve cwd directory with
    | error e =>
        have hmissing : files.exists? cwd directory = false := by rw [exists?, hl]
        rw [cleanUp_of_not_exists hmissing]
        exact cleanUp_of_not_exists hmissing
    | ok l =>
        by_cases hdirectory : files.find? l = some .directory
        · have hkept := not_takes_of_directory cwd directory hdirectory
          exact cleanUp_of_no_leftovers (resolve_cleanUp hl hkept)
            ((find?_cleanUp_of_not_takes hkept).trans hdirectory) fun _ => not_takes_cleanUp
        · obtain ⟨e, he⟩ := cleanUp_of_file hl hdirectory
          rw [he] at hclean
          cases hclean

/-- A directory with a library in it, a hidden file and a directory that look like one, and a
library further down. -/
def sampleFiles : FileTree :=
  .ofList [(["shadow"], .directory), (["shadow", "a.so"], .file [1] false),
    (["shadow", ".so"], .file [2] false), (["shadow", "d.dll"], .directory),
    (["shadow", "d.dll", "b.so"], .file [3] false)]

/-- Only the library directly in the directory is removed, and a second cleanup finds nothing. -/
theorem cleanUp_exact_sample :
    ∃ after, sampleFiles.resolve [] "shadow" = .ok ["shadow"] ∧
      cleanUp sampleFiles [] "shadow" = (.ok 1, after) ∧
      after.find? ["shadow", "a.so"] = none ∧
      after.find? ["shadow", ".so"] = some (.file [2] false) ∧
      after.find? ["shadow", "d.dll", "b.so"] = some (.file [3] false) ∧
      cleanUp after [] "shadow" = (.ok 0, after) := by
  have hl : sampleFiles.resolve [] "shadow" = .ok ["shadow"] := by decide
  obtain ⟨-, -, hexact, hagain⟩ := cleanUp_exact sampleFiles [] "shadow"
  obtain ⟨removed, after, -, hmem, hclean, hafter⟩ := hexact ["shadow"] hl (by decide)
  have hcount : (cleanUp sampleFiles [] "shadow").1 = .ok 1 := by decide
  rw [hclean] at hcount
  have hlibrary : ["shadow", "a.so"] ∈ removed :=
    (hmem _).mpr ⟨"a.so", .file [1] false, rfl, by decide, by decide,
      ⟨"a", "so", by decide, by decide, by decide⟩, by decide, by decide⟩
  have hhidden : ["shadow", ".so"] ∉ removed := by
    intro h
    obtain ⟨name, -, hname, -, -, hlibrary, -⟩ := (hmem _).mp h
    obtain rfl : ".so" = name := by simpa using hname
    exact absurd (isLibraryName_iff.mpr hlibrary) (by decide)
  have hbelow : ["shadow", "d.dll", "b.so"] ∉ removed := by
    intro h
    obtain ⟨name, -, hname, -⟩ := (hmem _).mp h
    simpa using congrArg List.length hname
  refine ⟨after, hl, by rw [hclean, Except.ok.inj hcount], ?_, ?_, ?_, hagain _ after hclean⟩
  · rw [hafter, if_pos hlibrary]
  · rw [hafter, if_neg hhidden]
    decide
  · rw [hafter, if_neg hbelow]
    decide

/-- A directory with a library in it. -/
def leftoverFiles : FileTree :=
  .ofList [(["shadow"], .directory), (["shadow", "a.so"], .file [1] false)]

/-- The directory with slashes after it. -/
def slashed (count : Nat) : Path :=
  String.ofList (['s', 'h', 'a', 'd', 'o', 'w'] ++ List.replicate count '/')

theorem utf8ByteSize_slashed (count : Nat) : (slashed count).utf8ByteSize = 6 + count := by
  have hdirectory : String.utf8Len ['s', 'h', 'a', 'd', 'o', 'w'] = 6 := rfl
  have hslash : '/'.utf8Size = 1 := rfl
  rw [slashed, String.utf8ByteSize_ofList, String.utf8Len_append, Fence.utf8Len_replicate,
    hdirectory, hslash, Nat.mul_one]

/-- The slashes change nothing about the directory. -/
theorem resolve_slashed {count : Nat} (hcount : count + 7 ≤ maxPath) :
    leftoverFiles.resolve [] (slashed (count + 1)) = .ok ["shadow"] := by
  have hsize := utf8ByteSize_slashed (count + 1)
  have hchars : (slashed (count + 1)).toList
      = ['s', 'h', 'a', 'd', 'o', 'w'] ++ '/' :: List.replicate count '/' := by
    rw [slashed, String.toList_ofList, List.replicate_succ]
  have hrefusal : refusal? (slashed (count + 1)) = none := by
    have hnul : '\x00' ∉ (slashed (count + 1)).toList := by
      rw [hchars]
      simp
    have hne : (slashed (count + 1)).isEmpty = false := by
      rw [Bool.eq_false_iff, ne_eq, String.isEmpty_iff, ← String.toList_eq_nil_iff, hchars]
      simp
    simp only [refusal?, List.contains_iff_mem, hnul, hne, if_false, Bool.false_eq_true]
    rw [if_neg (by omega)]
  have horigin : origin [] (slashed (count + 1)) = [] := by
    rw [origin, ite_self]
  refine resolve_eq_ok_iff.mpr ⟨hrefusal, ?_⟩
  rw [Path.parts, hchars, Path.splitSlash_append_slash, List.map_append, horigin]
  exact walk_append.mpr ⟨["shadow"], by decide, walk_splitSlash_replicate (by decide) count⟩

/-- **A leftover out of reach.** The path of the directory is one the system takes and that of the
library in it is not: the library stays, and the answer is zero. -/
theorem cleanUp_keeps_leftover :
    let directory := slashed 4086
    leftoverFiles.resolve [] directory = .ok ["shadow"] ∧
      leftoverFiles.find? ["shadow"] = some .directory ∧
      leftoverFiles.find? ["shadow", "a.so"] = some (.file [1] false) ∧
      isLibraryName "a.so" = true ∧
      cleanUp leftoverFiles [] directory = (.ok 0, leftoverFiles) := by
  intro directory
  have hl : leftoverFiles.resolve [] directory = .ok ["shadow"] := resolve_slashed (by decide)
  have hdirectory : leftoverFiles.find? ["shadow"] = some .directory := by decide
  refine ⟨hl, hdirectory, by decide, by decide, ?_⟩
  refine cleanUp_of_no_leftovers hl hdirectory fun k hk => ?_
  obtain ⟨name, e, rfl, he, -, -, -, hsize⟩ := (takes_iff_removable hl hdirectory).mp hk
  have hname : name ∈ leftoverFiles.names ["shadow"] :=
    mem_names_iff.mpr (Option.isSome_of_eq_some he)
  obtain rfl : name = "a.so" := List.mem_singleton.mp hname
  have hjoin : (Path.join directory "a.so").utf8ByteSize ≥ directory.utf8ByteSize + 4 := by
    have hne : directory.isEmpty = false := by
      rw [Bool.eq_false_iff, ne_eq, String.isEmpty_iff, ← String.utf8ByteSize_eq_zero_iff,
        utf8ByteSize_slashed]
      decide
    have hrelative : Path.isAbsolute "a.so" = false := by decide
    have hlast : "a.so".utf8ByteSize = 4 := rfl
    rw [Path.join, hne, hrelative]
    simp only [Bool.or_false, Bool.false_eq_true, if_false]
    split <;> simp only [String.utf8ByteSize_append] <;> omega
  rw [utf8ByteSize_slashed] at hjoin
  exact absurd hsize (by rw [maxPath]; omega)

end Shadow

end ScriptHost
