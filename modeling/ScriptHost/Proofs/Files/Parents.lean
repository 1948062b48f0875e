import ScriptHost.Settings.Basic

/-!
# Parts of paths

How the parts of a path are those of its parent and one more (`Path.parts_defaultShadowDir`). The
parent is cut from the text of the path, and what is cut off with the last part are parts that name
no step of their own: empty ones and single dots.

## Main definitions

* `Path.IsIdle` — a part that stays where it is.
-/

namespace ScriptHost

namespace Path

variable {cs ds : List Char} {p : Path}

/-! ### Splitting at slashes -/

/-- A slash in front leaves an empty part before it. -/
theorem splitSlash_slash (cs : List Char) : splitSlash ('/' :: cs) = [] :: splitSlash cs := rfl

/-- Any other character belongs to the first part. -/
theorem splitSlash_cons {c : Char} (hc : c ≠ '/') {part : List Char} {parts : List (List Char)}
    (h : splitSlash cs = part :: parts) : splitSlash (c :: cs) = (c :: part) :: parts := by
  rw [splitSlash, h]
  exact hc

/-- There is always a part. -/
theorem splitSlash_ne_nil (cs : List Char) : splitSlash cs ≠ [] := by
  fun_induction splitSlash cs <;> simp

/-- A slash stands between the parts before it and those after it. -/
theorem splitSlash_append_slash (cs ds : List Char) :
    splitSlash (cs ++ '/' :: ds) = splitSlash cs ++ splitSlash ds := by
  induction cs with
  | nil => rfl
  | cons c cs ih =>
      obtain ⟨part, parts, hparts⟩ := List.exists_cons_of_ne_nil (splitSlash_ne_nil cs)
      by_cases hc : c = '/'
      · subst hc
        rw [List.cons_append, splitSlash_slash, splitSlash_slash, ih, List.cons_append]
      · rw [hparts, List.cons_append] at ih
        rw [List.cons_append, splitSlash_cons hc ih, splitSlash_cons hc hparts, List.cons_append]

/-- A text without a slash is one part. -/
theorem splitSlash_of_notMem (h : '/' ∉ cs) : splitSlash cs = [cs] := by
  induction cs with
  | nil => rfl
  | cons c cs ih =>
      exact splitSlash_cons (List.ne_of_not_mem_cons h).symm (ih (List.not_mem_of_not_mem_cons h))

/-! ### Trimming -/

/-- A part that names no step: it stays where it is. -/
def IsIdle (part : List Char) : Prop :=
  part = [] ∨ part = ['.']

/-- What is trimmed from the end of a path are parts that stay where they are. -/
theorem splitSlash_trimEndRev (cs : List Char) :
    ∃ idle, (∀ part ∈ idle, IsIdle part) ∧
      splitSlash cs.reverse = splitSlash (trimEndRev cs).reverse ++ idle := by
  fun_induction trimEndRev cs with
  | case1 cs ih =>
      obtain ⟨idle, hidle, heq⟩ := ih
      refine ⟨idle ++ [[]], ?_, ?_⟩
      · simpa [or_imp, forall_and, IsIdle] using hidle
      · rw [List.reverse_cons, splitSlash_append_slash, heq, List.append_assoc]
        rfl
  | case2 cs ih =>
      obtain ⟨idle, hidle, heq⟩ := ih
      refine ⟨idle ++ [['.']], ?_, ?_⟩
      · simpa [or_imp, forall_and, IsIdle] using hidle
      · rw [List.reverse_cons, List.reverse_cons, List.append_assoc, List.singleton_append,
          splitSlash_append_slash, heq, List.append_assoc]
        rfl
  | case3 cs => exact ⟨[], by simp, by simp⟩

/-- A trimmed path does not end in a slash. -/
theorem head?_trimEndRev (cs : List Char) : (trimEndRev cs).head? ≠ some '/' := by
  fun_induction trimEndRev cs with
  | case1 cs ih => exact ih
  | case2 cs ih => exact ih
  | case3 cs hslash hdot =>
      cases cs with
      | nil => simp
      | cons c cs =>
          intro h
          exact hslash cs (by simpa using h)

/-- Trimming takes away from the end only. -/
theorem trimEndRev_suffix (cs : List Char) : trimEndRev cs <:+ cs := by
  fun_induction trimEndRev cs with
  | case1 cs ih => exact ih.trans (List.suffix_cons _ _)
  | case2 cs ih => exact ih.trans ((List.suffix_cons _ _).trans (List.suffix_cons _ _))
  | case3 cs => exact List.suffix_refl cs

/-! ### The last part and what comes before it -/

/-- The text is its last part, if it has no slash. Otherwise its last part follows those of what
comes before the last slash. -/
theorem splitSlash_splitLastRev (cs : List Char) :
    ((splitLastRev cs.reverse).2 = [] ∧ splitSlash cs = [(splitLastRev cs.reverse).1.reverse]) ∨
      ∃ above, (splitLastRev cs.reverse).2 = '/' :: above ∧
        splitSlash cs = splitSlash above.reverse ++ [(splitLastRev cs.reverse).1.reverse] := by
  have hname : '/' ∉ (splitLastRev cs.reverse).1.reverse := by
    intro h
    simpa using List.all_eq_true.mp List.all_takeWhile _ (List.mem_reverse.mp h)
  have hcs : cs = (splitLastRev cs.reverse).2.reverse ++ (splitLastRev cs.reverse).1.reverse := by
    rw [← List.reverse_append, splitLastRev, List.takeWhile_append_dropWhile, List.reverse_reverse]
  cases hrest : (splitLastRev cs.reverse).2 with
  | nil =>
      rw [hrest, List.reverse_nil, List.nil_append] at hcs
      exact .inl ⟨rfl, (congrArg splitSlash hcs).trans (splitSlash_of_notMem hname)⟩
  | cons c above =>
      obtain rfl : c = '/' := by
        have hhead := List.head?_dropWhile_not (· ≠ '/') cs.reverse
        rw [show cs.reverse.dropWhile (· ≠ '/') = c :: above from hrest] at hhead
        simpa using hhead
      refine .inr ⟨above, rfl, (congrArg splitSlash hcs).trans ?_⟩
      rw [hrest, List.reverse_cons, List.append_assoc, List.singleton_append,
        splitSlash_append_slash, splitSlash_of_notMem hname]

/-- A path whose last part names a step has nothing to trim at its end. -/
theorem trimEndRev_of_not_isIdle (h : ¬ IsIdle (splitLastRev cs).1.reverse) :
    trimEndRev cs = cs ∧ cs ≠ [] ∧ cs ≠ ['.'] := by
  refine ⟨?_, ?_, ?_⟩
  · rw [trimEndRev.eq_def]
    split
    · exact absurd (.inl rfl) h
    · exact absurd (.inr rfl) h
    · rfl
  · rintro rfl
    exact h (.inl rfl)
  · rintro rfl
    exact h (.inr rfl)

/-- A path is its root and what is below it. -/
theorem exists_splitRoot (p : Path) :
    ∃ root cs, splitRoot p = (root, cs) ∧ (root = [] ∨ root = ['/']) ∧ p.toList = root ++ cs ∧
      isAbsolute p = !root.isEmpty := by
  rw [splitRoot, isAbsolute]
  split
  · rename_i cs hcs
    exact ⟨['/'], cs, rfl, .inr rfl, hcs, by simp [hcs]⟩
  · rename_i cs hslash
    refine ⟨[], p.toList, rfl, .inl rfl, rfl, ?_⟩
    cases h : p.toList with
    | nil => rfl
    | cons c cs =>
        have hc : c ≠ '/' := fun hc => hslash cs (by rw [h, hc])
        simpa using hc

/-! ### The parent and a name below it -/

/-- A name below a directory that is given by a path. -/
theorem toList_join {base name : Path} (hname : isAbsolute name = false) :
    (join base name).toList
      = if base.toList = [] then name.toList
        else if base.toList.getLast? = some '/' then base.toList ++ name.toList
        else base.toList ++ '/' :: name.toList := by
  rw [join, hname, Bool.false_or]
  by_cases hbase : base.toList = []
  · simp [String.toList_eq_nil_iff.mp hbase]
  · have hne : base.isEmpty = false := by
      rw [String.isEmpty_eq_false_iff]
      exact fun h => hbase (String.toList_eq_nil_iff.mpr h)
    rw [hne, if_neg (by simp), if_neg hbase]
    split
    · exact String.toList_append
    · simp

/-- What is before the parts of a path below a root. -/
def rootParts (root : List Char) : List (List Char) :=
  if root.isEmpty then [] else [[]]

/-- The parts of a name below a directory that was trimmed. -/
theorem splitSlash_join {base name : Path} {root rest : List Char}
    (hroot : root = [] ∨ root = ['/']) (hrest : rest.head? ≠ some '/')
    (hbase : base.toList = root ++ rest.reverse) (hname : '/' ∉ name.toList) :
    splitSlash (join base name).toList
      = rootParts root ++ (if rest = [] then [] else splitSlash rest.reverse) ++ [name.toList] := by
  have hrelative : isAbsolute name = false := by
    cases h : name.toList with
    | nil => simp [isAbsolute, h]
    | cons c cs =>
        rw [h] at hname
        simpa [isAbsolute, h] using (List.ne_of_not_mem_cons hname).symm
  rw [toList_join hrelative, hbase]
  by_cases hempty : rest = []
  · subst hempty
    rcases hroot with rfl | rfl
    · simp [rootParts, splitSlash_of_notMem hname]
    · simp [rootParts, splitSlash_slash, splitSlash_of_notMem hname]
  · have hlast : (root ++ rest.reverse).getLast? ≠ some '/' := by
      rw [List.getLast?_append, List.getLast?_reverse]
      cases rest with
      | nil => contradiction
      | cons c rest => simpa using hrest
    rw [if_neg (by simp [hempty]), if_neg hlast, if_neg hempty, splitSlash_append_slash,
      splitSlash_of_notMem hname]
    rcases hroot with rfl | rfl
    · rfl
    · rfl

/-- A name joined to a path is absolute if the path is. -/
theorem isAbsolute_join {base name : Path} {root rest : List Char}
    (hroot : root = [] ∨ root = ['/']) (hrest : root = [] → rest.getLast? ≠ some '/')
    (hbase : base.toList = root ++ rest.reverse) (hname : isAbsolute name = false) :
    isAbsolute (join base name) = !root.isEmpty := by
  rw [isAbsolute, toList_join hname, hbase]
  rcases hroot with rfl | rfl
  · cases h : rest.reverse with
    | nil => simpa [isAbsolute] using hname
    | cons c cs =>
        have hc : c ≠ '/' := by
          rintro rfl
          exact hrest rfl (by rw [← List.head?_reverse, h, List.head?_cons])
        simp only [List.nil_append, List.cons_append]
        split
        · contradiction
        · split <;> simpa using hc
  · simp only [List.cons_append]
    split
    · contradiction
    · split <;> simp

/-- What is left of a trimmed directory below a root: a lone dot there is no step. -/
def keptRev (root rest : List Char) : List Char :=
  if rest = ['.'] && !root.isEmpty then [] else rest

/-- What is kept of a path is all of it, but for a dot after the root. -/
theorem keptRev_cases (root rest : List Char) :
    keptRev root rest = rest ∨ root ≠ [] ∧ rest = ['.'] ∧ keptRev root rest = [] := by
  rw [keptRev]
  split
  · rename_i h
    exact .inr (by simpa [and_comm] using h)
  · exact .inl rfl

/-- The parent of a path whose last part names a step. -/
theorem parent?_of_not_isIdle {root cs : List Char} (hroot : splitRoot p = (root, cs))
    (hname : ¬ IsIdle (splitLastRev cs.reverse).1.reverse) :
    parent? p = some (String.ofList
      (root ++ (keptRev root (trimEndRev (splitLastRev cs.reverse).2)).reverse)) := by
  obtain ⟨htrim, hne, hdot⟩ := trimEndRev_of_not_isIdle hname
  have hbody : bodyRev p = cs.reverse := by
    simp only [bodyRev, hroot, htrim, hdot, decide_false, Bool.false_and]
    rfl
  simp only [parent?, hbody, hroot, keptRev]

/-- The root is a part of its own. -/
theorem splitSlash_root {root : List Char} (hroot : root = [] ∨ root = ['/']) (cs : List Char) :
    splitSlash (root ++ cs) = rootParts root ++ splitSlash cs := by
  rcases hroot with rfl | rfl <;> rfl

/-- The parts that are cut off with the last one stay where they are. -/
theorem exists_idle (root : List Char) {rest above : List Char}
    (hrest : rest = trimEndRev ('/' :: above)) :
    ∃ idle, (∀ part ∈ idle, IsIdle part) ∧
      splitSlash above.reverse
        = (if keptRev root rest = [] then [] else splitSlash (keptRev root rest).reverse)
          ++ idle := by
  obtain ⟨idle, hidle, hparts⟩ := splitSlash_trimEndRev above
  rw [← show rest = trimEndRev above from hrest] at hparts
  rcases keptRev_cases root rest with h | ⟨-, hdot, h⟩
  · rw [h]
    by_cases hempty : rest = []
    · refine ⟨[] :: idle, ?_, ?_⟩
      · simpa [IsIdle] using hidle
      · simpa [hempty, splitSlash] using hparts
    · exact ⟨idle, hidle, by rw [if_neg hempty, hparts]⟩
  · refine ⟨['.'] :: idle, ?_, ?_⟩
    · simpa [IsIdle] using hidle
    · rw [hparts, if_pos h, hdot]
      rfl

/-- The parts below a root are those before the last slash, if there is one, and the last part. -/
theorem exists_idle_below {root cs rest name : List Char} {above : List (List Char)}
    (hrest : rest = trimEndRev (splitLastRev cs.reverse).2)
    (hp : rootParts root ++ splitSlash cs = above ++ [name]) :
    (splitLastRev cs.reverse).1.reverse = name ∧
      ∃ idle, (∀ part ∈ idle, IsIdle part) ∧ above = rootParts root
        ++ (if keptRev root rest = [] then [] else splitSlash (keptRev root rest).reverse)
        ++ idle := by
  rcases splitSlash_splitLastRev cs with ⟨hnone, hparts⟩ | ⟨before, hsome, hparts⟩
  · rw [hparts] at hp
    obtain ⟨habove, hlast⟩ := List.append_inj' hp rfl
    rw [hnone] at hrest
    refine ⟨List.singleton_inj.mp hlast, [], by simp, ?_⟩
    simp [hrest, trimEndRev, keptRev, ← habove]
  · rw [hparts, ← List.append_assoc] at hp
    obtain ⟨habove, hlast⟩ := List.append_inj' hp rfl
    rw [hsome] at hrest
    obtain ⟨idle, hidle, hbefore⟩ := exists_idle root hrest
    refine ⟨List.singleton_inj.mp hlast, idle, hidle, ?_⟩
    rw [← habove, hbefore, List.append_assoc]

/-- What is kept of a trimmed path does not end in a slash. -/
theorem head?_keptRev (root cs : List Char) :
    (keptRev root (trimEndRev cs)).head? ≠ some '/' := by
  rcases keptRev_cases root (trimEndRev cs) with h | ⟨-, -, h⟩
  · rw [h]
    exact head?_trimEndRev _
  · simp [h]

/-- What is kept of a relative path begins like it. -/
theorem getLast?_keptRev {cs : List Char} (hcs : cs.head? ≠ some '/') :
    (keptRev [] (trimEndRev (splitLastRev cs.reverse).2)).getLast? ≠ some '/' := by
  intro hslash
  have hkept (rest : List Char) : keptRev [] rest = rest := by simp [keptRev]
  obtain ⟨front, hfront⟩ : trimEndRev (splitLastRev cs.reverse).2 <:+ cs.reverse :=
    (trimEndRev_suffix _).trans (List.dropWhile_suffix _)
  have hlast : cs.reverse.getLast? = some '/' := by
    rw [← hfront, List.getLast?_append, ← hkept (trimEndRev _), hslash, Option.some_or]
  rw [List.getLast?_reverse] at hlast
  exact hcs hlast

/-- **The parts of a name next to the last part of a path.** They are those of the path up to its
last part, but for parts that stay where they are, and then the name. -/
theorem parts_defaultShadowDir {above : List (List Char)} {name : List Char}
    (hp : splitSlash p.toList = above ++ [name]) (hname : ¬ IsIdle name) :
    isAbsolute (defaultShadowDir p) = isAbsolute p ∧
      ∃ front idle, above = front ++ idle ∧ (∀ part ∈ idle, IsIdle part) ∧
        splitSlash (defaultShadowDir p).toList = front ++ [shadowDirName.toList] := by
  obtain ⟨root, cs, hsplit, hroot, htext, habsolute⟩ := exists_splitRoot p
  rw [htext, splitSlash_root hroot] at hp
  obtain ⟨hlast, idle, hidle, habove⟩ := exists_idle_below rfl hp
  have hdir : defaultShadowDir p = join (String.ofList
      (root ++ (keptRev root (trimEndRev (splitLastRev cs.reverse).2)).reverse)) shadowDirName := by
    rw [defaultShadowDir, parent?_of_not_isIdle hsplit (hlast ▸ hname)]
    rfl
  have hfoot : root = [] →
      (keptRev root (trimEndRev (splitLastRev cs.reverse).2)).getLast? ≠ some '/' := by
    rintro rfl
    refine getLast?_keptRev fun hcs => ?_
    simp [isAbsolute, htext, hcs] at habsolute
  rw [hdir]
  refine ⟨?_, _, idle, habove, hidle,
    splitSlash_join hroot (head?_keptRev root _) (String.toList_ofList) (by decide)⟩
  rw [isAbsolute_join hroot hfoot String.toList_ofList (by decide), habsolute]

end Path

end ScriptHost
