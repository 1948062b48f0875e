import ScriptHost.Proofs.Files.Parents

/-!
# Walks of paths

What the walk of a path looks at: the directories on its way and the place where it ends, and
nothing else (`FileTree.resolve_of_agree`). And where the directory next to a file is
(`FileTree.resolve_defaultShadowDir`).
-/

namespace ScriptHost

namespace FileTree

variable {t t' : FileTree} {cwd here l next : Location} {p : Path}

/-! ### One step -/

/-- A step begins in a directory. It stays there, goes up, or goes down to something that lies
there. -/
theorem step_cases {part : String} (h : t.step here part = .ok next) :
    t.find? here = some .directory ∧
      (next = here ∧ (part = "" ∨ part = ".") ∨ next = here.dropLast ∧ part = ".." ∨
        next = here ++ [part] ∧ (t.find? next).isSome) := by
  rw [step] at h
  split at h
  · rename_i hdirectory
    refine ⟨hdirectory, ?_⟩
    split at h
    · rename_i hidle
      exact .inl ⟨(Except.ok.inj h).symm, by simpa using hidle⟩
    · split at h
      · rename_i hup
        exact .inr (.inl ⟨(Except.ok.inj h).symm, hup⟩)
      · split at h
        · cases h
        · split at h
          · rename_i hthere
            obtain rfl := Except.ok.inj h
            exact .inr (.inr ⟨rfl, hthere⟩)
          · cases h
  · cases h
  · cases h

/-- An empty part and a single dot stay where they are. -/
theorem step_idle {part : String} (hidle : part = "" ∨ part = ".")
    (h : t.step here part = .ok next) : next = here := by
  obtain ⟨hdirectory, -⟩ := step_cases h
  rw [step, hdirectory] at h
  dsimp only at h
  rw [if_pos (by simpa using hidle)] at h
  exact (Except.ok.inj h).symm

/-- A step goes the same way in a tree with the same directory, and something at its end. -/
theorem step_of_agree {part : String} (h : t.step here part = .ok next)
    (hhere : t'.find? here = t.find? here) (hnext : t'.find? next = t.find? next) :
    t'.step here part = .ok next := by
  obtain ⟨hdirectory, -⟩ := step_cases h
  rw [step, hdirectory] at h
  rw [step, hhere, hdirectory]
  dsimp only at h ⊢
  by_cases hidle : (part.isEmpty || part = ".") = true
  · rwa [if_pos hidle] at h ⊢
  rw [if_neg hidle] at h ⊢
  by_cases hup : part = ".."
  · rwa [if_pos hup] at h ⊢
  rw [if_neg hup] at h ⊢
  by_cases hlong : maxName < part.utf8ByteSize
  · rw [if_pos hlong] at h
    cases h
  rw [if_neg hlong] at h ⊢
  by_cases hthere : (t.find? (here ++ [part])).isSome
  · rw [if_pos hthere] at h
    obtain rfl := Except.ok.inj h
    rw [hnext, if_pos hthere]
  · rw [if_neg hthere] at h
    cases h

/-! ### Walks -/

/-- A walk is a step and a walk from where it leads. -/
theorem walk_cons {part : String} {parts : List String} :
    (part :: parts).foldlM (step t) here = .ok l ↔
      ∃ next, t.step here part = .ok next ∧ parts.foldlM (step t) next = .ok l := by
  rw [List.foldlM_cons]
  cases t.step here part with
  | error e => simp [bind, Except.bind]
  | ok next => simp [bind, Except.bind]

/-- A walk along two paths leads where the second leads from the end of the first. -/
theorem walk_append {front back : List String} :
    (front ++ back).foldlM (step t) here = .ok l ↔
      ∃ mid, front.foldlM (step t) here = .ok mid ∧ back.foldlM (step t) mid = .ok l := by
  rw [List.foldlM_append]
  cases front.foldlM (step t) here with
  | error e => simp [bind, Except.bind]
  | ok mid => simp [bind, Except.bind]

/-- A walk along one part is a step. -/
theorem walk_singleton {part : String} :
    [part].foldlM (step t) here = .ok l ↔ t.step here part = .ok l := by
  rw [walk_cons]
  simp [pure, Except.pure]

/-- Parts that stay where they are lead nowhere. -/
theorem walk_idle {parts : List String} (hidle : ∀ part ∈ parts, part = "" ∨ part = ".")
    (h : parts.foldlM (step t) here = .ok l) : l = here := by
  induction parts generalizing here with
  | nil => exact (Except.ok.inj h).symm
  | cons part parts ih =>
      obtain ⟨next, hstep, hrest⟩ := walk_cons.mp h
      obtain rfl := ih (fun q hq => hidle q (List.mem_cons_of_mem _ hq)) hrest
      exact step_idle (hidle part (List.mem_cons_self ..)) hstep

/-- **A walk looks at directories only, and at the place where it ends.** It leads to the same place
in every tree that has all these. -/
theorem walk_of_agree
    (hdirectories : ∀ k, t.find? k = some .directory → t'.find? k = some .directory)
    (hl : t'.find? l = t.find? l) {parts : List String} (h : parts.foldlM (step t) here = .ok l) :
    parts.foldlM (step t') here = .ok l := by
  induction parts generalizing here with
  | nil => exact h
  | cons part parts ih =>
      obtain ⟨next, hstep, hrest⟩ := walk_cons.mp h
      refine walk_cons.mpr ⟨next, step_of_agree hstep ?_ ?_, ih hrest⟩
      · rw [(step_cases hstep).1, hdirectories _ (step_cases hstep).1]
      · -- The walk ends here, or another step begins here.
        cases parts with
        | nil =>
            obtain rfl : next = l := Except.ok.inj hrest
            exact hl
        | cons q parts =>
            obtain ⟨_, hnext, -⟩ := walk_cons.mp hrest
            rw [(step_cases hnext).1, hdirectories _ (step_cases hnext).1]

/-! ### Paths -/

/-- A path leads somewhere exactly if it is not refused and the walk along its parts does. -/
theorem resolve_eq_ok_iff :
    t.resolve cwd p = .ok l ↔
      refusal? p = none ∧ (Path.parts p).foldlM (step t) (origin cwd p) = .ok l := by
  rw [resolve]
  cases refusal? p <;> simp

/-- A path names the same place in every tree that has the same directories and the same thing at
that place. -/
theorem resolve_of_agree
    (hdirectories : ∀ k, t.find? k = some .directory → t'.find? k = some .directory)
    (hl : t'.find? l = t.find? l) (h : t.resolve cwd p = .ok l) : t'.resolve cwd p = .ok l := by
  obtain ⟨hallowed, hwalk⟩ := resolve_eq_ok_iff.mp h
  exact resolve_eq_ok_iff.mpr ⟨hallowed, walk_of_agree hdirectories hl hwalk⟩

/-- **The directory for copies of a file lies next to it**, below the directory where the last step
to the file begins. -/
theorem resolve_defaultShadowDir {k : Location} (hl : t.resolve cwd p = .ok l)
    (hfile : t.find? l ≠ some .directory) (hk : t.resolve cwd (defaultShadowDir p) = .ok k) :
    ∃ above, k = above ++ [shadowDirName] ∧ (l = above.dropLast ∨ ∃ name, l = above ++ [name]) := by
  obtain ⟨-, hwalk⟩ := resolve_eq_ok_iff.mp hl
  obtain ⟨-, hwalk'⟩ := resolve_eq_ok_iff.mp hk
  obtain ⟨parts, name, hparts⟩ : ∃ parts name, Path.splitSlash p.toList = parts ++ [name] :=
    ⟨_, _, (List.dropLast_concat_getLast (Path.splitSlash_ne_nil p.toList)).symm⟩
  rw [Path.parts, hparts, List.map_append] at hwalk
  obtain ⟨here, habove, hlast⟩ := walk_append.mp hwalk
  rw [List.map_singleton, walk_singleton] at hlast
  -- The last part names a step, for the walk does not end in the directory where that begins.
  have hname : ¬ Path.IsIdle name := by
    intro hidle
    obtain rfl := step_idle (hidle.imp (by rintro rfl; rfl) (by rintro rfl; rfl)) hlast
    exact hfile (step_cases hlast).1
  obtain ⟨habsolute, front, idle, rfl, hidle, hshadow⟩ := Path.parts_defaultShadowDir hparts hname
  rw [Path.parts, hshadow, List.map_append, origin, habsolute, ← origin] at hwalk'
  obtain ⟨above, hfront, hdown⟩ := walk_append.mp hwalk'
  rw [List.map_append] at habove
  obtain ⟨above', hfront', hrest⟩ := walk_append.mp habove
  obtain rfl : above = above' := Except.ok.inj (hfront.symm.trans hfront')
  obtain rfl : here = above := by
    refine walk_idle ?_ hrest
    intro part hpart
    obtain ⟨cs, hcs, rfl⟩ := List.mem_map.mp hpart
    exact (hidle cs hcs).imp (by rintro rfl; rfl) (by rintro rfl; rfl)
  rw [List.map_singleton, walk_singleton, String.ofList_toList] at hdown
  refine ⟨here, ?_, ?_⟩
  · rcases (step_cases hdown).2 with ⟨-, h⟩ | ⟨-, h⟩ | ⟨h, -⟩
    · exact absurd h (by decide)
    · exact absurd h (by decide)
    · exact h
  · rcases (step_cases hlast).2 with ⟨h, -⟩ | ⟨h, -⟩ | ⟨h, -⟩
    · exact absurd (h ▸ (step_cases hlast).1) hfile
    · exact .inl h
    · exact .inr ⟨_, h⟩

end FileTree

end ScriptHost
