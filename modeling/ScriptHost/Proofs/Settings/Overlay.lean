import Mathlib.Data.List.Perm.Basic
import Mathlib.Data.Set.List
import Mathlib.Data.String.Basic
import ScriptHost.Proofs.Toml.Distinct
import ScriptHost.Settings.Reader

/-!
# Settings as an overlay

What settings a table gives, told without the reader: each setting is what the table says under its
key, or the default if the key is missing (`Settings.Overlays`). The reader makes exactly these
settings of every table that has no key twice (`Settings.ofTable?_eq_some_iff`), as those of
documents do.

## Main definitions

* `Settings.IsText`, `Settings.IsSize`, `Settings.IsSeconds`, `Settings.IsTexts` — what values say.
* `Settings.Presents` — the two forms of a section.
* `Settings.Given` — a setting that a table overlays.
-/

namespace ScriptHost

namespace Settings

open Toml (Value Table)

/-! ### What values say -/

/-- A text. -/
inductive IsText : Value → String → Prop
  | string (s : String) : IsText (.string s) s

/-- A text for a setting that has none by default. -/
inductive IsSomeText : Value → Option String → Prop
  | string (s : String) : IsSomeText (.string s) (some s)

/-- A size, which is not negative. -/
inductive IsSize : Value → Nat → Prop
  | integer (n : Nat) : IsSize (.integer n) n

/-- A number of seconds: a float, or an integer for one. -/
inductive IsSeconds : Value → Number.Double → Prop
  | float (x : Number.Double) : IsSeconds (.float x) x
  | integer (n : Int) : IsSeconds (.integer n) (.ofInt n)

/-- A table. A date-time passes for one with a single member, its text. -/
inductive IsTable : Value → Table → Prop
  | table (t : Table) : IsTable (.table t) t
  | dateTime (text : String) : IsTable (.dateTime text) [(Toml.dateTimeKey, .string text)]

/-- A text with a name as a member of a table. -/
def named (entry : String × String) : String × Value :=
  (entry.1, .string entry.2)

/-- Texts by name: a table of strings, in any order, read in the order of the names. -/
inductive IsTexts : Value → List (String × String) → Prop
  | mk {v : Value} {t : Table} {texts : List (String × String)} (htable : IsTable v t)
      (hmembers : t.Perm (texts.map named)) (hsorted : texts.Pairwise fun a b => a.1 < b.1) :
    IsTexts v texts

/-! ### Sections and settings -/

/-- A section is a table, or an array of values for its keys in their order. The array may be longer
or shorter than they are: what is missing is not given, and what is too much is ignored. -/
inductive Presents (keys : List String) : Value → Table → Prop
  | table {v : Value} {t : Table} (h : IsTable v t) : Presents keys v t
  | array (elements : List Value) : Presents keys (.array elements) (keys.zip elements)

section Given

variable {α : Type}

/-- A setting is what a table says under its key, or the default if the key is missing. -/
inductive Given (t : Table) (key : String) (Says : Value → α → Prop) (default : α) : α → Prop
  | present {v : Value} {x : α} (hv : t.lookup key = some v) (hx : Says v x) :
    Given t key Says default x
  | missing (h : t.lookup key = none) : Given t key Says default default

/-- The settings of a section that has them in one form or the other. -/
def Section (keys : List String) (Gives : Table → α → Prop) (v : Value) (x : α) : Prop :=
  ∃ u, Presents keys v u ∧ Gives u x

end Given

/-- The settings that the table of a module section gives. -/
structure OverlaysModule (u : Table) (s : ModuleSettings) : Prop where
  path : Given u "path" IsText ({} : ModuleSettings).path s.path
  symbolPrefix : Given u "symbol_prefix" IsText ({} : ModuleSettings).symbolPrefix s.symbolPrefix
  configFile : Given u "config_file" IsSomeText ({} : ModuleSettings).configFile s.configFile
  shadowDir : Given u "shadow_dir" IsSomeText ({} : ModuleSettings).shadowDir? s.shadowDir?

/-- The settings that the table of an execution section gives. -/
structure OverlaysExecution (u : Table) (s : ExecutionSettings) : Prop where
  language : Given u "default_language" IsText ({} : ExecutionSettings).defaultLanguage
    s.defaultLanguage
  timeout : Given u "default_timeout_secs" IsSeconds ({} : ExecutionSettings).defaultTimeout
    s.defaultTimeout
  budget : Given u "output_budget" IsSize ({} : ExecutionSettings).outputBudget s.outputBudget
  workers : Given u "max_blocking_threads" IsSize ({} : ExecutionSettings).maxWorkers s.maxWorkers

/-- The settings that the table of a rebuild section gives. -/
structure OverlaysRebuild (u : Table) (s : RebuildSettings) : Prop where
  sourceDir : Given u "source_dir" IsText ({} : RebuildSettings).sourceDir s.sourceDir
  branch : Given u "branch" IsText ({} : RebuildSettings).branch s.branch
  remote : Given u "remote" IsText ({} : RebuildSettings).remote s.remote
  cacheFile : Given u "cache_file" IsText ({} : RebuildSettings).cacheFile s.cacheFile
  buildTarget : Given u "build_target" IsText ({} : RebuildSettings).buildTarget s.buildTarget
  jobs : Given u "jobs" IsSize ({} : RebuildSettings).jobs s.jobs
  env : Given u "env" IsTexts ({} : RebuildSettings).env s.env

/-- The settings that the table of a logging section gives. -/
structure OverlaysLogging (u : Table) (s : LoggingSettings) : Prop where
  level : Given u "level" IsText ({} : LoggingSettings).level s.level

/-- **The settings that a table gives.** -/
structure Overlays (t : Table) (s : Settings) : Prop where
  module : Given t "module" (Section moduleKeys OverlaysModule) {} s.module
  execution : Given t "execution" (Section executionKeys OverlaysExecution) {} s.execution
  rebuild : Given t "rebuild" (Section rebuildKeys OverlaysRebuild) {} s.rebuild
  logging : Given t "logging" (Section loggingKeys OverlaysLogging) {} s.logging

/-! ### Reading a value -/

variable {v : Value} {t u : Table} {keys : List String} {texts : List (String × String)}

/-- A text is read of the values that are one. -/
theorem readString_eq_some_iff {x : String} : readString v = some x ↔ IsText v x := by
  constructor
  · intro h
    cases v with
    | string s =>
        obtain rfl := Option.some.inj h
        exact .string s
    | integer _ | float _ | boolean _ | dateTime _ | array _ | table _ => cases h
  · rintro ⟨⟩
    rfl

/-- The same for a setting that has no text by default. -/
theorem readOptional_eq_some_iff {x : Option String} :
    readOptional v = some x ↔ IsSomeText v x := by
  rw [readOptional, Option.map_eq_some_iff]
  constructor
  · rintro ⟨s, hs, rfl⟩
    obtain ⟨⟩ := readString_eq_some_iff.mp hs
    exact .string s
  · rintro ⟨s⟩
    exact ⟨s, rfl, rfl⟩

/-- A size is read of the integers that are not negative. -/
theorem readSize_eq_some_iff {x : Nat} : readSize v = some x ↔ IsSize v x := by
  constructor
  · intro h
    cases v with
    | integer n =>
        rw [readSize] at h
        split at h
        · next hn =>
            obtain rfl := Option.some.inj h
            rw [← Int.toNat_of_nonneg hn]
            exact .integer _
        · cases h
    | string _ | float _ | boolean _ | dateTime _ | array _ | table _ => cases h
  · rintro ⟨n⟩
    simp [readSize]

/-- A number of seconds is read of floats and of integers. -/
theorem readSeconds_eq_some_iff {x : Number.Double} : readSeconds v = some x ↔ IsSeconds v x := by
  constructor
  · intro h
    cases v with
    | float x =>
        obtain rfl := Option.some.inj h
        exact .float x
    | integer n =>
        obtain rfl := Option.some.inj h
        exact .integer n
    | string _ | boolean _ | dateTime _ | array _ | table _ => cases h
  · rintro (_ | _) <;> rfl

/-- A table is read of tables, and of date-times as the reader gets them. -/
theorem table?_eq_some_iff : v.table? = some t ↔ IsTable v t := by
  constructor
  · intro h
    cases v with
    | table t =>
        obtain rfl := Option.some.inj h
        exact .table t
    | dateTime text =>
        obtain rfl := Option.some.inj h
        exact .dateTime text
    | string _ | integer _ | float _ | boolean _ | array _ => cases h
  · rintro (_ | _) <;> rfl

/-- The table that a value is read as has no key twice if the value has none. -/
theorem IsTable.distinct (h : IsTable v t) (hv : v.Distinct) : (Value.table t).Distinct := by
  cases h with
  | table _ => exact hv
  | dateTime text => exact .table (List.nodup_singleton _) (by simpa using .string text)

/-- With no name twice there is one order of the names. -/
theorem sortByName_eq_iff {texts' : List (String × String)} (h : (texts.map Prod.fst).Nodup) :
    sortByName texts = texts' ↔ texts.Perm texts' ∧ texts'.Pairwise fun a b => a.1 < b.1 := by
  have hperm : (sortByName texts).Perm texts := List.mergeSort_perm _ _
  have hsorted : (sortByName texts).Pairwise fun a b => a.1 < b.1 := by
    have hle : (sortByName texts).Pairwise fun a b => a.1 ≤ b.1 := by
      refine (List.pairwise_mergeSort (fun a b c hab hbc => ?_) (fun a b => ?_) texts).imp
        of_decide_eq_true
      · exact decide_eq_true ((of_decide_eq_true hab).trans (of_decide_eq_true hbc))
      · simpa using le_total a.1 b.1
    have hne : (sortByName texts).Pairwise fun a b => a.1 ≠ b.1 :=
      List.pairwise_map.mp ((hperm.map Prod.fst).nodup_iff.mpr h)
    exact (hle.and hne).imp fun hab => lt_of_le_of_ne hab.1 hab.2
  constructor
  · rintro rfl
    exact ⟨hperm.symm, hsorted⟩
  · rintro ⟨hperm', hsorted'⟩
    exact (hperm.trans hperm').eq_of_pairwise
      (fun a b _ _ hab hba => absurd hba (lt_asymm hab)) hsorted hsorted'

/-- Texts with names are told apart as members of a table. -/
theorem named_injective : Function.Injective named := by
  rintro ⟨name, s⟩ ⟨name', s'⟩ h
  cases h
  rfl

/-- The members of a table are read as texts if they are texts, in the order of the table. -/
theorem mapM_readString_eq_some_iff :
    (t.mapM fun m => (readString m.2).map fun s => (m.1, s)) = some texts ↔
      t = texts.map named := by
  induction t generalizing texts with
  | nil => cases texts <;> simp
  | cons m t ih =>
      obtain ⟨key, v⟩ := m
      rw [List.mapM_cons]
      cases texts with
      | nil => simp [Option.bind_eq_some_iff]
      | cons entry texts =>
          simp only [Option.bind_eq_bind, Option.bind_eq_some_iff, ih, Option.map_eq_some_iff,
            readString_eq_some_iff, List.map_cons, List.cons.injEq]
          constructor
          · rintro ⟨_, ⟨s, hs, rfl⟩, _, rfl, heq⟩
            obtain ⟨rfl, rfl⟩ := List.cons.inj (Option.some.inj heq)
            cases hs
            exact ⟨rfl, rfl⟩
          · rintro ⟨hm, rfl⟩
            cases hm
            exact ⟨_, ⟨_, .string _, rfl⟩, _, rfl, rfl⟩

/-- A table of strings is one of texts by name. -/
theorem exists_eq_map_named (h : ∀ m ∈ t, ∃ s, m.2 = .string s) :
    ∃ written : List (String × String), t = written.map named := by
  suffices ht : t ∈ Set.range (List.map named) from ht.imp fun _ => Eq.symm
  rw [Set.range_list_map]
  rintro ⟨name, v⟩ hm
  obtain ⟨s, rfl⟩ := h _ hm
  exact ⟨(name, s), rfl⟩

/-- As members of a table texts have their names for keys. -/
theorem map_named_keys (texts : List (String × String)) :
    (texts.map named).map Prod.fst = texts.map Prod.fst := by
  rw [List.map_map]
  rfl

/-- Only tables of strings are texts by name. -/
theorem exists_string_of_perm (h : t.Perm (texts.map named)) : ∀ m ∈ t, ∃ s, m.2 = .string s := by
  intro m hm
  obtain ⟨entry, -, rfl⟩ := List.mem_map.mp (h.subset hm)
  exact ⟨entry.2, rfl⟩

/-- Texts by name are read of tables of strings, if no key stands twice in them. -/
theorem readStrings_eq_some_iff (hkeys : ∀ t, IsTable v t → (t.map Prod.fst).Nodup) :
    readStrings v = some texts ↔ IsTexts v texts := by
  simp only [readStrings, Option.bind_eq_some_iff, Option.map_eq_some_iff, table?_eq_some_iff,
    mapM_readString_eq_some_iff]
  constructor
  · rintro ⟨_, htable, written, rfl, hsort⟩
    have hnodup := map_named_keys written ▸ hkeys _ htable
    obtain ⟨hperm, hsorted⟩ := (sortByName_eq_iff hnodup).mp hsort
    exact .mk htable (hperm.map named) hsorted
  · intro h
    cases h with
    | @mk t _ htable hmembers hsorted =>
        obtain ⟨written, rfl⟩ := exists_eq_map_named (exists_string_of_perm hmembers)
        have hnodup := map_named_keys written ▸ hkeys _ htable
        have hperm := (List.map_perm_map_iff named_injective).mp hmembers
        exact ⟨_, htable, written, rfl, (sortByName_eq_iff hnodup).mpr ⟨hperm, hsorted⟩⟩

/-! ### Reading a section -/

/-- The table of a section is read of both of its forms. -/
theorem sectionTable_eq_some_iff : sectionTable keys v = some u ↔ Presents keys v u := by
  constructor
  · intro h
    cases v with
    | array elements =>
        obtain rfl := Option.some.inj h
        exact .array elements
    | table _ | dateTime _ => exact .table (table?_eq_some_iff.mp h)
    | string _ | integer _ | float _ | boolean _ => cases h
  · rintro (⟨_ | _⟩ | _) <;> rfl

/-- A section of a document has no key twice, in whatever form it is. -/
theorem Presents.distinct (h : Presents keys v u) (hkeys : keys.Nodup) (hv : v.Distinct) :
    (Value.table u).Distinct := by
  cases h with
  | table h => exact h.distinct hv
  | array elements =>
      cases hv with
      | array helements =>
          refine .table ?_ fun m hm => helements _ (List.of_mem_zip hm).2
          rw [List.zip_eq_zip_take_min, List.map_fst_zip (by simp)]
          exact hkeys.sublist (List.take_sublist _ _)

section Given

variable {α : Type} {key : String} {read : Value → Option α} {Says : Value → α → Prop}
  {default x : α}

/-- A setting is read as what the table gives for it, if its value is read as what it says. -/
theorem setting_eq_some_iff (h : ∀ v x, t.lookup key = some v → (read v = some x ↔ Says v x)) :
    setting t key read default = some x ↔ Given t key Says default x := by
  unfold setting
  cases hkey : t.lookup key with
  | none =>
      constructor
      · intro hx
        obtain rfl := Option.some.inj hx
        exact .missing hkey
      · rintro (⟨hv, -⟩ | -)
        · rw [hkey] at hv
          cases hv
        · rfl
  | some v =>
      refine (h v x hkey).trans ⟨.present hkey, ?_⟩
      rintro (⟨hv, hx⟩ | hnone)
      · obtain rfl := Option.some.inj (hkey.symm.trans hv)
        exact hx
      · rw [hkey] at hnone
        cases hnone

end Given

/-- A module section is read as the settings that it gives. -/
theorem readModule_eq_some_iff {s : ModuleSettings} :
    readModule v = some s ↔ Section moduleKeys OverlaysModule v s := by
  simp only [readModule, Option.bind_eq_bind, Option.bind_eq_some_iff, sectionTable_eq_some_iff,
    setting_eq_some_iff fun _ _ _ => readString_eq_some_iff,
    setting_eq_some_iff fun _ _ _ => readOptional_eq_some_iff]
  constructor
  · rintro ⟨u, hu, path, hpath, symbolPrefix, hprefix, configFile, hconfig, shadowDir, hshadow, heq⟩
    obtain rfl := Option.some.inj heq
    exact ⟨u, hu, hpath, hprefix, hconfig, hshadow⟩
  · rintro ⟨u, hu, hpath, hprefix, hconfig, hshadow⟩
    exact ⟨u, hu, _, hpath, _, hprefix, _, hconfig, _, hshadow, rfl⟩

/-- The same of an execution section. -/
theorem readExecution_eq_some_iff {s : ExecutionSettings} :
    readExecution v = some s ↔ Section executionKeys OverlaysExecution v s := by
  simp only [readExecution, Option.bind_eq_bind, Option.bind_eq_some_iff, sectionTable_eq_some_iff,
    setting_eq_some_iff fun _ _ _ => readString_eq_some_iff,
    setting_eq_some_iff fun _ _ _ => readSeconds_eq_some_iff,
    setting_eq_some_iff fun _ _ _ => readSize_eq_some_iff]
  constructor
  · rintro ⟨u, hu, language, hlanguage, timeout, htimeout, budget, hbudget, workers, hworkers, heq⟩
    obtain rfl := Option.some.inj heq
    exact ⟨u, hu, hlanguage, htimeout, hbudget, hworkers⟩
  · rintro ⟨u, hu, hlanguage, htimeout, hbudget, hworkers⟩
    exact ⟨u, hu, _, hlanguage, _, htimeout, _, hbudget, _, hworkers, rfl⟩

/-- The keys of a rebuild section are told apart. -/
theorem rebuildKeys_nodup : rebuildKeys.Nodup := by decide

/-- The same of a rebuild section, whose variables have no name twice. -/
theorem readRebuild_eq_some_iff {s : RebuildSettings} (hv : v.Distinct) :
    readRebuild v = some s ↔ Section rebuildKeys OverlaysRebuild v s := by
  have henv : ∀ {u}, Presents rebuildKeys v u → ∀ w texts, u.lookup "env" = some w →
      (readStrings w = some texts ↔ IsTexts w texts) := by
    intro u hu w texts hw
    have hw := (hu.distinct rebuildKeys_nodup hv).lookup hw
    exact readStrings_eq_some_iff fun t ht => (ht.distinct hw).keys
  simp only [readRebuild, Option.bind_eq_bind, Option.bind_eq_some_iff, sectionTable_eq_some_iff,
    setting_eq_some_iff fun _ _ _ => readString_eq_some_iff,
    setting_eq_some_iff fun _ _ _ => readSize_eq_some_iff]
  constructor
  · rintro ⟨u, hu, sourceDir, hsource, branch, hbranch, remote, hremote, cacheFile, hcache,
      buildTarget, htarget, jobs, hjobs, env, hgiven, heq⟩
    obtain rfl := Option.some.inj heq
    exact ⟨u, hu, hsource, hbranch, hremote, hcache, htarget, hjobs,
      (setting_eq_some_iff (henv hu)).mp hgiven⟩
  · rintro ⟨u, hu, hsource, hbranch, hremote, hcache, htarget, hjobs, hgiven⟩
    exact ⟨u, hu, _, hsource, _, hbranch, _, hremote, _, hcache, _, htarget, _, hjobs, _,
      (setting_eq_some_iff (henv hu)).mpr hgiven, rfl⟩

/-- The same of a logging section. -/
theorem readLogging_eq_some_iff {s : LoggingSettings} :
    readLogging v = some s ↔ Section loggingKeys OverlaysLogging v s := by
  simp only [readLogging, Option.bind_eq_bind, Option.bind_eq_some_iff, sectionTable_eq_some_iff,
    setting_eq_some_iff fun _ _ _ => readString_eq_some_iff]
  constructor
  · rintro ⟨u, hu, level, hlevel, heq⟩
    obtain rfl := Option.some.inj heq
    exact ⟨u, hu, ⟨hlevel⟩⟩
  · rintro ⟨u, hu, ⟨hlevel⟩⟩
    exact ⟨u, hu, _, hlevel, rfl⟩

/-- **The reader makes of a table exactly the settings that the table gives.** -/
theorem ofTable?_eq_some_iff {s : Settings} (ht : (Value.table t).Distinct) :
    ofTable? t = some s ↔ Overlays t s := by
  simp only [ofTable?, Option.bind_eq_bind, Option.bind_eq_some_iff,
    setting_eq_some_iff fun _ _ _ => readModule_eq_some_iff,
    setting_eq_some_iff fun _ _ _ => readExecution_eq_some_iff,
    setting_eq_some_iff fun _ _ hv => readRebuild_eq_some_iff (ht.lookup hv),
    setting_eq_some_iff fun _ _ _ => readLogging_eq_some_iff]
  constructor
  · rintro ⟨module, hmodule, execution, hexecution, rebuild, hrebuild, logging, hlogging, heq⟩
    obtain rfl := Option.some.inj heq
    exact ⟨hmodule, hexecution, hrebuild, hlogging⟩
  · rintro ⟨hmodule, hexecution, hrebuild, hlogging⟩
    exact ⟨_, hmodule, _, hexecution, _, hrebuild, _, hlogging, rfl⟩

end Settings

end ScriptHost
