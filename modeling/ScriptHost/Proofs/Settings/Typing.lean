import ScriptHost.Proofs.Settings.Overlay

/-!
# Which tables give settings

A table gives settings exactly if each key that it has, of those that are known, has a value of its
kind (`Settings.exists_overlays_iff`). The known keys and their kinds are listed once
(`Settings.schema`), apart from the settings that they give.

## Main definitions

* `Settings.Kind` — the kinds of settings, and the values of each.
* `Settings.schema` — the sections with their keys, and the kind of each key.
* `Settings.WellTyped` — the tables with values of the right kinds.
-/

namespace ScriptHost

namespace Settings

open Toml (Value Table)

/-- The kinds of settings. -/
inductive Kind where
  | text
  | size
  | seconds
  | texts

/-- The values of a kind. -/
inductive Kind.Admits : Kind → Value → Prop
  | string (s : String) : Admits .text (.string s)
  | natural (n : Nat) : Admits .size (.integer n)
  | float (x : Number.Double) : Admits .seconds (.float x)
  | integer (n : Int) : Admits .seconds (.integer n)
  | strings {v : Value} {t : Table} (htable : IsTable v t) (h : ∀ m ∈ t, ∃ s, m.2 = .string s) :
    Admits .texts v

/-- The keys of a section with the kind of each, in their order. -/
abbrev Fields := List (String × Kind)

/-- The keys of the module section. -/
def moduleFields : Fields :=
  [("path", .text), ("symbol_prefix", .text), ("config_file", .text), ("shadow_dir", .text)]

/-- The keys of the execution section. -/
def executionFields : Fields :=
  [("default_language", .text), ("default_timeout_secs", .seconds), ("output_budget", .size),
    ("max_blocking_threads", .size)]

/-- The keys of the rebuild section. -/
def rebuildFields : Fields :=
  [("source_dir", .text), ("branch", .text), ("remote", .text), ("cache_file", .text),
    ("build_target", .text), ("jobs", .size), ("env", .texts)]

/-- The keys of the logging section. -/
def loggingFields : Fields := [("level", .text)]

/-- The sections with their keys. -/
def schema : List (String × Fields) :=
  [("module", moduleFields), ("execution", executionFields), ("rebuild", rebuildFields),
    ("logging", loggingFields)]

/-- A key of a section is missing, or has a value of its kind. -/
def FieldTyped (u : Table) (key : String) (kind : Kind) : Prop :=
  ∀ v, u.lookup key = some v → kind.Admits v

/-- All known keys of a section are. -/
def FieldsTyped (fields : Fields) (u : Table) : Prop :=
  ∀ field ∈ fields, FieldTyped u field.1 field.2

/-- A section is missing, or it is one, in one form or the other, and its known keys have values of
their kinds. -/
def SectionTyped (t : Table) (name : String) (fields : Fields) : Prop :=
  ∀ v, t.lookup name = some v → ∃ u, Presents (fields.map Prod.fst) v u ∧ FieldsTyped fields u

/-- **A table is well-typed** if all sections of it are. -/
def WellTyped (t : Table) : Prop :=
  ∀ part ∈ schema, SectionTyped t part.1 part.2

/-! ### Values of a kind -/

variable {v : Value} {t u : Table}

/-- A value says a text exactly if it is one. -/
theorem exists_isText_iff : (∃ x, IsText v x) ↔ Kind.text.Admits v := by
  constructor
  · rintro ⟨_, ⟨s⟩⟩
    exact .string _
  · rintro ⟨s⟩
    exact ⟨_, .string _⟩

/-- So it does for a setting that has no text by default. -/
theorem exists_isSomeText_iff : (∃ x, IsSomeText v x) ↔ Kind.text.Admits v := by
  constructor
  · rintro ⟨_, ⟨s⟩⟩
    exact .string _
  · rintro ⟨s⟩
    exact ⟨_, .string _⟩

/-- A value says a size exactly if it is an integer that is not negative. -/
theorem exists_isSize_iff : (∃ x, IsSize v x) ↔ Kind.size.Admits v := by
  constructor
  · rintro ⟨_, ⟨n⟩⟩
    exact .natural _
  · rintro ⟨n⟩
    exact ⟨_, .integer _⟩

/-- A value says a number of seconds exactly if it is a float or an integer. -/
theorem exists_isSeconds_iff : (∃ x, IsSeconds v x) ↔ Kind.seconds.Admits v := by
  constructor
  · rintro ⟨_, _ | _⟩
    · exact .float _
    · exact .integer _
  · intro h
    cases h with
    | float x => exact ⟨_, .float x⟩
    | integer n => exact ⟨_, .integer n⟩

/-- A value says texts by name exactly if it is a table of strings: whatever order they are written
in, they can be put in the order of the names. -/
theorem exists_isTexts_iff (hv : v.Distinct) : (∃ x, IsTexts v x) ↔ Kind.texts.Admits v := by
  constructor
  · rintro ⟨_, htable, hmembers, -⟩
    exact .strings htable (exists_string_of_perm hmembers)
  · intro h
    cases h with
    | strings htable hstrings =>
        obtain ⟨written, rfl⟩ := exists_eq_map_named hstrings
        have hnodup := map_named_keys written ▸ (htable.distinct hv).keys
        obtain ⟨hperm, hsorted⟩ := (sortByName_eq_iff hnodup).mp rfl
        exact ⟨_, htable, hperm.map named, hsorted⟩

/-! ### Sections and tables -/

section Fields

variable {key : String}

/-- A setting is given something unless its key has a value that says nothing. -/
theorem exists_given_iff {α : Type} {Says : Value → α → Prop} {default : α} {Typed : Value → Prop}
    (h : ∀ v, t.lookup key = some v → ((∃ x, Says v x) ↔ Typed v)) :
    (∃ x, Given t key Says default x) ↔ ∀ v, t.lookup key = some v → Typed v := by
  constructor
  · rintro ⟨x, ⟨hv, hx⟩ | hnone⟩ w hw
    · obtain rfl := Option.some.inj (hv.symm.trans hw)
      exact (h _ hv).mp ⟨x, hx⟩
    · rw [hnone] at hw
      cases hw
  · intro htyped
    cases hkey : t.lookup key with
    | none => exact ⟨default, .missing hkey⟩
    | some v =>
        obtain ⟨x, hx⟩ := (h v hkey).mpr (htyped v hkey)
        exact ⟨x, .present hkey hx⟩

/-- A setting with a text can be given exactly if its key is missing or has a text. -/
theorem exists_text_iff {default : String} :
    (∃ x, Given u key IsText default x) ↔ FieldTyped u key .text :=
  exists_given_iff fun _ _ => exists_isText_iff

/-- The same of a text that is missing by default. -/
theorem exists_someText_iff {default : Option String} :
    (∃ x, Given u key IsSomeText default x) ↔ FieldTyped u key .text :=
  exists_given_iff fun _ _ => exists_isSomeText_iff

/-- A size can be given exactly if its key is missing or has one. -/
theorem exists_size_iff {default : Nat} :
    (∃ x, Given u key IsSize default x) ↔ FieldTyped u key .size :=
  exists_given_iff fun _ _ => exists_isSize_iff

/-- A number of seconds can be given exactly if its key is missing or has one. -/
theorem exists_seconds_iff {default : Number.Double} :
    (∃ x, Given u key IsSeconds default x) ↔ FieldTyped u key .seconds :=
  exists_given_iff fun _ _ => exists_isSeconds_iff

/-- Texts by name can be given exactly if their key is missing or has them. -/
theorem exists_texts_iff {default : List (String × String)} (hu : (Value.table u).Distinct) :
    (∃ x, Given u key IsTexts default x) ↔ FieldTyped u key .texts :=
  exists_given_iff fun _ hv => exists_isTexts_iff (hu.lookup hv)

/-- A module section gives settings exactly if its known keys have values of their kinds. -/
theorem exists_overlaysModule_iff :
    (∃ s, OverlaysModule u s) ↔ FieldsTyped moduleFields u := by
  have hfields : FieldsTyped moduleFields u ↔ FieldTyped u "path" .text ∧
      FieldTyped u "symbol_prefix" .text ∧ FieldTyped u "config_file" .text ∧
      FieldTyped u "shadow_dir" .text := by
    simp [FieldsTyped, moduleFields]
  rw [hfields]
  constructor
  · rintro ⟨s, hpath, hprefix, hconfig, hshadow⟩
    exact ⟨exists_text_iff.mp ⟨_, hpath⟩, exists_text_iff.mp ⟨_, hprefix⟩,
      exists_someText_iff.mp ⟨_, hconfig⟩, exists_someText_iff.mp ⟨_, hshadow⟩⟩
  · rintro ⟨hpath, hprefix, hconfig, hshadow⟩
    obtain ⟨path, hpath⟩ := exists_text_iff.mpr hpath
    obtain ⟨symbolPrefix, hprefix⟩ := exists_text_iff.mpr hprefix
    obtain ⟨configFile, hconfig⟩ := exists_someText_iff.mpr hconfig
    obtain ⟨shadowDir, hshadow⟩ := exists_someText_iff.mpr hshadow
    exact ⟨⟨path, symbolPrefix, configFile, shadowDir⟩, hpath, hprefix, hconfig, hshadow⟩

/-- The same of an execution section. -/
theorem exists_overlaysExecution_iff :
    (∃ s, OverlaysExecution u s) ↔ FieldsTyped executionFields u := by
  have hfields : FieldsTyped executionFields u ↔ FieldTyped u "default_language" .text ∧
      FieldTyped u "default_timeout_secs" .seconds ∧ FieldTyped u "output_budget" .size ∧
      FieldTyped u "max_blocking_threads" .size := by
    simp [FieldsTyped, executionFields]
  rw [hfields]
  constructor
  · rintro ⟨s, hlanguage, htimeout, hbudget, hworkers⟩
    exact ⟨exists_text_iff.mp ⟨_, hlanguage⟩, exists_seconds_iff.mp ⟨_, htimeout⟩,
      exists_size_iff.mp ⟨_, hbudget⟩, exists_size_iff.mp ⟨_, hworkers⟩⟩
  · rintro ⟨hlanguage, htimeout, hbudget, hworkers⟩
    obtain ⟨language, hlanguage⟩ := exists_text_iff.mpr hlanguage
    obtain ⟨timeout, htimeout⟩ := exists_seconds_iff.mpr htimeout
    obtain ⟨budget, hbudget⟩ := exists_size_iff.mpr hbudget
    obtain ⟨workers, hworkers⟩ := exists_size_iff.mpr hworkers
    exact ⟨⟨language, timeout, budget, workers⟩, hlanguage, htimeout, hbudget, hworkers⟩

/-- The same of a rebuild section, in whose table no key stands twice. -/
theorem exists_overlaysRebuild_iff (hu : (Value.table u).Distinct) :
    (∃ s, OverlaysRebuild u s) ↔ FieldsTyped rebuildFields u := by
  have hfields : FieldsTyped rebuildFields u ↔ FieldTyped u "source_dir" .text ∧
      FieldTyped u "branch" .text ∧ FieldTyped u "remote" .text ∧ FieldTyped u "cache_file" .text ∧
      FieldTyped u "build_target" .text ∧ FieldTyped u "jobs" .size ∧
      FieldTyped u "env" .texts := by
    simp [FieldsTyped, rebuildFields]
  rw [hfields]
  constructor
  · rintro ⟨s, hsource, hbranch, hremote, hcache, htarget, hjobs, henv⟩
    exact ⟨exists_text_iff.mp ⟨_, hsource⟩, exists_text_iff.mp ⟨_, hbranch⟩,
      exists_text_iff.mp ⟨_, hremote⟩, exists_text_iff.mp ⟨_, hcache⟩,
      exists_text_iff.mp ⟨_, htarget⟩, exists_size_iff.mp ⟨_, hjobs⟩,
      (exists_texts_iff hu).mp ⟨_, henv⟩⟩
  · rintro ⟨hsource, hbranch, hremote, hcache, htarget, hjobs, henv⟩
    obtain ⟨sourceDir, hsource⟩ := exists_text_iff.mpr hsource
    obtain ⟨branch, hbranch⟩ := exists_text_iff.mpr hbranch
    obtain ⟨remote, hremote⟩ := exists_text_iff.mpr hremote
    obtain ⟨cacheFile, hcache⟩ := exists_text_iff.mpr hcache
    obtain ⟨buildTarget, htarget⟩ := exists_text_iff.mpr htarget
    obtain ⟨jobs, hjobs⟩ := exists_size_iff.mpr hjobs
    obtain ⟨env, henv⟩ := (exists_texts_iff hu).mpr henv
    exact ⟨⟨sourceDir, branch, remote, cacheFile, buildTarget, jobs, env⟩, hsource, hbranch,
      hremote, hcache, htarget, hjobs, henv⟩

/-- The same of a logging section. -/
theorem exists_overlaysLogging_iff :
    (∃ s, OverlaysLogging u s) ↔ FieldsTyped loggingFields u := by
  have hfields : FieldsTyped loggingFields u ↔ FieldTyped u "level" .text := by
    simp [FieldsTyped, loggingFields]
  rw [hfields]
  constructor
  · rintro ⟨s, ⟨hlevel⟩⟩
    exact exists_text_iff.mp ⟨_, hlevel⟩
  · intro hlevel
    obtain ⟨level, hlevel⟩ := exists_text_iff.mpr hlevel
    exact ⟨⟨level⟩, ⟨hlevel⟩⟩

end Fields

section Sections

variable {α : Type} {name : String} {fields : Fields} {Gives : Table → α → Prop} {default : α}

/-- A section of a table can be given exactly if it is missing or well-typed, in whichever of the
two forms it is written. -/
theorem exists_section_iff (hkeys : (fields.map Prod.fst).Nodup) (ht : (Value.table t).Distinct)
    (h : ∀ u, (Value.table u).Distinct → ((∃ x, Gives u x) ↔ FieldsTyped fields u)) :
    (∃ x, Given t name (Section (fields.map Prod.fst) Gives) default x) ↔
      SectionTyped t name fields := by
  refine exists_given_iff fun v hv => ?_
  have hdistinct : ∀ u, Presents (fields.map Prod.fst) v u → (Value.table u).Distinct := fun u hu =>
    hu.distinct hkeys (ht.lookup hv)
  constructor
  · rintro ⟨x, u, hu, hx⟩
    exact ⟨u, hu, (h u (hdistinct u hu)).mp ⟨x, hx⟩⟩
  · rintro ⟨u, hu, htyped⟩
    obtain ⟨x, hx⟩ := (h u (hdistinct u hu)).mpr htyped
    exact ⟨x, u, hu, hx⟩

end Sections

/-- **A table gives settings exactly if it is well-typed.** -/
theorem exists_overlays_iff (ht : (Value.table t).Distinct) :
    (∃ s, Overlays t s) ↔ WellTyped t := by
  have hsections : WellTyped t ↔ SectionTyped t "module" moduleFields ∧
      SectionTyped t "execution" executionFields ∧ SectionTyped t "rebuild" rebuildFields ∧
      SectionTyped t "logging" loggingFields := by
    simp [WellTyped, schema]
  have hmodule : (∃ x, Given t "module" (Section moduleKeys OverlaysModule) {} x) ↔
      SectionTyped t "module" moduleFields :=
    exists_section_iff (by decide) ht fun _ _ => exists_overlaysModule_iff
  have hexecution : (∃ x, Given t "execution" (Section executionKeys OverlaysExecution) {} x) ↔
      SectionTyped t "execution" executionFields :=
    exists_section_iff (by decide) ht fun _ _ => exists_overlaysExecution_iff
  have hrebuild : (∃ x, Given t "rebuild" (Section rebuildKeys OverlaysRebuild) {} x) ↔
      SectionTyped t "rebuild" rebuildFields :=
    exists_section_iff (by decide) ht fun _ => exists_overlaysRebuild_iff
  have hlogging : (∃ x, Given t "logging" (Section loggingKeys OverlaysLogging) {} x) ↔
      SectionTyped t "logging" loggingFields :=
    exists_section_iff (by decide) ht fun _ _ => exists_overlaysLogging_iff
  rw [hsections, ← hmodule, ← hexecution, ← hrebuild, ← hlogging]
  constructor
  · rintro ⟨s, h⟩
    exact ⟨⟨_, h.module⟩, ⟨_, h.execution⟩, ⟨_, h.rebuild⟩, ⟨_, h.logging⟩⟩
  · rintro ⟨⟨module, hm⟩, ⟨execution, he⟩, ⟨rebuild, hr⟩, ⟨logging, hl⟩⟩
    exact ⟨⟨module, execution, rebuild, logging⟩, hm, he, hr, hl⟩

end Settings

end ScriptHost
