import Mathlib
import ScriptHost.Proofs.Settings.Typing
import ScriptHost.Proofs.Text.Decoding

/-!
# Settings in layers

The settings of a host are its defaults, what a document says over them, and what the environment
says over that (`Settings.layered`). Neither the order of a document's members matters nor what it
has under unknown keys, nor in which of its two forms a section is written: changes of these kinds
leave the settings as they are (`Settings.Edit`, `Settings.ofTable?_eq_of_eqvGen`).

## Main definitions

* `Settings.TableEdit`, `Settings.SectionEdit`, `Settings.Edit` — single changes to a table, a
  section and a document.
* `Settings.Replaced`, `Settings.Overridden` — what the environment changes.
-/

namespace ScriptHost

namespace Settings

open Toml (Value Table)

/-! ### Changes that do not matter -/

/-- One change to a table with some known keys: its members are in another order, there is a member
more with an unknown key, or the value of a member is changed in some way. In a document no key
stands twice, so that its members may be in any order. -/
inductive TableEdit (known : List String) (Within : String → Value → Value → Prop) :
    Table → Table → Prop
  | order {t t' : Table} (hkeys : (t.map Prod.fst).Nodup) (h : t.Perm t') :
    TableEdit known Within t t'
  | unknown {key : String} (h : key ∉ known) (before : Table) (v : Value) (after : Table) :
    TableEdit known Within (before ++ after) (before ++ (key, v) :: after)
  | within {key : String} {v v' : Value} (h : Within key v v') (before after : Table) :
    TableEdit known Within (before ++ (key, v) :: after) (before ++ (key, v') :: after)

/-- Texts by name in another order. -/
inductive Reordered : Value → Value → Prop
  | mk {t t' : Table} (hkeys : (t.map Prod.fst).Nodup) (h : t.Perm t') :
    Reordered (.table t) (.table t')

/-- One change to a section: to its table, or from an array to a table with the same values. -/
inductive SectionEdit (keys : List String) : Value → Value → Prop
  | members {t t' : Table}
      (h : TableEdit keys (fun key v v' => key = "env" ∧ Reordered v v') t t') :
    SectionEdit keys (.table t) (.table t')
  | form (elements : List Value) : SectionEdit keys (.array elements) (.table (keys.zip elements))

/-- One change to a document, which may be one to a section of it. -/
def Edit : Table → Table → Prop :=
  TableEdit (schema.map Prod.fst) fun name v v' =>
    ∃ fields, (name, fields) ∈ schema ∧ SectionEdit (fields.map Prod.fst) v v'

variable {v v' : Value} {t t' : Table} {keys : List String}

/-- A setting is read alike if the values of its key are. -/
theorem TableEdit.setting_eq {α : Type} {known : List String}
    {Within : String → Value → Value → Prop} {key : String} {read : Value → Option α} {default : α}
    (h : TableEdit known Within t t') (hknown : key ∈ known)
    (hread : ∀ v v', Within key v v' → read v = read v') :
    setting t key read default = setting t' key read default := by
  cases h with
  | order hkeys hperm => rw [setting, setting, Toml.lookup_eq_of_perm hkeys hperm]
  | @unknown other h before v after =>
      have hne : (key == other) = false := beq_eq_false_iff_ne.mpr fun heq => h (heq ▸ hknown)
      rw [setting, setting, List.lookup_append, List.lookup_append, List.lookup_cons, hne]
  | @within other v v' h before after =>
      rw [setting, setting, List.lookup_append, List.lookup_append]
      cases before.lookup key with
      | some w => rfl
      | none =>
          by_cases heq : key = other
          · subst heq
            simpa using hread v v' h
          · rw [List.lookup_cons, List.lookup_cons, beq_eq_false_iff_ne.mpr heq]

/-- Texts by name are read the same in any order. -/
theorem Reordered.readStrings_eq (h : Reordered v v') : readStrings v = readStrings v' := by
  obtain ⟨hkeys, hperm⟩ := h
  refine Option.ext fun texts => ?_
  have hkeys' := (hperm.map Prod.fst).nodup_iff.mp hkeys
  rw [readStrings_eq_some_iff (by rintro _ ⟨⟩; exact hkeys),
    readStrings_eq_some_iff (by rintro _ ⟨⟩; exact hkeys')]
  constructor
  · rintro ⟨⟨⟩, hmembers, hsorted⟩
    exact .mk (.table _) (hperm.symm.trans hmembers) hsorted
  · rintro ⟨⟨⟩, hmembers, hsorted⟩
    exact .mk (.table _) (hperm.trans hmembers) hsorted

namespace SectionEdit

/-- Settings other than the variables for the configure stage have no order inside. -/
theorem setting_eq {α : Type} {key : String} {read : Value → Option α} {default : α}
    (h : TableEdit keys (fun key v v' => key = "env" ∧ Reordered v v') t t') (hknown : key ∈ keys)
    (hkey : key ≠ "env") : setting t key read default = setting t' key read default :=
  h.setting_eq hknown fun _ _ hwithin => absurd hwithin.1 hkey

/-- Edits to a module section do not change its settings. -/
theorem readModule_eq (h : SectionEdit moduleKeys v v') : readModule v = readModule v' := by
  cases h with
  | form elements => rfl
  | members h =>
      simp only [readModule, sectionTable, Value.table?, Option.bind_eq_bind, Option.bind_some]
      simp (disch := decide) only [setting_eq h]

/-- Nor do those to an execution section. -/
theorem readExecution_eq (h : SectionEdit executionKeys v v') :
    readExecution v = readExecution v' := by
  cases h with
  | form elements => rfl
  | members h =>
      simp only [readExecution, sectionTable, Value.table?, Option.bind_eq_bind, Option.bind_some]
      simp (disch := decide) only [setting_eq h]

/-- Nor do those to a rebuild section. -/
theorem readRebuild_eq (h : SectionEdit rebuildKeys v v') : readRebuild v = readRebuild v' := by
  cases h with
  | form elements => rfl
  | @members t t' h =>
      have henv : setting t "env" readStrings [] = setting t' "env" readStrings [] :=
        h.setting_eq (by decide) fun _ _ hwithin => hwithin.2.readStrings_eq
      simp only [readRebuild, sectionTable, Value.table?, Option.bind_eq_bind, Option.bind_some]
      simp (disch := decide) only [setting_eq h, henv]

/-- Nor do those to a logging section. -/
theorem readLogging_eq (h : SectionEdit loggingKeys v v') : readLogging v = readLogging v' := by
  cases h with
  | form elements => rfl
  | members h =>
      simp only [readLogging, sectionTable, Value.table?, Option.bind_eq_bind, Option.bind_some]
      simp (disch := decide) only [setting_eq h]

end SectionEdit

/-- A section is read alike if changes to a section of its kind do not matter. -/
theorem Edit.setting_eq {α : Type} {name : String} {fields : Fields} {read : Value → Option α}
    {default : α} (h : Edit t t') (hname : (name, fields) ∈ schema)
    (hread : ∀ v v', SectionEdit (fields.map Prod.fst) v v' → read v = read v') :
    setting t name read default = setting t' name read default := by
  refine TableEdit.setting_eq h (List.mem_map_of_mem hname) ?_
  rintro v v' ⟨fields', hname', hedit⟩
  have hnames : (schema.map Prod.fst).Nodup := by decide
  rw [← Toml.lookup_eq_some_iff_mem hnames] at hname hname'
  obtain rfl := Option.some.inj (hname'.symm.trans hname)
  exact hread v v' hedit

/-- **No change of these kinds changes the settings.** -/
theorem ofTable?_eq_of_edit (h : Edit t t') : ofTable? t = ofTable? t' := by
  have hmodule : setting t "module" readModule {} = setting t' "module" readModule {} :=
    h.setting_eq (show ("module", moduleFields) ∈ schema by simp [schema])
      fun _ _ => SectionEdit.readModule_eq
  have hexecution :
      setting t "execution" readExecution {} = setting t' "execution" readExecution {} :=
    h.setting_eq (show ("execution", executionFields) ∈ schema by simp [schema])
      fun _ _ => SectionEdit.readExecution_eq
  have hrebuild : setting t "rebuild" readRebuild {} = setting t' "rebuild" readRebuild {} :=
    h.setting_eq (show ("rebuild", rebuildFields) ∈ schema by simp [schema])
      fun _ _ => SectionEdit.readRebuild_eq
  have hlogging : setting t "logging" readLogging {} = setting t' "logging" readLogging {} :=
    h.setting_eq (show ("logging", loggingFields) ∈ schema by simp [schema])
      fun _ _ => SectionEdit.readLogging_eq
  simp only [ofTable?, hmodule, hexecution, hrebuild, hlogging]

/-- Nor does any number of them, there and back. -/
theorem ofTable?_eq_of_eqvGen (h : Relation.EqvGen Edit t t') : ofTable? t = ofTable? t' := by
  induction h with
  | rel _ _ h => exact ofTable?_eq_of_edit h
  | refl _ => rfl
  | symm _ _ _ ih => exact ih.symm
  | trans _ _ _ _ _ ih ih' => exact ih.trans ih'

/-! ### What the environment says -/

/-- A path is replaced if a variable is set to a text that is not empty, and only then. -/
inductive Replaced (env : Environment) (name : String) (path : Path) : Path → Prop
  | set {s : String} (hset : env.bytes? name = some (Utf8.encode s)) (hs : s ≠ "") :
    Replaced env name path s
  | unset (h : ∀ s, env.bytes? name = some (Utf8.encode s) → s = "") : Replaced env name path path

/-- The environment replaces two paths, and nothing else. -/
structure Overridden (env : Environment) (s s' : Settings) : Prop where
  path : Replaced env "VMBRIDGE_MODULE_PATH" s.module.path s'.module.path
  sourceDir : Replaced env "VMBRIDGE_SOURCE_DIR" s.rebuild.sourceDir s'.rebuild.sourceDir
  others : s' = { s with
    module := { s.module with path := s'.module.path },
    rebuild := { s.rebuild with sourceDir := s'.rebuild.sourceDir } }

/-- A variable has a text if its bytes are those of one, which is not empty. -/
theorem text?_eq_some_iff {env : Environment} {name s : String} :
    env.text? name = some s ↔ env.bytes? name = some (Utf8.encode s) ∧ s ≠ "" := by
  simp only [Environment.text?, Option.bind_eq_some_iff, Utf8.decode?_eq_some_iff]
  constructor
  · rintro ⟨_, hset, s, rfl, hs⟩
    split at hs
    · cases hs
    · next hne =>
        obtain rfl := Option.some.inj hs
        exact ⟨hset, by simpa using hne⟩
  · rintro ⟨hset, hs⟩
    exact ⟨_, hset, s, rfl, if_neg (by simpa using hs)⟩

/-- A path is replaced by the text of a variable that has one. -/
theorem replaced_getD (env : Environment) (name : String) (path : Path) :
    Replaced env name path ((env.text? name).getD path) := by
  cases htext : env.text? name with
  | some s =>
      obtain ⟨hset, hs⟩ := text?_eq_some_iff.mp htext
      exact .set hset hs
  | none =>
      refine .unset fun s hset => ?_
      by_contra hs
      rw [text?_eq_some_iff.mpr ⟨hset, hs⟩] at htext
      cases htext

/-- What the environment overrides are the settings that it has a variable for, and no others. -/
theorem overridden_override (env : Environment) (s : Settings) :
    Overridden env s (s.override env) :=
  ⟨replaced_getD _ _ _, replaced_getD _ _ _, rfl⟩

/-! ### All layers -/

/-- A document is read as settings exactly if its table is. -/
theorem parse_eq_ok_iff {text : String} {s : Settings} (h : Toml.parse? text = some t) :
    parse text = .ok s ↔ ofTable? t = some s := by
  rw [parse, h, Option.bind_some]
  cases ofTable? t <;> simp

/-- **Settings come in layers.** A document gives settings exactly if each known key that it has is
given a value of its kind, and then each setting is what the document says under its key, or the
default if the key is missing. A document with other unknown keys, another order or another form of
a section gives the same. Over the settings of a file the environment says where the module is and
where its sources are, each if its variable is set to a text that is not empty, and nothing else. -/
theorem layered (text : String) (t : Table) (h : Toml.parse? text = some t) :
    (Value.table t).Distinct ∧
    ((∃ s, parse text = .ok s) ↔ WellTyped t) ∧
    (∀ s, parse text = .ok s ↔ Overlays t s) ∧
    (∀ text' t', Toml.parse? text' = some t' → Relation.EqvGen Edit t t' →
      parse text' = parse text) ∧
    ∀ files cwd env path,
      (files.readText cwd path = .ok text → load files cwd path = parse text) ∧
      (∀ e, load files cwd path = .error e → loadWith files cwd env path = .error e) ∧
      ∀ s, load files cwd path = .ok s →
        ∃ s', loadWith files cwd env path = .ok s' ∧ Overridden env s s' := by
  have hdistinct := Toml.parse?_distinct h
  have hparse : ∀ s, parse text = .ok s ↔ Overlays t s := fun s =>
    (parse_eq_ok_iff h).trans (ofTable?_eq_some_iff hdistinct)
  refine ⟨hdistinct, ?_, hparse, fun text' t' h' hedits => ?_,
    fun files cwd env path => ⟨?_, ?_, ?_⟩⟩
  · rw [← exists_overlays_iff hdistinct]
    exact exists_congr hparse
  · rw [parse, parse, h, h', Option.bind_some, Option.bind_some, ofTable?_eq_of_eqvGen hedits]
  · intro hread
    rw [load, hread]
  · intro e hload
    rw [loadWith, hload]
    rfl
  · intro s hload
    rw [loadWith, hload]
    exact ⟨_, rfl, overridden_override env s⟩

/-- A document with one section as an array and a key that is not known, and one with the sections
and their members as tables in another order, give the same settings. -/
theorem layered_array_form :
    let text := "rebuild = ['src']\n[logging]\nlevel = 'debug'\ncolor = true\n"
    let text' := "[logging]\nlevel = 'debug'\n[rebuild]\nsource_dir = 'src'\n"
    let s : Settings := { rebuild := { sourceDir := "src" }, logging := { level := "debug" } }
    parse text = .ok s ∧ parse text' = parse text := by
  intro text text' s
  let level : Value := .table [("level", .string "debug")]
  let colored : Value := .table [("level", .string "debug"), ("color", .boolean true)]
  let source : Value := .table [("source_dir", .string "src")]
  have hread : Toml.parse? text
      = some [("rebuild", .array [.string "src"]), ("logging", colored)] := by
    cbv
  have hread' : Toml.parse? text' = some [("logging", level), ("rebuild", source)] := by cbv
  obtain ⟨-, -, hparse, hedits, -⟩ := layered text _ hread
  refine ⟨(hparse s).mpr ⟨.missing rfl, .missing rfl, ?_, ?_⟩, hedits text' _ hread' ?_⟩
  · refine .present rfl ⟨_, .array _, ?_⟩
    exact ⟨.present rfl (.string _), .missing rfl, .missing rfl, .missing rfl, .missing rfl,
      .missing rfl, .missing rfl⟩
  · exact .present rfl ⟨_, .table (.table _), ⟨.present rfl (.string _)⟩⟩
  · have hform : Edit [("rebuild", .array [.string "src"]), ("logging", colored)]
        [("rebuild", source), ("logging", colored)] :=
      .within ⟨rebuildFields, by simp [schema], .form [.string "src"]⟩ [] _
    have hunknown : Edit [("rebuild", source), ("logging", level)]
        [("rebuild", source), ("logging", colored)] :=
      .within ⟨loggingFields, by simp [schema],
        .members (.unknown (by decide) [("level", .string "debug")] _ [])⟩ [("rebuild", source)] []
    have horder : Edit [("rebuild", source), ("logging", level)]
        [("logging", level), ("rebuild", source)] :=
      .order (by simp) (.swap _ _ _)
    exact ((Relation.EqvGen.rel _ _ hform).trans _ _ _ (.symm _ _ (.rel _ _ hunknown))).trans _ _ _
      (.rel _ _ horder)

/-- A date-time is neither a table nor an array, and is accepted for a section all the same. -/
theorem parse_dateTime_section :
    let text := "logging = 07:32:00"
    parse text = .ok {} ∧ ∃ t v, Toml.parse? text = some t ∧ t.lookup "logging" = some v ∧
      (∀ members, v ≠ .table members) ∧ ∀ elements, v ≠ .array elements := by
  intro text
  have hread : Toml.parse? text = some [("logging", .dateTime "07:32:00")] := by cbv
  exact ⟨by decide +kernel, _, _, hread, rfl, by simp, by simp⟩

end Settings

end ScriptHost
