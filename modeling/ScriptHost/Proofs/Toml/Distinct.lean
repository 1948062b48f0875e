import Mathlib.Data.List.Nodup
import ScriptHost.Toml.Document

/-!
# No key twice

A document that defines something twice is refused, so in the table of a document no key stands
twice, and in none of the tables inside it either (`Toml.parse?_distinct`). A draft keeps this with
every statement: all changes to it go through `Members.descend`, which only replaces members on its
way, and at its end a change adds a key that was not there.

## Main definitions

* `Value.Distinct`, `Node.Distinct` — no table of a value, or of a draft, has a key twice.
-/

namespace ScriptHost.Toml

/-- No table inside a value has a key twice. -/
inductive Value.Distinct : Value → Prop
  | string (s : String) : Distinct (.string s)
  | integer (n : Int) : Distinct (.integer n)
  | float (x : Number.Double) : Distinct (.float x)
  | boolean (b : Bool) : Distinct (.boolean b)
  | dateTime (text : String) : Distinct (.dateTime text)
  | array {elements : List Value} (h : ∀ v ∈ elements, Distinct v) : Distinct (.array elements)
  | table {members : Table} (hkeys : (members.map Prod.fst).Nodup)
      (h : ∀ m ∈ members, Distinct m.2) : Distinct (.table members)

/-- The same of a member under construction. -/
inductive Node.Distinct : Node → Prop
  | value {v : Value} (h : v.Distinct) : Distinct (.value v)
  | table {implicit dotted : Bool} {ms : Members} (hkeys : (ms.map Prod.fst).Nodup)
      (h : ∀ m ∈ ms, Distinct m.2) : Distinct (.table implicit dotted ms)
  | elements {tables : List Members} (hkeys : ∀ ms ∈ tables, (ms.map Prod.fst).Nodup)
      (h : ∀ ms ∈ tables, ∀ m ∈ ms, Distinct m.2) : Distinct (.elements tables)

variable {n : Node} {v : Value} {key : String}

/-! ### Keys and their values -/

section Keys

variable {α : Type} {l l' : List (String × α)} {x : α}

/-- Looking up finds nothing exactly if the key is not there. -/
theorem lookup_eq_none_iff_notMem : l.lookup key = none ↔ key ∉ l.map Prod.fst := by
  rw [List.lookup_eq_none_iff, List.mem_map]
  constructor
  · rintro h ⟨m, hm, rfl⟩
    simpa using h m hm
  · intro h m hm
    exact bne_iff_ne.mpr fun heq => h ⟨m, hm, heq.symm⟩

/-- With no key twice, looking up is membership. -/
theorem lookup_eq_some_iff_mem (h : (l.map Prod.fst).Nodup) :
    l.lookup key = some x ↔ (key, x) ∈ l := by
  constructor
  · intro hx
    obtain ⟨before, after, rfl, -⟩ := List.lookup_eq_some_iff.mp hx
    simp
  · intro hx
    obtain ⟨before, after, rfl⟩ := List.append_of_mem hx
    refine List.lookup_eq_some_iff.mpr ⟨before, after, rfl, fun m hm => bne_iff_ne.mpr ?_⟩
    rintro rfl
    rw [List.map_append, List.map_cons] at h
    exact (List.nodup_append.mp h).2.2 _ (List.mem_map_of_mem hm) _ List.mem_cons_self rfl

/-- With no key twice, the order does not matter. -/
theorem lookup_eq_of_perm (h : (l.map Prod.fst).Nodup) (hperm : l.Perm l') :
    l.lookup key = l'.lookup key := by
  have h' : (l'.map Prod.fst).Nodup := (hperm.map Prod.fst).nodup_iff.mp h
  refine Option.ext fun x => ?_
  rw [lookup_eq_some_iff_mem h, lookup_eq_some_iff_mem h', hperm.mem_iff]

end Keys

namespace Value.Distinct

variable {t : Table}

/-- No key stands twice in the table itself. -/
theorem keys (h : (Value.table t).Distinct) : (t.map Prod.fst).Nodup := by
  cases h with
  | table hkeys _ => exact hkeys

/-- Nor does one in a value inside it. -/
theorem lookup (h : (Value.table t).Distinct) (hv : t.lookup key = some v) : v.Distinct := by
  cases h with
  | table hkeys h => exact h _ ((lookup_eq_some_iff_mem hkeys).mp hv)

end Value.Distinct

/-! ### Members under construction -/

/-- The same of the members of a table under construction. -/
structure Members.Distinct (ms : Members) : Prop where
  keys : (ms.map Prod.fst).Nodup
  nodes : ∀ m ∈ ms, m.2.Distinct

/-- The members of a table under construction are such members. -/
theorem Node.Distinct.of_table {implicit dotted : Bool} {ms : Members}
    (h : (Node.table implicit dotted ms).Distinct) : ms.Distinct := by
  cases h with
  | table hkeys h => exact ⟨hkeys, h⟩

/-- So are the members of each table of an array. -/
theorem Node.Distinct.of_elements {tables : List Members} (h : (Node.elements tables).Distinct) :
    ∀ ms ∈ tables, ms.Distinct := by
  cases h with
  | elements hkeys h => exact fun ms hms => ⟨hkeys ms hms, h ms hms⟩

/-- One table more at the end of an array. -/
theorem Node.Distinct.elements_concat {tables : List Members} {ms : Members}
    (h : ∀ ms ∈ tables, ms.Distinct) (hms : ms.Distinct) :
    (Node.elements (tables ++ [ms])).Distinct := by
  have hall : ∀ ms' ∈ tables ++ [ms], ms'.Distinct :=
    List.forall_mem_append.mpr ⟨h, List.forall_mem_singleton.mpr hms⟩
  exact .elements (fun ms hms => (hall ms hms).keys) fun ms hms => (hall ms hms).nodes

namespace Members.Distinct

variable {ms : Members} {tables : List Members}

/-- A table without members has no key twice. -/
theorem nil : Distinct [] := ⟨List.nodup_nil, by simp⟩

/-- Members with no key twice are those of a table under construction that has none either. -/
theorem table (h : ms.Distinct) (implicit dotted : Bool) :
    (Node.table implicit dotted ms).Distinct :=
  .table h.keys h.nodes

/-- A member that is found has no key twice in it. -/
theorem lookup (h : ms.Distinct) (hn : ms.lookup key = some n) : n.Distinct := by
  obtain ⟨before, after, rfl, -⟩ := List.lookup_eq_some_iff.mp hn
  exact h.nodes (key, n) (by simp)

/-- A key that is not there is added. -/
theorem concat (h : ms.Distinct) (hkey : ms.lookup key = none) (hn : n.Distinct) :
    Distinct (ms ++ [(key, n)]) := by
  have hnew : key ∉ ms.map Prod.fst := lookup_eq_none_iff_notMem.mp hkey
  constructor
  · rw [List.map_append]
    exact h.keys.append (List.nodup_singleton key) (by simpa using hnew)
  · intro m hm
    rcases List.mem_append.mp hm with hm | hm
    · exact h.nodes m hm
    · obtain rfl := List.mem_singleton.mp hm
      exact hn

/-- A change to one member brings no key but its own. -/
theorem mem_keys_put {k : String} (hk : k ∈ (ms.put key n).map Prod.fst) :
    k = key ∨ k ∈ ms.map Prod.fst := by
  induction ms with
  | nil => simpa [Members.put] using hk
  | cons m ms ih =>
      simp only [Members.put] at hk
      split at hk
      · simp_all
      · simp only [List.map_cons, List.mem_cons] at hk ⊢
        rcases hk with hk | hk
        · exact .inr (.inl hk)
        · exact (ih hk).imp_right .inr

/-- One member is replaced, or added if it was not there. -/
theorem put (h : ms.Distinct) (hn : n.Distinct) : (ms.put key n).Distinct := by
  induction ms with
  | nil => exact ⟨List.nodup_singleton key, by simpa [Members.put] using hn⟩
  | cons m ms ih =>
      obtain ⟨hm, hms⟩ := List.nodup_cons.mp h.keys
      simp only [Members.put]
      split
      · next hkey =>
          subst hkey
          refine ⟨List.nodup_cons.mpr ⟨hm, hms⟩, List.forall_mem_cons.mpr ⟨hn, ?_⟩⟩
          exact fun m hm => h.nodes m (List.mem_cons_of_mem _ hm)
      · next hkey =>
          have hput := ih ⟨hms, fun m hm => h.nodes m (List.mem_cons_of_mem _ hm)⟩
          refine ⟨List.nodup_cons.mpr ⟨fun hmem => ?_, hput.keys⟩,
            List.forall_mem_cons.mpr ⟨h.nodes m List.mem_cons_self, hput.nodes⟩⟩
          exact (mem_keys_put hmem).elim hkey hm

/-- Leaving out a key brings none. -/
theorem without (h : ms.Distinct) : (ms.without key).Distinct :=
  ⟨h.keys.sublist (List.filter_sublist.map _), fun m hm => h.nodes m (List.mem_of_mem_filter hm)⟩

/-- The last table of an array, or an empty one for none. -/
theorem getLast?_getD (h : ∀ ms ∈ tables, Distinct ms) : Distinct (tables.getLast?.getD []) := by
  cases hlast : tables.getLast? with
  | none => exact nil
  | some ms => exact h ms (List.mem_of_getLast? hlast)

/-- A change that keeps the keys of a table apart does so wherever the table is. -/
theorem descend {dotted : Bool} {change : Bool → Members → Option Members} {path : List String}
    (hchange : ∀ here ms ms', Distinct ms → change here ms = some ms' → ms'.Distinct) :
    ∀ {here ms ms'}, Distinct ms → descend dotted change path here ms = some ms' →
      ms'.Distinct := by
  induction path with
  | nil => exact fun h => hchange _ _ _ h
  | cons key path ih =>
      intro here ms ms' h heq
      rw [Members.descend] at heq
      split at heq
      · -- the table is made on the way
        next hkey =>
          obtain ⟨sub, hsub, rfl⟩ := Option.map_eq_some_iff.mp heq
          exact h.concat hkey ((ih nil hsub).table true dotted)
      · cases heq
      · next hkey =>
          split at heq
          · cases heq
          · obtain ⟨sub, hsub, rfl⟩ := Option.map_eq_some_iff.mp heq
            exact h.put ((ih (h.lookup hkey).of_table hsub).table _ _)
      · -- the path goes on in the last element
        next tables hkey =>
          obtain ⟨sub, hsub, rfl⟩ := Option.map_eq_some_iff.mp heq
          have htables := (h.lookup hkey).of_elements
          exact h.put (.elements_concat (fun ms hms => htables ms (List.dropLast_subset _ hms))
            (ih (getLast?_getD htables) hsub))

/-- A value is assigned at a key that was not there, so the keys stay apart. -/
theorem assign {path : List String} {ms' : Members} (h : ms.Distinct) (hv : v.Distinct)
    (heq : ms.assign path key v = some ms') : ms'.Distinct := by
  refine descend (fun here sub sub' hsub heq => ?_) h heq
  split at heq
  · cases heq
  · next hfree =>
      obtain rfl := Option.some.inj heq
      refine hsub.concat ?_ (.value hv)
      simp only [Bool.or_eq_true, not_or, Bool.not_eq_true, Option.isSome_eq_false_iff,
        Option.isNone_iff_eq_none] at hfree
      exact hfree.2

end Members.Distinct

/-! ### Finished tables -/

/-- Members are finished one by one. -/
theorem finishMembers_eq_map (ms : Members) :
    finishMembers ms = ms.map fun m => (m.1, m.2.finish) := by
  induction ms with
  | nil => rfl
  | cons m ms ih => rw [finishMembers, ih, List.map_cons]

/-- So are the tables of an array. -/
theorem finishTables_eq_map (tables : List Members) :
    finishTables tables = tables.map fun ms => .table (finishMembers ms) := by
  induction tables with
  | nil => rfl
  | cons ms tables ih => rw [finishTables, ih, List.map_cons]

/-- The finished table of members that are finished without a key twice. -/
theorem distinct_finishMembers {ms : Members} (hkeys : (ms.map Prod.fst).Nodup)
    (h : ∀ m ∈ ms, m.2.finish.Distinct) : (Value.table (finishMembers ms)).Distinct := by
  rw [finishMembers_eq_map]
  refine .table ?_ (List.forall_mem_map.mpr h)
  rwa [List.map_map, Function.comp_def]

/-- What has no key twice under construction has none when it is finished. -/
theorem Node.Distinct.finish (h : n.Distinct) : n.finish.Distinct := by
  induction h with
  | value h => exact h
  | table hkeys _ ih => exact distinct_finishMembers hkeys ih
  | elements hkeys _ ih =>
      rw [Node.finish, finishTables_eq_map]
      refine .array fun v hv => ?_
      obtain ⟨ms, hms, rfl⟩ := List.mem_map.mp hv
      exact distinct_finishMembers (hkeys ms hms) (ih ms hms)

/-- The same of the members of a table. -/
theorem Members.Distinct.finish {ms : Members} (h : ms.Distinct) :
    (Value.table (finishMembers ms)).Distinct :=
  distinct_finishMembers h.keys fun m hm => (h.nodes m hm).finish

/-! ### Values as they are read

Values, arrays and inline tables nest in each other, so the three readers are taken together: what
holds of each with some fuel is put together from what holds of the others with less.
-/

section Readers

variable {fuel : Nat}

/-- A value that is read with this fuel has no key twice. -/
def ReadsValues (fuel : Nat) : Prop :=
  ∀ {depth cs v rest}, value fuel depth cs = some (v, rest) → v.Distinct

/-- The same of the elements of an array. -/
def ReadsArrays (fuel : Nat) : Prop :=
  ∀ {depth cs vs rest}, array fuel depth cs = some (vs, rest) → ∀ v ∈ vs, v.Distinct

/-- The same of the members of an inline table, after others. -/
def ReadsMembers (fuel : Nat) : Prop :=
  ∀ {depth ms cs ms' rest}, ms.Distinct →
    inlineMembers fuel depth ms cs = some (ms', rest) → ms'.Distinct

/-- A value is read from arrays and inline tables that are read with less fuel. -/
theorem readsValues_succ (harrays : ReadsArrays fuel) (hmembers : ReadsMembers fuel) :
    ReadsValues (fuel + 1) := by
  intro depth cs v rest h
  cases cs with
  | nil => simp [value] at h
  | cons c cs =>
      -- texts, arrays, inline tables, booleans, date-times, floats and integers, in this order
      simp only [value] at h
      split at h
      · obtain ⟨r, -, h⟩ := Option.map_eq_some_iff.mp h
        cases h
        exact .string _
      split at h
      · split at h
        · cases h
        · obtain ⟨r, hr, h⟩ := Option.map_eq_some_iff.mp h
          cases h
          exact .array (harrays hr)
      split at h
      · split at h
        · cases h
        split at h
        · cases h
          exact .table List.nodup_nil (by simp)
        · obtain ⟨⟨ms, rest⟩, hr, h⟩ := Option.bind_eq_some_iff.mp h
          cases h
          exact (hmembers .nil hr).finish
      split at h
      · obtain ⟨r, -, h⟩ := Option.map_eq_some_iff.mp h
        cases h
        exact .boolean _
      split at h
      · cases h
        exact .dateTime _
      split at h
      · cases h
        exact .float _
      · obtain ⟨r, -, h⟩ := Option.map_eq_some_iff.mp h
        cases h
        exact .integer _

/-- The elements of an array are a value and more elements. -/
theorem readsArrays_succ (hvalues : ReadsValues fuel) (harrays : ReadsArrays fuel) :
    ReadsArrays (fuel + 1) := by
  intro depth cs vs rest h
  simp only [array] at h
  split at h
  · cases h
    simp
  · obtain ⟨⟨v, cs⟩, hv, h⟩ := Option.bind_eq_some_iff.mp h
    dsimp only at h
    split at h
    · obtain ⟨⟨vs, cs⟩, hvs, h⟩ := Option.bind_eq_some_iff.mp h
      cases h
      exact List.forall_mem_cons.mpr ⟨hvalues hv, harrays hvs⟩
    · cases h
      simpa using hvalues hv
    · cases h

/-- The members of an inline table are a member that is assigned and more members. -/
theorem readsMembers_succ (hvalues : ReadsValues fuel) (hmembers : ReadsMembers fuel) :
    ReadsMembers (fuel + 1) := by
  intro depth ms cs ms' rest hms h
  simp only [inlineMembers, Option.bind_eq_bind] at h
  obtain ⟨⟨⟨path, name⟩, cs⟩, -, h⟩ := Option.bind_eq_some_iff.mp h
  obtain ⟨r, -, h⟩ := Option.bind_eq_some_iff.mp h
  obtain ⟨⟨v, cs⟩, hv, h⟩ := Option.bind_eq_some_iff.mp h
  obtain ⟨ms, hassign, h⟩ := Option.bind_eq_some_iff.mp h
  have hms := hms.assign (hvalues hv) hassign
  split at h
  · exact hmembers hms h
  · cases h
    exact hms
  · cases h

/-- **Values are read without a key twice**, whatever the fuel. -/
theorem reads (fuel : Nat) : ReadsValues fuel ∧ ReadsArrays fuel ∧ ReadsMembers fuel := by
  induction fuel with
  | zero =>
      refine ⟨fun h => ?_, fun h => ?_, fun _ h => ?_⟩
      · simp [value] at h
      · simp [array] at h
      · simp [inlineMembers] at h
  | succ fuel ih =>
      obtain ⟨hvalues, harrays, hmembers⟩ := ih
      exact ⟨readsValues_succ harrays hmembers, readsArrays_succ hvalues harrays,
        readsMembers_succ hvalues hmembers⟩

end Readers

/-! ### Statements -/

/-- No key stands twice in a draft. -/
structure Draft.Distinct (d : Draft) : Prop where
  root : d.root.Distinct
  current : d.current.Distinct

namespace Draft.Distinct

variable {d d' : Draft} {ms root : Members} {path : List String} {found : Option Node}

/-- The draft of nothing has no key twice. -/
theorem empty : Distinct .empty := ⟨.nil, .nil⟩

/-- Closing the current table puts it where it belongs, at a key that was not there or in place of
what it was made from. -/
theorem close (h : d.Distinct) (heq : d.close = some ms) : ms.Distinct := by
  unfold Draft.close at heq
  split at heq
  · obtain rfl := Option.some.inj heq
    exact h.current
  · refine Members.Distinct.descend (fun _ sub sub' hsub heq => ?_) h.root heq
    split at heq
    · next hkey =>
        obtain rfl := Option.some.inj heq
        exact hsub.concat hkey (h.current.table _ _)
    · obtain rfl := Option.some.inj heq
      exact hsub.put (h.current.table _ _)
    · cases heq
  · refine Members.Distinct.descend (fun _ sub sub' hsub heq => ?_) h.root heq
    split at heq
    · next hkey =>
        obtain rfl := Option.some.inj heq
        exact hsub.concat hkey (.elements_concat (List.forall_mem_nil _) h.current)
    · next hkey =>
        obtain rfl := Option.some.inj heq
        exact hsub.put (.elements_concat (hsub.lookup hkey).of_elements h.current)
    · cases heq

/-- What is found along a path has no key twice in it. -/
theorem find (h : ms.Distinct) {n : Node} (heq : lookup?.find key path ms = some n) :
    n.Distinct := by
  induction path generalizing ms with
  | nil => exact h.lookup heq
  | cons k path ih =>
      rw [lookup?.find] at heq
      split at heq
      · next hkey => exact ih (h.lookup hkey).of_table heq
      · next hkey => exact ih (.getLast?_getD (h.lookup hkey).of_elements) heq
      · cases heq

/-- Looking along a path makes the tables on the way and finds a member of the last one. -/
theorem lookup? (h : ms.Distinct) (heq : lookup? ms path key = some (root, found)) :
    root.Distinct ∧ ∀ n, found = some n → n.Distinct := by
  obtain ⟨root', hroot, heq⟩ := Option.map_eq_some_iff.mp heq
  cases heq
  have hdistinct : root.Distinct :=
    Members.Distinct.descend (fun _ _ _ h heq => Option.some.inj heq ▸ h) h hroot
  exact ⟨hdistinct, fun n => find hdistinct⟩

/-- A header opens a table that is new, or that was only implied, and is taken out until it is
closed. -/
theorem openTable (h : d.Distinct) (heq : d.openTable path key = some d') : d'.Distinct := by
  obtain ⟨ms, hms, heq⟩ := Option.bind_eq_some_iff.mp heq
  obtain ⟨⟨root, found⟩, hlookup, heq⟩ := Option.bind_eq_some_iff.mp heq
  obtain ⟨hroot, hfound⟩ := lookup? (h.close hms) hlookup
  dsimp only at heq
  split at heq
  · cases heq
    exact ⟨hroot, .nil⟩
  · obtain ⟨root', hroot', heq⟩ := Option.bind_eq_some_iff.mp heq
    cases heq
    exact ⟨Members.Distinct.descend (fun _ _ _ h heq => Option.some.inj heq ▸ h.without) hroot
      hroot', (hfound _ rfl).of_table⟩
  · cases heq

/-- A header of an array opens an empty table. -/
theorem openElement (h : d.Distinct) (heq : d.openElement path key = some d') : d'.Distinct := by
  obtain ⟨ms, hms, heq⟩ := Option.bind_eq_some_iff.mp heq
  obtain ⟨⟨root, found⟩, hlookup, heq⟩ := Option.bind_eq_some_iff.mp heq
  have hroot := (lookup? (h.close hms) hlookup).1
  dsimp only at heq
  split at heq
  · cases heq
    exact ⟨hroot, .nil⟩
  · cases heq
    exact ⟨hroot, .nil⟩
  · cases heq

/-- A pair is assigned in the current table. -/
theorem assign (h : d.Distinct) (hv : v.Distinct) (heq : d.assign path key v = some d') :
    d'.Distinct := by
  obtain ⟨ms, hms, rfl⟩ := Option.map_eq_some_iff.mp heq
  exact ⟨h.root, h.current.assign hv hms⟩

/-- **A statement brings no key twice**, whichever it is. -/
theorem statement {fuel : Nat} {cs rest : List Char} (h : d.Distinct)
    (heq : statement fuel d cs = some (d', rest)) : d'.Distinct := by
  unfold Toml.statement at heq
  split at heq
  iterate 4
    · cases heq
      exact h
  · obtain ⟨⟨⟨path, name⟩, cs⟩, -, heq⟩ := Option.bind_eq_some_iff.mp heq
    obtain ⟨r, -, heq⟩ := Option.bind_eq_some_iff.mp heq
    obtain ⟨r, -, heq⟩ := Option.bind_eq_some_iff.mp heq
    obtain ⟨d', hopen, heq⟩ := Option.bind_eq_some_iff.mp heq
    cases heq
    exact h.openElement hopen
  · obtain ⟨⟨⟨path, name⟩, cs⟩, -, heq⟩ := Option.bind_eq_some_iff.mp heq
    obtain ⟨r, -, heq⟩ := Option.bind_eq_some_iff.mp heq
    obtain ⟨d', hopen, heq⟩ := Option.bind_eq_some_iff.mp heq
    cases heq
    exact h.openTable hopen
  · obtain ⟨⟨⟨path, name⟩, cs⟩, -, heq⟩ := Option.bind_eq_some_iff.mp heq
    obtain ⟨r, -, heq⟩ := Option.bind_eq_some_iff.mp heq
    obtain ⟨⟨v, cs⟩, hv, heq⟩ := Option.bind_eq_some_iff.mp heq
    obtain ⟨d', hassign, heq⟩ := Option.bind_eq_some_iff.mp heq
    cases heq
    exact h.assign ((reads fuel).1 hv) hassign

/-- Nor do any number of statements. -/
theorem lines {fuel : Nat} {cs : List Char} (h : d.Distinct) (heq : lines fuel d cs = some d') :
    d'.Distinct := by
  induction fuel generalizing d cs with
  | zero => cases heq
  | succ fuel ih =>
      obtain ⟨⟨next, cs⟩, hstatement, heq⟩ := Option.bind_eq_some_iff.mp heq
      obtain ⟨rest, -, heq⟩ := Option.bind_eq_some_iff.mp heq
      have hnext := h.statement hstatement
      split at heq
      · obtain rfl := Option.some.inj heq
        exact hnext
      · exact ih hnext heq

end Draft.Distinct

/-- **In a document no key stands twice**, in no table of it. -/
theorem parse?_distinct {s : String} {t : Table} (h : parse? s = some t) :
    (Value.table t).Distinct := by
  obtain ⟨d, hlines, h⟩ := Option.bind_eq_some_iff.mp h
  obtain ⟨ms, hclose, h⟩ := Option.bind_eq_some_iff.mp h
  obtain rfl := Option.some.inj h
  exact ((Draft.Distinct.empty.lines hlines).close hclose).finish

end ScriptHost.Toml
