import ScriptHost.Toml.Value

/-!
# Assembling a document

A document is a sequence of statements: members with dotted keys, and headers that open a
table or an element of an array of tables. This module puts them together and refuses
documents that define something twice.

## Main definitions

* `Node` — a table under construction remembers how it came about.
* `assign` — adds a member with a dotted key.
* `openTable`, `openElement`, `close` — what headers do.

## Who may be extended

A table that only appeared on the way to another one is implicit; its own header may still
follow. One that appeared inside a dotted key may only be extended by further dotted keys,
and one that was opened by a header, or written as a value, not by dotted keys at all.
-/

namespace ScriptHost.Toml

/-- A member under construction. -/
inductive Node where
  | value (v : Value)
  | table (implicit dotted : Bool) (members : List (String × Node))
  /-- The elements of an array of tables, each with its members. -/
  | elements (tables : List (List (String × Node)))

/-- The members of a table under construction. -/
abbrev Members := List (String × Node)

namespace Members

/-- The members with one of them replaced, or added at the end. -/
def put (ms : Members) (key : String) (n : Node) : Members :=
  match ms with
  | [] => [(key, n)]
  | (k, m) :: rest => if k = key then (key, n) :: rest else (k, m) :: put rest key n

/-- The members without one of them. -/
def without (ms : Members) (key : String) : Members :=
  ms.filter fun m => m.1 ≠ key

/-- Changes the members of the table at the end of a path, which is made where it is
missing. `dotted` says that the path belongs to a dotted key rather than a header. The
change is told whether that table appeared in a dotted key. -/
def descend (dotted : Bool) (change : Bool → Members → Option Members) :
    List String → Bool → Members → Option Members
  | [], here, ms => change here ms
  | key :: path, _, ms =>
    match ms.lookup key with
    | none =>
      (descend dotted change path dotted []).map fun sub => ms ++ [(key, .table true dotted sub)]
    | some (.value _) => none
    | some (.table implicit wasDotted sub) =>
      if dotted && !implicit then none
      else
        (descend dotted change path wasDotted sub).map fun sub =>
          ms.put key (.table implicit wasDotted sub)
    | some (.elements tables) =>
      (descend dotted change path false (tables.getLast?.getD [])).map fun sub =>
        ms.put key (.elements (tables.dropLast ++ [sub]))

/-- Adds a member. The path is what precedes the last part of a dotted key. -/
def assign (ms : Members) (path : List String) (key : String) (v : Value) : Option Members :=
  descend true
    (fun here sub =>
      if here = path.isEmpty || (sub.lookup key).isSome then none
      else some (sub ++ [(key, .value v)]))
    path false ms

end Members

/-- A document under construction: the root, and the table whose header came last with the
members it has so far. -/
structure Draft where
  root : Members
  /-- The path before the last part of the header, that part, and whether the header opens
  an element of an array of tables; none before the first header. -/
  header : Option (List String × String × Bool)
  current : Members

namespace Draft

/-- Nothing yet. -/
def empty : Draft := ⟨[], none, []⟩

/-- The draft with its open table put where it belongs. -/
def close (d : Draft) : Option Members :=
  match d.header with
  | none => some d.current
  | some (path, key, false) =>
    Members.descend false
      (fun _ ms =>
        match ms.lookup key with
        | none => some (ms ++ [(key, .table false false d.current)])
        | some (.table true _ _) => some (ms.put key (.table false false d.current))
        | some _ => none)
      path false d.root
  | some (path, key, true) =>
    Members.descend false
      (fun _ ms =>
        match ms.lookup key with
        | none => some (ms ++ [(key, .elements [d.current])])
        | some (.elements tables) => some (ms.put key (.elements (tables ++ [d.current])))
        | some _ => none)
      path false d.root

/-- What lies at the end of a header's path. Making the tables on the way may be refused. -/
def lookup? (root : Members) (path : List String) (key : String) : Option (Members × Option Node) :=
  (Members.descend false (fun _ ms => some ms) path false root).map fun root =>
    (root, find path root)
where
  find : List String → Members → Option Node
    | [], ms => ms.lookup key
    | k :: path, ms =>
      match ms.lookup k with
      | some (.table _ _ sub) => find path sub
      | some (.elements tables) => find path (tables.getLast?.getD [])
      | _ => none

/-- Opens a table. One that was implicit so far keeps its members. -/
def openTable (d : Draft) (path : List String) (key : String) : Option Draft := do
  let root ← d.close
  let (root, found) ← lookup? root path key
  match found with
  | none => some ⟨root, some (path, key, false), []⟩
  | some (.table true false ms) =>
    let root ← Members.descend false (fun _ ms => some (ms.without key)) path false root
    some ⟨root, some (path, key, false), ms⟩
  | some _ => none

/-- Opens a new element of an array of tables. -/
def openElement (d : Draft) (path : List String) (key : String) : Option Draft := do
  let root ← d.close
  let (root, found) ← lookup? root path key
  match found with
  | none => some ⟨root, some (path, key, true), []⟩
  | some (.elements _) => some ⟨root, some (path, key, true), []⟩
  | some _ => none

/-- Adds a member to the open table. -/
def assign (d : Draft) (path : List String) (key : String) (v : Value) : Option Draft :=
  (d.current.assign path key v).map fun ms => { d with current := ms }

end Draft

/-! ### Finished tables -/

mutual

/-- The value of a finished member. -/
def Node.finish : Node → Value
  | .value v => v
  | .table _ _ ms => .table (finishMembers ms)
  | .elements tables => .array (finishTables tables)

/-- The members of a finished table. -/
def finishMembers : List (String × Node) → Table
  | [] => []
  | (key, n) :: ms => (key, n.finish) :: finishMembers ms

/-- The elements of a finished array of tables. -/
def finishTables : List (List (String × Node)) → List Value
  | [] => []
  | ms :: rest => .table (finishMembers ms) :: finishTables rest

end

end ScriptHost.Toml
