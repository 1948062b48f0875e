import ScriptHost.Failure
import ScriptHost.Number.Binary
import ScriptHost.Path
import ScriptHost.Text.Utf8

/-!
# Entry points of a module

A module exports five functions. What they do is not known to the host; here they are any
functions on the state `W` of everything outside the host, so that statements about the host
hold for all modules.

## Main definitions

* `Record` — what a module sends to the log callback.
* `Record.line?` — the line that the host keeps of it.
* `EntryPoints` — the five functions.
* `Event` — what passes between the host and native code, in order.
-/

namespace ScriptHost

open Number (Single)

/-! ### Log records -/

/-- A record sent to the log callback: a message with a length, and whether the module
handed back the accumulator it was given. -/
structure Record where
  /-- The bytes the message points to; none for a null pointer. -/
  message : Option Bytes
  length : Nat
  /-- The accumulator came back with the record; a null one makes the host drop it. -/
  hasAccumulator : Bool := true
  deriving DecidableEq, Repr

namespace Record

/-- A record that holds all of some bytes. -/
def ofBytes (b : Bytes) : Record := ⟨some b, b.length, true⟩

/-- The bytes a record stands for: the first `length` of its message. -/
def content (r : Record) : Bytes :=
  (r.message.getD []).take r.length

/-- A record that holds all of some bytes stands for them. -/
@[simp] theorem content_ofBytes (b : Bytes) : (ofBytes b).content = b := by
  simp [content, ofBytes]

/-- A null pointer stands for nothing, whatever its length. -/
@[simp] theorem content_null (length : Nat) (hasAccumulator : Bool) :
    content ⟨none, length, hasAccumulator⟩ = [] := by
  simp [content]

/-- The line the host keeps of a record. -/
def line? (r : Record) : Option String :=
  if r.hasAccumulator then some (Utf8.decodeLossy r.content) else none

/-- The lines the host keeps of some records. -/
def lines (rs : List Record) : List String :=
  rs.filterMap line?

end Record

/-! ### Entry points -/

/-- A module's own name for one of its instances. -/
abbrev Instance := Nat

/-- What the host passes to `call` besides the instance. -/
structure CallArguments where
  /-- A token that the module would hand back with each record; the host passes none. -/
  callData : Option Nat
  tag : UInt8
  code : Bytes
  length : UInt32
  deriving DecidableEq, Repr

/-- The five functions of a module. Each may send records, and acts on the state `W` of
everything outside the host. -/
structure EntryPoints (W : Type) where
  /-- Makes an instance with a bound on its runtime; none stands for a null pointer. -/
  create : Single → W → (List Record × Option Instance) × W
  destroy : Instance → W → List Record × W
  /-- Receives a configuration and its length, and answers with a status. -/
  loadConfig : Instance → Bytes → UInt32 → W → (List Record × Int32) × W
  /-- Runs a source and answers with a status. -/
  call : Instance → CallArguments → W → (List Record × Int32) × W
  status : Instance → W → (List Record × Int32) × W

/-- The names of the entry points in the order in which they are bound. -/
def entryPointNames : List String :=
  ["create_instance", "destroy_instance", "load_config", "call", "status"]

/-- The symbol of an entry point. -/
def symbolName (symbolPrefix name : String) : String :=
  symbolPrefix ++ name

/-! ### Events -/

/-- A number for each module that was ever loaded, in order. -/
abbrev Handle := Nat

/-- What passes between the host and native code. Entries name the module they go to; they
carry what was passed, what came back, and the records sent meanwhile. -/
inductive Event where
  /-- The loader was asked for a module; none if it failed or panicked. -/
  | load (path : Path) (handle : Option Handle)
  /-- A module was released. -/
  | unload (handle : Handle)
  | create (handle : Handle) (maxRuntime : Single) (records : List Record)
    (made : Option Instance)
  | loadConfig (handle : Handle) (on : Instance) (content : Bytes) (length : UInt32)
    (records : List Record) (status : Int32)
  | call (handle : Handle) (on : Instance) (arguments : CallArguments)
    (records : List Record) (status : Int32)
  | status (handle : Handle) (on : Instance) (records : List Record) (status : Int32)
  | destroy (handle : Handle) (on : Instance) (records : List Record)
  deriving DecidableEq, Repr

/-- The records an event carries. -/
def Event.records : Event → List Record
  | .load .. | .unload _ => []
  | .create _ _ records _ => records
  | .loadConfig _ _ _ _ records _ => records
  | .call _ _ _ records _ => records
  | .status _ _ records _ => records
  | .destroy _ _ records => records

end ScriptHost
