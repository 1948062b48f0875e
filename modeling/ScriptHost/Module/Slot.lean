import ScriptHost.Gate.Work
import ScriptHost.Module.EntryPoints
import ScriptHost.Text.Quoted

/-!
# The module slot

The host has room for one module. This module holds the slot, what lies outside the host,
and the record of everything that passed between them; and the operations that load and
release a module.

## Main definitions

* `Slot`, `Native` — the slot, and the slot with its surroundings.
* `Native.load`, `unload`, `reload` — the operations on the slot.
* `Native.loading`, `unloading`, `reloading` — the same, act by act.

## Order of effects

A module is released before another one is asked for, and the slot remembers the path that
was asked for last, also if it could not be loaded. After a failure the slot is empty.
-/

namespace ScriptHost

/-- A module whose entry points are bound. -/
structure LoadedModule (W : Type) where
  handle : Handle
  entry : EntryPoints W

/-- The room for one module. -/
structure Slot (W : Type) where
  /-- The path asked for last. -/
  path : Path
  loaded : Option (LoadedModule W)

namespace Slot

variable {W : Type}

/-- A module is loaded. -/
def ready (s : Slot W) : Bool :=
  s.loaded.isSome

/-- The line that a debugging print shows of a slot: its path and whether it is ready. -/
def describe (s : Slot W) : String :=
  "NativeModule \x7b path: " ++ Text.Quoted.encode s.path ++ ", ready: "
    ++ (if s.ready then "true" else "false") ++ ", .. \x7d"

end Slot

/-- How modules are found: asked for a path, a loader answers with entry points, a failure
or a panic. -/
abbrev Loader (W : Type) := Path → W → Outcome (EntryPoints W) × W

/-- The slot, the state of everything outside the host, and what passed between them so
far. -/
structure Native (W : Type) where
  slot : Slot W
  world : W
  /-- What passed between the host and native code, oldest first. -/
  trace : List Event
  /-- How many modules were loaded so far. -/
  handles : Nat

namespace Native

variable {W : Type}

/-- An empty slot for a path, before anything happened. -/
def init (path : Path) (world : W) : Native W :=
  ⟨⟨path, none⟩, world, [], 0⟩

/-- Notes an event. -/
def note (n : Native W) (e : Event) : Native W :=
  { n with trace := n.trace ++ [e] }

/-- Releases the loaded module, if there is one. -/
def unload (n : Native W) : Native W :=
  match n.slot.loaded with
  | none => n
  | some m => { n with slot := ⟨n.slot.path, none⟩ }.note (.unload m.handle)

/-- Asks for the module at a path and puts it into the slot, which is empty. -/
def install (loader : Loader W) (path : Path) (n : Native W) : Outcome Unit × Native W :=
  match loader path n.world with
  | (.ok entry, world) =>
    (.ok (),
      { slot := ⟨path, some ⟨n.handles, entry⟩⟩
        world := world
        trace := n.trace ++ [.load path (some n.handles)]
        handles := n.handles + 1 })
  | (.failed e, world) =>
    (.failed e,
      { n with slot := ⟨path, none⟩, world := world, trace := n.trace ++ [.load path none] })
  | (.panicked, world) =>
    (.panicked,
      { n with slot := ⟨path, none⟩, world := world, trace := n.trace ++ [.load path none] })

/-- Loads the module at a path in place of the one that is loaded. -/
def load (loader : Loader W) (path : Path) (n : Native W) : Outcome Unit × Native W :=
  n.unload.install loader path

/-- Swaps in a module that was built anew: the old one is released first. -/
def reload (loader : Loader W) (path : Path) (n : Native W) : Outcome Unit × Native W :=
  n.unload.load loader path

/-! ### Act by act -/

/-- Releases the loaded module. -/
def unloading : Work (Native W) Unit :=
  .ask fun n => ((), n.unload)

/-- Loads a module: the old one is released, then the new one is asked for. -/
def loading (loader : Loader W) (path : Path) : Work (Native W) Unit := do
  unloading
  .task (install loader path)

/-- Swaps in a module that was built anew. -/
def reloading (loader : Loader W) (path : Path) : Work (Native W) Unit := do
  unloading
  loading loader path

/-- In one go, the acts of a load are the load. -/
theorem run_loading (loader : Loader W) (path : Path) (n : Native W) :
    (loading loader path).run n = n.load loader path := rfl

end Native

end ScriptHost
