import ScriptHost.Module.Slot
import ScriptHost.OsError
import ScriptHost.Rebuild.Plan

/-!
# Platforms

What a host needs from outside: a loader for modules, a way to run commands, and a way to
remove a file. All three act on the state `W` of everything outside the host.

## Main definitions

* `Platform` — the three of them.
* `Platform.perform` — a deed of a rebuild.
* `Part` — a part of a state; what acts on the part acts on the whole.
-/

namespace ScriptHost

/-- Runs a command in a directory. It may fail or panic, and whatever it does it does to the
state outside. -/
abbrev Runner (W : Type) := Command → Path → W → Outcome Unit × W

/-- Removes a file. -/
abbrev Remover (W : Type) := Path → W → Except OsError Unit × W

/-- What a host needs from outside. -/
structure Platform (W : Type) where
  load : Loader W
  run : Runner W
  remove : Remover W

/-- How the removal of a file that may be missing ends. -/
def removalOutcome : Except OsError Unit → Outcome Unit
  | .ok () => .ok ()
  | .error e => if e = .noEntry then .ok () else .failed (.io e.message)

/-- Does a deed of a rebuild. -/
def Platform.perform {W : Type} (p : Platform W) (s : RebuildSettings) (deed : Deed) (world : W) :
    Outcome Unit × W :=
  match deed with
  | .run command => p.run command s.sourceDir world
  | .removeCache =>
    let (removed, world) := p.remove s.cachePath world
    (removalOutcome removed, world)

/-! ### Parts of a state -/

/-- A part `S` of a state `W`. -/
structure Part (W S : Type) where
  get : W → S
  set : S → W → W

namespace Part

variable {W S : Type}

/-- The whole as a part of itself. -/
def whole : Part S S := ⟨id, fun s _ => s⟩

/-- Something done to the part, done to the whole. -/
def lift {α : Type} (part : Part W S) (f : S → α × S) (w : W) : α × W :=
  let (a, s) := f (part.get w)
  (a, part.set s w)

/-- Entry points that act on the part. -/
def liftEntryPoints (part : Part W S) (e : EntryPoints S) : EntryPoints W where
  create maxRuntime := part.lift (e.create maxRuntime)
  destroy i := part.lift (e.destroy i)
  loadConfig i content length := part.lift (e.loadConfig i content length)
  call i arguments := part.lift (e.call i arguments)
  status i := part.lift (e.status i)

/-- A loader whose modules act on the part. -/
def liftLoader (part : Part W S) (l : Loader S) : Loader W := fun path w =>
  let (loaded, w) := part.lift (l path) w
  (loaded.map part.liftEntryPoints, w)

/-- Commands that act on the part. -/
def liftRunner (part : Part W S) (r : Runner S) : Runner W := fun command dir =>
  part.lift (r command dir)

/-- Removals from the part. -/
def liftRemover (part : Part W S) (r : Remover S) : Remover W := fun path =>
  part.lift (r path)

end Part

end ScriptHost
