import ScriptHost.Rebuild.Command
import ScriptHost.Rebuild.Progress

/-!
# The plan of a rebuild

A rebuild is a list of legs, and the loading of the new module after the last of them. A leg
announces what it does and then has a worker do it, one deed after another.

## Main definitions

* `Deed` — a command, or the removal of the build cache.
* `Leg` — an announcement and the deeds that follow it.
* `RebuildSettings.plan` — the legs of a rebuild, in order.
-/

namespace ScriptHost

/-- What a worker does for a rebuild. -/
inductive Deed where
  | run (command : Command)
  /-- Removes the build cache. -/
  | removeCache
  deriving DecidableEq, Repr

/-- A part of a rebuild that a worker does in one go. -/
structure Leg where
  stage : Stage
  announcement : String
  deeds : List Deed
  deriving DecidableEq, Repr

namespace RebuildSettings

/-- Updates the checkout. -/
def syncLeg (s : RebuildSettings) : Leg :=
  ⟨.sync, "Pulling changes...", s.syncCommands.map .run⟩

/-- Removes what an older build left behind. -/
def cacheLeg (s : RebuildSettings) : Leg :=
  ⟨.configure, "Deleting " ++ s.cacheFile, [.removeCache]⟩

/-- Regenerates the build tree. -/
def configureLeg (s : RebuildSettings) : Leg :=
  ⟨.configure, "Running cmake...", s.configureCommands.map .run⟩

/-- Builds the module. -/
def buildLeg (s : RebuildSettings) : Leg :=
  ⟨.build, "Building...", s.buildCommands.map .run⟩

/-- The legs of a rebuild, in order. -/
def plan (s : RebuildSettings) : List Leg :=
  [s.syncLeg, s.cacheLeg, s.configureLeg, s.buildLeg]

end RebuildSettings

/-- Announces the loading of the new module, after the last leg. -/
def reloadAnnouncement : String := "Loading VM..."

/-- Announces a rebuild that ended well. -/
def successAnnouncement : String := "VM has been rebuilt!"

/-- The reason given when the new module cannot be loaded, whatever the cause. -/
def reloadReason : String := "VM module could not be loaded"

namespace Progress

/-- The log of a rebuild that ended well. -/
def succeed (p : Progress) : Progress :=
  (p.push .reload successAnnouncement).finish .success

/-- The log of a rebuild that ended in a stage, and why. -/
def fail (p : Progress) (stage : Stage) (reason : String) : Progress :=
  (p.push stage ("Error: " ++ reason)).finish (.failed stage reason)

end Progress

end ScriptHost
