import ScriptHost.Host.Basic
import ScriptHost.Site

/-!
# Using a host

How a host is set up, and how demands are followed to their end.

## Main definitions

* `Host.create` — a host with settings that were checked.
* `Host.openOn` — a host on a site that is part of its world.
* `Host.serve` — a demand from its arrival to its answer.
-/

namespace ScriptHost

/-- A host with settings that were checked, and with the configuration for its module, which
is read once. -/
def Host.create {W : Type} (settings : Settings) (files : FileTree) (cwd : Location)
    (platform : Platform W) (world : W) : Except Failure (Host W) := do
  settings.check
  let moduleConfig ← settings.readModuleConfig files cwd
  .ok (Host.init settings moduleConfig platform world)

/-- A host on a site that is part of its world, and the world after setting it up. What an
earlier host left in the shadow directory is removed first, and if that fails it does not
matter. -/
def Host.openOn {W : Type} (part : Part W Site) (platform : Platform W) (settings : Settings)
    (world : W) : Except Failure (Host W) × W :=
  let (_, world) := part.lift (·.cleanShadow settings.module.shadowDir) world
  let s := part.get world
  (Host.create settings s.files s.cwd platform world, world)

namespace Host

variable {W : Type}

/-- A caller and the workers take their turns once. -/
def turns (t : Ticket) : List Event :=
  [.poll t, .advance t, .work]

/-- How often caller and workers take turns at most until the caller has its answer. The longest
demand, a rebuild, needs sixteen. -/
def maxTurns : Nat := 24

/-- A caller and the workers take turns until nothing is left to do for the caller, who is next
at the gate. -/
def settle (h : Host W) (t : Ticket) : Host W :=
  h.run ((List.replicate maxTurns (turns t)).flatten)

/-- A demand from its arrival to its answer, with nobody else about. -/
def serve (h : Host W) (t : Ticket) (demand : Demand) : Host W :=
  (h.arrive t demand).settle t

end Host

end ScriptHost
