/-!
# Stages of a rebuild

A rebuild passes through four stages in a fixed order.
-/

namespace ScriptHost

/-- A stage of a rebuild, in the order in which they run. -/
inductive Stage where
  /-- Update the source checkout. -/
  | sync
  /-- Regenerate the build configuration. -/
  | configure
  /-- Build the module. -/
  | build
  /-- Swap the new module in. -/
  | reload
  deriving DecidableEq, Repr

namespace Stage

/-- The name of a stage in messages. -/
def name : Stage → String
  | .sync => "sync"
  | .configure => "configure"
  | .build => "build"
  | .reload => "reload"

/-- The position of a stage. -/
def rank : Stage → Nat
  | .sync => 0
  | .configure => 1
  | .build => 2
  | .reload => 3

instance : LE Stage := ⟨fun a b => a.rank ≤ b.rank⟩

end Stage

end ScriptHost
