import ScriptHost.Duration
import ScriptHost.Tag

/-!
# Requests

A request to execute a source: in which language, and for how long at most.
-/

namespace ScriptHost

/-- A request to execute a source. -/
structure Request where
  tag : Tag
  source : String
  timeout : Duration
  deriving DecidableEq, Repr

/-- A request in a language given by name. -/
def Request.forLanguage (language source : String) (timeout : Duration) :
    Except Failure Request :=
  (Tag.ofLanguage language).map fun tag => ⟨tag, source, timeout⟩

end ScriptHost
