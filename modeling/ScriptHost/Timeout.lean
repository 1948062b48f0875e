import ScriptHost.Duration
import ScriptHost.Number.Decimal

/-!
# Timeouts as arguments

Reads the number of seconds a user allows a call, and says what is wrong with a number that
is refused.
-/

namespace ScriptHost

open Number

namespace Timeout

/-- Why a text is no timeout. -/
inductive Refusal where
  /-- It is not a numeral. -/
  | notANumber (text : String)
  /-- It is zero, negative, infinite or NaN. -/
  | notPositive
  /-- It has `2 ^ 64` seconds or more. -/
  | tooLong
  deriving DecidableEq, Repr

/-- The words for a refusal. -/
def Refusal.message : Refusal → String
  | .notANumber text => "`" ++ text ++ "` is not a number"
  | .notPositive => "timeout must be a positive number of seconds"
  | .tooLong => "cannot convert float seconds to Duration: value is either too big or NaN"

/-- A finite number greater than zero. -/
def isAllowed : Double → Bool
  | .finite negative pattern => !negative && 0 < pattern
  | _ => false

/-- Reads a positive number of seconds. -/
def parse (s : String) : Except Refusal Duration :=
  match Numeral.parse? s with
  | none => .error (.notANumber s)
  | some numeral =>
    let seconds := numeral.toDouble
    if isAllowed seconds then
      match Duration.ofSeconds? seconds with
      | some d => .ok d
      | none => .error .tooLong
    else .error .notPositive

end Timeout

end ScriptHost
