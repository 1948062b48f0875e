import ScriptHost.Proofs.Module.Handed
import ScriptHost.Proofs.Number.Durations
import ScriptHost.Proofs.Settings.Checks
import ScriptHost.Timeout

/-!
# The time limit of an execution

A number of seconds is accepted as a timeout if it is greater than zero, in an argument and in the
settings alike. It is made a duration after that, and the duration a number of seconds again for the
module. An accepted timeout is positive all the way exactly if it is longer than half a nanosecond
(`Native.accepted_limit`); a shorter one becomes a limit of zero.

## Main definitions

* `Timeout.Accepted` — the two ways in which a number of seconds becomes a timeout.
* `Native.LimitedBy` — the limit that a module receives.
-/

namespace ScriptHost

open Number

variable {W : Type} {seconds : Double} {d : Duration}

/-- The timeout that a number of seconds becomes where it is accepted. -/
inductive Timeout.Accepted : Double → Duration → Prop
  /-- In an argument. -/
  | argument {s : String} {numeral : Numeral} {d : Duration}
    (hnumeral : Numeral.parse? s = some numeral) (hparse : Timeout.parse s = .ok d) :
    Accepted numeral.toDouble d
  /-- As the default of the settings. -/
  | setting {settings : Settings} (hcheck : settings.check = .ok ()) :
    Accepted settings.execution.defaultTimeout settings.execution.timeout

namespace Timeout

theorem isPositive_of_isAllowed (h : isAllowed seconds = true) : seconds.isPositive = true := by
  cases seconds with
  | nan => exact h
  | infinite negative => cases h
  | finite negative p => exact h

/-- What is accepted is greater than zero and a duration. -/
theorem Accepted.ofSeconds? (h : Accepted seconds d) :
    seconds.isPositive = true ∧ Duration.ofSeconds? seconds = some d := by
  cases h with
  | argument hnumeral hparse =>
      rw [parse, hnumeral] at hparse
      dsimp only at hparse
      split at hparse
      · rename_i hallowed
        split at hparse
        · rename_i d' hd'
          obtain rfl := Except.ok.inj hparse
          exact ⟨isPositive_of_isAllowed hallowed, hd'⟩
        · cases hparse
      · cases hparse
  | setting hcheck => exact (Settings.check_eq_ok_iff.mp hcheck).ofSeconds?

end Timeout

namespace Native

/-- The limit that a module receives is positive exactly if the timeout is longer than the empty
one. -/
def LimitedBy (d : Duration) (made : List Event) : Prop :=
  ∀ handle maxRuntime records answer, .create handle maxRuntime records answer ∈ made →
    (0 < maxRuntime.pattern ↔ 0 < d.totalNanos)

/-- **Which accepted timeouts are positive.** An accepted number of seconds is greater than zero;
the timeout it becomes is longer than the empty one exactly if the number is greater than half a
nanosecond, and the limit that the module receives from a request with that timeout is positive
exactly then too. -/
theorem accepted_limit (h : Timeout.Accepted seconds d) (request : Request)
    (hrequest : request.timeout = d) (config : Option Bytes) (n : Native W) :
    0 < seconds.toRat ∧ (0 < d.totalNanos ↔ 1 / 2000000000 < seconds.toRat) ∧
      Executions request config n fun made _ => LimitedBy d made := by
  obtain ⟨hpositive, hd⟩ := h.ofSeconds?
  refine ⟨Duration.toRat_pos_of_isPositive hpositive hd, Duration.totalNanos_pos_iff hd, ?_⟩
  refine (executions_handed request config n).mono fun made result hhanded => ?_
  intro handle maxRuntime records answer hmem
  obtain rfl := hhanded.hands _ hmem
  rw [hrequest, Duration.toSingle_pos_iff]

/-- A second and a half, read from an argument, is a positive limit. -/
theorem accepted_limit_of_argument :
    let numeral : Numeral := .decimal false 15 (-1)
    let d : Duration := ⟨1, 500000000, by decide⟩
    let request : Request := ⟨.script, "1 + 1", d⟩
    let n := ((init "vm.so" ()).load Platform.calm.load "vm.so").2
    Timeout.Accepted numeral.toDouble d ∧ request.timeout = d ∧
      1 / 2000000000 < numeral.toDouble.toRat ∧
      Executions request none n fun made _ => LimitedBy d made := by
  intro numeral d request n
  have haccepted : Timeout.Accepted numeral.toDouble d :=
    .argument (s := "1.5") (by decide) (by rfl)
  obtain ⟨-, hpositive, hlimit⟩ := accepted_limit haccepted request rfl none n
  exact ⟨haccepted, rfl, hpositive.mp (by decide), hlimit⟩

/-- A tenth of a nanosecond is accepted, in an argument and in the settings, as a timeout of zero,
which is the limit that the module receives. -/
theorem accepted_limit_zero :
    let numeral : Numeral := .decimal false 1 (-10)
    let settings : Settings := { execution := { defaultTimeout := numeral.toDouble } }
    let d : Duration := .ofSecs 0
    let request : Request := ⟨.script, "1 + 1", d⟩
    let n := ((init "vm.so" ()).load Platform.calm.load "vm.so").2
    Numeral.parse? "1e-10" = some numeral ∧ Timeout.parse "1e-10" = .ok d ∧
      settings.check = .ok () ∧ settings.execution.timeout = d ∧
      d.totalNanos = 0 ∧
      .create 0 ⟨0⟩ [] (some 0) ∈ (n.invoke request none).2.trace := by
  intro numeral settings d request n
  exact ⟨by decide, by rfl, by decide +kernel, by decide +kernel, by decide, by decide +kernel⟩

end Native

end ScriptHost
