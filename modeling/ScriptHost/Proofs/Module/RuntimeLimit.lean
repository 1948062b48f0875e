import ScriptHost.Proofs.Host.Executions
import ScriptHost.Proofs.Number.Seconds

/-!
# The runtime limit that a module receives

Whoever asks for a longer timeout is not given a shorter limit: of any two executions, the one with
the longer timeout hands its module at least as many seconds (`Native.limit_mono`). The limit is a
number of seconds in every case, and zero for no timeout but the empty one.

## Main definitions

* `Native.Receives` — a module is given a limit.
* `Native.Limits` — the limit for a timeout.
-/

namespace ScriptHost

open Number

variable {W W' : Type} {request : Request} {config : Option Bytes} {made : List Event}
  {result : Except Failure Invocation} {limit : Single} {d : Duration}

theorem Duration.totalNanos_eq_zero_iff : d.totalNanos = 0 ↔ d = .ofSecs 0 := by
  constructor
  · intro h
    obtain ⟨secs, nanos, hnanos⟩ := d
    rw [totalNanos, Nat.add_eq_zero_iff, Nat.mul_eq_zero] at h
    obtain ⟨hsecs, rfl⟩ := h
    obtain rfl : secs = 0 := UInt64.toNat_inj.mp (hsecs.resolve_right (by decide))
    rfl
  · rintro rfl
    rfl

namespace Native

/-- A module is given a limit for a new instance. -/
def Receives (made : List Event) (limit : Single) : Prop :=
  ∃ handle records answer, .create handle limit records answer ∈ made

/-- The limit for a timeout. -/
structure Limits (d : Duration) (limit : Single) : Prop where
  seconds : d.InSeconds limit
  finite : limit.pattern < Format.binary32.infinity
  nonneg : 0 ≤ limit.toRat
  zero_iff : limit.toRat = 0 ↔ d = .ofSecs 0

/-- The seconds of a timeout are a limit for it. -/
theorem limits_toSingle (d : Duration) : Limits d d.toSingle where
  seconds := d.inSeconds_toSingle
  finite := d.toSingle_lt_infinity
  nonneg := d.toSingle.toRat_nonneg
  zero_iff := by
    have hzero : d.toSingle.toRat = 0 ↔ d.toSingle.pattern = 0 := by
      rw [Single.toRat, ← Format.toRat_zero (f := .binary32)]
      exact (Format.toRat_strictMono _).injective.eq_iff
    have hpos := Duration.toSingle_pos_iff (d := d)
    rw [hzero, ← Duration.totalNanos_eq_zero_iff]
    omega

/-- An execution gives no limit but that of its request. -/
theorem Handed.eq_of_receives (h : Handed request config made result)
    (hlimit : Receives made limit) : limit = request.timeout.toSingle := by
  obtain ⟨handle, records, answer, hmem⟩ := hlimit
  exact h.hands _ hmem

/-- An execution that makes an entry gives a limit with the first one. -/
theorem Protocol.receives {slot : Option (LoadedModule W)}
    (h : Protocol request config slot made result) (hne : made ≠ []) :
    Receives made request.timeout.toSingle := by
  cases h with
  | unloaded => exact absurd rfl hne
  | uncreated m records _ => exact ⟨_, _, _, List.mem_cons_self⟩
  | destroyed m hused hentries _ =>
      subst hentries
      exact ⟨_, _, _, List.mem_cons_self⟩

/-- **The limits of executions respect their timeouts.** Of any two executions, in whatever slots
and worlds: one that enters its module gives it a limit; this is a finite number of seconds that is
not negative, the seconds of the timeout with each step rounded, and it is zero only for the empty
timeout; and if the timeout of the other execution is no shorter, neither is its limit. -/
theorem limit_mono (request request' : Request) (config config' : Option Bytes) (n : Native W)
    (n' : Native W') :
    Executions request config n fun made _ => Executions request' config' n' fun made' _ =>
      (made ≠ [] → ∃ limit, Receives made limit) ∧
      ∀ limit, Receives made limit → Limits request.timeout limit ∧
        ∀ limit', Receives made' limit' → request.timeout ≤ request'.timeout →
          limit.toRat ≤ limit'.toRat := by
  refine (executions_sized request config n).mono fun made result h => ?_
  refine (executions_handed request' config' n').mono fun made' result' hhanded' => ?_
  rcases h with hprotocol | ⟨rfl, -⟩
  · refine ⟨fun hne => ⟨_, hprotocol.receives hne⟩, fun limit hlimit => ?_⟩
    obtain rfl := hprotocol.handed.eq_of_receives hlimit
    refine ⟨limits_toSingle _, fun limit' hlimit' hle => ?_⟩
    obtain rfl := hhanded'.eq_of_receives hlimit'
    exact (Format.toRat_strictMono _).monotone (Duration.toSingle_mono hle)
  · refine ⟨fun hne => absurd rfl hne, fun limit hlimit => ?_⟩
    obtain ⟨_, _, _, hmem⟩ := hlimit
    cases hmem

end Native

end ScriptHost
