import ScriptHost.Proofs.Module.Live
import ScriptHost.Proofs.Module.Protocol

/-!
# The last load

A trace tells which module is in the slot: the one that was loaded last, if it has not been released
since (`LastLoaded`), and none if a load failed and no other one has gone well since (`LoadFailed`).
An execution that finds a module enters it (`Native.Protocol.entered`).

## Main definitions

* `LastLoaded`, `LoadFailed` — what became of the last load.
-/

namespace ScriptHost

variable {l k : Live} {es trace : List Event} {path : Path} {handle : Handle}

/-- This module was loaded, and no module has come or gone since. -/
def LastLoaded (trace : List Event) (path : Path) (handle : Handle) : Prop :=
  ∃ before since, trace = before ++ .load path (some handle) :: since ∧
    ∀ e ∈ since, e.isExchange = false

/-- A load failed, and no module has been loaded since. -/
def LoadFailed (trace : List Event) : Prop :=
  ∃ before path since, trace = before ++ .load path none :: since ∧
    ∀ e ∈ since, e.loaded? = none

/-! ### What is live -/

namespace Live

theorem handles_after_of_not_isExchange {e : Event} (he : e.isExchange = false) (l : Live) :
    (l.after e).handles = l.handles := by
  cases e with
  | load _ _ | unload _ => simp [Event.isExchange] at he
  | create _ _ _ made => cases made <;> rfl
  | loadConfig _ _ _ _ _ _ | call _ _ _ _ _ | status _ _ _ _ | destroy _ _ _ => rfl

/-- Modules come and go in exchanges only. -/
theorem handles_foldl_of_not_isExchange (hes : ∀ e ∈ es, e.isExchange = false) (l : Live) :
    (es.foldl after l).handles = l.handles := by
  induction es generalizing l with
  | nil => rfl
  | cons e es ih =>
      rw [List.forall_mem_cons] at hes
      exact (ih hes.2 (l.after e)).trans (handles_after_of_not_isExchange hes.1 l)

theorem handles_after_of_loaded? {e : Event} (he : e.loaded? = Option.none)
    (hl : l.handles = []) : (l.after e).handles = [] := by
  cases e with
  | load _ handle =>
      obtain rfl : handle = Option.none := he
      exact hl
  | unload h => simp [after, hl]
  | create _ _ _ made => cases made <;> exact hl
  | loadConfig _ _ _ _ _ _ | call _ _ _ _ _ | status _ _ _ _ | destroy _ _ _ => exact hl

/-- Without a load no module is live if none was. -/
theorem handles_foldl_of_loaded? (hes : ∀ e ∈ es, e.loaded? = Option.none) (hl : l.handles = []) :
    (es.foldl after l).handles = [] := by
  induction es generalizing l with
  | nil => exact hl
  | cons e es ih =>
      rw [List.forall_mem_cons] at hes
      exact ih hes.2 (handles_after_of_loaded? hes.1 hl)

end Live

namespace Lawful

/-- **The module that was loaded last is the one that is live.** -/
theorem handles_of_lastLoaded (h : Lawful l trace k) (hlast : LastLoaded trace path handle) :
    k.handles = [handle] := by
  obtain ⟨before, since, rfl, hsince⟩ := hlast
  have hempty : (before.foldl Live.after l).handles = [] := h.allowed_of_split.1
  rw [h.eq_foldl, List.foldl_append, List.foldl_cons, Live.handles_foldl_of_not_isExchange hsince]
  simp [Live.after, hempty]

/-- **After a load that failed no module is live.** -/
theorem handles_of_loadFailed (h : Lawful l trace k) (hfailed : LoadFailed trace) :
    k.handles = [] := by
  obtain ⟨before, path, since, rfl, hsince⟩ := hfailed
  have hempty : (before.foldl Live.after l).handles = [] := h.allowed_of_split.1
  rw [h.eq_foldl, List.foldl_append, List.foldl_cons]
  exact Live.handles_foldl_of_loaded? hsince hempty

end Lawful

/-! ### What is entered -/

namespace Native

variable {W : Type} {request : Request} {config : Option Bytes} {made : List Event}

/-- **An execution that finds a module enters it**, and nothing else. -/
theorem Protocol.entered {m : LoadedModule W} {result : Except Failure Invocation}
    (h : Protocol request config (some m) made result) :
    made ≠ [] ∧ (∀ e ∈ made, e.entry? = some m.handle) ∧ result ≠ .error .notReady := by
  cases h with
  | uncreated _ records hanswered =>
      refine ⟨List.cons_ne_nil _ _, ?_, by simp⟩
      rw [List.forall_mem_singleton]
      exact hanswered.entry?
  | destroyed _ hused hentries hanswered =>
      refine ⟨?_, fun e he => LoadedModule.Answered.entry? (hanswered e he), by simp⟩
      rw [hentries]
      exact List.cons_ne_nil _ _

end Native

end ScriptHost
