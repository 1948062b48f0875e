import Mathlib.Data.List.Induction
import Mathlib.Data.List.Nodup
import ScriptHost.Module.Slot

/-!
# What is live

Between the host and native code modules are loaded and released, and instances are made and
destroyed. What is live at some point is read off the trace up to that point (`Live.of`), without
a look at the host.

`Event.Allowed` says what may happen in view of what is live, and `Lawful` says it of a whole
stretch of a trace. It is stated for stretches, so that the host's operations can be
looked at one at a time: what they do in turn is lawful if each of them is
(`Lawful.append`).
-/

namespace ScriptHost

/-- The modules that were loaded and not yet released, and the instances that were made and not
yet destroyed. -/
@[ext]
structure Live where
  handles : List Handle
  instances : List (Handle × Instance)
  /-- All modules so far have numbers below this one. -/
  next : Handle

/-- The module whose entry points an event goes to. -/
def Event.entry? : Event → Option Handle
  | .load .. | .unload _ => none
  | .create h .. | .loadConfig h .. | .call h .. | .status h .. | .destroy h .. => some h

/-- The module that is loaded. -/
def Event.loaded? : Event → Option Handle
  | .load _ handle => handle
  | _ => none

/-- The loader or the release of a module is called. -/
def Event.isExchange : Event → Bool
  | .load .. | .unload _ => true
  | _ => false

namespace Live

/-- Nothing is live. -/
def none : Live := ⟨[], [], 0⟩

/-- What is live after an event. -/
def after (l : Live) : Event → Live
  | .load _ (some h) => { l with handles := l.handles ++ [h], next := h + 1 }
  | .unload h => { l with handles := l.handles.erase h }
  | .create h _ _ (some i) => { l with instances := l.instances ++ [(h, i)] }
  | .destroy h i _ => { l with instances := l.instances.erase (h, i) }
  | _ => l

/-- What is live after a trace. -/
def of (trace : List Event) : Live :=
  trace.foldl after none

end Live

/-- An entry loads or releases no module. -/
theorem Live.modules_after_of_entry {e : Event} {h : Handle} (he : e.entry? = some h) (l : Live) :
    (l.after e).handles = l.handles ∧ (l.after e).next = l.next := by
  cases e with
  | create _ _ _ made => cases made <;> exact ⟨rfl, rfl⟩
  | load _ _ | unload _ => simp [Event.entry?] at he
  | loadConfig _ _ _ _ _ _ | call _ _ _ _ _ | status _ _ _ _ | destroy _ _ _ => exact ⟨rfl, rfl⟩

/-- Whoever makes an instance has it, unless none was handed back. -/
theorem Live.instances_after_create (l : Live) (h : Handle) (maxRuntime : Number.Single)
    (records : List Record) (made : Option Instance) :
    (l.after (.create h maxRuntime records made)).instances
      = l.instances ++ made.toList.map (h, ·) := by
  cases made with
  | none => exact (List.append_nil _).symm
  | some i => rfl

/-- What may happen while some things are live: modules come and go with no instance about, a
module is only asked for when there is none and has a number of its own, an entry goes to the
module there is, and whoever enters an instance enters the one there is. -/
def Event.Allowed (l : Live) : Event → Prop
  | .load _ handle => l.handles = [] ∧ l.instances = [] ∧ ∀ h ∈ handle, l.next ≤ h
  | .unload h | .create h .. => l.handles = [h] ∧ l.instances = []
  | .loadConfig h i .. | .call h i .. | .status h i .. | .destroy h i _ =>
    l.handles = [h] ∧ l.instances = [(h, i)]

/-- With these things live some events may happen, and then those are. -/
inductive Lawful : Live → List Event → Live → Prop where
  | nil (l : Live) : Lawful l [] l
  | concat {l k : Live} {es : List Event} {e : Event} (h : Lawful l es k) (he : e.Allowed k) :
      Lawful l (es ++ [e]) (k.after e)

namespace Lawful

variable {l k j : Live} {es fs : List Event} {e : Event}

/-- One lawful stretch after another. -/
theorem append (h : Lawful l es k) (h' : Lawful k fs j) : Lawful l (es ++ fs) j := by
  induction h' with
  | nil => simpa using h
  | concat _ he ih => exact List.append_assoc .. ▸ concat ih he

/-- What is live in the end is what the events say. -/
theorem eq_foldl (h : Lawful l es k) : k = es.foldl Live.after l := by
  induction h with
  | nil => rfl
  | concat _ _ ih => rw [List.foldl_append, ← ih]; rfl

/-- The last event of a lawful stretch may happen after those before it. -/
theorem of_concat (h : Lawful l (es ++ [e]) k) :
    Lawful l es (es.foldl Live.after l) ∧ e.Allowed (es.foldl Live.after l) := by
  generalize hall : es ++ [e] = all at h
  cases h with
  | nil => simp at hall
  | concat hbefore he =>
      obtain ⟨rfl, heq⟩ := List.append_inj' hall rfl
      obtain rfl := List.singleton_inj.mp heq
      rw [← hbefore.eq_foldl]
      exact ⟨hbefore, he⟩

/-- A lawful stretch is lawful as far as one looks at it. -/
theorem of_append (h : Lawful l (es ++ fs) k) : Lawful l es (es.foldl Live.after l) := by
  induction fs using List.reverseRecOn generalizing k with
  | nil =>
      rw [List.append_nil] at h
      exact h.eq_foldl ▸ h
  | append_singleton fs e ih =>
      rw [← List.append_assoc] at h
      exact ih h.of_concat.1

/-- Every event of a lawful stretch may happen when it does. -/
theorem allowed_of_split (h : Lawful l (es ++ e :: fs) k) : e.Allowed (es.foldl Live.after l) := by
  rw [List.append_cons] at h
  exact h.of_append.of_concat.2

end Lawful

/-! ### Numbers -/

/-- A module that is loaded has a number that counts. -/
theorem Live.next_after {l : Live} {e : Event} (he : e.Allowed l) :
    l.next ≤ (l.after e).next ∧ ∀ h ∈ e.loaded?, l.next ≤ h ∧ h < (l.after e).next := by
  cases e with
  | load _ handle =>
      cases handle with
      | none => simp [after, Event.loaded?]
      | some h =>
          have hnext : l.next ≤ h := he.2.2 h rfl
          refine ⟨Nat.le_succ_of_le hnext, ?_⟩
          rintro _ ⟨rfl⟩
          exact ⟨hnext, Nat.lt_succ_self _⟩
  | create _ _ _ made => cases made <;> simp [after, Event.loaded?]
  | unload _ | loadConfig _ _ _ _ _ _ | call _ _ _ _ _ | status _ _ _ _ | destroy _ _ _ =>
      simp [after, Event.loaded?]

namespace Lawful

variable {l k : Live} {es : List Event}

/-- Whatever was loaded has a number below the next one. -/
theorem lt_next (h : Lawful l es k) : ∀ handle ∈ es.filterMap Event.loaded?, handle < k.next := by
  induction h with
  | nil => simp
  | @concat k es e _ he ih =>
      obtain ⟨hle, hnew⟩ := Live.next_after he
      intro handle hhandle
      obtain ⟨f, hf, hloaded⟩ := List.mem_filterMap.mp hhandle
      rcases List.mem_append.mp hf with hf | hf
      · exact Nat.lt_of_lt_of_le (ih handle (List.mem_filterMap.mpr ⟨f, hf, hloaded⟩)) hle
      · exact (hnew handle (List.mem_singleton.mp hf ▸ hloaded)).2

/-- **Modules are told apart**: no number is given twice. -/
theorem nodup_loaded (h : Lawful l es k) : (es.filterMap Event.loaded?).Nodup := by
  induction h with
  | nil => simp
  | @concat k es e hbefore he ih =>
      rw [List.filterMap_append]
      cases hloaded : e.loaded? with
      | none => simpa [hloaded] using ih
      | some handle =>
          have hnew : handle ∉ es.filterMap Event.loaded? := by
            intro hmem
            have hnext := ((Live.next_after he).2 handle hloaded).1
            exact Nat.not_lt.mpr hnext (hbefore.lt_next handle hmem)
          simpa [hloaded, ← List.concat_eq_append] using List.Nodup.concat hnew ih

end Lawful

/-! ### Counting -/

/-- An instance is made. -/
def Event.creates : Event → Bool
  | .create _ _ _ made => made.isSome
  | _ => false

/-- An instance is destroyed. -/
def Event.destroys : Event → Bool
  | .destroy .. => true
  | _ => false

/-- A module is loaded. -/
def Event.loads : Event → Bool
  | .load _ handle => handle.isSome
  | _ => false

/-- A module is released. -/
def Event.unloads : Event → Bool
  | .unload _ => true
  | _ => false

/-- What an event that may happen does to the number of things that are live. -/
theorem Live.length_after {l : Live} {e : Event} (he : e.Allowed l) :
    (l.after e).instances.length + e.destroys.toNat = l.instances.length + e.creates.toNat ∧
      (l.after e).handles.length + e.unloads.toNat = l.handles.length + e.loads.toNat ∧
      (l.instances.length ≤ 1 → (l.after e).instances.length ≤ 1) := by
  cases e with
  | load _ handle =>
      cases handle <;> simp [after, Event.destroys, Event.creates, Event.unloads, Event.loads]
  | create _ _ _ made =>
      cases made <;>
        simp_all [after, Event.Allowed, Event.destroys, Event.creates, Event.unloads, Event.loads]
  | unload _ | loadConfig _ _ _ _ _ _ | call _ _ _ _ _ | status _ _ _ _ | destroy _ _ _ =>
      simp_all [after, Event.Allowed, Event.destroys, Event.creates, Event.unloads, Event.loads]

namespace Lawful

variable {l k : Live} {es : List Event}

/-- **Nothing is lost**: the instances that are live are those made and not destroyed, and the
modules those loaded and not released. -/
theorem length_eq (h : Lawful l es k) :
    k.instances.length + es.countP Event.destroys = l.instances.length + es.countP Event.creates ∧
      k.handles.length + es.countP Event.unloads = l.handles.length + es.countP Event.loads := by
  induction h with
  | nil => exact ⟨rfl, rfl⟩
  | @concat k es e _ he ih =>
      obtain ⟨hinstances, hhandles, -⟩ := Live.length_after he
      have hone : ∀ p : Event → Bool, (es ++ [e]).countP p = es.countP p + (p e).toNat := by
        intro p
        cases h : p e <;> simp [h]
      rw [hone, hone, hone, hone]
      omega

/-- Nothing lawful loads a second module. -/
theorem length_handles_le (h : Lawful l es k) (hl : l.handles.length ≤ 1) :
    k.handles.length ≤ 1 := by
  induction h with
  | nil => exact hl
  | @concat k es e _ he ih =>
      obtain ⟨-, hcount, -⟩ := Live.length_after he
      cases e with
      | load _ handle => cases handle <;> simp_all [Event.Allowed, Live.after]
      | unload _ | create _ _ _ _ | loadConfig _ _ _ _ _ _ | call _ _ _ _ _ | status _ _ _ _
      | destroy _ _ _ =>
          simp only [Event.loads, Bool.toNat_false] at hcount
          omega

/-- Nothing lawful makes a second instance. -/
theorem length_instances_le (h : Lawful l es k) (hl : l.instances.length ≤ 1) :
    k.instances.length ≤ 1 := by
  induction h with
  | nil => exact hl
  | concat _ he ih => exact (Live.length_after he).2.2 ih

end Lawful

end ScriptHost
