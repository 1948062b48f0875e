import ScriptHost.Module.Invoke
import ScriptHost.Proofs.Module.Live

/-!
# What modules answer

What is noted of an entry is what the module answered to it: the records, the instance or the status
are those that its entry point gave in the world in which it was entered, and the world is left as
the module left it. There is one lemma for each entry that an execution makes
(`Native.entryMade_create` and so on); whatever is known of executions is known by way of these, so
nothing is known of an entry that was noted without being made.

## Main definitions

* `LoadedModule.Answers` — an entry with the module's answer to it.
* `LoadedModule.AnswersAll` — entries that follow one another, with nobody else about.
* `Native.EntryMade` — an entry is made and noted, and nothing else happens.
-/

namespace ScriptHost

variable {W : Type}

namespace LoadedModule

/-- **What a module answers.** In some world its entry point is entered; what is noted is what came
back and what was sent meanwhile, and the world is left as the module leaves it. -/
inductive Answers (m : LoadedModule W) (w : W) : Event → W → Prop where
  | create {maxRuntime : Number.Single} {records : List Record} {made : Option Instance} {w' : W}
    (hmade : m.entry.create maxRuntime w = ((records, made), w')) :
    Answers m w (.create m.handle maxRuntime records made) w'
  | loadConfig {i : Instance} {content : Bytes} {length : UInt32} {records : List Record}
    {status : Int32} {w' : W}
    (hmade : m.entry.loadConfig i content length w = ((records, status), w')) :
    Answers m w (.loadConfig m.handle i content length records status) w'
  | call {i : Instance} {arguments : CallArguments} {records : List Record} {status : Int32}
    {w' : W} (hmade : m.entry.call i arguments w = ((records, status), w')) :
    Answers m w (.call m.handle i arguments records status) w'
  | status {i : Instance} {records : List Record} {status : Int32} {w' : W}
    (hmade : m.entry.status i w = ((records, status), w')) :
    Answers m w (.status m.handle i records status) w'
  | destroy {i : Instance} {records : List Record} {w' : W}
    (hmade : m.entry.destroy i w = (records, w')) :
    Answers m w (.destroy m.handle i records) w'

/-- Entries that follow one another: each is answered in the world that the one before it left. -/
inductive AnswersAll (m : LoadedModule W) : W → List Event → W → Prop where
  | nil (w : W) : AnswersAll m w [] w
  | cons {w w' w'' : W} {e : Event} {es : List Event} (he : m.Answers w e w')
    (hes : AnswersAll m w' es w'') : AnswersAll m w (e :: es) w''

/-- The module answered so in one world or another. -/
def Answered (m : LoadedModule W) (e : Event) : Prop :=
  ∃ w w', m.Answers w e w'

variable {m : LoadedModule W} {e : Event}

/-- What a module answers are entries to it. -/
theorem Answered.entry? (h : m.Answered e) : e.entry? = some m.handle := by
  obtain ⟨_, _, h⟩ := h
  cases h <;> rfl

end LoadedModule

namespace Native

/-- An entry is made in the world as it is, the module's answer to it is noted, and nothing else
changes. -/
structure EntryMade (m : LoadedModule W) (e : Event) (n n' : Native W) : Prop where
  answers : m.Answers n.world e n'.world
  trace : n'.trace = n.trace ++ [e]
  slot : n'.slot = n.slot
  handles : n'.handles = n.handles

/-- The entry that was made is one that the module answered. -/
theorem EntryMade.answered {m : LoadedModule W} {e : Event} {n n' : Native W}
    (h : EntryMade m e n n') : m.Answered e :=
  ⟨_, _, h.answers⟩

variable (m : LoadedModule W) (i : Instance)

/-- The making of an instance is an entry. -/
theorem entryMade_create (maxRuntime : Number.Single) (n : Native W) :
    let made := n.enterCreate m maxRuntime
    EntryMade m (.create m.handle maxRuntime made.1.1 made.1.2) n made.2 :=
  ⟨.create rfl, rfl, rfl, rfl⟩

/-- So is the passing of a configuration, with its length in 32 bits. -/
theorem entryMade_loadConfig (config : Bytes) (n : Native W) :
    let made := n.enterLoadConfig m i config
    EntryMade m (.loadConfig m.handle i config (UInt32.ofNat config.length) made.1.1 made.1.2) n
      made.2 :=
  ⟨.loadConfig rfl, rfl, rfl, rfl⟩

/-- So is the run of a source, which comes without a token. -/
theorem entryMade_call (request : Request) (n : Native W) :
    let code := Utf8.encode request.source
    let made := n.enterCall m i request
    EntryMade m (.call m.handle i ⟨none, request.tag.byte, code, UInt32.ofNat code.length⟩ made.1.1
      made.1.2) n made.2 :=
  ⟨.call rfl, rfl, rfl, rfl⟩

/-- So is the question for the status. -/
theorem entryMade_status (n : Native W) :
    let made := n.enterStatus m i
    EntryMade m (.status m.handle i made.1.1 made.1.2) n made.2 :=
  ⟨.status rfl, rfl, rfl, rfl⟩

/-- So is the destruction of an instance. -/
theorem entryMade_destroy (n : Native W) :
    let made := n.enterDestroy m i
    EntryMade m (.destroy m.handle i made.1) n made.2 :=
  ⟨.destroy rfl, rfl, rfl, rfl⟩

end Native

end ScriptHost
