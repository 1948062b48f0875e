import ScriptHost.Proofs.Gate.Sequential
import ScriptHost.Proofs.Host.Frame

/-!
# The attempts of a rebuild

What is tried for a rebuild, in order: at any time it is the beginning of one fixed list of deeds
(`RebuildSettings.steps`), and all of it went well, but for the last deed if that was the one that
ended the rebuild. This is read off the answers of the platform; the phase of a rebuild, and whether
it has reached the gate, follow from it (`Host.Course`), whoever else is about and whether or not
its caller goes away.

## Main definitions

* `RebuildSettings.steps` — the deeds of a rebuild, each with its stage.
* `Host.attempts` — what is tried in a run, and how it ends.
* `Strict` — a beginning of the deeds that ends with the first failure.
* `Host.Course` — where a rebuild stands after some attempts.
-/

namespace ScriptHost

variable {W : Type}

/-- The deeds of a leg, each with the stage of the leg. -/
def Leg.steps (l : Leg) : List (Stage × Deed) :=
  l.deeds.map (l.stage, ·)

namespace RebuildSettings

/-- The deeds of a rebuild before its reload, each with the stage it belongs to. -/
def steps (s : RebuildSettings) : List (Stage × Deed) :=
  s.syncCommands.map (.sync, .run ·) ++ (.configure, .removeCache) ::
    (s.configureCommands.map (.configure, .run ·) ++ s.buildCommands.map (.build, .run ·))

/-- They are the deeds of the legs of its plan. -/
theorem flatMap_plan (s : RebuildSettings) : s.plan.flatMap Leg.steps = s.steps := by
  simp [plan, syncLeg, cacheLeg, configureLeg, buildLeg, Leg.steps, steps, Function.comp_def]

end RebuildSettings

/-! ### Attempts -/

/-- A deed that was tried for a rebuild, what it found outside, and how it ended. -/
structure Attempt (W : Type) where
  ticket : Ticket
  deed : Deed
  world : W
  result : Except Failure Unit

/-- What a platform answers to a deed: a command ends as its runner says, and the cache counts as
removed if it was not there. -/
inductive Answers (p : Platform W) (s : RebuildSettings) (world : W) :
    Deed → Except Failure Unit → Prop where
  | ran (command : Command) :
    Answers p s world (.run command) (p.run command s.sourceDir world).1.toExcept
  | removed (h : (p.remove s.cachePath world).1 = .ok ()) : Answers p s world .removeCache (.ok ())
  | missing (h : (p.remove s.cachePath world).1 = .error .noEntry) :
    Answers p s world .removeCache (.ok ())
  | kept {e : OsError} (h : (p.remove s.cachePath world).1 = .error e) (he : e ≠ .noEntry) :
    Answers p s world .removeCache (.error (.io e.message))

/-- A deed that is done ends as the platform answers. -/
theorem Platform.answers_perform (p : Platform W) (s : RebuildSettings) (deed : Deed) (world : W) :
    Answers p s world deed (p.perform s deed world).1.toExcept := by
  cases deed with
  | run command => exact .ran command
  | removeCache =>
      change Answers p s world .removeCache (removalOutcome (p.remove s.cachePath world).1).toExcept
      cases hremoved : (p.remove s.cachePath world).1 with
      | ok _ => exact .removed hremoved
      | error e =>
          by_cases he : e = .noEntry
          · subst he
            exact .missing hremoved
          · simp only [removalOutcome, if_neg he]
            exact .kept hremoved he

/-- What was tried for a rebuild, and how it ended. -/
def triedFor (as : List (Attempt W)) (t : Ticket) : List (Deed × Except Failure Unit) :=
  (as.filter (·.ticket = t)).map fun a => (a.deed, a.result)

/-- Of two lists of attempts those for a caller are those of the one and then of the other. -/
theorem triedFor_append (as bs : List (Attempt W)) (t : Ticket) :
    triedFor (as ++ bs) t = triedFor as t ++ triedFor bs t := by
  simp [triedFor]

/-- Deeds that were tried and went well. -/
def succeeded (ds : List (Stage × Deed)) : List (Deed × Except Failure Unit) :=
  ds.map fun d => (d.2, .ok ())

/-- One more deed went well. -/
theorem succeeded_concat (done : List (Stage × Deed)) (stage : Stage) (deed : Deed) :
    succeeded (done ++ [(stage, deed)]) = succeeded done ++ [(deed, .ok ())] := by
  simp [succeeded]

/-- The deeds were tried in order up to one that failed, and no more after it. -/
def Broke (s : RebuildSettings) (tried : List (Deed × Except Failure Unit)) (stage : Stage)
    (cause : Failure) : Prop :=
  ∃ done deed undone, s.steps = done ++ (stage, deed) :: undone ∧
    tried = succeeded done ++ [(deed, .error cause)]

/-- **Abort on the first failure**: the deeds were tried in order, and all went well, or all but the
last, after which nothing more was tried. -/
def Strict (s : RebuildSettings) (tried : List (Deed × Except Failure Unit)) : Prop :=
  (∃ done undone, s.steps = done ++ undone ∧ tried = succeeded done) ∨
    ∃ stage cause, Broke s tried stage cause

namespace Host

variable {h : Host W} {t : Ticket} {e : Event}

/-- What is tried in an event. -/
def attempt (h : Host W) (e : Event) : List (Attempt W) :=
  (h.deed? e).toList.map fun d =>
    ⟨d.1, d.2, h.native.world,
      (h.platform.perform h.settings.rebuild d.2 h.native.world).1.toExcept⟩

/-- What is tried in a run. -/
def attempts (h : Host W) : List Event → List (Attempt W)
  | [] => []
  | e :: events => h.attempt e ++ (h.step e).attempts events

/-- The attempts of one run after another are those of the first and then those of the second. -/
theorem attempts_append (h : Host W) (before after : List Event) :
    h.attempts (before ++ after) = h.attempts before ++ (h.run before).attempts after := by
  induction before generalizing h with
  | nil => rfl
  | cons e before ih =>
      simp only [List.cons_append, attempts, ih, List.append_assoc]
      rfl

/-- The deeds that a host has noted are those that were tried. -/
theorem deeds_attempts (h : Host W) (events : List Event) :
    (h.run events).deeds = h.deeds ++ (h.attempts events).map fun a => (a.ticket, a.deed) := by
  induction events generalizing h with
  | nil => simp [run, attempts]
  | cons e events ih =>
      have hone : (h.attempt e).map (fun a => (a.ticket, a.deed)) = (h.deed? e).toList := by
        simp [attempt, Function.comp_def]
      change ((h.step e).run events).deeds = _
      rw [ih, (h.exactly e).deeds, attempts, List.map_append, hone, List.append_assoc]

/-- Every attempt ends as the platform answers. -/
theorem answers_of_mem_attempts {events : List Event} {a : Attempt W}
    (ha : a ∈ h.attempts events) :
    Answers h.platform h.settings.rebuild a.world a.deed a.result := by
  induction events generalizing h with
  | nil => simp [attempts] at ha
  | cons e events ih =>
      rcases List.mem_append.mp ha with hnow | hlater
      · obtain ⟨d, -, rfl⟩ := List.mem_map.mp hnow
        exact h.platform.answers_perform ..
      · have hsame := h.sameSetup_step e
        rw [← hsame.platform, ← hsame.settings]
        exact ih hlater

/-- In an event of others nothing is tried for a rebuild. -/
theorem triedFor_attempt_of_ne (he : e ≠ .advance t) : triedFor (h.attempt e) t = [] := by
  cases hd : h.deed? e with
  | none => simp [attempt, hd, triedFor]
  | some d =>
      obtain ⟨u, deed⟩ := d
      have hut : u ≠ t := by
        rintro rfl
        exact he (ticket?_of_deed? hd)
      simp [attempt, hd, triedFor, hut]

/-! ### Where a rebuild stands -/

/-- **Where a rebuild stands** after some attempts: in which phase it is, and how far it has come at
the gate. The deeds that are left are those that come next. Nothing is submitted to the gate before
all deeds went well, and the outcome is decided by the first that did not, or by what the gate
answered to the reload. -/
inductive Course (s : RebuildSettings) :
    List (Deed × Except Failure Unit) → Phase → Gate.Phase (Native W) Reply → Prop where
  | absent {g : Gate.Phase (Native W) Reply} : Course s [] .absent g
  | waiting : Course s [] .waiting .absent
  | working {p : Progress} {stage : Stage} {done : List (Stage × Deed)} {left : List Deed}
      {later : List Leg} (hp : p.outcome = none)
      (hsteps : s.steps = done ++ (left.map (stage, ·) ++ later.flatMap Leg.steps)) :
      Course s (succeeded done) (.working p stage left later) .absent
  | stopped {tried : List (Deed × Except Failure Unit)} {p : Progress} {stage : Stage}
      {cause : Failure} (hbroke : Broke s tried stage cause) :
      Course s tried (.stopped p stage cause) .absent
  | reloading {p : Progress} {g : Gate.Phase (Native W) Reply} (hg : g ≠ .absent) :
      Course s (succeeded s.steps) (.reloading p) g
  | failed {tried : List (Deed × Except Failure Unit)} {p : Progress} {stage : Stage}
      {cause : Failure} (hbroke : Broke s tried stage cause)
      (hp : p.outcome = some (.failed stage cause.message)) :
      Course s tried (.ended p) .absent
  | answered {p : Progress} {r : Except Failure Reply}
      (hp : p.outcome = some (match r with
        | .ok _ => .success
        | .error _ => .failed .reload reloadReason)) :
      Course s (succeeded s.steps) (.ended p) (.answered r)
  | orphaned {stage : Stage} {done undone : List (Stage × Deed)} {left : List Deed}
      (hsteps : s.steps = done ++ (left.map (stage, ·) ++ undone)) :
      Course s (succeeded done) (.orphaned left) .absent
  | abandoned {tried : List (Deed × Except Failure Unit)} {g : Gate.Phase (Native W) Reply}
      (hstrict : Strict s tried) (hg : g ≠ .absent → tried = succeeded s.steps) :
      Course s tried .abandoned g

namespace Course

variable {s : RebuildSettings} {tried : List (Deed × Except Failure Unit)} {p : Phase}
  {g g' : Gate.Phase (Native W) Reply}

/-- As long as the reload is not submitted or answered, nothing is to be known of the gate. -/
theorem congr (hc : Course s tried p g) (habsent : g' = .absent ↔ g = .absent)
    (hanswered : ∀ r, g = .answered r → g' = .answered r) : Course s tried p g' := by
  cases hc with
  | absent => exact .absent
  | waiting => exact habsent.mpr rfl ▸ .waiting
  | working hp hsteps => exact habsent.mpr rfl ▸ .working hp hsteps
  | stopped hbroke => exact habsent.mpr rfl ▸ .stopped hbroke
  | reloading hg => exact .reloading fun h => hg (habsent.mp h)
  | failed hbroke hp => exact habsent.mpr rfl ▸ .failed hbroke hp
  | answered hp => exact hanswered _ rfl ▸ .answered hp
  | orphaned hsteps => exact habsent.mpr rfl ▸ .orphaned hsteps
  | abandoned hstrict hg => exact .abandoned hstrict fun h => hg fun h' => h (habsent.mpr h')

/-- At any time the attempts are a beginning of the deeds. -/
theorem strict (hc : Course s tried p g) : Strict s tried := by
  cases hc with
  | absent | waiting => exact .inl ⟨[], _, rfl, rfl⟩
  | working _ hsteps | orphaned hsteps => exact .inl ⟨_, _, hsteps, rfl⟩
  | stopped hbroke | failed hbroke _ => exact .inr ⟨_, _, hbroke⟩
  | reloading _ | answered _ => exact .inl ⟨_, [], (List.append_nil _).symm, rfl⟩
  | abandoned hstrict _ => exact hstrict

/-- What has been submitted to the gate was submitted after all deeds went well. -/
theorem tried_eq (hc : Course s tried p g) (hp : p ≠ .absent) (hg : g ≠ .absent) :
    tried = succeeded s.steps := by
  cases hc with
  | absent => exact absurd rfl hp
  | waiting | working _ _ | stopped _ | failed _ _ | orphaned _ => exact absurd rfl hg
  | reloading _ | answered _ => rfl
  | abandoned _ h => exact h hg

/-- A rebuild one of whose deeds failed is unknown to the gate. -/
theorem absent_of_failed (hc : Course s tried p g) {x : Deed × Except Failure Unit}
    (hx : x ∈ tried) (hfailed : x.2 ≠ .ok ()) : g = .absent := by
  by_contra hg
  by_cases hp : p = .absent
  · subst hp
    cases hc with
    | absent => simp at hx
  · rw [hc.tried_eq hp hg] at hx
    obtain ⟨d, -, rfl⟩ := List.mem_map.mp hx
    exact hfailed rfl

end Course

/-! ### Event by event -/

section

variable {s : RebuildSettings} {tried : List (Deed × Except Failure Unit)}

/-- Events of others make no difference. -/
theorem Course.step_of_ne (hc : Course s tried (h.phase t) (h.gate.phase t))
    (he : e.ticket? ≠ some t) :
    Course s (tried ++ triedFor (h.attempt e) t) ((h.step e).phase t)
      ((h.step e).gate.phase t) := by
  have hadvance : e ≠ .advance t := by
    rintro rfl
    exact he rfl
  rw [triedFor_attempt_of_ne hadvance, List.append_nil, phase_step_of_ne he]
  refine hc.congr ?_ fun r hr => gate_phase_step_answered hr fun hdrop => ?_
  · rw [gate_phase_step_absent_iff]
    refine and_iff_left fun op harrive => ?_
    rcases gateEvent?_arrive harrive with ⟨d, rfl, -⟩ | ⟨rfl, -, -⟩ <;> exact he rfl
  · obtain ⟨rfl, -⟩ := gateEvent?_drop hdrop
    exact he rfl

/-- A rebuild that has the lock begins with its first deed. -/
theorem course_beginRebuild (hs : h.settings.rebuild = s) (hg : h.gate.phase t = .absent) :
    Course s [] ((h.beginRebuild t).phase t) ((h.beginRebuild t).gate.phase t) := by
  subst hs
  have hphase : (h.beginRebuild t).phase t = .working
      (Progress.empty.push .sync "Pulling changes...") .sync
      (h.settings.rebuild.syncCommands.map .run)
      [h.settings.rebuild.cacheLeg, h.settings.rebuild.configureLeg,
        h.settings.rebuild.buildLeg] := by
    simp [beginRebuild, proceed, RebuildSettings.plan, RebuildSettings.syncLeg, announce]
  have hgate : (h.beginRebuild t).gate.phase t = .absent := hg
  rw [hphase, hgate, show ([] : List (Deed × Except Failure Unit)) = succeeded [] from rfl]
  exact .working rfl h.settings.rebuild.flatMap_plan.symm

/-- A demand leaves the course of a rebuild as it is, or begins it. -/
theorem Course.arrive (hc : Course s tried (h.phase t) (h.gate.phase t))
    (hs : h.settings.rebuild = s) (d : Demand) :
    Course s tried ((h.arrive t d).phase t) ((h.arrive t d).gate.phase t) := by
  by_cases hnew : h.isNew t
  · obtain ⟨hgate, hphase, -⟩ := isNew_iff.mp hnew
    rw [hphase, hgate] at hc
    cases hc with
    | absent =>
      by_cases hd : d = .rebuild
      · subst hd
        simp only [Host.arrive, hnew, if_true, accept, arriveRebuild]
        split
        · exact course_beginRebuild hs hgate
        · rw [phase_setPhase_self]
          exact hgate ▸ .waiting
      · have habsent : (h.step (.arrive t d)).phase t = .absent :=
          (h.steps (.arrive t d)).rebuilds.absent hphase fun he => absurd (Event.arrive.inj he).2 hd
        change (h.arrive t d).phase t = .absent at habsent
        rw [habsent]
        exact .absent
  · rwa [Host.arrive, if_neg hnew]

/-- A stage that is done goes on with the next one, or with the reload after the last. -/
theorem course_proceed {q : Progress} {done : List (Stage × Deed)} {later : List Leg}
    (hq : q.outcome = none) (hsteps : s.steps = done ++ later.flatMap Leg.steps)
    (hgate : h.gate.phase t = .absent) :
    Course s (succeeded done) ((h.proceed t q later).phase t)
      ((h.proceed t q later).gate.phase t) := by
  cases later with
  | cons leg later =>
      simp only [proceed, announce, phase_setPhase_self]
      exact hgate ▸ .working hq hsteps
  | nil =>
      obtain rfl : s.steps = done := by simpa using hsteps
      have hsubmitted : (h.proceed t q []).gate.phase t ≠ .absent := fun habsent =>
        ((Gate.follows_step h.gate (.arrive t _) t).absent_iff.mp habsent).2 _ rfl
      have hreload : (h.proceed t q []).phase t
        = .reloading (q.push .reload reloadAnnouncement) := phase_setPhase_self ..
      rw [hreload]
      exact .reloading hsubmitted

/-- A reload that is looked at has not ended, or ends the rebuild with its answer. -/
theorem course_pollReload {q : Progress} (hphase : h.phase t = .reloading q)
    (hg : h.gate.phase t ≠ .absent) :
    Course s (succeeded s.steps) ((h.pollReload t q).phase t)
      ((h.pollReload t q).gate.phase t) := by
  have hsubmitted : (h.gate.poll t).phase t ≠ .absent := fun habsent =>
    hg ((Gate.follows_step h.gate (.poll t) t).absent_iff.mp habsent).1
  simp only [pollReload]
  split
  · rw [hphase]
    exact .reloading hsubmitted
  · rename_i hr
    rw [conclude, phase_setPhase_self]
    exact Gate.phase_of_answer? hr ▸ .answered rfl
  · rename_i hr
    rw [conclude, phase_setPhase_self]
    exact Gate.phase_of_answer? hr ▸ .answered rfl

/-- A poll takes it on, but tries nothing. -/
theorem Course.poll (hc : Course s tried (h.phase t) (h.gate.phase t))
    (hs : h.settings.rebuild = s) :
    Course s tried ((h.poll t).phase t) ((h.poll t).gate.phase t) := by
  have hstay : h.poll t = h → Course s tried ((h.poll t).phase t) ((h.poll t).gate.phase t) :=
    fun hsame => hsame.symm ▸ hc
  generalize hphase : h.phase t = p at hc
  generalize hgate : h.gate.phase t = g at hc
  cases hc with
  | absent =>
      simp only [Host.poll, hphase]
      exact .absent
  | waiting =>
      by_cases hheld : h.rebuilding.isHeldBy t
      · simp only [Host.poll, hphase, hheld, if_true]
        exact course_beginRebuild hs hgate
      · exact hstay (by simp [Host.poll, hphase, hheld])
  | @working q stage done left later hq hsteps =>
      cases left with
      | cons deed left => exact hstay (by simp only [Host.poll, hphase])
      | nil =>
          simp only [Host.poll, hphase]
          exact course_proceed hq hsteps hgate
  | stopped hbroke =>
      simp only [Host.poll, hphase, conclude, phase_setPhase_self]
      exact hgate ▸ .failed hbroke rfl
  | reloading hg =>
      simp only [Host.poll, hphase]
      exact course_pollReload hphase (hgate.symm ▸ hg)
  | failed _ _ | answered _ | orphaned _ | abandoned _ _ =>
      exact hstay (by simp only [Host.poll, hphase])

/-- A caller that leaves does not change what is tried for it. -/
theorem Course.drop (hc : Course s tried (h.phase t) (h.gate.phase t)) :
    Course s tried ((h.drop t).phase t) ((h.drop t).gate.phase t) := by
  have habsent : h.gate.phase t = .absent → (h.gate.drop t).phase t = .absent := fun hg => by
    simp [Gate.drop, hg]
  have hstrict := hc.strict
  have hstay : h.drop t = h → Course s tried ((h.drop t).phase t) ((h.drop t).gate.phase t) :=
    fun hsame => hsame.symm ▸ hc
  generalize hphase : h.phase t = p at hc
  generalize hgate : h.gate.phase t = g at hc
  cases hc with
  | absent =>
      simp only [Host.drop, hphase]
      exact .absent
  | waiting | stopped _ =>
      simp only [Host.drop, hphase, phase_setPhase_self]
      exact .abandoned hstrict fun h => absurd (habsent hgate) h
  | working _ hsteps =>
      simp only [Host.drop, hphase, phase_setPhase_self, habsent hgate]
      exact .orphaned hsteps
  | reloading _ =>
      simp only [Host.drop, hphase, phase_setPhase_self]
      exact .abandoned hstrict fun _ => rfl
  | failed _ _ | answered _ | orphaned _ | abandoned _ _ =>
      exact hstay (by simp only [Host.drop, hphase])

/-- After a deed was tried for a rebuild, the attempt is the deed with its result. -/
theorem triedFor_attempt_self {deed : Deed} (hdeed : h.deed? (.advance t) = some (t, deed)) :
    triedFor (h.attempt (.advance t)) t = [(deed, (h.perform t deed).1)] := by
  simp [attempt, hdeed, triedFor, perform]

/-- A stage that goes on is tried where the course has come to. -/
theorem Course.advance (hc : Course s tried (h.phase t) (h.gate.phase t)) :
    Course s (tried ++ triedFor (h.attempt (.advance t)) t) ((h.advance t).phase t)
      ((h.advance t).gate.phase t) := by
  have hstay : h.deed? (.advance t) = none → h.advance t = h →
      Course s (tried ++ triedFor (h.attempt (.advance t)) t) ((h.advance t).phase t)
        ((h.advance t).gate.phase t) := fun hdeed hsame => by
    simpa [hsame, attempt, hdeed, triedFor] using hc
  generalize hphase : h.phase t = p at hc
  generalize hgate : h.gate.phase t = g at hc
  cases hc with
  | @working q stage done left later hq hsteps =>
      cases left with
      | nil => exact hstay (by simp [deed?, hphase]) (by simp only [Host.advance, hphase])
      | cons deed left =>
          have hdeed : h.deed? (.advance t) = some (t, deed) := by simp [deed?, hphase]
          rw [triedFor_attempt_self hdeed]
          obtain ⟨result, k, hk⟩ : ∃ result k, h.perform t deed = (result, k) := ⟨_, _, rfl⟩
          obtain ⟨world, rfl⟩ := perform_eq hk
          cases result with
          | error cause =>
              simp only [Host.advance, hphase, hk, phase_setPhase_self]
              exact hgate ▸ .stopped ⟨done, deed, _, hsteps, rfl⟩
          | ok _ =>
              simp only [Host.advance, hphase, hk, phase_setPhase_self]
              rw [← succeeded_concat done stage deed]
              exact hgate ▸ .working hq (by simpa using hsteps)
  | @orphaned stage done undone left hsteps =>
      cases left with
      | nil => exact hstay (by simp [deed?, hphase]) (by simp only [Host.advance, hphase])
      | cons deed left =>
          have hdeed : h.deed? (.advance t) = some (t, deed) := by simp [deed?, hphase]
          rw [triedFor_attempt_self hdeed]
          obtain ⟨result, k, hk⟩ : ∃ result k, h.perform t deed = (result, k) := ⟨_, _, rfl⟩
          obtain ⟨world, rfl⟩ := perform_eq hk
          cases result with
          | error cause =>
              simp only [Host.advance, hphase, hk, phase_setPhase_self]
              exact .abandoned (.inr ⟨stage, cause, done, deed, _, hsteps, rfl⟩)
                fun hsubmitted => absurd hgate hsubmitted
          | ok _ =>
              simp only [Host.advance, hphase, hk, phase_setPhase_self]
              rw [← succeeded_concat done stage deed]
              exact hgate ▸ .orphaned (by simpa using hsteps)
  | absent | waiting | stopped _ | reloading _ | failed _ _ | answered _ | abandoned _ _ =>
      exact hstay (by simp [deed?, hphase]) (by simp only [Host.advance, hphase])

/-- An event takes a rebuild from one place to the next. -/
theorem Course.step (hc : Course s tried (h.phase t) (h.gate.phase t))
    (hs : h.settings.rebuild = s) (e : Event) :
    Course s (tried ++ triedFor (h.attempt e) t) ((h.step e).phase t)
      ((h.step e).gate.phase t) := by
  by_cases he : e.ticket? = some t
  · obtain ⟨d, rfl⟩ | rfl | rfl | rfl := Event.of_ticket? he
    · rw [triedFor_attempt_of_ne (by simp), List.append_nil]
      exact hc.arrive hs d
    · rw [triedFor_attempt_of_ne (by simp), List.append_nil]
      exact hc.poll hs
    · rw [triedFor_attempt_of_ne (by simp), List.append_nil]
      exact hc.drop
    · exact hc.advance
  · exact hc.step_of_ne he

/-- **Where a rebuild stands after a run.** -/
theorem Course.run (hc : Course s tried (h.phase t) (h.gate.phase t))
    (hs : h.settings.rebuild = s) (events : List Event) :
    Course s (tried ++ triedFor (h.attempts events) t) ((h.run events).phase t)
      ((h.run events).gate.phase t) := by
  induction events generalizing h tried with
  | nil => simpa [attempts, triedFor, Host.run] using hc
  | cons e events ih =>
      have hlast := ih (hc.step hs e)
        ((congrArg Settings.rebuild (h.sameSetup_step e).settings).trans hs)
      rwa [List.append_assoc, ← triedFor_append] at hlast

end

end Host

end ScriptHost
