import ScriptHost.Proofs.Host.Attempts
import ScriptHost.Proofs.Host.Reloads
import ScriptHost.Proofs.Host.Settling

/-!
# The sequence of a rebuild

A rebuild tries its deeds in a fixed order and gives up on the first that fails; the new module is
loaded only after all of them went well. There are three ways in which it can go (`Verdict`), told
apart by the answers of the platform alone, and the outcome that its caller gets is the one of that
way (`Host.rebuild_sequence`). All else that the host is doing at the same time makes no difference.

## Main definitions

* `Verdict` — the three ways.
* `Host.Sequence` — what is known of a rebuild after a run, and of its outcome if it has one.
-/

namespace ScriptHost

variable {W : Type}

/-- **How a rebuild goes**: the deeds that are tried for it and how they end, how often it is
admitted to the gate, what is done for it there, and its outcome. -/
inductive Verdict (s : RebuildSettings) (path : Path) :
    List (Deed × Except Failure Unit) → Nat → List Event → RebuildOutcome → Prop where
  /-- A deed fails. It is the last one tried, and the outcome names its stage and the cause. -/
  | broke {done undone : List (Stage × Deed)} {stage : Stage} {deed : Deed} {cause : Failure}
      (hsteps : s.steps = done ++ (stage, deed) :: undone) :
      Verdict s path (succeeded done ++ [(deed, .error cause)]) 0 []
        (.failed stage cause.message)
  /-- All deeds go well, but the loader has no module. -/
  | unloaded {made : List Event} (hmade : Native.Reloaded path made none) :
      Verdict s path (succeeded s.steps) 1 made (.failed .reload reloadReason)
  /-- All deeds go well, and the loader has a module. -/
  | swapped {made : List Event} {handle : Handle}
      (hmade : Native.Reloaded path made (some handle)) :
      Verdict s path (succeeded s.steps) 1 made .success

/-- The command of a deed. -/
def Deed.command? : Deed → Option Command
  | .run command => some command
  | .removeCache => none

/-! ### Deeds in order -/

section

variable {s : RebuildSettings} {tried : List (Deed × Except Failure Unit)}

theorem map_fst_succeeded (ds : List (Stage × Deed)) :
    (succeeded ds).map Prod.fst = ds.map Prod.snd := by
  simp [succeeded]

/-- What was tried is a beginning of the deeds. -/
theorem Strict.prefix_steps (h : Strict s tried) : tried.map Prod.fst <+: s.steps.map Prod.snd := by
  rcases h with ⟨done, undone, hsteps, rfl⟩ | ⟨stage, cause, done, deed, undone, hsteps, rfl⟩
  · rw [hsteps, map_fst_succeeded, List.map_append]
    exact List.prefix_append _ _
  · rw [hsteps, List.map_append, map_fst_succeeded]
    exact ⟨undone.map Prod.snd, by simp⟩

/-- The commands that were tried are a beginning of those of all stages. -/
theorem Strict.commands (h : Strict s tried) : (tried.map Prod.fst).filterMap Deed.command? <+:
    s.syncCommands ++ s.configureCommands ++ s.buildCommands := by
  have hall : (s.steps.map Prod.snd).filterMap Deed.command?
      = s.syncCommands ++ s.configureCommands ++ s.buildCommands := by
    simp [RebuildSettings.steps, Deed.command?, List.filterMap_cons, List.filterMap_map,
      Function.comp_def]
  exact hall ▸ h.prefix_steps.filterMap Deed.command?

/-- The cache is removed once at most. -/
theorem Strict.count_removeCache_le (h : Strict s tried) :
    (tried.map Prod.fst).count .removeCache ≤ 1 := by
  have hone : (s.steps.map Prod.snd).count .removeCache = 1 := by
    simp [RebuildSettings.steps, RebuildSettings.syncCommands, RebuildSettings.configureCommands,
      RebuildSettings.buildCommands]
  exact hone ▸ h.prefix_steps.sublist.count_le _

/-- In the end, the removal of the cache was tried exactly if all commands of the first stage went
well. -/
theorem Verdict.removeCache_mem_iff {path : Path} {admissions : Nat} {made : List Event}
    {outcome : RebuildOutcome} (h : Verdict s path tried admissions made outcome) :
    .removeCache ∈ tried.map Prod.fst ↔
      succeeded (s.syncCommands.map (.sync, .run ·)) <+: tried := by
  have hgrown : ∀ ds es : List (Stage × Deed), succeeded ds <+: succeeded (ds ++ es) := by
    intro ds es
    simp [succeeded]
  cases h with
  | unloaded _ | swapped _ =>
      exact iff_of_true (by simp [succeeded, RebuildSettings.steps]) (hgrown _ _)
  | @broke done undone stage deed cause hsteps =>
      rw [RebuildSettings.steps] at hsteps
      rcases List.append_eq_append_iff.mp hsteps with ⟨more, rfl, hrest⟩ | ⟨more, hsync, hrest⟩
      · -- All commands of the first stage went well, and the removal is the next deed.
        refine iff_of_true ?_ ((hgrown _ more).trans (List.prefix_append _ _))
        cases more with
        | nil =>
            obtain rfl : Deed.removeCache = deed := congrArg Prod.snd (List.cons.inj hrest).1
            simp
        | cons d more =>
            obtain rfl : (Stage.configure, Deed.removeCache) = d := (List.cons.inj hrest).1
            simp [succeeded]
      · cases more with
        | nil =>
            obtain rfl : deed = Deed.removeCache := congrArg Prod.snd (List.cons.inj hrest).1
            rw [List.append_nil] at hsync
            exact iff_of_true (by simp) (hsync ▸ List.prefix_append _ _)
        | cons d more =>
            -- One of these commands failed.
            obtain rfl : (stage, deed) = d := (List.cons.inj hrest).1
            refine iff_of_false ?_ ?_
            · intro hmem
              have hrun : ∀ e ∈ done ++ (stage, deed) :: more, e.2 ≠ .removeCache := by
                rw [← hsync]
                simp
              simp only [List.map_append, map_fst_succeeded, List.map_cons, List.map_nil,
                List.mem_append, List.mem_map, List.mem_singleton] at hmem
              rcases hmem with ⟨e, he, heq⟩ | heq
              · exact hrun e (by simp [he]) heq
              · exact hrun (stage, deed) (by simp) heq.symm
            · rw [hsync]
              simp [succeeded]

end

/-! ### In a run -/

namespace Host

/-- The events in which a demand is followed to its end. -/
def serving (t : Ticket) (demand : Demand) : List Event :=
  .arrive t demand :: (List.replicate maxTurns (turns t)).flatten

theorem run_serving (h : Host W) (events : List Event) (t : Ticket) (demand : Demand) :
    h.run (events ++ serving t demand) = (h.run events).serve t demand := by
  rw [run_append]
  simp only [serving, serve, settle, run, List.foldl_cons, step]

/-- A rebuild has ended in one of the three ways, and its progress tells the outcome. -/
structure Ends (h : Host W) (events : List Event) (t : Ticket) (p : Progress) : Prop where
  verdict : ∃ outcome, p.outcome = some outcome ∧
    Verdict h.settings.rebuild h.settings.module.path (triedFor (h.attempts events) t)
      ((h.run events).gate.admitted.count t) (madeBy (h.actsOf events) t) outcome
  /-- The cache was to be removed exactly if all commands of the first stage went well. -/
  cache : .removeCache ∈ (triedFor (h.attempts events) t).map Prod.fst ↔
    succeeded (h.settings.rebuild.syncCommands.map (.sync, .run ·))
      <+: triedFor (h.attempts events) t

/-- **What is known of a rebuild after a run**, whether or not it has ended. -/
structure Sequence (h : Host W) (events : List Event) (t : Ticket) : Prop where
  /-- All deeds of the host are accounted for. -/
  recorded : (h.run events).deeds
    = h.deeds ++ (h.attempts events).map fun a => (a.ticket, a.deed)
  /-- They end as the platform answers. -/
  answers : ∀ a ∈ h.attempts events,
    Answers h.platform h.settings.rebuild a.world a.deed a.result
  /-- The deeds are tried in order up to the first that fails. -/
  strict : Strict h.settings.rebuild (triedFor (h.attempts events) t)
  /-- So are the commands among them. -/
  commands : ((triedFor (h.attempts events) t).map Prod.fst).filterMap Deed.command? <+:
    h.settings.rebuild.syncCommands ++ h.settings.rebuild.configureCommands
      ++ h.settings.rebuild.buildCommands
  /-- The removal of the cache is tried once at most. -/
  once : ((triedFor (h.attempts events) t).map Prod.fst).count .removeCache ≤ 1
  /-- The reload is submitted only after all deeds went well. -/
  submitted : (h.run events).Rebuilds t → (h.run events).gate.phase t ≠ .absent →
    triedFor (h.attempts events) t = succeeded h.settings.rebuild.steps
  /-- Whoever has an answer is told how the rebuild went. -/
  ends : ∀ p, (h.run events).Rebuilds t →
    (h.run events).answer? t = some (.ok (.progress p)) → h.Ends events t p
  /-- A new rebuild comes to its end if its caller stays, nobody else is at the gate, and no other
  rebuild is under way. -/
  concludes : (h.run events).gate.isFree → (h.run events).rebuilding.holder = none →
    (h.run events).isNew t → ∃ p,
      ((h.run events).serve t .rebuild).answer? t = some (.ok (.progress p)) ∧
        h.Ends (events ++ serving t .rebuild) t p

section

variable (settings : Settings) (moduleConfig : Option Bytes) (platform : Platform W) (world : W)
  (events : List Event) (t : Ticket)

theorem course_run :
    let h := init settings moduleConfig platform world
    Course settings.rebuild (triedFor (h.attempts events) t) ((h.run events).phase t)
      ((h.run events).gate.phase t) := by
  intro h
  have hbegun : Course settings.rebuild [] (h.phase t) (h.gate.phase t) := .absent
  exact hbegun.run rfl events

/-- A rebuild that has ended did so in one of the three ways. -/
theorem ends_of_ended {p : Progress}
    (hended : ((init settings moduleConfig platform world).run events).phase t = .ended p) :
    (init settings moduleConfig platform world).Ends events t p := by
  have hc := course_run settings moduleConfig platform world events t
  have hrebuilds : ((init settings moduleConfig platform world).run events).Rebuilds t := by
    simp [Rebuilds, hended]
  dsimp only at hc
  rw [hended] at hc
  suffices hverdict : ∃ outcome, p.outcome = some outcome ∧
      Verdict settings.rebuild settings.module.path
      (triedFor ((init settings moduleConfig platform world).attempts events) t)
      (((init settings moduleConfig platform world).run events).gate.admitted.count t)
      (madeBy ((init settings moduleConfig platform world).actsOf events) t) outcome by
    obtain ⟨outcome, -, h⟩ := id hverdict
    exact ⟨hverdict, h.removeCache_mem_iff⟩
  generalize hgate : ((init settings moduleConfig platform world).run events).gate.phase t = g at hc
  generalize triedFor ((init settings moduleConfig platform world).attempts events) t = tried at hc
  cases hc with
  | failed hbroke hp =>
      obtain ⟨done, deed, undone, hsteps, rfl⟩ := hbroke
      obtain ⟨hmade, hnot⟩ :=
        madeBy_eq_nil_of_absent settings moduleConfig platform world events hgate
      rw [hmade, List.count_eq_zero_of_not_mem hnot]
      exact ⟨_, hp, .broke hsteps⟩
  | @answered _ r hp =>
      obtain ⟨hcount, handle, hreloaded, hresult⟩ :=
        reloaded_of_answered settings moduleConfig platform world events hrebuilds hgate
      rw [hcount]
      refine ⟨_, hp, ?_⟩
      cases r with
      | ok reply =>
          obtain ⟨new, rfl⟩ := Option.isSome_iff_exists.mp (hresult.mp rfl)
          exact .swapped hreloaded
      | error cause =>
          obtain rfl : handle = none := by
            rw [← Option.not_isSome_iff_eq_none, ← hresult]
            simp [Except.toOption]
          exact .unloaded hreloaded

/-- Whoever has a rebuild and an answer has a rebuild that has ended. -/
theorem ended_of_answer? {h : Host W} {t : Ticket} {p : Progress} (hr : h.Rebuilds t)
    (hanswer : h.answer? t = some (.ok (.progress p))) : h.phase t = .ended p := by
  unfold answer? at hanswer
  split at hanswer
  · simp at hanswer
  · rename_i q _ hphase
    simp_all
  · rename_i hphase
    exact absurd hphase hr
  · simp at hanswer

/-- **A rebuild gives up on the first failure**, in every run of every host, and says in its outcome
which deed it was. -/
theorem rebuild_sequence : (init settings moduleConfig platform world).Sequence events t := by
  have hc := course_run settings moduleConfig platform world events t
  refine ⟨deeds_attempts _ events, fun _ => answers_of_mem_attempts, hc.strict, hc.strict.commands,
    hc.strict.count_removeCache_le, fun hr => hc.tried_eq hr, fun p hr hanswer => ?_, ?_⟩
  · exact ends_of_ended settings moduleConfig platform world events t (ended_of_answer? hr hanswer)
  · intro hfree hlock hnew
    obtain ⟨p, hended, hanswer⟩ := exists_answer_serve hfree hlock hnew
    rw [← run_serving] at hended
    exact ⟨p, hanswer, ends_of_ended settings moduleConfig platform world _ t hended⟩

/-- The third command of a rebuild panics: three deeds are noted, and the outcome says so. -/
theorem rebuild_sequence_of_panic :
    let platform : Platform Unit := { Platform.calm with
      run := fun command _ world =>
        (if command.args.head? = some "checkout" then .panicked else .ok (), world) }
    let h := init {} none platform ()
    ∃ p, (h.serve 1 .rebuild).answer? 1 = some (.ok (.progress p)) ∧
      h.Ends (serving 1 .rebuild) 1 p ∧ (h.serve 1 .rebuild).deeds.length = 3 ∧
      p.outcome = some (.failed .sync (Failure.workerPanicked Outcome.panicDetail).message) := by
  intro platform h
  obtain ⟨p, hanswer, hends⟩ :=
    (rebuild_sequence {} none platform () [] 1).concludes rfl rfl (by decide)
  have hended : (h.serve 1 .rebuild).phase 1 = .ended
      ((Progress.empty.push .sync "Pulling changes...").fail .sync
        (Failure.workerPanicked Outcome.panicDetail).message) := by decide +kernel
  have hp := hended.symm.trans (ended_of_answer? (by simp [Rebuilds, hended]) hanswer)
  obtain rfl := Phase.ended.inj hp
  exact ⟨_, hanswer, hends, by decide +kernel, rfl⟩

end

end Host

end ScriptHost
