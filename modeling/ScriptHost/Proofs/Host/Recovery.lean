import ScriptHost.Proofs.Host.Executions
import ScriptHost.Proofs.Host.Sequence
import ScriptHost.Proofs.Host.Served
import ScriptHost.Proofs.Host.Unstuck
import ScriptHost.Proofs.Module.LastLoad

/-!
# Recovery

No history leaves a host unusable. Whatever failed or panicked before and whoever went away, callers
that look and workers that work bring it to rest, and everybody who stays is answered. Then a
rebuild or a start for which nothing fails ends well, and the module that it loaded is ready and is
entered by the next execution (`Host.Usable`). As long as a load that failed has not been followed
by one that went well, every execution is told that no module is there (`Host.run_recovers`).

## Proof idea

At a quiet host the gate and the lock of the rebuilds are free, and what the host believes of the
slot is what the trace says of it. Whoever comes alone is the next one to be admitted, so the trace
ends with what was done for it.

## Main definitions

* `Host.Smooth` — a caller comes alone to a quiet host, and nothing fails for it.
* `Host.Usable` — the module that was loaded last is there for whoever comes next.
* `Host.Recovers` — what is known of a host after any history.
-/

namespace ScriptHost

variable {W : Type}

/-- The slot has the module that was loaded last. -/
theorem Native.Tidy.exists_loaded {n : Native W} (hn : n.Tidy []) {path : Path}
    {handle : Handle} (hlast : LastLoaded n.trace path handle) :
    ∃ m, n.slot.loaded = some m ∧ m.handle = handle := by
  have hhandles : n.slot.handles = [handle] := Lawful.handles_of_lastLoaded hn hlast
  cases hm : n.slot.loaded <;> simp_all [Slot.handles]

/-- The slot is empty after a load that failed. -/
theorem Native.Tidy.loaded_eq_none {n : Native W} (hn : n.Tidy []) (hfailed : LoadFailed n.trace) :
    n.slot.loaded = none := by
  have hhandles : n.slot.handles = [] := Lawful.handles_of_loadFailed hn hfailed
  cases hm : n.slot.loaded <;> simp_all [Slot.handles]

namespace Host

variable {h : Host W} {t : Ticket} {d : Demand} {events : List Event} {request : Request}

/-- A new caller comes alone to a quiet host, and nothing that is tried or loaded for it fails. -/
structure Smooth (h : Host W) (t : Ticket) (d : Demand) (events : List Event) : Prop where
  quiet : h.Quiet
  new : h.isNew t
  alone : ComesAlone t d events
  tried : ∀ a ∈ h.attempts events, a.ticket = t → a.result = .ok ()
  loaded : ∀ e ∈ madeBy (h.actsOf events) t, e.failsToLoad = false

/-- A host with nothing under way has just loaded the module of its settings. It is ready, and the
next execution enters this module, which answers each entry in the world that the one before it
left. -/
structure Usable (h : Host W) (handle : Handle) : Prop where
  quiet : h.Quiet
  last : ∃ before, h.native.trace = before ++ [.load h.settings.module.path (some handle)]
  ready : ∀ t, h.isNew t → (h.serve t .ready).answer? t = some (.ok (.ready true))
  entered : ∀ t d request, h.isNew t → h.Requests request d →
    request.source.utf8ByteSize < UInt32.size → ∃ made r,
      (h.serve t d).native.trace = h.native.trace ++ made ∧ made ≠ [] ∧
        (∀ e ∈ made, e.entry? = some handle) ∧
        (∃ m, h.native.slot.loaded = some m ∧
          m.AnswersAll h.native.world made (h.serve t d).native.world) ∧
        (h.serve t d).answer? t = some r ∧ r ≠ .error .notReady

/-- **What is known of a host after any history.** -/
structure Recovers (h : Host W) (events : List Event) : Prop where
  /-- Calm events lead to a host with nothing under way. -/
  settles : (h.run events).Comes Quiet
  /-- They lead to an answer for everybody who has come and has not gone away. -/
  answered : ∀ t, (h.run events).Attends t → (h.run events).Comes fun k => ∃ r, k.answer? t = some r
  /-- A rebuild for which nothing fails comes to its end, and ends well. -/
  rebuilt : ∀ t more, (h.run events).Smooth t .rebuild more →
    ((h.run events).run more).Comes (fun k => ∃ r, k.answer? t = some r) ∧
      ∀ r, ((h.run events).run more).answer? t = some r →
        (∃ p, r = .ok (.progress p) ∧ p.outcome = some .success) ∧
          ∃ handle, ((h.run events).run more).Usable handle
  /-- So does a start. -/
  started : ∀ t more, (h.run events).Smooth t .start more →
    ((h.run events).run more).Comes (fun k => ∃ r, k.answer? t = some r) ∧
      ∀ r, ((h.run events).run more).answer? t = some r →
        r = .ok .done ∧ ∃ handle, ((h.run events).run more).Usable handle
  /-- All that passed between the host and native code was done for those admitted, one after
  another. -/
  whole : (h.run events).native.trace
    = (h.run events).gate.admitted.flatMap (madeBy (h.actsOf events))
  /-- An execution that was admitted after a load that went well enters the module that was
  loaded: each act makes one entry at most, and what is noted of it is what the module in the slot
  has answered. -/
  entered : ∀ t request us vs path handle, h.Asks events t request →
    request.source.utf8ByteSize < UInt32.size → (h.run events).gate.admitted = us ++ t :: vs →
    LastLoaded (us.flatMap (madeBy (h.actsOf events))) path handle →
    ∀ r, (h.run events).answer? t = some r → r ≠ .error .notReady ∧
      madeBy (h.actsOf events) t ≠ [] ∧
      (∀ e ∈ madeBy (h.actsOf events) t, e.entry? = some handle) ∧
      ∀ a ∈ h.actsOf events, a.ticket = t → Native.enters a.before a.after
  /-- An execution that was admitted after a load that failed makes no entry, and is told that no
  module is there. -/
  refused : ∀ t request us vs, h.Asks events t request →
    (h.run events).gate.admitted = us ++ t :: vs →
    LoadFailed (us.flatMap (madeBy (h.actsOf events))) →
    madeBy (h.actsOf events) t = [] ∧
      ∀ r, (h.run events).answer? t = some r → r = .error .notReady
  /-- So is whoever comes next, if nothing is under way. -/
  barred : (h.run events).Quiet → LoadFailed (h.run events).native.trace →
    ∀ t d request, (h.run events).isNew t → (h.run events).Requests request d →
      ((h.run events).serve t d).answer? t = some (.error .notReady) ∧
        ((h.run events).serve t d).native.trace = (h.run events).native.trace

/-! ### What was done -/

/-- A load asks the loader once, and has no other value than that it is done. -/
theorem meets_loading (h : Host W) (path : Path) (n₀ : Native W) :
    ∃ w, h.loading path = .work w ∧ Native.Meets Native.grows (fun o n =>
      Native.EndsReload path n₀ o n ∧ ∀ reply, o = .ok reply → reply = .done) w n₀ := by
  refine ⟨_, rfl, .bind_return ?_⟩
  refine (n₀.endsReload_loading h.platform.load path).mono (fun _ _ => id) ?_
  rintro o n ⟨made, handle, htrace, hreloaded, hend⟩
  refine ⟨⟨made, handle, htrace, hreloaded, ?_⟩, fun reply ho => ?_⟩
  · rw [← hend]
    cases o <;> simp [Outcome.map, Outcome.value?]
  · cases o <;> simp_all [Outcome.map]

/-- Acts that leave the trace alone make nothing of it. -/
theorem madeBy_eq_nil_of_same {as : List (Gate.Act (Native W))}
    (h : ∀ a ∈ as, a.ticket = t → a.after.trace = a.before.trace) : madeBy as t = [] := by
  refine List.flatMap_eq_nil_iff.mpr fun a ha => ?_
  obtain ⟨hmem, hat⟩ := List.mem_filter.mp ha
  rw [madeIn, h a hmem (by simpa using hat), List.drop_length]

/-- Where the rebuild of a new caller stands is told by what is tried from now on. -/
theorem course_of_isNew (hnew : h.isNew t) (events : List Event) :
    Course h.settings.rebuild (triedFor (h.attempts events) t) ((h.run events).phase t)
      ((h.run events).gate.phase t) := by
  have hbegun : Course h.settings.rebuild [] (h.phase t) (h.gate.phase t) :=
    (isNew_iff.mp hnew).2.1 ▸ .absent
  exact hbegun.run rfl events

theorem serve_eq_serving (h : Host W) (t : Ticket) (d : Demand) :
    h.serve t d = h.run (serving t d) := by
  rw [serve_eq, serving]

/-- Nobody comes while somebody is followed to its end. -/
theorem eq_of_arrive_mem_serving {d d' : Demand} (hmem : .arrive u d' ∈ serving t d) :
    u = t ∧ d' = d := by
  simpa [serving, turns, List.mem_flatten, List.mem_replicate] using hmem

/-- Whoever is followed to its end comes alone. -/
theorem comesAlone_serving (t : Ticket) (d : Demand) : ComesAlone t d (serving t d) where
  comes := ⟨_, rfl⟩
  alone _ _ hmem := (eq_of_arrive_mem_serving hmem).1
  stays := by simp [serving, turns, List.mem_flatten, List.mem_replicate]

/-! ### At a quiet host -/

namespace Reachable

/-- What a quiet host believes of the slot is what the trace says. -/
theorem tidy_of_quiet (hreach : h.Reachable) (hquiet : h.Quiet) : h.native.Tidy [] := by
  obtain ⟨settings, moduleConfig, platform, world, earlier, rfl⟩ := hreach
  obtain ⟨as, hk⟩ := keeps_tidy settings moduleConfig platform world earlier
  refine hk.rest fun t ht => ?_
  obtain ⟨w, hw⟩ := Option.isSome_iff_exists.mp ht
  have hpending := (Gate.Phase.isPending_of_work? hw).1
  simp [hquiet.gate t] at hpending

/-- An execution that comes to a quiet host is done in one go. -/
theorem serve_request (hreach : h.Reachable) (hquiet : h.Quiet) (hnew : h.isNew t)
    (hd : h.Requests request d) {w : Work (Native W) Reply} (hw : h.executing request = .work w) :
    (h.serve t d).answer? t = some (w.run h.native).1.toExcept ∧
      (h.serve t d).native = (w.run h.native).2 := by
  have hop : h.operation? d = some (.work w) := hd.operation?_eq.trans (congrArg some hw)
  exact serve_work (hreach.gate_lock_of_quiet hquiet) hnew hop
    ((within_of_operation? hop).mono (by omega))

/-- So it ends as executions end. -/
theorem serve_executing (hreach : h.Reachable) (hquiet : h.Quiet) (hnew : h.isNew t)
    (hd : h.Requests request d) {promise : Native W → Native W → Prop}
    {post : Outcome Reply → Native W → Prop}
    (hmeets : ∃ w, h.executing request = .work w ∧ Native.Meets promise post w h.native) :
    ∃ o, (h.serve t d).answer? t = some o.toExcept ∧ post o (h.serve t d).native := by
  obtain ⟨w, hw, hmeets⟩ := hmeets
  obtain ⟨hanswer, hnative⟩ := hreach.serve_request hquiet hnew hd hw
  exact ⟨_, hanswer, hnative ▸ hmeets.run⟩

/-- The module in the slot answers each of its entries in the world that the one before it left. -/
theorem enteredAll_serve (hreach : h.Reachable) (hquiet : h.Quiet) (hnew : h.isNew t)
    (hd : h.Requests request d) : Native.EnteredAll h.native (h.serve t d).native := by
  obtain ⟨w, hw, hmeets⟩ :=
    h.meets_executing (Native.executions_sized request h.moduleConfig h.native)
  obtain ⟨-, hnative⟩ := hreach.serve_request hquiet hnew hd hw
  rw [hnative]
  exact hmeets.run_trans Native.EnteredAll.refl fun _ _ _ => Native.EnteredAll.trans_enters

/-- **A quiet host that has just loaded a module is usable.** -/
theorem usable (hreach : h.Reachable) (hquiet : h.Quiet) {before : List ScriptHost.Event}
    {handle : Handle}
    (htrace : h.native.trace = before ++ [.load h.settings.module.path (some handle)]) :
    h.Usable handle := by
  obtain ⟨m, hm, rfl⟩ :=
    (hreach.tidy_of_quiet hquiet).exists_loaded ⟨before, [], htrace, by simp⟩
  refine ⟨hquiet, ⟨before, htrace⟩, fun t hnew => ?_, fun t d request hnew hd hsize => ?_⟩
  · have hanswer := (serve_glance (d := .ready) (hreach.gate_lock_of_quiet hquiet) hnew rfl).1
    rw [hanswer, Slot.ready, hm]
    rfl
  · obtain ⟨o, hanswer, result, rfl, made, hprotocol, hentered⟩ :=
      hreach.serve_executing hquiet hnew hd
        (h.meets_executing (Native.executions_protocol h.moduleConfig h.native hsize))
    rw [hm] at hprotocol
    obtain ⟨hmade, hentry, hready⟩ := hprotocol.entered
    obtain ⟨-, made', htrace', hanswers⟩ := hreach.enteredAll_serve hquiet hnew hd
    obtain rfl : made = made' := List.append_cancel_left (hentered.trace.symm.trans htrace')
    refine ⟨made, _, hentered.trace, hmade, hentry, ⟨m, hm, hanswers m hm⟩, hanswer, ?_⟩
    cases result <;> simp_all [Outcome.ofExcept, Outcome.map, Outcome.toExcept]

end Reachable

/-! ### From the beginning -/

/-- Nobody has come yet. -/
def Fresh (h : Host W) : Prop :=
  ∃ settings moduleConfig platform world, h = init settings moduleConfig platform world

namespace Fresh

variable {r : Except Failure Reply}

theorem quiet (hh : h.Fresh) : h.Quiet := by
  obtain ⟨settings, moduleConfig, platform, world, rfl⟩ := hh
  exact ⟨fun _ => rfl, fun _ => rfl⟩

theorem reachable (hh : h.Fresh) (events : List Event) : (h.run events).Reachable := by
  obtain ⟨settings, moduleConfig, platform, world, rfl⟩ := hh
  exact ⟨settings, moduleConfig, platform, world, events, rfl⟩

/-- What is done for a new caller is done from now on. -/
theorem madeBy_append (hh : h.Fresh) (hnew : (h.run events).isNew t) (more : List Event) :
    madeBy (h.actsOf (events ++ more)) t = madeBy ((h.run events).actsOf more) t := by
  obtain ⟨settings, moduleConfig, platform, world, rfl⟩ := hh
  have hbefore := (madeBy_eq_nil_of_absent settings moduleConfig platform world events
    (isNew_iff.mp hnew).1).1
  rw [actsOf_append, ScriptHost.madeBy_append, hbefore, List.nil_append]

/-- The answer to a start tells how its one load went. -/
theorem reloaded_of_start (hh : h.Fresh) (hnew : (h.run events).isNew t) (rest : List Event)
    (hr : (h.run (events ++ .arrive t .start :: rest)).gate.phase t = .answered r) :
    ∃ handle, Native.Reloaded h.settings.module.path
        (madeBy (h.actsOf (events ++ .arrive t .start :: rest)) t) handle ∧
      (handle.isSome → r = .ok .done) := by
  have hop : h.Brings (events ++ .arrive t .start :: rest) t
      (h.loading h.settings.module.path) := .demand rfl hnew rfl
  obtain ⟨settings, moduleConfig, platform, world, rfl⟩ := hh
  obtain ⟨us, vs, n₀, n, outcome, -, hunderway, hdone, rfl⟩ :=
    worked_of_answered settings moduleConfig platform world hr hop
  obtain ⟨_, hw, hmeets⟩ := meets_loading (init settings moduleConfig platform world)
    settings.module.path n₀
  obtain rfl := Operation.work.inj hw
  obtain ⟨⟨made, handle, htrace, hreloaded, hend⟩, hvalue⟩ := hunderway.post hdone hmeets
  obtain rfl := List.append_cancel_left (hunderway.made.symm.trans htrace)
  refine ⟨handle, hreloaded, fun hloaded => ?_⟩
  obtain ⟨reply, hreply⟩ := Option.isSome_iff_exists.mp (hend.mpr hloaded)
  obtain rfl := Outcome.value?_eq_some_iff.mp hreply
  rw [hvalue reply rfl]
  rfl

end Fresh

/-! ### Recovery -/

namespace Smooth

variable {more : List Event} {r : Except Failure Reply}

/-- Whoever comes alone is answered in the end. -/
theorem comes_answer (hsmooth : h.Smooth t d more) (hreach : h.Reachable) :
    (h.run more).Comes fun k => ∃ r, k.answer? t = some r := by
  refine (hreach.run more).comes_answer ?_
  obtain ⟨⟨rest, rfl⟩, -, hstays⟩ := hsmooth.alone
  exact (attends_arrive hsmooth.new d).run fun hmem => hstays (List.mem_cons_of_mem _ hmem)

/-- **A host is usable after a load for a caller that came alone.** -/
theorem usable (hsmooth : (h.run events).Smooth t d more) (hh : h.Fresh)
    (hgate : ((h.run events).run more).gate.phase t = .answered r)
    (hphase : (((h.run events).run more).phase t).isPending = false) {handle : Handle}
    (hmade : Native.Reloaded h.settings.module.path (madeBy (h.actsOf (events ++ more)) t)
      (some handle)) :
    ((h.run events).run more).Usable handle := by
  have hreach := hh.reachable events
  have hcalm := (hreach.calm_run (hsmooth.quiet.calm t) hsmooth.alone.alone).1
  have hquiet := hcalm.quiet (by rw [hgate]; rfl) hphase
  have hsettings : ((h.run events).run more).settings = h.settings :=
    (sameSetup_run _ more).settings.trans (h.sameSetup_run events).settings
  obtain ⟨settings, moduleConfig, platform, world, rfl⟩ := hh
  have hk := keeps_ledger settings moduleConfig platform world (events ++ more)
  have htrace := trace_run settings moduleConfig platform world (events ++ more)
  simp only [run_append] at hk htrace
  obtain ⟨us, vs, hadmitted, -⟩ := hk.ended t r (.inr hgate)
  -- The load was done last.
  have hlast := hreach.admitted_run hsmooth.quiet hsmooth.new hsmooth.alone.alone
    (by simp [hadmitted])
  obtain ⟨old, hmade⟩ := hmade
  rw [hlast, List.flatMap_append, List.flatMap_singleton, hmade, ← List.append_assoc] at htrace
  rw [← hsettings] at htrace
  exact (hreach.run more).usable hquiet htrace

/-- Nothing has failed that was tried. -/
theorem not_broke (hsmooth : h.Smooth t d events) (s : RebuildSettings) (stage : Stage)
    (cause : Failure) : ¬ Broke s (triedFor (h.attempts events) t) stage cause := by
  rintro ⟨done, deed, undone, -, htried⟩
  have hmem : (deed, .error cause) ∈ triedFor (h.attempts events) t := by simp [htried]
  obtain ⟨a, ha, heq⟩ := List.mem_map.mp hmem
  obtain ⟨ha, hat⟩ := List.mem_filter.mp ha
  have hok := hsmooth.tried a ha (by simpa using hat)
  simp [(Prod.mk.inj heq).2] at hok

/-- **A rebuild for which nothing fails ends well.** -/
theorem rebuilt (hsmooth : (h.run events).Smooth t .rebuild more) (hh : h.Fresh)
    (hr : ((h.run events).run more).answer? t = some r) :
    (∃ p, r = .ok (.progress p) ∧ p.outcome = some .success) ∧
      ∃ handle, ((h.run events).run more).Usable handle := by
  obtain ⟨hrebuilds, hunrefused⟩ :
      ((h.run events).run more).Rebuilds t ∧ ((h.run events).run more).refused t = none := by
    obtain ⟨rest, rfl⟩ := hsmooth.alone.comes
    exact rebuilds_run_of_arrival hsmooth.new rest
  obtain ⟨p, rfl, hended⟩ : ∃ p, r = .ok (.progress p) ∧
      ((h.run events).run more).phase t = .ended p := by
    unfold answer? at hr
    split at hr <;> simp_all [Rebuilds, eq_comm]
  have hc := course_of_isNew hsmooth.new more
  have hbroke := hsmooth.not_broke (h.run events).settings.rebuild
  rw [hended] at hc
  generalize hgate : ((h.run events).run more).gate.phase t = g at hc
  generalize triedFor ((h.run events).attempts more) t = tried at hc hbroke
  cases hc with
  | failed hfailed _ => exact absurd hfailed (hbroke _ _)
  | @answered _ r hp =>
      obtain ⟨handle, hmade, hresult⟩ : ∃ handle, Native.Reloaded h.settings.module.path
          (madeBy (h.actsOf (events ++ more)) t) handle ∧
            (r.toOption.isSome ↔ handle.isSome) := by
        obtain ⟨settings, moduleConfig, platform, world, rfl⟩ := id hh
        exact (reloaded_of_answered settings moduleConfig platform world (events ++ more)
          (by rwa [run_append]) (by rwa [run_append])).2
      obtain ⟨new, rfl⟩ := hmade.exists_handle (hh.madeBy_append hsmooth.new more ▸ hsmooth.loaded)
      refine ⟨⟨p, rfl, ?_⟩, new, hsmooth.usable hh hgate (by rw [hended]; rfl) hmade⟩
      cases r with
      | ok reply => exact hp
      | error cause => simp [Except.toOption] at hresult

/-- **A start for which nothing fails ends well.** -/
theorem started (hsmooth : (h.run events).Smooth t .start more) (hh : h.Fresh)
    (hr : ((h.run events).run more).answer? t = some r) :
    r = .ok .done ∧ ∃ handle, ((h.run events).run more).Usable handle := by
  obtain ⟨rest, rfl⟩ := hsmooth.alone.comes
  have hphase : ((h.run events).run (.arrive t .start :: rest)).phase t = .absent :=
    phase_run_of_arrival hsmooth.new (by simp) rest
  have hgate : ((h.run events).run (.arrive t .start :: rest)).gate.phase t = .answered r := by
    rw [answer?_run_of_operation? hsmooth.new rfl] at hr
    exact Gate.phase_of_answer? hr
  obtain ⟨handle, hmade, hdone⟩ := hh.reloaded_of_start hsmooth.new rest
    (by rwa [run_append])
  obtain ⟨new, rfl⟩ := hmade.exists_handle (hh.madeBy_append hsmooth.new _ ▸ hsmooth.loaded)
  exact ⟨hdone rfl, new, hsmooth.usable hh hgate (by rw [hphase]; rfl) hmade⟩

end Smooth

/-! ### Before and after -/

/-- An execution that was admitted after a load that went well enters the module. -/
theorem Fresh.entered (hh : h.Fresh) (hasks : h.Asks events t request)
    (hsize : request.source.utf8ByteSize < UInt32.size) {us vs : List Ticket}
    (hadmitted : (h.run events).gate.admitted = us ++ t :: vs) {path : Path} {handle : Handle}
    (hlast : LastLoaded (us.flatMap (madeBy (h.actsOf events))) path handle)
    {r : Except Failure Reply} (hr : (h.run events).answer? t = some r) :
    r ≠ .error .notReady ∧ madeBy (h.actsOf events) t ≠ [] ∧
      (∀ e ∈ madeBy (h.actsOf events) t, e.entry? = some handle) ∧
      ∀ a ∈ h.actsOf events, a.ticket = t → Native.enters a.before a.after := by
  have hgate := hasks.answered hr
  obtain ⟨settings, moduleConfig, platform, world, rfl⟩ := hh
  obtain ⟨n₀, result, htidy, hpast, hprotocol, rfl⟩ :=
    execution_of_admitted settings moduleConfig platform world
      (fun n => Native.executions_protocol moduleConfig n hsize) hasks hgate hadmitted
  obtain ⟨m, hm, rfl⟩ := htidy.exists_loaded (hpast ▸ hlast)
  rw [hm] at hprotocol
  obtain ⟨hmade, hentry, hready⟩ := hprotocol.entered
  refine ⟨?_, hmade, hentry, enters_of_asks settings moduleConfig platform world hasks⟩
  cases result <;> simp_all [Except.map]

/-- An execution that was admitted after a load that failed makes no entry. -/
theorem Fresh.refused (hh : h.Fresh) (hasks : h.Asks events t request) {us vs : List Ticket}
    (hadmitted : (h.run events).gate.admitted = us ++ t :: vs)
    (hfailed : LoadFailed (us.flatMap (madeBy (h.actsOf events)))) :
    madeBy (h.actsOf events) t = [] ∧
      ∀ r, (h.run events).answer? t = some r → r = .error .notReady := by
  obtain ⟨settings, moduleConfig, platform, world, rfl⟩ := hh
  obtain ⟨n₀, n, hunderway⟩ :=
    underway_of_admitted settings moduleConfig platform world hadmitted hasks.brings
  have hnone := hunderway.tidy.loaded_eq_none (hunderway.past ▸ hfailed)
  obtain ⟨_, hw, hmeets⟩ := meets_executing_of_none _ hnone request
  obtain rfl := Operation.work.inj hw
  refine ⟨madeBy_eq_nil_of_same (hunderway.kept hmeets).1, fun r hr => ?_⟩
  obtain ⟨_, _, _, _, outcome, -, -, hdone, rfl⟩ :=
    worked_of_answered settings moduleConfig platform world (hasks.answered hr) hasks.brings
  rw [(hunderway.post hdone hmeets).1]
  rfl

/-- Whoever comes to a quiet host after a load that failed makes no entry. -/
theorem Reachable.barred (hreach : h.Reachable) (hquiet : h.Quiet)
    (hfailed : LoadFailed h.native.trace) (hnew : h.isNew t) (hd : h.Requests request d) :
    (h.serve t d).answer? t = some (.error .notReady) ∧
      (h.serve t d).native.trace = h.native.trace := by
  have hnone := (hreach.tidy_of_quiet hquiet).loaded_eq_none hfailed
  obtain ⟨_, hanswer, rfl, htrace⟩ :=
    hreach.serve_executing hquiet hnew hd (h.meets_executing_of_none hnone request)
  exact ⟨hanswer, htrace⟩

/-- A rebuild for which nothing fails, followed to its end, makes the host usable. -/
theorem Recovers.rebuilt_serve (hk : h.Recovers events) (hreach : (h.run events).Reachable)
    (hsmooth : (h.run events).Smooth t .rebuild (serving t .rebuild)) :
    ∃ p handle, ((h.run events).serve t .rebuild).answer? t = some (.ok (.progress p)) ∧
      p.outcome = some .success ∧ ((h.run events).serve t .rebuild).Usable handle := by
  obtain ⟨r, hr⟩ := hreach.exists_answer_of_quiet hsmooth.quiet hsmooth.new .rebuild
  rw [serve_eq_serving] at hr ⊢
  obtain ⟨⟨p, rfl, hp⟩, handle, husable⟩ := (hk.rebuilt t _ hsmooth).2 r hr
  exact ⟨p, handle, hr, hp, husable⟩

/-- **No history leaves a host unusable**, in every run of every host. -/
theorem run_recovers (settings : Settings) (moduleConfig : Option Bytes) (platform : Platform W)
    (world : W) (events : List Event) :
    (init settings moduleConfig platform world).Recovers events := by
  have hh : (init settings moduleConfig platform world).Fresh := ⟨_, _, _, _, rfl⟩
  have hreach := hh.reachable events
  exact {
    settles := hreach.comes_quiet
    answered := fun t ht => hreach.comes_answer ht
    rebuilt := fun t more hsmooth =>
      ⟨hsmooth.comes_answer hreach, fun r hr => hsmooth.rebuilt hh hr⟩
    started := fun t more hsmooth =>
      ⟨hsmooth.comes_answer hreach, fun r hr => hsmooth.started hh hr⟩
    whole := trace_run settings moduleConfig platform world events
    entered := fun t request us vs path handle hasks hsize hadmitted hlast r hr =>
      hh.entered hasks hsize hadmitted hlast hr
    refused := fun t request us vs hasks hadmitted hfailed => hh.refused hasks hadmitted hfailed
    barred := fun hquiet hfailed t d request hnew hd => hreach.barred hquiet hfailed hnew hd }

/-- The loader panics at the first start. From then on executions are told that no module is there,
and after a rebuild the host is usable. -/
theorem run_recovers_after_panic :
    let entry : EntryPoints Nat := {
      create := fun _ n => (([], some 0), n)
      destroy := fun _ n => ([], n)
      loadConfig := fun _ _ _ n => (([], 0), n)
      call := fun _ _ n => (([], 0), n)
      status := fun _ n => (([], 0), n) }
    let platform : Platform Nat := {
      load := fun _ n => (if n = 0 then .panicked else .ok entry, n + 1)
      run := fun _ _ n => (.ok (), n)
      remove := fun _ n => (.ok (), n) }
    let h := init {} none platform 0
    let events : List Event := [.arrive 0 .start, .work, .work, .work, .poll 0]
    let request : Request := ⟨.script, "", 0, 0, by decide⟩
    ((h.run events).serve 1 (.executeRequest request)).answer? 1 = some (.error .notReady) ∧
      ∃ handle, ((h.run events).serve 2 .rebuild).Usable handle := by
  intro entry platform h events request
  have hh : h.Fresh := ⟨_, _, _, _, rfl⟩
  have hrecovers := run_recovers {} none platform 0 events
  have hcalm : (h.run events).Calm 0 :=
    ((hh.reachable []).calm_run (hh.quiet.calm 0) (by simp [events])).1
  have hquiet : (h.run events).Quiet := hcalm.quiet (by decide) (by decide)
  have htrace : (h.run events).native.trace = [.load h.settings.module.path none] := by
    decide +kernel
  have hfailed : LoadFailed (h.run events).native.trace := ⟨[], _, [], htrace, by simp⟩
  have htried : ∀ a ∈ (h.run events).attempts (serving 2 .rebuild),
      a.ticket = 2 → a.result = .ok () := by decide +kernel
  have hloaded : ∀ e ∈ madeBy ((h.run events).actsOf (serving 2 .rebuild)) 2,
      e.failsToLoad = false := by decide +kernel
  have hsmooth : (h.run events).Smooth 2 .rebuild (serving 2 .rebuild) :=
    ⟨hquiet, by decide, comesAlone_serving 2 .rebuild, htried, hloaded⟩
  have hbarred := hrecovers.barred hquiet hfailed 1 _ request (by decide) .given
  obtain ⟨p, handle, -, -, husable⟩ := hrecovers.rebuilt_serve (hh.reachable events) hsmooth
  exact ⟨hbarred.1, handle, husable⟩

end Host

end ScriptHost
