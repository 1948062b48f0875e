import ScriptHost.Proofs.Host.Errands
import ScriptHost.Proofs.Host.Quiet

/-!
# Served with nobody else about

What comes of a demand that is followed to its end at a host with a free gate: work is done in one
go, and its caller is answered how it ended (`Host.serve_work`); a glance is answered at once
(`Host.serve_glance`). So every demand is answered at a quiet host
(`Host.Reachable.exists_answer_of_quiet`), whatever loaders, modules and commands do.

## Main definitions

* `Host.AtWork` — a caller is alone at the gate, and this much of its work is left.
-/

namespace ScriptHost

namespace Work

variable {σ α β : Type}

/-- Work that is done within some acts is done within more of them. -/
theorem Within.mono {m n : Nat} {w : Work σ α} (hw : w.Within m) (h : m ≤ n) : w.Within n := by
  induction w generalizing m n with
  | done outcome => cases n <;> trivial
  | act change rest ih =>
      cases m with
      | zero => exact hw.elim
      | succ m =>
          cases n with
          | zero => omega
          | succ n => exact fun s => ih s (hw s) (by omega)

/-- The acts of one work after those of another. -/
theorem Within.bind {m n : Nat} {w : Work σ α} {k : α → Work σ β} (hw : w.Within m)
    (hk : ∀ a, (k a).Within n) : (w >>= k).Within (m + n) := by
  induction w generalizing m with
  | done outcome =>
      cases outcome with
      | ok a => exact (hk a).mono (by omega)
      | failed e => cases h : m + n <;> trivial
      | panicked => cases h : m + n <;> trivial
  | act change rest ih =>
      cases m with
      | zero => exact hw.elim
      | succ m =>
          rw [Nat.add_right_comm]
          exact fun s => ih s (hw s)

/-- A failure takes no act. -/
theorem within_fail (e : Failure) (n : Nat) : (fail e : Work σ α).Within n := by
  cases n <;> trivial

/-- A question is one act more. -/
theorem within_ask_bind {n : Nat} {f : σ → α × σ} {k : α → Work σ β} (hk : ∀ a, (k a).Within n) :
    (ask f >>= k).Within (n + 1) :=
  fun _ => hk _

end Work

namespace Native

variable {W : Type}

/-- A source is run within two acts. -/
theorem within_runningSource (m : LoadedModule W) (i : Instance) (request : Request) :
    (runningSource m i request).Within 2 :=
  fun _ _ => trivial

/-- An instance is used within three. -/
theorem within_usingInstance (m : LoadedModule W) (i : Instance) (request : Request)
    (config : Option Bytes) : (usingInstance m i request config).Within 3 := by
  cases config with
  | none => exact (within_runningSource m i request).mono (by omega)
  | some config =>
      refine Work.within_ask_bind fun configured => ?_
      split
      · exact (within_runningSource m i request).bind_return _
      · trivial

/-- An execution takes six acts at most. -/
theorem within_invoking (request : Request) (config : Option Bytes) :
    (invoking (W := W) request config).Within 6 := by
  refine Work.within_ask_bind (f := fun n : Native W => (n.slot.loaded, n)) fun loaded => ?_
  cases loaded with
  | none => exact Work.within_fail _ _
  | some m =>
      dsimp only
      split
      · exact Work.within_fail _ _
      · refine Work.within_ask_bind fun created => ?_
        rcases created with ⟨records, - | i⟩
        · exact Work.within_fail _ _
        · change Work.Within (3 + 1) (usingInstance m i request config >>= _)
          refine (within_usingInstance m i request config).bind fun used => ?_
          exact Work.within_ask_bind (n := 0) fun _ => trivial

/-- What is asked of the slot takes three acts at most. -/
theorem within_work (loader : Loader W) (x : Exchange) : (x.work loader).Within 3 := by
  cases x with
  | load path => exact fun _ _ => trivial
  | unload => exact fun _ => trivial
  | reload path => exact fun _ _ _ => trivial

end Native

namespace Host

variable {W : Type} {h : Host W} {t : Ticket} {d : Demand} {w : Work (Native W) Reply}
  {r : Except Failure Reply}

/-- A caller is alone at the gate, and the worker has this work for it. -/
structure AtWork (h : Host W) (t : Ticket) (w : Work (Native W) Reply) : Prop where
  phase : h.phase t = .absent
  lock : h.gate.lock = ⟨some t, []⟩
  gate : h.gate.phase t = .running w

/-! ### Rounds -/

/-- Polling a caller that has its answer changes nothing. -/
theorem poll_of_answered (hphase : h.phase t = .absent) (hgate : h.gate.phase t = .answered r) :
    h.poll t = h := by
  simp only [poll, hphase, Gate.poll, hgate]

/-- Whoever has no rebuild and does not look at the gate for anything, with nobody there, takes
turns in vain. -/
theorem run_turns_of_poll_eq (hphase : h.phase t = .absent) (hlock : h.gate.lock = .free)
    (hpoll : h.poll t = h) (rounds : Nat) :
    h.run (List.replicate rounds (turns t)).flatten = h := by
  have hround : h.run (turns t) = h := by
    have hadvance : h.advance t = h := by simp only [advance, hphase]
    have hwork : h.work = h := by
      simp only [work, Gate.work, Gate.busy?, hlock, Lock.free, Option.bind_none]
    change ((h.poll t).advance t).work = h
    rw [hpoll, hadvance, hwork]
  induction rounds with
  | zero => rfl
  | succ rounds ih => rw [List.replicate_succ, List.flatten_cons, run_append, hround, ih]

/-- So does whoever has an answer. -/
theorem run_turns_of_answered (hphase : h.phase t = .absent) (hlock : h.gate.lock = .free)
    (hgate : h.gate.phase t = .answered r) (rounds : Nat) :
    h.run (List.replicate rounds (turns t)).flatten = h :=
  run_turns_of_poll_eq hphase hlock (poll_of_answered hphase hgate) rounds

namespace AtWork

/-- A round is an act of the worker. -/
theorem run_turns (hw : h.AtWork t w) : h.run (turns t) = h.work := by
  have hpoll : h.poll t = h := by simp only [poll, hw.phase, Gate.poll, hw.gate]
  have hadvance : h.advance t = h := by simp only [advance, hw.phase]
  change ((h.poll t).advance t).work = h.work
  rw [hpoll, hadvance]

/-- The gate is held by the caller that is at work. -/
theorem busy? (hw : h.AtWork t w) : h.gate.busy? = some (t, w) :=
  Gate.busy?_eq_some_iff.mpr ⟨by rw [hw.lock], by rw [hw.gate]; rfl⟩

/-- One act brings the caller to what is left of its work. -/
theorem act {change : Native W → Native W} {rest : Native W → Work (Native W) Reply}
    (hw : h.AtWork t (.act change rest)) :
    h.work.AtWork t (rest h.native) ∧ h.work.native = change h.native := by
  have hgate : h.gate.work
      = { h.gate.setPhase t (.running (rest h.gate.state)) with state := change h.gate.state } := by
    simp only [Gate.work, hw.busy?, hw.gate, Gate.Phase.proceed]
  refine ⟨⟨hw.phase, ?_, ?_⟩, ?_⟩
  · rw [work, hgate]
    exact hw.lock
  · rw [work, hgate]
    exact Gate.phase_setPhase_self ..
  · rw [native, work, hgate]
    rfl

/-- After the last act the gate is free, and the caller finds its answer. -/
theorem done {outcome : Outcome Reply} (hw : h.AtWork t (.done outcome)) (rounds : Nat) :
    let k := h.run (List.replicate (rounds + 2) (turns t)).flatten
    k.gate.phase t = .answered outcome.toExcept ∧ k.native = h.native := by
  have hgate : h.gate.work
      = { h.gate.setPhase t (.finished outcome.toExcept) with lock := .free } := by
    simp only [Gate.work, hw.busy?, hw.gate, hw.lock, Gate.Phase.complete, Lock.release, Lock.free]
  have hfinished : h.gate.work.phase t = .finished outcome.toExcept := by
    rw [hgate]
    exact Gate.phase_setPhase_self ..
  have hpolled : h.gate.work.poll t = h.gate.work.setPhase t (.answered outcome.toExcept) := by
    simp only [Gate.poll, hfinished]
  have hpoll : h.work.poll t = { h with gate := h.gate.work.poll t } := by
    have hphase : h.work.phase t = .absent := hw.phase
    simp only [poll, hphase]
    rfl
  have hlock : (h.work.poll t).gate.lock = .free := by
    rw [hpoll, hpolled, hgate]
    rfl
  have hphase : (h.work.poll t).phase t = .absent := by
    rw [hpoll]
    exact hw.phase
  have hanswered : (h.work.poll t).gate.phase t = .answered outcome.toExcept := by
    rw [hpoll, hpolled]
    exact Gate.phase_setPhase_self ..
  -- The first round ends the work, and the second one brings the answer.
  have hround : h.work.run (turns t) = (h.work.poll t).run (turns t) := by
    have hagain := poll_of_answered hphase hanswered
    change ((h.work.poll t).advance t).work = (((h.work.poll t).poll t).advance t).work
    rw [hagain]
  intro k
  have hk : k = h.work.poll t := by
    have hrounds := run_turns_of_answered hphase hlock hanswered (rounds + 1)
    rw [List.replicate_succ, List.flatten_cons, run_append] at hrounds
    change h.run (List.replicate (rounds + 2) (turns t)).flatten = _
    rw [List.replicate_succ, List.replicate_succ, List.flatten_cons, List.flatten_cons, run_append,
      run_append, hw.run_turns, hround, hrounds]
  rw [hk]
  refine ⟨hanswered, ?_⟩
  rw [native, hpoll, hpolled, hgate]
  rfl

/-- **Work is done in one go** while its caller and the worker take turns. -/
theorem run {n : Nat} (hw : h.AtWork t w) (hwithin : w.Within n) (rounds : Nat) :
    let k := h.run (List.replicate (rounds + n + 2) (turns t)).flatten
    k.gate.phase t = .answered (w.run h.native).1.toExcept ∧ k.native = (w.run h.native).2 := by
  induction w generalizing h n with
  | done outcome => exact hw.done (rounds + n)
  | act change rest ih =>
      cases n with
      | zero => exact hwithin.elim
      | succ n =>
          obtain ⟨hnext, hnative⟩ := hw.act
          intro k
          have hk : k = h.work.run (List.replicate (rounds + n + 2) (turns t)).flatten := by
            change h.run (List.replicate (rounds + n + 2 + 1) (turns t)).flatten = _
            rw [List.replicate_succ, List.flatten_cons, run_append, hw.run_turns]
          rw [hk, Work.run, ← hnative]
          exact ih _ hnext (hwithin _)

/-- **Work that is short enough is settled in the turns that are taken**, and its answer is what it
gives in one go. -/
theorem settle (hw : h.AtWork t w) (hwithin : w.Within 22) :
    (h.settle t).gate.phase t = .answered (w.run h.native).1.toExcept ∧
      (h.settle t).native = (w.run h.native).2 := by
  rw [Host.settle]
  exact hw.run hwithin 0

end AtWork

/-! ### One demand -/

/-- Serving a demand is a run of events. -/
theorem serve_eq (h : Host W) (t : Ticket) (d : Demand) :
    h.serve t d = h.run (.arrive t d :: (List.replicate maxTurns (turns t)).flatten) := by
  simp only [serve, settle, run, List.foldl_cons, step]

/-- Whoever was submitted to the gate is answered there. -/
theorem answer?_serve {op : Operation (Native W) Reply} (hnew : h.isNew t)
    (hop : h.operation? d = some op) (hr : (h.serve t d).gate.phase t = .answered r) :
    (h.serve t d).answer? t = some r := by
  rw [serve_eq] at hr ⊢
  rw [answer?_run_of_operation? hnew hop, Gate.answer?, hr]

/-- **Work is served in one go**, and its caller is answered how it ended. -/
theorem serve_work (hlock : h.gate.lock = .free) (hnew : h.isNew t)
    (hop : h.operation? d = some (.work w)) (hwithin : w.Within 22) :
    (h.serve t d).answer? t = some (w.run h.native).1.toExcept ∧
      (h.serve t d).native = (w.run h.native).2 := by
  obtain ⟨hgate, -⟩ := arrive_of_operation? hnew hop
  have habsent := (isNew_iff.mp hnew).1
  have hentered : h.gate.arrive t (.work w)
      = ({ h.gate with lock := ⟨some t, []⟩, admitted := h.gate.admitted ++ [t] } :
          Gate _ _).setPhase t (.running w) := by
    simp [Gate.arrive, habsent, hlock, Lock.request, Lock.free, Lock.isHeldBy, Gate.enter]
  have hatWork : (h.arrive t d).AtWork t w := by
    refine ⟨phase_run_of_arrival hnew (ne_rebuild_of_operation? hop) [], ?_, ?_⟩
    · rw [hgate, hentered]
      rfl
    · rw [hgate, hentered]
      exact Gate.phase_setPhase_self ..
  have hnative : (h.arrive t d).native = h.native := by
    rw [native, hgate, hentered]
    rfl
  obtain ⟨hanswered, hstate⟩ := hatWork.settle hwithin
  rw [hnative] at hanswered hstate
  exact ⟨answer?_serve hnew hop hanswered, hstate⟩

/-- **A glance is answered at once**, and changes nothing. -/
theorem serve_glance (hlock : h.gate.lock = .free) (hnew : h.isNew t) {f : Native W → Reply}
    (hop : h.operation? d = some (.glance f)) :
    (h.serve t d).answer? t = some (.ok (f h.native)) ∧ (h.serve t d).native = h.native := by
  obtain ⟨hgate, -⟩ := arrive_of_operation? hnew hop
  have habsent := (isNew_iff.mp hnew).1
  have hglanced : h.gate.arrive t (.glance f)
      = { ({ h.gate with admitted := h.gate.admitted ++ [t] } : Gate _ _).setPhase t
            (.answered (.ok (f h.native))) with lock := .free } := by
    simp [Gate.arrive, habsent, hlock, Lock.request, Lock.free, Lock.isHeldBy, Gate.enter,
      Lock.release, native]
    rfl
  have hanswered : (h.arrive t d).gate.phase t = .answered (.ok (f h.native)) := by
    rw [hgate, hglanced]
    exact Gate.phase_setPhase_self ..
  have hserve : h.serve t d = h.arrive t d := by
    have hphase := phase_run_of_arrival hnew (ne_rebuild_of_operation? hop) []
    have hfree : (h.arrive t d).gate.lock = .free := by rw [hgate, hglanced]
    rw [serve, settle]
    exact run_turns_of_answered hphase hfree hanswered maxTurns
  refine ⟨answer?_serve hnew hop (hserve ▸ hanswered), ?_⟩
  rw [hserve, native, hgate, hglanced]
  rfl

/-- **Whoever is refused on its arrival** is told so, and nothing is done. -/
theorem serve_refused (hlock : h.gate.lock = .free) (hnew : h.isNew t) {language : Option String}
    {source : String} {timeout : Option Duration} {cause : Failure}
    (hr : h.requestFor language source timeout = .error cause) :
    (h.serve t (.execute language source timeout)).answer? t = some (.error cause) ∧
      (h.serve t (.execute language source timeout)).native = h.native := by
  obtain ⟨hgate, hphase, -⟩ := isNew_iff.mp hnew
  have harrive : h.arrive t (.execute language source timeout)
      = { h with refused := fun u => if u = t then some cause else h.refused u } := by
    simp only [arrive, hnew, if_true, accept, hr]
  constructor
  · rw [serve_eq]
    exact answer?_run_of_refused hnew hr _
  · have hturns : ∀ k : Host W, k.phase t = .absent → k.gate = h.gate →
        (k.settle t).native = h.native := by
      intro k hkphase hkgate
      have hpolled : k.gate.poll t = k.gate := by
        rw [hkgate]
        simp only [Gate.poll, hgate]
      have hpoll : k.poll t = k := by simp only [poll, hkphase, hpolled]
      rw [settle, run_turns_of_poll_eq hkphase (hkgate ▸ hlock) hpoll, native, hkgate]
      rfl
    rw [serve, harrive]
    exact hturns _ hphase rfl

/-! ### All demands -/

/-- An execution takes six acts at most. -/
theorem within_executing (h : Host W) (request : Request) :
    ∃ w, h.executing request = .work w ∧ w.Within 6 :=
  ⟨_, rfl, (Native.within_invoking request h.moduleConfig).bind_return _⟩

/-- Work that is passed on takes the acts that it takes. -/
theorem within_passing {n : Nat} {w : Work (Native W) Unit} (hw : w.Within n) :
    ∃ v, passing w = .work v ∧ v.Within n :=
  ⟨_, rfl, hw.bind_return _⟩

/-- No operation takes more acts than there are turns. -/
theorem within_of_operation? (hop : h.operation? d = some (.work w)) : w.Within 6 := by
  have hwithin : ∀ {op : Operation (Native W) Reply}, op = .work w →
      (∃ v, op = .work v ∧ v.Within 6) → w.Within 6 := by
    rintro _ rfl ⟨v, hv, hwithin⟩
    exact Operation.work.inj hv ▸ hwithin
  obtain ⟨request, -, heq⟩ | heq | ⟨x, heq⟩ | ⟨outcome, heq⟩ := operation?_cases hop
  · exact hwithin heq.symm (h.within_executing request)
  · cases heq
  · exact hwithin heq.symm
      (within_passing ((Native.within_work h.platform.load x).mono (by omega)))
  · exact hwithin heq.symm (within_passing fun _ => trivial)

/-- **Every demand is answered** that is followed to its end at a quiet host, whatever the platform
answers. -/
theorem Reachable.exists_answer_of_quiet (hreach : h.Reachable) (hquiet : h.Quiet)
    (hnew : h.isNew t) (d : Demand) : ∃ r, (h.serve t d).answer? t = some r := by
  have hlock := hreach.gate_lock_of_quiet hquiet
  cases hop : h.operation? d with
  | some op =>
      cases op with
      | work w =>
          exact ⟨_, (serve_work hlock hnew hop ((within_of_operation? hop).mono (by omega))).1⟩
      | glance f => exact ⟨_, (serve_glance hlock hnew hop).1⟩
  | none =>
      cases d with
      | rebuild =>
          obtain ⟨p, -, hanswer⟩ := exists_answer_serve (hreach.isFree_of_quiet hquiet)
            (congrArg Lock.holder (hreach.rebuilding_of_quiet hquiet)) hnew
          exact ⟨_, hanswer⟩
      | execute language source timeout =>
          cases hr : h.requestFor language source timeout with
          | ok request => simp [operation?, hr] at hop
          | error cause =>
              rw [serve_eq]
              exact ⟨_, answer?_run_of_refused hnew hr _⟩
      | start | load _ | unload | reload _ | executeRequest _ | ready | visit _ =>
          simp [operation?] at hop

end Host

end ScriptHost
