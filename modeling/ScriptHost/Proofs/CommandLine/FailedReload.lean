import ScriptHost.Proofs.CommandLine.Orders
import ScriptHost.Proofs.Host.FailedReload
import ScriptHost.Proofs.Host.Recovery

/-!
# What a failed reload tells

Whatever the reason was for which the new module of a rebuild could not be loaded, nobody learns of
it: neither the callers of the host, among them the one that came for the rebuild, nor whoever reads
what the command line prints (`CommandLine.failed_reload_alike`). The two runs that are compared may
differ in all that the loader does, except that it brings no module.

## Main definitions

* `CommandLine.Discreet` — what does not depend on why a reload failed.
-/

namespace ScriptHost

variable {W : Type}

namespace Host

variable {settings : Settings} {files : FileTree} {cwd : Location}

/-- The loader makes no difference to how a host is set up. -/
theorem create_withLoader (settings : Settings) (files : FileTree) (cwd : Location)
    (platform : Platform W) (l : Loader W) (world : W) :
    create settings files cwd (platform.withLoader l) world
      = (create settings files cwd platform world).map (·.withLoader l) := by
  unfold create
  cases settings.check with
  | error e => rfl
  | ok _ => cases settings.readModuleConfig files cwd <;> rfl

theorem openOn_withLoader (part : Part W Site) (platform : Platform W) (l : Loader W)
    (settings : Settings) (world : W) :
    openOn part (platform.withLoader l) settings world
      = ((openOn part platform settings world).1.map (·.withLoader l),
        (openOn part platform settings world).2) :=
  Prod.ext (create_withLoader ..) rfl

/-- A rebuild at a host that has nothing done yet is the only one to have a module loaded. -/
theorem onlyReload_serving (settings : Settings) (moduleConfig : Option Bytes)
    (platform : Platform W) (world : W) (t : Ticket) :
    (init settings moduleConfig platform world).OnlyReload (serving t .rebuild) t where
  absent := rfl
  waiting _ _ hq := nomatch hq
  still _ _ := rfl
  only u d hmem := by
    obtain ⟨rfl, rfl⟩ := eq_of_arrive_mem_serving hmem
    simp
  loads := by
    rintro u ⟨before, d, after, heq, -, hd⟩
    have hmem : .arrive u d ∈ serving t .rebuild := by simp [heq]
    obtain ⟨-, rfl⟩ := eq_of_arrive_mem_serving hmem
    simp [Demand.loads] at hd

end Host

namespace CommandLine

/-- What is printed of a rebuild is what its caller sees. -/
theorem runRebuild_eq_of_sameSeen {h k : Host W}
    (hs : Host.SameSeen 0 (h.serve 0 .rebuild) (k.serve 0 .rebuild)) :
    (runRebuild h).1 = (runRebuild k).1 := by
  simp only [runRebuild, hs.answers 0, hs.shown]

/-- **What does not depend on why a reload failed.** -/
structure Discreet (W : Type) : Prop where
  /-- Two runs of a host in which the loader brings no module to a rebuild, from the same point on
  and with the same events, are seen as the same by all callers as long as no other load is
  admitted. -/
  runs : ∀ (h : Host W) (l l' : Loader W) (events : List Host.Event) (t : Ticket),
    h.Reachable → (h.withLoader l).OnlyReload events t →
    (h.withLoader l).FailsToLoad events t → (h.withLoader l').FailsToLoad events t →
    Host.SameSeen t ((h.withLoader l).run events) ((h.withLoader l').run events)
  /-- Of a rebuild that came as far as the reload, its caller is told that this is what failed. -/
  told : ∀ (h : Host W) (l : Loader W) (events : List Host.Event) (t : Ticket) (p : Progress),
    h.Reachable → (h.withLoader l).OnlyReload events t → (h.withLoader l).FailsToLoad events t →
    ((h.withLoader l).run events).gate.phase t ≠ .absent →
    ((h.withLoader l).run events).answer? t = some (.ok (.progress p)) →
    p.outcome = some (.failed .reload reloadReason)
  /-- Two command lines for a rebuild print the same when the loader of neither brings a module, and
  have the same exit status. -/
  prints : ∀ (part : Part W Site) (platform : String → Platform W) (l l' : String → Loader W)
    (arguments : List String) (order : Order) (input : Bytes) (w : W),
    Order.ofArguments arguments = .ok order → order.task = .rebuild →
    (∀ settings h, Opens part (fun s => (platform s).withLoader (l s)) order w settings h →
      h.FailsToLoad (Host.serving 0 .rebuild) 0) →
    (∀ settings h, Opens part (fun s => (platform s).withLoader (l' s)) order w settings h →
      h.FailsToLoad (Host.serving 0 .rebuild) 0) →
    (run part (fun s => (platform s).withLoader (l s)) arguments input w).1
      = (run part (fun s => (platform s).withLoader (l' s)) arguments input w).1

/-- **Nobody learns why a reload failed.** -/
theorem failed_reload_alike : Discreet W where
  runs _ _ _ _ _ hreach ho hf hf' := Host.sameSeen_run hreach ho hf hf'
  told _ _ _ _ _ hreach ho hf hcame hanswer :=
    Host.outcome_of_failsToLoad hreach ho hf hcame hanswer
  prints := by
    intro part platform l l' arguments order input w harguments htask hf hf'
    cases hloaded : settingsFor order (part.get w) with
    | error e => simp only [run_of_order harguments, perform, hloaded]
    | ok settings =>
        cases hlogged : checkLogging order settings (part.get w).environment with
        | error printed => simp only [run_of_order harguments, perform, hloaded, hlogged]
        | ok _ =>
            have hopen := Host.openOn_withLoader part (platform settings.module.symbolPrefix)
            cases hopened :
                (Host.openOn part (platform settings.module.symbolPrefix) settings w).1 with
            | error e =>
                simp only [run_of_order harguments, perform, hloaded, hlogged, hopen, hopened,
                  Except.map]
            | ok h =>
                have hopens : ∀ l : String → Loader W,
                    Opens part (fun s => (platform s).withLoader (l s)) order w settings
                      (h.withLoader (l settings.module.symbolPrefix)) :=
                  fun l => ⟨hloaded, hlogged, by rw [hopen, hopened]; rfl⟩
                rw [run_of_opens harguments (hopens l), run_of_opens harguments (hopens l'), htask]
                refine runRebuild_eq_of_sameSeen ?_
                obtain ⟨-, moduleConfig, rfl⟩ := Host.openOn_eq_ok hopened
                rw [Host.serve_eq_serving, Host.serve_eq_serving]
                exact Host.sameSeen_run ⟨_, _, _, _, [], rfl⟩ (Host.onlyReload_serving ..)
                  (hf settings _ (hopens l)) (hf' settings _ (hopens l'))

/-- A rebuild between two executions. One loader names a symbol that is missing, and another panics
after it has left something behind outside: nobody can tell, and the second execution finds no
module. Nor can anybody tell who rebuilds from the command line. -/
theorem failed_reload_alike_of_panic :
    let entry : EntryPoints (Site × Nat) := {
      create := fun _ w => (([], some 0), w)
      destroy := fun _ w => ([], w)
      loadConfig := fun _ _ _ w => (([], 0), w)
      call := fun _ _ w => (([], .ofNat w.2), (w.1, w.2 + 1))
      status := fun _ w => (([], 0), w) }
    let platform : Platform (Site × Nat) :=
      ⟨fun _ w => (.ok entry, w), fun _ _ w => (.ok (), (w.1, w.2 + 1)), fun _ w => (.ok (), w)⟩
    let l : Loader (Site × Nat) :=
      fun path w => (.failed (.missingSymbol path "call" "undefined symbol"), w)
    let l' : Loader (Site × Nat) := fun _ w => (.panicked, (w.1, w.2 + 100))
    let world : Site × Nat := (⟨.ofList [], [], [], .bare, .empty⟩, 0)
    let h := (Host.init {} none platform world).run [.arrive 0 .start, .work, .work, .work]
    let request : Request := ⟨.script, "", 0, 0, by decide⟩
    let events : List Host.Event := .arrive 2 (.executeRequest request) ::
      (Host.serving 1 .rebuild ++
        [.poll 2, .arrive 3 (.executeRequest request), .work, .work, .poll 3])
    let k := (h.withLoader l).run events
    let k' := (h.withLoader l').run events
    let printed := fun l => (run ⟨Prod.fst, fun s w => (s, w.2)⟩ (fun _ => platform.withLoader l)
      ["-v", "rebuild"] [] world).1
    Host.SameSeen 1 k k' ∧ k.native.world.2 = 9 ∧ k'.native.world.2 = 109 ∧
      (k.answer? 1).isSome ∧ (k.answer? 2).map Except.isOk = some true ∧
      k.answer? 3 = some (.error .notReady) ∧ printed l = printed l' ∧ (printed l).exit = 1 := by
  intro entry platform l l' world h request events k k' printed
  have hl : ∀ path w entry, (l path w).1 ≠ .ok entry := nofun
  have hl' : ∀ path w entry, (l' path w).1 ≠ .ok entry := nofun
  have hcomes : ∀ u d, .arrive u d ∈ events → u = 1 ∧ d = .rebuild ∨
      u ≠ 1 ∧ d = .executeRequest request := by
    intro u d hd
    obtain ⟨rfl, rfl⟩ | hserved | ⟨rfl, rfl⟩ : u = 2 ∧ d = .executeRequest request ∨
        .arrive u d ∈ Host.serving 1 .rebuild ∨ u = 3 ∧ d = .executeRequest request := by
      simpa [events] using hd
    · exact .inr ⟨by decide, rfl⟩
    · exact .inl (Host.eq_of_arrive_mem_serving hserved)
    · exact .inr ⟨by decide, rfl⟩
  have hreach : h.Reachable := ⟨_, _, _, _, _, rfl⟩
  have hfree : h.gate.isFree := by decide
  have honly : ∀ l, (h.withLoader l).OnlyReload events 1 := by
    refine fun l => ⟨rfl, fun u op hq => ?_, fun _ _ => rfl, fun u d hd => ?_, ?_⟩
    · have hpending : (h.gate.phase u).isPending := by
        rw [show h.gate.phase u = .queued op from hq]
        rfl
      exact absurd hpending (hreach.orderly.not_isPending_of_isFree hfree u)
    · obtain ⟨rfl, rfl⟩ | ⟨hu, rfl⟩ := hcomes u d hd
      · simp
      · simp [hu]
    · rintro u ⟨before, d, after, heq, -, hloads⟩
      obtain ⟨-, rfl⟩ | ⟨-, rfl⟩ := hcomes u d (by simp [heq]) <;> simp [Demand.loads] at hloads
  have hfails : ∀ l : Loader (Site × Nat), (∀ path w entry, (l path w).1 ≠ .ok entry) →
      ∀ part order settings h, Opens part (fun _ => platform.withLoader l) order world settings h →
        h.FailsToLoad (Host.serving 0 .rebuild) 0 := by
    intro l hl part order settings h hopens
    obtain ⟨moduleConfig, w, rfl⟩ := hopens.exists_eq_init
    exact Host.failsToLoad_of_loader (h := .init settings moduleConfig platform w)
      ⟨_, _, _, _, [], rfl⟩ (Host.onlyReload_serving ..) hl
  have harguments : Order.ofArguments ["-v", "rebuild"] = .ok ⟨none, true, .rebuild⟩ := by
    decide +kernel
  refine ⟨failed_reload_alike.runs h l l' events 1 hreach (honly l)
      (Host.failsToLoad_of_loader hreach (honly l) hl)
      (Host.failsToLoad_of_loader hreach (honly l') hl'),
    by decide +kernel, by decide +kernel, by decide +kernel, by decide +kernel, by decide +kernel,
    ?_, by decide +kernel⟩
  exact failed_reload_alike.prints _ (fun _ => platform) (fun _ => l) (fun _ => l') _ _ _ _
    harguments rfl (hfails l hl _ _) (hfails l' hl' _ _)

end CommandLine

end ScriptHost
