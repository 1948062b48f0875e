import ScriptHost.Proofs.Host.Executions

/-!
# Who is blamed for a failure

A report blames the submitted code for three statuses, and a status can come from two entries of the
module: the one that runs the source, and before that the one that takes the configuration. Whoever
is blamed has had its source run, and the status is the answer to that, unless the configuration was
refused with one of the three statuses: then the code is blamed although it was not run
(`Host.blamed_iff`, `Host.blamed_for_configuration`).

## Main definitions

* `Native.Ran`, `Native.Refused` — the two entries that a status can come from.
-/

namespace ScriptHost

variable {W : Type} {request : Request} {config : Option Bytes} {made : List Event}
  {result : Except Failure Invocation} {status : Int32}

/-- The statuses that the submitted code is blamed for. -/
theorem Category.isUserCaused_ofStatus_iff :
    (ofStatus status).isUserCaused = true ↔ status = -2 ∨ status = -3 ∨ status = -6 := by
  constructor
  · intro hblamed
    have hstatus := status_ofStatus status
    generalize ofStatus status = c at hblamed hstatus
    cases c with
    | preprocessingFailed => exact .inl hstatus.symm
    | parsingFailed => exact .inr (.inl hstatus.symm)
    | executionFailed => exact .inr (.inr hstatus.symm)
    | success | instanceNull | alreadyRunning | invalidType | unknown _ => cases hblamed
  · rintro (rfl | rfl | rfl) <;> decide

namespace Native

/-- The source of a request was run, all of it, and the module answered with a status. -/
def Ran (request : Request) (status : Int32) (made : List Event) : Prop :=
  ∃ handle i arguments records, .call handle i arguments records status ∈ made ∧
    arguments.code = Utf8.encode request.source ∧ arguments.length.toNat = arguments.code.length

/-- The module answered the configuration with a status other than zero. -/
def Refused (status : Int32) (made : List Event) : Prop :=
  status ≠ 0 ∧ ∃ handle i content length records,
    .loadConfig handle i content length records status ∈ made

/-- An instance has its source run and answered with the status that is the outcome, or has its
configuration refused with it. -/
theorem Uses.ran_or_refused {handle : Handle} {i : Instance}
    (h : Uses handle i request config status made) :
    (Ran request status made ∧ ∀ s, ¬ Refused s made) ∨
      (Refused status made ∧ config.isSome ∧
        ∀ handle i arguments records s, .call handle i arguments records s ∉ made) := by
  cases h with
  | refused hconfigured hstatus =>
      cases hconfigured with
      | nothing => exact absurd rfl hstatus
      | content content records status =>
          refine .inr ⟨⟨hstatus, _, _, _, _, _, List.mem_singleton_self _⟩, rfl, ?_⟩
          simp
  | called hconfigured hlength =>
      refine .inl ⟨⟨_, _, _, _, List.mem_append_right _ List.mem_cons_self, rfl, ?_⟩, ?_⟩
      · rw [Utf8.length_encode]
        exact hlength
      · rintro s ⟨hs, _, _, _, _, _, hmem⟩
        cases hconfigured <;> simp_all

/-- An execution that ends well has run the source, or had the configuration refused. -/
theorem Protocol.ran_or_refused {slot : Option (LoadedModule W)} {invocation : Invocation}
    (h : Protocol request config slot made (.ok invocation)) :
    (Ran request invocation.status made ∧ ∀ s, ¬ Refused s made) ∨
      (Refused invocation.status made ∧ config.isSome ∧
        ∀ handle i arguments records s, .call handle i arguments records s ∉ made) := by
  cases h with
  | destroyed m hused hentries _ =>
      subst hentries
      have hcases := hused.ran_or_refused
      simpa [Ran, Refused] using hcases

end Native

namespace Host

/-- **Who is blamed.** Of every report in every run of a host: if it blames the submitted code, then
the source was run for its caller and answered with its status, unless the configuration was refused
with one of the three statuses that the code is blamed for. In that case no source was run at all
for the caller; it needs a configuration. -/
theorem blamed_iff (settings : Settings) (moduleConfig : Option Bytes) (platform : Platform W)
    (world : W) (events : List Event) (t : Ticket) (report : Report)
    (hanswer : ((init settings moduleConfig platform world).run events).answer? t
      = some (.ok (.report report))) :
    let h := init settings moduleConfig platform world
    let made := madeBy (h.actsOf events) t
    ∃ request, h.Asks events t request ∧
      ((report.category.isUserCaused = true → Native.Ran request report.status made) ↔
        ¬ (Native.Refused report.status made ∧
          (report.status = -2 ∨ report.status = -3 ∨ report.status = -6))) ∧
      (Native.Refused report.status made → moduleConfig.isSome ∧
        ∀ handle i arguments records status, .call handle i arguments records status ∉ made) := by
  intro h made
  obtain ⟨request, hasks, hgate⟩ := asks_of_report settings moduleConfig platform world hanswer
  obtain ⟨us, vs, n₀, result, -, -, -, hmade, hresult⟩ :=
    execution_of_answered settings moduleConfig platform world
      (Native.executions_sized request moduleConfig) hasks hgate
  refine ⟨request, hasks, ?_⟩
  cases result with
  | error failure => cases hresult
  | ok invocation =>
      obtain rfl := Reply.report.inj (Except.ok.inj hresult)
      rcases hmade with hprotocol | ⟨-, failure, hfailed⟩
      · have hblamed : (Category.ofStatus invocation.status).isUserCaused = true ↔ _ :=
          Category.isUserCaused_ofStatus_iff
        change ((Category.ofStatus invocation.status).isUserCaused = true → _ ↔ _) ∧ _
        rcases hprotocol.ran_or_refused with ⟨hran, hrefused⟩ | ⟨hrefused, hconfig, hcall⟩
        · exact ⟨iff_of_true (fun _ => hran) fun h => hrefused _ h.1,
            fun h => absurd h (hrefused _)⟩
        · refine ⟨?_, fun _ => ⟨hconfig, hcall⟩⟩
          have hran : ¬ Native.Ran request invocation.status made := by
            rintro ⟨_, _, _, _, hmem, -⟩
            exact hcall _ _ _ _ _ hmem
          rw [hblamed]
          tauto
      · cases hfailed

/-- A platform with a module that answers each configuration and each source with a fixed status. -/
def answering (configured called : Int32) : Platform Unit where
  load _ w := (.ok {
    create := fun _ w => (([], some 0), w)
    destroy := fun _ w => ([], w)
    loadConfig := fun _ _ _ w => (([], configured), w)
    call := fun _ _ w => (([], called), w)
    status := fun _ w => (([], 0), w) }, w)
  run _ _ w := (.ok (), w)
  remove _ w := (.ok (), w)

/-- A module is started and then asked for one execution. -/
def startAndExecute (source : String) : List Event :=
  [.arrive 0 .start, .work, .work, .work, .arrive 1 (.execute none source none)] ++
    List.replicate 7 .work ++ [.poll 1]

/-- A module that takes its configuration and does not parse the source: the blame is deserved. -/
theorem blamed_iff_of_source :
    let h := init {} (some [1]) (answering 0 (-3)) ()
    let events := startAndExecute "1 +"
    let report := Report.ofInvocation ⟨[], -3⟩ .script Fence.messageBudget
    (h.run events).answer? 1 = some (.ok (.report report)) ∧
      report.category.isUserCaused = true ∧
      ∃ request, h.Asks events 1 request ∧
        Native.Ran request report.status (madeBy (h.actsOf events) 1) := by
  intro h events report
  have hanswer : (h.run events).answer? 1 = some (.ok (.report report)) := by decide +kernel
  obtain ⟨request, hasks, hblamed, hrefused⟩ := blamed_iff _ _ _ _ events 1 report hanswer
  have hcall : .call 0 0 ⟨none, 0x73, Utf8.encode "1 +", 3⟩ [] (-3)
      ∈ madeBy (h.actsOf events) 1 := by decide +kernel
  have hnot : ¬ Native.Refused report.status (madeBy (h.actsOf events) 1) := fun h =>
    (hrefused h).2 _ _ _ _ _ hcall
  exact ⟨hanswer, by decide, request, hasks, hblamed.mpr (fun h => hnot h.1) (by decide)⟩

/-- A module that refuses its configuration: the code is blamed for it, and nothing was run. -/
theorem blamed_for_configuration :
    let h := init {} (some [1]) (answering (-3) 0) ()
    let events := startAndExecute "1 + 1"
    let report := Report.ofInvocation ⟨[], -3⟩ .script Fence.messageBudget
    (h.run events).answer? 1 = some (.ok (.report report)) ∧
      report.category.isUserCaused = true ∧
      (h.run events).native.trace
        = [.load "../SQFvm/libcsqfvm.so" (some 0), .create 0 ⟨0x41200000⟩ [] (some 0),
          .loadConfig 0 0 [1] 1 [] (-3), .destroy 0 0 []] ∧
      ∀ request, ¬ Native.Ran request report.status (h.run events).native.trace := by
  intro h events report
  have htrace : (h.run events).native.trace
      = [.load "../SQFvm/libcsqfvm.so" (some 0), .create 0 ⟨0x41200000⟩ [] (some 0),
        .loadConfig 0 0 [1] 1 [] (-3), .destroy 0 0 []] := by
    decide +kernel
  refine ⟨by decide +kernel, by decide, htrace, fun request => ?_⟩
  rw [htrace]
  rintro ⟨handle, i, arguments, records, hmem, -⟩
  simp at hmem

end Host

end ScriptHost
