import ScriptHost.Proofs.CommandLine.Orders
import ScriptHost.Proofs.Host.Sessions
import ScriptHost.Proofs.Module.Libraries

/-!
# What an execution prints

A command line for an execution answers on one channel. What comes of it is a report, which is
printed to the standard output, or something that stands in its way, which is one text on the
standard error; and the exit status tells whether the module ran the source successfully
(`CommandLine.exec_answers`).

What is wrong with a module is not told: whatever it is, the text is the same.

## Main definitions

* `CommandLine.Executes` — an order comes to a host and is answered there.
* `CommandLine.Requested` — an order comes to a host with a request.
* `CommandLine.OneChannel` — what is printed, for all that may come of an order.
-/

namespace ScriptHost

variable {W : Type}

/-- The modules of a platform are those of the site. -/
def Part.LoadsFrom (part : Part W Site) (symbolPrefix : String) (platform : Platform W) : Prop :=
  ∀ path w, ∃ f, (platform.load path w).1 = (Site.loader symbolPrefix path (part.get w)).1.map f

/-- They are if the platform is the site. -/
theorem Site.loadsFrom_platform (symbolPrefix : String) :
    Part.whole.LoadsFrom symbolPrefix (platform symbolPrefix) := by
  intro path s
  refine ⟨id, ?_⟩
  change (loader symbolPrefix path s).1 = (loader symbolPrefix path s).1.map id
  cases (loader symbolPrefix path s).1 <;> rfl

/-- A path without a module is not loaded. -/
theorem Part.LoadsFrom.ne_ok {part : Part W Site} {symbolPrefix : String} {platform : Platform W}
    (h : part.LoadsFrom symbolPrefix platform) {path : Path} {w : W}
    (hunusable : Library.Unusable LineMachine.readLibrary (part.get w).linker symbolPrefix
      (part.get w).files (part.get w).cwd path) (entry : EntryPoints W) :
    (platform.load path w).1 ≠ .ok entry := by
  obtain ⟨e, hload⟩ := Library.load_eq_error_iff.mpr hunusable
  obtain ⟨f, hloader⟩ := h path w
  rw [hloader]
  simp [Site.loader, hload, Except.map, Outcome.ofExcept, Outcome.map]

namespace Native

variable {handle : Handle} {i : Instance} {request : Request} {config : Option Bytes}
  {status : Int32} {used made : List Event} {slot : Option (LoadedModule W)}
  {result : Except Failure Invocation} {maxRuntime : Number.Single} {records : List Record}
  {answer : Option Instance}

/-- No instance is made while one is used. -/
theorem Uses.create_notMem (h : Uses handle i request config status used) (other : Handle) :
    .create other maxRuntime records answer ∉ used := by
  cases h with
  | refused hconfigured _ => cases hconfigured <;> simp
  | called hconfigured _ => cases hconfigured <;> simp

/-- A module that hands back no instance is the reason why there is no result. -/
theorem Protocol.instanceCreation (h : Protocol request config slot made result)
    (hmem : .create handle maxRuntime records none ∈ made) : result = .error .instanceCreation := by
  cases h with
  | unloaded => simp at hmem
  | uncreated m records _ => rfl
  | destroyed m hused hentries _ =>
      subst hentries
      simp [hused.create_notMem] at hmem

end Native

namespace Host

variable {h : Host W} {asked : Except Failure Request} {trace : List ScriptHost.Event}
  {r : Except Failure Reply}

/-- The answer is a report or a failure. -/
theorem Session.answer_cases (hs : h.Session asked trace r) :
    (∃ report, r = .ok (.report report)) ∨ ∃ cause, r = .error cause := by
  cases hs with
  | refused _ | unloaded _ _ | declined _ _ => exact .inr ⟨_, rfl⟩
  | @entered request m made result _ _ _ =>
      cases result with
      | ok i => exact .inl ⟨_, rfl⟩
      | error cause => exact .inr ⟨cause, rfl⟩

/-- Without a module the answer to a request is that there is none. -/
theorem Session.notReady {request : Request} (hs : h.Session (.ok request) trace r)
    (hnone : ¬ h.HasModule) : r = .error .notReady := by
  cases hs with
  | refused hasked => cases hasked
  | unloaded _ _ => rfl
  | declined _ hsome | entered _ hsome _ => exact absurd hsome hnone

/-- A module that hands back no instance is the reason why there is no result. -/
theorem Session.instanceCreation (hs : h.Session asked trace r) {handle : Handle}
    {maxRuntime : Number.Single} {records : List Record}
    (hmem : .create handle maxRuntime records none ∈ trace) :
    r = .error .instanceCreation := by
  cases hs with
  | refused _ | unloaded _ _ | declined _ _ => simp at hmem
  | entered _ _ hmade =>
      rw [hmade.instanceCreation (by simpa using hmem)]
      rfl

end Host

namespace CommandLine

variable {part : Part W Site} {platform : String → Platform W} {order : Order}
  {options : ExecOptions} {input : Bytes} {w : W} {settings : Settings} {h k : Host W}
  {r : Except Failure Reply} {arguments : List String} {printed : Printed}

/-- An order comes to a host and is answered there, with a source that was read. -/
inductive Executes (part : Part W Site) (platform : String → Platform W) (order : Order)
    (options : ExecOptions) (input : Bytes) (w : W) : Host W → Except Failure Reply → Prop where
  | intro {settings : Settings} {h : Host W} {source : String} {r : Except Failure Reply}
    (hopens : Opens part platform order w settings h)
    (hsource : readSource options.file input (part.get h.native.world) = .ok source)
    (hanswer : ((h.serve 0 .start).serve 1
      (.execute options.language source options.timeout)).answer? 1 = some r) :
    Executes part platform order options input w
      ((h.serve 0 .start).serve 1 (.execute options.language source options.timeout)) r

/-- An order comes to a host, with a source that was read, and in a language that there is. -/
structure Requested (part : Part W Site) (platform : String → Platform W) (order : Order)
    (options : ExecOptions) (input : Bytes) (w : W) (settings : Settings) (h : Host W) : Prop where
  opens : Opens part platform order w settings h
  read : ∃ source, readSource options.file input (part.get h.native.world) = .ok source
  supported : ∃ tag,
    Tag.ofLanguage (options.language.getD settings.execution.defaultLanguage) = .ok tag

/-- What is printed, for all that may come of an order for an execution. -/
structure OneChannel (part : Part W Site) (platform : String → Platform W) (order : Order)
    (options : ExecOptions) (input : Bytes) (w : W) (printed : Printed) : Prop where
  /-- The exit status is zero exactly after a success. -/
  exit_iff : printed.exit = 0 ↔ ∃ k r, Executes part platform order options input w k r ∧
    Native.Succeeds k.moduleConfig k.native.trace
  /-- A report is printed whatever its status is, and nothing else. -/
  reported : ∀ k report, Executes part platform order options input w k (.ok (.report report)) →
    printed.output = line (if options.json then report.toJson.render else report.rendered) ∧
      printed.errors = ""
  /-- Without a report there is one text on the standard error. -/
  obstructed : (∀ k report, ¬ Executes part platform order options input w k
      (.ok (.report report))) →
    ∃ text, printed = ⟨1, "", line ("Error: " ++ text)⟩
  /-- The same if there is no module, whatever the loader says. -/
  notReady : ∀ settings h, Requested part platform order options input w settings h →
    ¬ h.HasModule → printed = ⟨1, "", line Failure.notReadyMessage⟩
  /-- There is none if the file is missing, is not a library, or lacks a symbol. -/
  unusable : ∀ settings h, Requested part platform order options input w settings h →
    part.LoadsFrom settings.module.symbolPrefix h.platform →
    Library.Unusable LineMachine.readLibrary (part.get h.native.world).linker
      settings.module.symbolPrefix (part.get h.native.world).files
      (part.get h.native.world).cwd settings.module.path →
    printed = ⟨1, "", line Failure.notReadyMessage⟩
  /-- The same if the module hands back no instance, or a worker panics. -/
  internal : ∀ k r, Executes part platform order options input w k r →
    ((∃ handle maxRuntime records, .create handle maxRuntime records none ∈ k.native.trace) ∨
      ∃ detail, r = .error (.workerPanicked detail)) →
    printed = ⟨1, "", line Failure.internalMessage⟩

theorem notReadyMessage_eq :
    Failure.notReadyMessage = "Error: " ++ "VM not loaded correctly" := by decide

theorem internalMessage_eq :
    Failure.internalMessage = "Error: " ++ "VM encountered an internal error" := by decide

/-- What is told to be an error is, with more after it. -/
theorem exists_error_append {told : String} (h : ∃ text, told = "Error: " ++ text) (more : String) :
    ∃ text, told ++ more = "Error: " ++ text := by
  obtain ⟨text, rfl⟩ := h
  exact ⟨text ++ more, String.append_assoc⟩

/-- Every text that stands in the way of a result is told to be an error. -/
theorem Obstacle.exists_message_eq (o : Obstacle) : ∃ text, o.message = "Error: " ++ text := by
  cases o with
  | failure e =>
      cases e with
      | userCode _ _ | pipelineStage _ _ | unsupportedLanguage _ | config _ => exact ⟨_, rfl⟩
      | notReady | load _ _ | missingSymbol _ _ _ => exact ⟨_, notReadyMessage_eq⟩
      | instanceCreation | internal _ _ | command _ _ | workerPanicked _ | io _ =>
          exact ⟨_, internalMessage_eq⟩
  | logFilter level =>
      have hlead : ∃ text, "Error: Invalid log level " = "Error: " ++ text :=
        ⟨"Invalid log level ", by decide⟩
      exact exists_error_append (exists_error_append (exists_error_append
        (exists_error_append hlead "`") level) "`") ": invalid filter directive"
  | source path e =>
      have hlead : ∃ text, "Error: Failed to read " = "Error: " ++ text :=
        ⟨"Failed to read ", by decide⟩
      exact exists_error_append (exists_error_append (exists_error_append hlead path) ": ")
        e.message
  | standardInput e =>
      have hlead : ∃ text, "Error: Failed to read stdin: " = "Error: " ++ text :=
        ⟨"Failed to read stdin: ", by decide⟩
      exact exists_error_append hlead e.message

/-! ### From an order to what is printed -/

/-- Nobody has come yet to the host of an order. -/
theorem Opens.fresh (ho : Opens part platform order w settings h) : h.Fresh := by
  obtain ⟨moduleConfig, world, rfl⟩ := ho.exists_eq_init
  exact ⟨settings, moduleConfig, _, world, rfl⟩

/-- What is printed once a source was read is made of the answer. -/
theorem run_of_executes (harguments : Order.ofArguments arguments = .ok order)
    (htask : order.task = .exec options)
    (hexec : Executes part platform order options input w k r) :
    (run part platform arguments input w).1 = printAnswer options.json (some r) := by
  cases hexec with
  | intro hopens hsource hanswer =>
      rw [run_of_opens harguments hopens, htask]
      simp only [Task.perform, runExec, hsource, hanswer]

/-- Where the execution ends at its host. -/
theorem Executes.exists_session (hexec : Executes part platform order options input w k r) :
    ∃ (h : Host W) (asked : Except Failure Request),
      h.moduleConfig = k.moduleConfig ∧ h.Session asked k.native.trace r := by
  cases hexec with
  | @intro settings h source r hopens hsource hanswer =>
      obtain ⟨r', hanswer', hsession⟩ :=
        hopens.fresh.session options.language source options.timeout
      obtain rfl := Option.some.inj (hanswer.symm.trans hanswer')
      refine ⟨h, _, ?_, hsession⟩
      simp only [Host.serve_eq_serving, (Host.sameSetup_run _ _).moduleConfig]

/-- An order is answered at a host, or something stands in its way before. -/
theorem executes_or_obstacle (platform : String → Platform W) (input : Bytes)
    (harguments : Order.ofArguments arguments = .ok order)
    (htask : order.task = .exec options)
    (hlog : ∀ settings, settingsFor order (part.get w) = .ok settings →
      checkLogging order settings (part.get w).environment = .ok ()) :
    (∃ k r, Executes part platform order options input w k r) ∨
      (∀ k r, ¬ Executes part platform order options input w k r) ∧
        ∃ o, (run part platform arguments input w).1 = .obstacle o := by
  by_cases hopens : ∃ settings h, Opens part platform order w settings h
  · obtain ⟨settings, h, hopens⟩ := hopens
    cases hsource : readSource options.file input (part.get h.native.world) with
    | ok source =>
        obtain ⟨r, hanswer, -⟩ :=
          hopens.fresh.session options.language source options.timeout
        exact .inl ⟨_, r, .intro hopens hsource hanswer⟩
    | error o =>
        refine .inr ⟨fun k r hexec => ?_, o, ?_⟩
        · cases hexec with
          | intro hopens' hsource' _ =>
              obtain ⟨-, rfl⟩ := hopens.unique hopens'
              cases hsource.symm.trans hsource'
        · rw [run_of_opens harguments hopens, htask]
          simp only [Task.perform, runExec, hsource]
  · refine .inr ⟨fun k r hexec => ?_, ?_⟩
    · cases hexec with
      | intro hopens' _ _ => exact hopens ⟨_, _, hopens'⟩
    · obtain ⟨e, hprinted⟩ := perform_of_not_opens hlog
        (fun settings h ho => hopens ⟨settings, h, ho⟩) input
      exact ⟨_, by rw [run_of_order harguments, hprinted]⟩

/-- The exit status tells whether the module ran the source successfully. -/
theorem Executes.exit_iff (harguments : Order.ofArguments arguments = .ok order)
    (htask : order.task = .exec options)
    (hexec : Executes part platform order options input w k r) :
    (run part platform arguments input w).1.exit = 0 ↔
      Native.Succeeds k.moduleConfig k.native.trace := by
  obtain ⟨h, asked, hconfig, hsession⟩ := hexec.exists_session
  rw [run_of_executes harguments htask hexec, ← hconfig, hsession.succeeds_iff]
  rcases hsession.answer_cases with ⟨report, rfl⟩ | ⟨cause, rfl⟩
  · cases hsuccess : report.isSuccess <;> simp [printAnswer, Printed.result, hsuccess]
  · simp [printAnswer, Printed.obstacle]

/-- A request to a host without a module is told that there is none. -/
theorem Requested.run_of_not_hasModule (harguments : Order.ofArguments arguments = .ok order)
    (htask : order.task = .exec options)
    (hrequested : Requested part platform order options input w settings h)
    (hnone : ¬ h.HasModule) :
    (run part platform arguments input w).1 = ⟨1, "", line Failure.notReadyMessage⟩ := by
  obtain ⟨hopens, ⟨source, hsource⟩, tag, htag⟩ := hrequested
  obtain ⟨r, hanswer, hsession⟩ := hopens.fresh.session options.language source options.timeout
  obtain ⟨moduleConfig, world, rfl⟩ := hopens.exists_eq_init
  rw [Host.requestFor_eq_ok _ _ _ _ htag] at hsession
  obtain rfl := hsession.notReady hnone
  exact run_of_executes harguments htask (.intro hopens hsource hanswer)

/-- Without a report there is something that stands in its way. -/
theorem exists_obstacle (harguments : Order.ofArguments arguments = .ok order)
    (htask : order.task = .exec options)
    (hlog : ∀ settings, settingsFor order (part.get w) = .ok settings →
      checkLogging order settings (part.get w).environment = .ok ())
    (hnone : ∀ k report, ¬ Executes part platform order options input w k
      (.ok (.report report))) :
    ∃ o, (run part platform arguments input w).1 = .obstacle o := by
  rcases executes_or_obstacle platform input harguments htask hlog with
    ⟨k, r, hexec⟩ | ⟨-, hobstacle⟩
  · obtain ⟨_, _, _, hsession⟩ := hexec.exists_session
    rcases hsession.answer_cases with ⟨report, rfl⟩ | ⟨cause, rfl⟩
    · exact absurd hexec (hnone k report)
    · exact ⟨.failure cause, run_of_executes harguments htask hexec⟩
  · exact hobstacle

/-- **An execution answers on one channel**, and what is wrong with a module is not told. -/
theorem exec_answers (harguments : Order.ofArguments arguments = .ok order)
    (htask : order.task = .exec options)
    (hlog : ∀ settings, settingsFor order (part.get w) = .ok settings →
      checkLogging order settings (part.get w).environment = .ok ()) :
    OneChannel part platform order options input w (run part platform arguments input w).1 := by
  constructor
  case exit_iff =>
    constructor
    · intro hexit
      rcases executes_or_obstacle platform input harguments htask hlog with
        ⟨k, r, hexec⟩ | ⟨-, o, hprinted⟩
      · exact ⟨k, r, hexec, (hexec.exit_iff harguments htask).mp hexit⟩
      · rw [hprinted] at hexit
        cases hexit
    · rintro ⟨k, r, hexec, hsucceeds⟩
      exact (hexec.exit_iff harguments htask).mpr hsucceeds
  case reported =>
    intro k report hexec
    rw [run_of_executes harguments htask hexec]
    exact ⟨rfl, rfl⟩
  case obstructed =>
    intro hnone
    obtain ⟨o, hprinted⟩ := exists_obstacle harguments htask hlog hnone
    obtain ⟨text, hmessage⟩ := o.exists_message_eq
    exact ⟨text, by rw [hprinted, Printed.obstacle, hmessage]⟩
  case notReady =>
    exact fun settings h hrequested => hrequested.run_of_not_hasModule harguments htask
  case unusable =>
    intro settings h hrequested hloads hunusable
    refine hrequested.run_of_not_hasModule harguments htask ?_
    rintro ⟨entry, hentry⟩
    obtain ⟨moduleConfig, world, rfl⟩ := hrequested.opens.exists_eq_init
    exact hloads.ne_ok hunusable entry hentry
  case internal =>
    rintro k r hexec (⟨handle, maxRuntime, records, hmem⟩ | ⟨detail, rfl⟩)
    · obtain ⟨_, _, _, hsession⟩ := hexec.exists_session
      obtain rfl := hsession.instanceCreation hmem
      exact run_of_executes harguments htask hexec
    · exact run_of_executes harguments htask hexec

/-- With a module that is there and a level in the settings: the report of a source that fails is
printed to the standard output, and the exit status tells. -/
theorem exec_answers_reported :
    let image := LineMachine.Image.without 3 false "vm_" []
    let content := "[module]\npath = './vm.so'\nsymbol_prefix = 'vm_'\n"
      ++ "[logging]\nlevel = 'vm=debug'\n"
    let site : Site := {
      files := .ofList [(["vm.so"], .file image.encode false),
        (["vm.toml"], .file (Utf8.encode content) false)]
      cwd := []
      environment := []
      linker := .bare
      machine := .empty }
    let order : Order := ⟨some "vm.toml", false, .exec {}⟩
    let input := Utf8.encode "tag\nstatus -6\n"
    let report := "```sqf\n115\nError: VM encountered an error while executing the code: "
      ++ "the execution did not succeed```\n"
    let printed := (run Part.whole Site.platform ["-c", "vm.toml", "exec"] input site).1
    Order.ofArguments ["-c", "vm.toml", "exec"] = .ok order ∧
      (∀ settings, settingsFor order site = .ok settings →
        checkLogging order settings site.environment = .ok ()) ∧
      OneChannel Part.whole Site.platform order {} input site printed ∧
      printed = ⟨1, report, ""⟩ := by
  intro image content site order input report printed
  have harguments : Order.ofArguments ["-c", "vm.toml", "exec"] = .ok order := by decide +kernel
  have hlog : ∀ settings, settingsFor order site = .ok settings →
      checkLogging order settings site.environment = .ok () := by
    have hlevel : (settingsFor order site).map (checkLogging order · site.environment)
        = .ok (.ok ()) := by decide +kernel
    intro settings hsettings
    rw [hsettings] at hlevel
    exact Except.ok.inj hlevel
  exact ⟨harguments, hlog, exec_answers harguments rfl hlog, by decide +kernel⟩

example : (runOnSite ["-v", "exec"] [] ⟨.ofList [], [], [], .bare, .empty⟩).1 =
    ⟨1, "", "Error: VM not loaded correctly\n"⟩ := by decide +kernel

end CommandLine

end ScriptHost
