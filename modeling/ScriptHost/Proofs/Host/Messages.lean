import ScriptHost.Proofs.Host.Creation
import ScriptHost.Proofs.Host.Executions
import ScriptHost.Proofs.Report.Visibility
import ScriptHost.Proofs.Text.Decoding

/-!
# Messages that fit

Every message that leaves a host fits the transport: it is no longer than the settings say, it is
well-formed, and it stands between two fences (`Host.report_fits`). Three things go together here:
the smallest budget that settings may have, the longest language that a fence can name, and the
place at which a text is cut.
-/

namespace ScriptHost

variable {W : Type}

/-- A report whose message the transport takes. -/
structure Report.Fits (r : Report) (budget : Nat) : Prop where
  short : (Utf8.encode r.rendered).length ≤ budget
  wellFormed : Utf8.decode? (Utf8.encode r.rendered) = some r.rendered
  fenced : ∃ body, r.rendered = Fence.mark ++ body ++ Fence.mark

/-- Whatever a module did, the report of it fits a budget that is accepted. -/
theorem Report.fits_ofInvocation {s : Settings} (hs : s.check = .ok ()) (i : Invocation)
    (tag : Tag) : (ofInvocation i tag s.execution.outputBudget).Fits s.execution.outputBudget where
  short := by
    rw [Utf8.length_encode]
    exact Fence.utf8ByteSize_block_le i.displayText (Settings.leastSize_le hs tag)
  wellFormed := Utf8.decode?_encode _
  fenced := Fence.exists_block_eq i.displayText tag.fenceLanguage s.execution.outputBudget

namespace Host

variable {settings : Settings} {h : Host W}

/-- A host that was set up, wherever that was. -/
def Created (settings : Settings) (h : Host W) : Prop :=
  ∃ files cwd platform world, create settings files cwd platform world = .ok h

/-- A host that was opened on a site was set up there, after the cleanup. -/
theorem created_of_openOn {part : Part W Site} {platform : Platform W} {world : W}
    (hopened : (openOn part platform settings world).1 = .ok h) : h.Created settings :=
  ⟨_, _, platform, _, hopened⟩

/-- A host is set up with settings that are accepted, and begins with nothing done. -/
theorem Created.exists_eq_init (hcreated : h.Created settings) : settings.check = .ok () ∧
    ∃ moduleConfig platform world, h = init settings moduleConfig platform world := by
  obtain ⟨files, cwd, platform, world, hcreate⟩ := hcreated
  obtain ⟨hcheck, moduleConfig, -, rfl⟩ := create_eq_ok_iff.mp hcreate
  exact ⟨hcheck, moduleConfig, platform, world, rfl⟩

/-- A host is opened with settings that are accepted and name no configuration. -/
theorem openOn_of_check {part : Part W Site} {platform : Platform W}
    (hcheck : settings.check = .ok ())
    (hconfig : ∀ files cwd, settings.readModuleConfig files cwd = .ok none) (world : W) :
    (openOn part platform settings world).1
      = .ok (init settings none platform (openOn part platform settings world).2) := by
  simp only [openOn, create, hcheck, hconfig]
  rfl

/-- **Every message fits.** Whatever is executed, in whatever way it ends and whatever else a host
is doing, a report that is answered has a message that the transport takes. -/
theorem report_fits (hcreated : h.Created settings) (events : List Event) (t : Ticket)
    (report : Report) (hanswer : (h.run events).answer? t = some (.ok (.report report))) :
    report.Fits settings.execution.outputBudget := by
  obtain ⟨hcheck, moduleConfig, platform, world, rfl⟩ := hcreated.exists_eq_init
  obtain ⟨request, hasks, hgate⟩ := asks_of_report settings moduleConfig platform world hanswer
  obtain ⟨_, _, n₀, result, -, -, -, -, hresult⟩ :=
    execution_of_answered settings moduleConfig platform world
      (Native.executions_sized request moduleConfig) hasks hgate
  cases result with
  | error failure => cases hresult
  | ok i =>
      obtain rfl := Reply.report.inj (Except.ok.inj hresult)
      exact Report.fits_ofInvocation hcheck i request.tag

/-- The smallest budget, an output of three-byte characters and a failure: the text is cut between
two of them, and the message has two bytes to spare. -/
theorem report_fits_smallest :
    let entry : EntryPoints Site := {
      create := fun _ s => (([], some 0), s)
      destroy := fun _ s => ([], s)
      loadConfig := fun _ _ _ s => (([], 0), s)
      call := fun _ _ s => (([.ofBytes (List.replicate 9 [0xE2, 0x82, 0xAC]).flatten], -3), s)
      status := fun _ s => (([], 0), s) }
    let platform : Platform Site := {
      load := fun _ s => (.ok entry, s)
      run := fun _ _ s => (.ok (), s)
      remove := fun _ s => (.ok (), s) }
    let settings : Settings := { execution := { outputBudget := 32 } }
    let site : Site := ⟨.ofList [], [], [], .bare, .empty⟩
    let events : List Event :=
      [.arrive 1 .start, .work, .work, .work, .arrive 2 (.execute none "" none)] ++
        List.replicate 6 .work ++ [.poll 2]
    ∃ h report, (openOn .whole platform settings site).1 = .ok h ∧
      (h.run events).answer? 2 = some (.ok (.report report)) ∧
      report.rendered = "```sqf\n€€€€€(...)```" ∧ report.Fits 32 := by
  intro entry platform settings site events
  have hcheck : settings.check = .ok () := by decide +kernel
  have hopened : (openOn .whole platform settings site).1
      = .ok (init settings none platform (openOn .whole platform settings site).2) :=
    openOn_of_check hcheck (fun _ _ => rfl) site
  have hanswer : ((init settings none platform (openOn .whole platform settings site).2).run
      events).answer? 2
      = some (.ok (.report (Report.ofInvocation ⟨["€€€€€€€€€"], -3⟩ .script 32))) := by
    decide +kernel
  exact ⟨_, _, hopened, hanswer, by decide +kernel,
    report_fits (created_of_openOn hopened) events 2 _ hanswer⟩

end Host

end ScriptHost
