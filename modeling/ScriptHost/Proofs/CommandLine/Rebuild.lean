import ScriptHost.Proofs.CommandLine.Orders
import ScriptHost.Proofs.Host.Announcements
import ScriptHost.Proofs.Host.Sequence
import ScriptHost.Proofs.Host.Unstuck

/-!
# What a rebuild prints

The task prints the last announcement whenever it is shown one. As its caller is shown the log of
the rebuild entry by entry, this prints every announcement once (`Progress.Recounts.lines_eq`), and
the exit status is the outcome (`CommandLine.progress_exact`).

## Main definitions

* `CommandLine.Prints` — all announcements of a rebuild are printed, and its outcome told.
* `CommandLine.ProgressExact` — what is shown and printed of rebuilds.
-/

namespace ScriptHost

open CommandLine (line progressLines)

namespace Progress

variable {p : Progress} {shown : List Progress}

/-- **Snapshots of which each has one entry more print every entry once.** -/
theorem Recounts.lines_eq (hp : p.Recounts shown) :
    progressLines shown = String.join (p.messages.map line) := by
  have hlength : (shown.map fun q => (q.messages.getLast?.map line).getD "").length
      = (p.messages.map line).length := by
    simp only [List.length_map, messages, hp.length_eq]
  rw [progressLines, List.ext_getElem hlength fun k hk hk' => ?_]
  rw [List.length_map] at hk
  have hentry : k < p.entries.length := hp.length_eq ▸ hk
  have hlast : (shown[k].messages).getLast? = some p.entries[k].message := by
    rw [messages, hp.entries_eq k hk, List.take_succ_eq_append_getElem hentry, List.map_append,
      List.map_singleton, List.getLast?_concat]
  rw [List.getElem_map, List.getElem_map, hlast]
  simp only [messages, List.getElem_map, Option.map_some, Option.getD_some]

end Progress

namespace CommandLine

variable {W : Type}

/-- All announcements of a rebuild are printed, each on a line of its own, and the exit status tells
whether it went well. -/
structure Prints (printed : Printed) (p : Progress) : Prop where
  output : printed.output = String.join (p.messages.map line)
  errors : printed.errors = ""
  exit_iff : printed.exit = 0 ↔ p.outcome = some .success
  exit_le : printed.exit ≤ 1

/-- The task prints the progress that it is answered, if this was shown before. -/
theorem prints_runRebuild {h : Host W} {p : Progress}
    (hanswer : (h.serve 0 .rebuild).answer? 0 = some (.ok (.progress p)))
    (hp : p.Recounts ((h.serve 0 .rebuild).shown 0)) : Prints (runRebuild h).1 p := by
  have hprinted : (runRebuild h).1
      = .result (progressLines ((h.serve 0 .rebuild).shown 0)) p.isSuccess := by
    simp only [runRebuild, hanswer]
  rw [hprinted]
  constructor
  case output => exact hp.lines_eq
  case errors => rfl
  case exit_iff => cases h : p.isSuccess <;> simp_all [Printed.result, Progress.isSuccess]
  case exit_le => cases h : p.isSuccess <;> simp [Printed.result]

/-- What is shown and printed of rebuilds, whatever the settings say and the platform does. -/
structure ProgressExact (W : Type) : Prop where
  /-- Whoever has the progress of a rebuild was shown all of it before, and nothing else, whatever
  else the host was doing. -/
  recounts : ∀ (settings : Settings) (moduleConfig : Option Bytes) (platform : Platform W)
    (world : W) (events : List Host.Event) (t : Ticket) (p : Progress),
    let h := (Host.init settings moduleConfig platform world).run events
    h.Rebuilds t → h.answer? t = some (.ok (.progress p)) → p.Recounts (h.shown t)
  /-- Whoever came for a rebuild and has not gone away is answered in the end. -/
  comes : ∀ (settings : Settings) (moduleConfig : Option Bytes) (platform : Platform W)
    (world : W) (events : List Host.Event) (t : Ticket),
    let h := (Host.init settings moduleConfig platform world).run events
    h.Attends t → h.Comes fun k => ∃ r, k.answer? t = some r
  /-- A new rebuild is served to its end if nobody else is at the gate and no other rebuild is under
  way. -/
  returns : ∀ (settings : Settings) (moduleConfig : Option Bytes) (platform : Platform W)
    (world : W) (events : List Host.Event) (t : Ticket),
    let h := (Host.init settings moduleConfig platform world).run events
    h.gate.isFree → h.rebuilding.holder = none → h.isNew t →
    ∃ p, (h.serve t .rebuild).answer? t = some (.ok (.progress p)) ∧
      p.Recounts ((h.serve t .rebuild).shown t)
  /-- A command line for a rebuild that comes to a host has it end, and prints it. -/
  prints : ∀ (part : Part W Site) (platform : String → Platform W) (arguments : List String)
    (order : Order) (input : Bytes) (w : W) (settings : Settings) (h : Host W),
    Order.ofArguments arguments = .ok order → order.task = .rebuild →
    Opens part platform order w settings h →
    ∃ p, (h.serve 0 .rebuild).answer? 0 = some (.ok (.progress p)) ∧
      p.Recounts ((h.serve 0 .rebuild).shown 0) ∧
      Prints (run part platform arguments input w).1 p

/-- A rebuild that nobody is in the way of ends, and its caller was shown all of it. -/
theorem recounts_serve (settings : Settings) (moduleConfig : Option Bytes) (platform : Platform W)
    (world : W) (events : List Host.Event) (t : Ticket) :
    let h := (Host.init settings moduleConfig platform world).run events
    h.gate.isFree → h.rebuilding.holder = none → h.isNew t →
    ∃ p, (h.serve t .rebuild).answer? t = some (.ok (.progress p)) ∧
      p.Recounts ((h.serve t .rebuild).shown t) := by
  intro h hfree hlock hnew
  obtain ⟨p, hended, hanswer⟩ := Host.exists_answer_serve hfree hlock hnew
  have hserve := (Host.init settings moduleConfig platform world).run_serving events t .rebuild
  refine ⟨p, hanswer, ?_⟩
  rw [← hserve] at hended ⊢
  exact Host.recounts_run settings moduleConfig platform world _ t hended

/-- **Progress is shown and printed exactly**: entry by entry, in the order of the stages, with the
outcome at the end. -/
theorem progress_exact : ProgressExact W where
  recounts := by
    intro settings moduleConfig platform world events t p h hrebuilds hanswer
    exact Host.recounts_run settings moduleConfig platform world events t
      (Host.ended_of_answer? hrebuilds hanswer)
  comes settings moduleConfig platform world events t hattends :=
    Host.Reachable.comes_answer ⟨settings, moduleConfig, platform, world, events, rfl⟩ hattends
  returns := recounts_serve
  prints := by
    intro part platform arguments order input w settings h harguments htask hopens
    rw [run_of_opens harguments hopens, htask]
    obtain ⟨moduleConfig, world, rfl⟩ := hopens.exists_eq_init
    obtain ⟨p, hanswer, hrecounts⟩ :=
      recounts_serve settings moduleConfig _ world [] 0 rfl rfl rfl
    exact ⟨p, hanswer, hrecounts, prints_runRebuild hanswer hrecounts⟩

/-- The third command panics: what was announced until then is shown and printed, and the panic. -/
theorem progress_exact_panicked :
    let platform : Platform Site := {
      load := fun path s => (.failed (.load path Library.absentDetail), s)
      run := fun command _ s =>
        (if command.args.head? = some "checkout" then .panicked else .ok (), s)
      remove := fun _ s => (.ok (), s) }
    let order : Order := ⟨none, false, .rebuild⟩
    let site : Site := ⟨.ofList [], [], [], .bare, .empty⟩
    let h := Host.init {} none platform (Host.openOn Part.whole platform {} site).2
    let printed := (run Part.whole (fun _ => platform) ["rebuild"] [] site).1
    Order.ofArguments ["rebuild"] = .ok order ∧
      Opens Part.whole (fun _ => platform) order site {} h ∧
      (∃ p, (h.serve 0 .rebuild).answer? 0 = some (.ok (.progress p)) ∧
        p.Recounts ((h.serve 0 .rebuild).shown 0) ∧ Prints printed p) ∧
      printed = ⟨1, "Pulling changes...\nError: worker task failed: (panic)\n", ""⟩ := by
  intro platform order site h printed
  have harguments : Order.ofArguments ["rebuild"] = .ok order := by decide +kernel
  have hloaded : settingsFor order site = .ok {} := by decide +kernel
  have hlogged : checkLogging order {} site.environment = .ok () := by decide +kernel
  have hcheck : ({} : Settings).check = .ok () := by decide +kernel
  have hopens : Opens Part.whole (fun _ => platform) order site {} h :=
    ⟨hloaded, hlogged, Host.create_eq_ok_iff.mpr ⟨hcheck, none, rfl, rfl⟩⟩
  refine ⟨harguments, hopens, ?_, by decide +kernel⟩
  exact progress_exact.prints Part.whole (fun _ => platform) ["rebuild"] order [] site {} h
    harguments rfl hopens

end CommandLine

end ScriptHost
