import ScriptHost.CommandLine.Run
import ScriptHost.Proofs.Host.Creation

/-!
# Orders that come to a host

An order is carried out at a host that has nothing done yet, if its settings are loaded, their log
level is accepted and a host is opened with them (`CommandLine.Opens`). Then what is printed is what
its task prints there (`CommandLine.run_of_opens`).

## Main definitions

* `CommandLine.Opens` — an order comes to a host.
-/

namespace ScriptHost

namespace CommandLine

variable {W : Type} {part : Part W Site} {platform : String → Platform W} {order : Order} {w : W}
  {settings : Settings} {h : Host W} {arguments : List String}

/-- An order comes to a host with settings. -/
structure Opens (part : Part W Site) (platform : String → Platform W) (order : Order) (w : W)
    (settings : Settings) (h : Host W) : Prop where
  loaded : settingsFor order (part.get w) = .ok settings
  logged : checkLogging order settings (part.get w).environment = .ok ()
  opened : (Host.openOn part (platform settings.module.symbolPrefix) settings w).1 = .ok h

namespace Opens

/-- The host has nothing done yet. -/
theorem exists_eq_init (ho : Opens part platform order w settings h) :
    ∃ moduleConfig world,
      h = .init settings moduleConfig (platform settings.module.symbolPrefix) world := by
  obtain ⟨-, moduleConfig, heq⟩ := Host.openOn_eq_ok ho.opened
  exact ⟨moduleConfig, _, heq⟩

/-- An order comes to one host at most. -/
theorem unique (ho : Opens part platform order w settings h) {settings' : Settings} {h' : Host W}
    (ho' : Opens part platform order w settings' h') : settings = settings' ∧ h = h' := by
  obtain rfl := Except.ok.inj (ho.loaded.symm.trans ho'.loaded)
  exact ⟨rfl, Except.ok.inj (ho.opened.symm.trans ho'.opened)⟩

end Opens

/-- What is printed for an order that comes to a host is what its task prints there. -/
theorem perform_of_opens (ho : Opens part platform order w settings h) (input : Bytes) :
    (perform part platform order input w).1 = (order.task.perform part input h).1 := by
  obtain ⟨hloaded, hlogged, hopened⟩ := ho
  obtain ⟨world, hopened⟩ : ∃ world,
      Host.openOn part (platform settings.module.symbolPrefix) settings w = (.ok h, world) :=
    ⟨_, Prod.ext hopened rfl⟩
  simp only [perform, hloaded, hlogged, hopened]

/-- An order that does not come to a host, although its log level is accepted, says why. -/
theorem perform_of_not_opens
    (hlog : ∀ settings, settingsFor order (part.get w) = .ok settings →
      checkLogging order settings (part.get w).environment = .ok ())
    (hnone : ∀ settings h, ¬ Opens part platform order w settings h) (input : Bytes) :
    ∃ e, (perform part platform order input w).1 = .obstacle (.failure e) := by
  unfold perform
  cases hloaded : settingsFor order (part.get w) with
  | error e => exact ⟨e, rfl⟩
  | ok settings =>
      have hlogged := hlog settings hloaded
      simp only [hlogged]
      rcases hopened : Host.openOn part (platform settings.module.symbolPrefix) settings w with
        ⟨e | h, world⟩
      · exact ⟨e, rfl⟩
      · exact absurd ⟨hloaded, hlogged, by rw [hopened]⟩ (hnone settings h)

/-- Arguments that are an order have it carried out. -/
theorem run_of_order (harguments : Order.ofArguments arguments = .ok order) (input : Bytes) :
    run part platform arguments input w = perform part platform order input w := by
  simp only [run, harguments]

theorem run_of_opens (harguments : Order.ofArguments arguments = .ok order)
    (ho : Opens part platform order w settings h) (input : Bytes) :
    (run part platform arguments input w).1 = (order.task.perform part input h).1 := by
  rw [run_of_order harguments, perform_of_opens ho]

end CommandLine

end ScriptHost
