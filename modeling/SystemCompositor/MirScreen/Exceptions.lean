import SystemCompositor.MirScreen.Basic

namespace SystemCompositor
open Std

namespace ScreenM

def exec {α : Type} (m : ScreenM α) (s : MirScreen) : Except Unit α × MirScreen := m.run.run s

@[simp] theorem exec_pure {α : Type} (a : α) (s : MirScreen) : exec (pure a) s = (.ok a, s) := rfl

@[simp] theorem exec_get (s : MirScreen) : exec (get : ScreenM MirScreen) s = (.ok s, s) := rfl

@[simp] theorem exec_modify (change : MirScreen → MirScreen) (s : MirScreen) :
    exec (modify change) s = (.ok (), change s) := rfl

theorem exec_bind {α β : Type} (m : ScreenM α) (f : α → ScreenM β) (s : MirScreen) :
    exec (m >>= f) s = match exec m s with
      | (.ok a, t) => exec (f a) t
      | (.error (), t) => (.error (), t) := by
  simp only [exec, ExceptT.run_bind, StateT.run_bind]
  cases m.run.run s with
  | mk result t => cases result <;> rfl

theorem exec_perform {σ : Type} (outcome : Outcome σ) (write : σ → MirScreen → MirScreen) (done : σ)
    (s : MirScreen) : exec (outcome.perform write done) s = match outcome with
      | .returns => (.ok (), write done s)
      | .throws left => (.error (), write left s) := by
  cases outcome <;> rfl

end ScreenM

namespace MirScreen
open ScreenM

theorem setPowerMode_run (o : Outcomes) (mode : PowerMode) (filter : Output → Bool) (s : MirScreen) :
    ((setPowerMode o mode filter).run s).2 = (exec (setPowerModeBody o mode filter) s).2 := by
  simp only [setPowerMode, exec, StateT.run_bind]
  cases ((setPowerModeBody o mode filter).run.run s) with
  | mk result t => cases result <;> rfl

def told (known : Nat → Option ActiveOutputs) (entries : List (Nat × Nat)) (outputs : ActiveOutputs) :
    Nat → Option ActiveOutputs :=
  fun handler => if handler ∈ entries.map Prod.snd then some outputs else known handler

@[simp] theorem told_nil (known : Nat → Option ActiveOutputs) (outputs : ActiveOutputs) :
    told known [] outputs = known := by
  funext handler
  simp [told]

theorem told_cons (known : Nat → Option ActiveOutputs) (entry : Nat × Nat) (entries : List (Nat × Nat))
    (outputs : ActiveOutputs) :
    told (Function.update known entry.2 (some outputs)) entries outputs = told known (entry :: entries) outputs := by
  funext handler
  simp only [told, List.map_cons, List.mem_cons, Function.update_apply]
  split_ifs <;> simp_all

theorem callHandler_exec {o : Outcomes} {entry : Nat × Nat} {outputs : ActiveOutputs} {s : MirScreen} :
    exec (callHandler o entry outputs) s = match o.handler entry.1 with
      | .returns => (.ok (), { s with known := Function.update s.known entry.2 (some outputs) })
      | .throws left => (.error (), { s with known := Function.update s.known entry.2 left }) := by
  rw [callHandler, exec_perform]
  cases o.handler entry.1 <;> rfl

theorem callHandlers_exec (o : Outcomes) (outputs : ActiveOutputs) (entries : List (Nat × Nat)) (s : MirScreen) :
    ((∀ entry ∈ entries, o.handler entry.1 = .returns) ∧
      exec (entries.forM fun entry => callHandler o entry outputs) s =
        (.ok (), { s with known := told s.known entries outputs })) ∨
    ∃ before entry after left, entries = before ++ entry :: after ∧
      (∀ earlier ∈ before, o.handler earlier.1 = .returns) ∧ o.handler entry.1 = .throws left ∧
      exec (entries.forM fun entry => callHandler o entry outputs) s =
        (.error (), { s with known := Function.update (told s.known before outputs) entry.2 left }) := by
  induction entries generalizing s with
  | nil => exact .inl ⟨by simp, by simp⟩
  | cons entry entries ih =>
      rw [List.forM_eq_forM, List.forM_cons, exec_bind, callHandler_exec]
      cases outcome : o.handler entry.1 with
      | throws left => exact .inr ⟨[], entry, entries, left, rfl, by simp, outcome, by simp⟩
      | returns =>
          rcases ih { s with known := Function.update s.known entry.2 (some outputs) } with
            ⟨all, run⟩ | ⟨before, thrower, after, left, rfl, earlier, threw, run⟩
          · refine .inl ⟨by simpa [outcome] using all, ?_⟩
            rw [told_cons] at run
            exact run
          · refine .inr ⟨entry :: before, thrower, after, left, rfl, by simpa [outcome] using earlier, threw, ?_⟩
            rw [told_cons] at run
            exact run

/-- How `set_power_mode` leaves the screen: with everything done up to the call that threw, with what
that call did to its own component, and with nothing of what comes after it. -/
inductive Ends (o : Outcomes) (displayConfig : DisplayConfiguration) (s : MirScreen) : MirScreen → Prop
  | configurationThrew (left : Unit) (threw : o.configuration = .throws left) : Ends o displayConfig s s
  | stopThrew (left : Bool) (configured : o.configuration = .returns) (threw : o.stop = .throws left) :
      Ends o displayConfig s { s with compositorRunning := left }
  | configureThrew (left : DisplayConfiguration) (configured : o.configuration = .returns)
      (stopped : o.stop = .returns) (threw : o.configure = .throws left) :
      Ends o displayConfig s { s with compositorRunning := false, displayConfiguration := left }
  | startThrew (left : Bool) (configured : o.configuration = .returns) (stopped : o.stop = .returns)
      (applied : o.configure = .returns) (active : hasActiveOutputs displayConfig = true)
      (threw : o.start = .throws left) :
      Ends o displayConfig s { s with compositorRunning := left, displayConfiguration := displayConfig }
  | handlerThrew (before : List (Nat × Nat)) (entry : Nat × Nat) (after : List (Nat × Nat))
      (left : Option ActiveOutputs) (configured : o.configuration = .returns) (stopped : o.stop = .returns)
      (applied : o.configure = .returns) (started : hasActiveOutputs displayConfig = true → o.start = .returns)
      (handlers : s.activeOutputsHandlers.toList = before ++ entry :: after)
      (earlier : ∀ e ∈ before, o.handler e.1 = .returns) (threw : o.handler entry.1 = .throws left) :
      Ends o displayConfig s { s with
        compositorRunning := hasActiveOutputs displayConfig
        displayConfiguration := displayConfig
        activeOutputs := countActiveOutputs displayConfig
        known := Function.update (told s.known before (countActiveOutputs displayConfig)) entry.2 left }
  | completed (configured : o.configuration = .returns) (stopped : o.stop = .returns)
      (applied : o.configure = .returns) (started : hasActiveOutputs displayConfig = true → o.start = .returns)
      (all : ∀ e ∈ s.activeOutputsHandlers.toList, o.handler e.1 = .returns) :
      Ends o displayConfig s { s with
        compositorRunning := hasActiveOutputs displayConfig
        displayConfiguration := displayConfig
        activeOutputs := countActiveOutputs displayConfig
        known := told s.known s.activeOutputsHandlers.toList (countActiveOutputs displayConfig) }

theorem configurationApplied_ends {o : Outcomes} (displayConfig : DisplayConfiguration) (s : MirScreen)
    (configured : o.configuration = .returns) (stopped : o.stop = .returns) (applied : o.configure = .returns)
    (started : hasActiveOutputs displayConfig = true → o.start = .returns) :
    Ends o displayConfig s (exec (configurationApplied o displayConfig) { s with
      compositorRunning := hasActiveOutputs displayConfig, displayConfiguration := displayConfig }).2 := by
  simp only [configurationApplied, exec_bind, exec_modify, exec_get]
  rcases callHandlers_exec o (countActiveOutputs displayConfig) s.activeOutputsHandlers.toList { s with
      compositorRunning := hasActiveOutputs displayConfig, displayConfiguration := displayConfig,
      activeOutputs := countActiveOutputs displayConfig } with
    ⟨all, run⟩ | ⟨before, entry, after, left, handlers, earlier, threw, run⟩
  · rw [run]
    exact .completed configured stopped applied started all
  · rw [run]
    exact .handlerThrew before entry after left configured stopped applied started handlers earlier threw

theorem configured_ends {o : Outcomes} (displayConfig : DisplayConfiguration) (s : MirScreen)
    (configured : o.configuration = .returns) (stopped : o.stop = .returns) (applied : o.configure = .returns) :
    Ends o displayConfig s (exec
      (if hasActiveOutputs displayConfig then do
          start o
          configurationApplied o displayConfig
        else configurationApplied o displayConfig)
      { s with compositorRunning := false, displayConfiguration := displayConfig }).2 := by
  have ended := configurationApplied_ends displayConfig s configured stopped applied
  cases active : hasActiveOutputs displayConfig with
  | false =>
      rw [active] at ended
      exact ended (by simp)
  | true =>
      rw [active] at ended
      simp only [↓reduceIte, start, exec_bind, exec_perform]
      cases started : o.start with
      | throws left => exact .startThrew left configured stopped applied active started
      | returns => exact ended fun _ => started

theorem setPowerMode_ends (o : Outcomes) (mode : PowerMode) (filter : Output → Bool) (s : MirScreen) :
    Ends o (applyPowerMode mode filter s.displayConfiguration) s ((setPowerMode o mode filter).run s).2 := by
  rw [setPowerMode_run]
  simp only [setPowerModeBody, configuration, stop, configure, exec_bind, exec_perform, exec_get, exec_pure]
  cases configured : o.configuration with
  | throws left => exact .configurationThrew left configured
  | returns =>
      cases stopped : o.stop with
      | throws left => exact .stopThrew left configured stopped
      | returns =>
          cases applied : o.configure with
          | throws left => exact .configureThrew left configured stopped applied
          | returns => exact configured_ends _ s configured stopped applied

structure TookEffect (displayConfig : DisplayConfiguration) (s t : MirScreen) : Prop where
  configured : t.displayConfiguration = displayConfig
  running : t.compositorRunning = hasActiveOutputs displayConfig
  counted : t.activeOutputs = countActiveOutputs displayConfig
  told : ∀ entry ∈ s.activeOutputsHandlers.toList, t.known entry.2 = some (countActiveOutputs displayConfig)

structure Unchanged (s t : MirScreen) : Prop where
  running : s.compositorRunning = true → t.compositorRunning = true
  configured : t.displayConfiguration = s.displayConfiguration
  counted : t.activeOutputs = s.activeOutputs
  known : t.known = s.known

def AllOrNothing (displayConfig : DisplayConfiguration) (s t : MirScreen) : Prop :=
  TookEffect displayConfig s t ∨ Unchanged s t

structure NothingThrows (o : Outcomes) (displayConfig : DisplayConfiguration) (s : MirScreen) : Prop where
  configured : o.configuration = .returns
  stopped : o.stop = .returns
  applied : o.configure = .returns
  started : hasActiveOutputs displayConfig = true → o.start = .returns
  all : ∀ entry ∈ s.activeOutputsHandlers.toList, o.handler entry.1 = .returns

theorem Ends.completes {o : Outcomes} {displayConfig : DisplayConfiguration} {s t : MirScreen}
    (ends : Ends o displayConfig s t) (calm : NothingThrows o displayConfig s) : t = { s with
      compositorRunning := hasActiveOutputs displayConfig
      displayConfiguration := displayConfig
      activeOutputs := countActiveOutputs displayConfig
      known := told s.known s.activeOutputsHandlers.toList (countActiveOutputs displayConfig) } := by
  cases ends with
  | completed => rfl
  | configurationThrew left threw => cases calm.configured.symm.trans threw
  | stopThrew left _ threw => cases calm.stopped.symm.trans threw
  | configureThrew left _ _ threw => cases calm.applied.symm.trans threw
  | startThrew left _ _ _ active threw => cases (calm.started active).symm.trans threw
  | handlerThrew before entry after left _ _ _ _ handlers _ threw =>
      have member : entry ∈ s.activeOutputsHandlers.toList := by simp [handlers]
      cases (calm.all entry member).symm.trans threw

theorem Ends.tookEffect {o : Outcomes} {displayConfig : DisplayConfiguration} {s t : MirScreen}
    (ends : Ends o displayConfig s t) (calm : NothingThrows o displayConfig s) :
    TookEffect displayConfig s t := by
  rw [ends.completes calm]
  refine ⟨rfl, rfl, rfl, fun entry member => ?_⟩
  exact if_pos (List.mem_map_of_mem member)

theorem Ends.unchanged {o : Outcomes} {displayConfig : DisplayConfiguration} {s t : MirScreen}
    (ends : Ends o displayConfig s t) (threw : o.configuration ≠ .returns) : Unchanged s t := by
  cases ends with
  | configurationThrew => exact ⟨id, rfl, rfl, rfl⟩
  | stopThrew _ configured | configureThrew _ configured | startThrew _ configured
  | handlerThrew _ _ _ _ configured | completed configured => exact absurd configured threw

/-- `turn_on` and `turn_off` stop at the call that throws and undo nothing: the change takes effect if
no call throws, and nothing changes if the display does not give its configuration. -/
theorem turn_ends (s : MirScreen) (o : Outcomes) (outputFilter : OutputFilter) :
    let filter := getPowerModeFilterForOutputFilter outputFilter
    let on := applyPowerMode .on filter s.displayConfiguration
    let off := applyPowerMode .off filter s.displayConfiguration
    (Ends o on s (s.turnOn o outputFilter) ∧
      (NothingThrows o on s → TookEffect on s (s.turnOn o outputFilter)) ∧
      (o.configuration ≠ .returns → Unchanged s (s.turnOn o outputFilter))) ∧
    (Ends o off s (s.turnOff o outputFilter) ∧
      (NothingThrows o off s → TookEffect off s (s.turnOff o outputFilter)) ∧
      (o.configuration ≠ .returns → Unchanged s (s.turnOff o outputFilter))) := by
  intro filter on off
  have turnedOn : Ends o on s (s.turnOn o outputFilter) := setPowerMode_ends o .on filter s
  have turnedOff : Ends o off s (s.turnOff o outputFilter) := setPowerMode_ends o .off filter s
  exact ⟨⟨turnedOn, turnedOn.tookEffect, turnedOn.unchanged⟩,
    ⟨turnedOff, turnedOff.tookEffect, turnedOff.unchanged⟩⟩

theorem turn_fails :
    let lit : MirScreen := { compositorRunning := true, displayConfiguration := [⟨.other 7, true, true, .on⟩] }
    let dark : MirScreen := { compositorRunning := false, displayConfiguration := [⟨.other 7, true, true, .off⟩] }
    ¬AllOrNothing [⟨.other 7, true, true, .off⟩] lit
        (lit.turnOff { configure := .throws [⟨.other 7, true, true, .on⟩] } .all) ∧
      ¬AllOrNothing [⟨.other 7, true, true, .on⟩] dark (dark.turnOn { start := .throws false } .all) := by
  intro lit dark
  constructor
  · rintro (took | unchanged)
    · exact absurd took.configured (by decide)
    · exact absurd (unchanged.running rfl) (by decide)
  · rintro (took | unchanged)
    · exact absurd took.running (by decide)
    · exact absurd unchanged.configured (by decide)

end MirScreen
end SystemCompositor
