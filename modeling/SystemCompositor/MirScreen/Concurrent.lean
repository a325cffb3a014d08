import SystemCompositor.Library.Run
import SystemCompositor.MirScreen.Exceptions

namespace SystemCompositor

/-- The steps of `set_power_mode` on the D-Bus thread, and the two calls that Mir makes on its own. -/
inductive ScreenStep
  | read
  | stop
  | configure
  | start
  | applied
  | mirConfigure
  | mirApplied
deriving DecidableEq

namespace ScreenStep

def ofTurn : ScreenStep → Bool
  | .read | .stop | .configure | .start | .applied => true
  | .mirConfigure | .mirApplied => false

/-- Whether a call of `display->configure` is Mir's, and `applies` the same of `configuration_applied`. -/
def configures : ScreenStep → Option Bool
  | .configure => some false
  | .mirConfigure => some true
  | .read | .stop | .start | .applied | .mirApplied => none

def applies : ScreenStep → Option Bool
  | .applied => some false
  | .mirApplied => some true
  | .read | .stop | .configure | .start | .mirConfigure => none

end ScreenStep

structure Interleaving (es : List ScreenStep) : Prop where
  turn : es.filter ScreenStep.ofTurn = [.read, .stop, .configure, .start, .applied]
  mir : es.filter (fun e => !e.ofTurn) = [.mirConfigure, .mirApplied]

theorem Interleaving.split {es : List ScreenStep} (interleaving : Interleaving es) :
    ∃ l r, es = l ++ .read :: r ∧ (∀ e ∈ l, e.ofTurn = false) ∧
      r.filter ScreenStep.ofTurn = [.stop, .configure, .start, .applied] := by
  obtain ⟨l, r, rfl, before, -, after⟩ := List.filter_eq_cons_iff.mp interleaving.turn
  exact ⟨l, r, rfl, fun e member => by simpa using before e member, after⟩

structure ConcurrentScreen where
  screen : MirScreen
  displayConfig : DisplayConfiguration := []

namespace ConcurrentScreen
open ScreenM

/-- A call in which nothing throws. -/
def call (s : ConcurrentScreen) (m : ScreenM Unit) : ConcurrentScreen :=
  { s with screen := (exec m s.screen).2 }

section
variable (mode : PowerMode) (filter : Output → Bool) (c : DisplayConfiguration)

def next (s : ConcurrentScreen) : ScreenStep → ConcurrentScreen
  | .read => { s with displayConfig := applyPowerMode mode filter s.screen.displayConfiguration }
  | .stop => s.call (MirScreen.stop {})
  | .configure => s.call (MirScreen.configure {} s.displayConfig)
  | .start => if hasActiveOutputs s.displayConfig then s.call (MirScreen.start {}) else s
  | .applied => s.call (MirScreen.configurationApplied {} s.displayConfig)
  | .mirConfigure => s.call (MirScreen.configure {} c)
  | .mirApplied => s.call (MirScreen.configurationApplied {} c)

def finish (s : MirScreen) (es : List ScreenStep) : MirScreen := (es.foldl (next mode filter c) ⟨s, []⟩).screen

end

def connections (configuration : DisplayConfiguration) : List (Bool × Bool) :=
  configuration.map fun output => (output.connected, output.used)

/-- What is published is the count of the configuration the display has, and what Mir connected stays so. -/
structure NoLostUpdate (c : DisplayConfiguration) (t : MirScreen) : Prop where
  counted : t.activeOutputs = countActiveOutputs t.displayConfiguration
  told : ∀ entry ∈ t.activeOutputsHandlers.toList, t.known entry.2 = some t.activeOutputs
  kept : connections t.displayConfiguration = connections c

def seen (old c : DisplayConfiguration) (es : List ScreenStep) : DisplayConfiguration :=
  if .mirConfigure ∈ es.takeWhile (· ≠ .read) then c else old

def MirConfiguresLast (es : List ScreenStep) : Prop := (es.filterMap ScreenStep.configures).getLast? = some true

def MirAppliesLast (es : List ScreenStep) : Prop := (es.filterMap ScreenStep.applies).getLast? = some true

instance (es : List ScreenStep) : Decidable (MirConfiguresLast es) :=
  inferInstanceAs (Decidable ((es.filterMap ScreenStep.configures).getLast? = some true))

instance (es : List ScreenStep) : Decidable (MirAppliesLast es) :=
  inferInstanceAs (Decidable ((es.filterMap ScreenStep.applies).getLast? = some true))

/-- The thread that configures last is the one that publishes last, and `set_power_mode` does not write back
connections that it read too early. -/
structure Harmless (mode : PowerMode) (filter : Output → Bool) (old c : DisplayConfiguration)
    (es : List ScreenStep) : Prop where
  published : (MirConfiguresLast es ↔ MirAppliesLast es) ∨
    countActiveOutputs (applyPowerMode mode filter (seen old c es)) = countActiveOutputs c
  kept : MirConfiguresLast es ∨ connections (seen old c es) = connections c

variable {mode : PowerMode} {filter : Output → Bool} {c : DisplayConfiguration}

theorem configurationApplied_exec (displayConfig : DisplayConfiguration) (s : MirScreen) :
    (exec (MirScreen.configurationApplied {} displayConfig) s).2 = { s with
      activeOutputs := countActiveOutputs displayConfig
      known := MirScreen.told s.known s.activeOutputsHandlers.toList (countActiveOutputs displayConfig) } := by
  simp only [MirScreen.configurationApplied, exec_bind, exec_modify, exec_get]
  rcases MirScreen.callHandlers_exec {} (countActiveOutputs displayConfig) s.activeOutputsHandlers.toList
      { s with activeOutputs := countActiveOutputs displayConfig } with
    ⟨-, run⟩ | ⟨before, entry, after, left, -, -, threw, -⟩
  · rw [run]
  · cases threw

theorem next_displayConfig (s : ConcurrentScreen) {e : ScreenStep} (other : e ≠ .read) :
    (next mode filter c s e).displayConfig = s.displayConfig := by
  cases e with
  | read => exact absurd rfl other
  | start =>
      rw [next]
      split_ifs <;> rfl
  | stop | configure | applied | mirConfigure | mirApplied => rfl

theorem next_configuration (s : ConcurrentScreen) (e : ScreenStep) :
    (next mode filter c s e).screen.displayConfiguration =
      (e.configures.map fun mir => if mir then c else s.displayConfig).getD s.screen.displayConfiguration := by
  cases e with
  | start =>
      rw [next]
      split_ifs <;> rfl
  | applied | mirApplied => simp [next, call, configurationApplied_exec, ScreenStep.configures]
  | read | stop | configure | mirConfigure => rfl

theorem next_activeOutputs (s : ConcurrentScreen) (e : ScreenStep) :
    (next mode filter c s e).screen.activeOutputs =
      (e.applies.map fun mir => countActiveOutputs (if mir then c else s.displayConfig)).getD
        s.screen.activeOutputs := by
  cases e with
  | start =>
      rw [next]
      split_ifs <;> rfl
  | applied | mirApplied => simp [next, call, configurationApplied_exec, ScreenStep.applies]
  | read | stop | configure | mirConfigure => rfl

def Told (s : MirScreen) : Prop :=
  ∀ entry ∈ s.activeOutputsHandlers.toList, s.known entry.2 = some s.activeOutputs

theorem told_applied (displayConfig : DisplayConfiguration) (s : MirScreen) :
    Told (exec (MirScreen.configurationApplied {} displayConfig) s).2 := by
  rw [configurationApplied_exec]
  intro entry member
  exact if_pos (List.mem_map_of_mem member)

theorem told_next (s : ConcurrentScreen) (e : ScreenStep) (h : Told s.screen ∨ e.applies.isSome = true) :
    Told (next mode filter c s e).screen := by
  cases e with
  | applied => exact told_applied _ _
  | mirApplied => exact told_applied _ _
  | start =>
      have told : Told s.screen := by simpa [ScreenStep.applies] using h
      rw [next]
      split_ifs
      · exact told
      · exact told
  | read | stop | configure | mirConfigure =>
      have told : Told s.screen := by simpa [ScreenStep.applies] using h
      exact told

theorem told_foldl (s : ConcurrentScreen) (es : List ScreenStep)
    (h : Told s.screen ∨ ∃ e ∈ es, e.applies.isSome = true) :
    Told (es.foldl (next mode filter c) s).screen := by
  induction es generalizing s with
  | nil => simpa using h
  | cons e es ih =>
      apply ih
      rcases h with told | ⟨d, member, applies⟩
      · exact .inl (told_next s e (.inl told))
      · rcases List.mem_cons.mp member with rfl | later
        · exact .inl (told_next s d (.inr applies))
        · exact .inr ⟨d, later, applies⟩

/-- The turn with no other thread in between is `set_power_mode`. -/
theorem finish_turn (mode : PowerMode) (filter : Output → Bool) (c : DisplayConfiguration) (s : MirScreen) :
    finish mode filter c s [.read, .stop, .configure, .start, .applied] =
      ((MirScreen.setPowerMode {} mode filter).run s).2 := by
  rw [MirScreen.setPowerMode_run]
  simp only [finish, List.foldl_cons, List.foldl_nil, next, call, MirScreen.setPowerModeBody,
    MirScreen.configuration, MirScreen.stop, MirScreen.configure, MirScreen.start, exec_bind, exec_perform,
    exec_get, exec_pure]
  split_ifs
  · rw [exec_bind, exec_perform]
  · rfl

theorem connections_applyPowerMode (mode : PowerMode) (filter : Output → Bool)
    (configuration : DisplayConfiguration) :
    connections (applyPowerMode mode filter configuration) = connections configuration := by
  simp only [connections, applyPowerMode, List.map_map]
  apply List.map_congr_left
  intro output _
  simp only [Function.comp_apply]
  split_ifs <;> rfl

theorem foldl_before_read {l : List ScreenStep} (mir : ∀ e ∈ l, e.ofTurn = false) (s : ConcurrentScreen) :
    (l.foldl (next mode filter c) s).screen.displayConfiguration =
      if .mirConfigure ∈ l then c else s.screen.displayConfiguration := by
  induction l generalizing s with
  | nil => rfl
  | cons e l ih =>
      rw [List.foldl_cons, ih (fun d member => mir d (by simp [member])), next_configuration]
      have outside : e.ofTurn = false := mir e (by simp)
      cases e with
      | mirConfigure => simp [ScreenStep.configures]
      | mirApplied => simp [ScreenStep.configures]
      | read | stop | configure | start | applied => cases outside

theorem seen_split {old : DisplayConfiguration} {l r : List ScreenStep} (mir : ∀ e ∈ l, e.ofTurn = false) :
    seen old c (l ++ .read :: r) = if .mirConfigure ∈ l then c else old := by
  have other : ∀ e ∈ l, decide (e ≠ .read) = true := by
    intro e member
    have outside := mir e member
    cases e with
    | read => cases outside
    | stop | configure | start | applied | mirConfigure | mirApplied => rfl
  rw [seen, List.takeWhile_append_of_pos other]
  simp

theorem finish_last {β : Type} (field : MirScreen → β) (value : DisplayConfiguration → β)
    (caller : ScreenStep → Option Bool)
    (one : ∀ (s : ConcurrentScreen) (e : ScreenStep), field (next mode filter c s e).screen =
      ((caller e).map fun mir => value (if mir then c else s.displayConfig)).getD (field s.screen))
    {e : ScreenStep} (turn : e ∈ [.stop, .configure, .start, .applied]) (own : caller e = some false)
    {s : MirScreen} {es : List ScreenStep} (interleaving : Interleaving es) :
    field (finish mode filter c s es) = value (if (es.filterMap caller).getLast? = some true then c
      else applyPowerMode mode filter (seen s.displayConfiguration c es)) := by
  -- Before the read only Mir steps; after it the local variable stays as it is.
  obtain ⟨l, r, rfl, mir, rest⟩ := interleaving.split
  rw [← rest] at turn
  have member : e ∈ r := List.mem_of_mem_filter turn
  have read_once : ∀ d ∈ r, d ≠ .read := by
    rintro d again rfl
    have turned : ScreenStep.read ∈ r.filter ScreenStep.ofTurn := List.mem_filter.mpr ⟨again, rfl⟩
    rw [rest] at turned
    simp at turned
  set displayConfig := applyPowerMode mode filter (seen s.displayConfiguration c (l ++ .read :: r)) with read
  have local_variable : (next mode filter c (l.foldl (next mode filter c) ⟨s, []⟩) .read).displayConfig =
      displayConfig := by
    rw [read, seen_split mir, next, foldl_before_read mir]
  have last : field (finish mode filter c s (l ++ .read :: r)) =
      (r.filterMap fun d => (caller d).map fun mir => value (if mir then c else displayConfig)).getLast?.getD
        (field (next mode filter c (l.foldl (next mode filter c) ⟨s, []⟩) .read).screen) := by
    rw [finish, List.foldl_append, List.foldl_cons]
    refine Library.foldl_last_write (fun t : ConcurrentScreen => field t.screen) _
      (fun t : ConcurrentScreen => t.displayConfig = displayConfig) r ?_ ?_ local_variable
    · intro t d later same
      rw [next_displayConfig t (read_once d later), same]
    · intro t d _ same
      rw [one, same]
  obtain ⟨mirLast, final⟩ : ∃ mir, (r.filterMap caller).getLast? = some mir := by
    rw [← Option.isSome_iff_exists, List.getLast?_isSome]
    exact List.ne_nil_of_mem (List.mem_filterMap.mpr ⟨e, member, own⟩)
  -- The turn itself makes such a call after the read, so the last one is after the read.
  have whole : ((l ++ .read :: r).filterMap caller).getLast? = some mirLast := by
    rw [← List.singleton_append, List.filterMap_append, List.filterMap_append, List.getLast?_append,
      List.getLast?_append, final]
    simp
  rw [last, whole, ← List.map_filterMap, List.getLast?_map, final]
  cases mirLast <;> simp

theorem finish_displayConfiguration {s : MirScreen} {es : List ScreenStep} (interleaving : Interleaving es) :
    (finish mode filter c s es).displayConfiguration = if MirConfiguresLast es then c
      else applyPowerMode mode filter (seen s.displayConfiguration c es) :=
  finish_last (e := .configure) MirScreen.displayConfiguration id ScreenStep.configures next_configuration
    (by simp) rfl interleaving

theorem finish_activeOutputs {s : MirScreen} {es : List ScreenStep} (interleaving : Interleaving es) :
    (finish mode filter c s es).activeOutputs = countActiveOutputs (if MirAppliesLast es then c
      else applyPowerMode mode filter (seen s.displayConfiguration c es)) :=
  finish_last (e := .applied) MirScreen.activeOutputs countActiveOutputs ScreenStep.applies next_activeOutputs
    (by simp) rfl interleaving

theorem finish_told {s : MirScreen} {es : List ScreenStep} (interleaving : Interleaving es) :
    Told (finish mode filter c s es) := by
  have member : ScreenStep.mirApplied ∈ es.filter (fun e => !e.ofTurn) := by simp [interleaving.mir]
  exact told_foldl _ es (.inr ⟨.mirApplied, List.mem_of_mem_filter member, rfl⟩)

/-- Nothing is lost exactly when one thread has the last word, and has seen the other's connections. -/
theorem noLostUpdate_iff (mode : PowerMode) (filter : Output → Bool) (c : DisplayConfiguration) (s : MirScreen)
    {es : List ScreenStep} (interleaving : Interleaving es) :
    NoLostUpdate c (finish mode filter c s es) ↔ Harmless mode filter s.displayConfiguration c es := by
  set displayConfig := applyPowerMode mode filter (seen s.displayConfiguration c es) with turned
  have same : connections displayConfig = connections (seen s.displayConfiguration c es) :=
    connections_applyPowerMode mode filter _
  have counted : (finish mode filter c s es).activeOutputs =
        countActiveOutputs (finish mode filter c s es).displayConfiguration ↔
      (MirConfiguresLast es ↔ MirAppliesLast es) ∨ countActiveOutputs displayConfig = countActiveOutputs c := by
    rw [finish_displayConfiguration interleaving, finish_activeOutputs interleaving, ← turned]
    split_ifs with applies configures configures
    · simp [applies, configures]
    · simp [applies, configures, eq_comm]
    · simp [applies, configures]
    · simp [applies, configures]
  have kept : connections (finish mode filter c s es).displayConfiguration = connections c ↔
      MirConfiguresLast es ∨ connections (seen s.displayConfiguration c es) = connections c := by
    rw [finish_displayConfiguration interleaving, ← turned]
    split_ifs with configures
    · simp [configures]
    · simp [configures, same]
  constructor
  · intro safe
    exact ⟨counted.mp safe.counted, kept.mp safe.kept⟩
  · intro harmless
    exact ⟨counted.mpr harmless.published, finish_told interleaving, kept.mpr harmless.kept⟩

def writesBack : List ScreenStep := [.read, .mirConfigure, .mirApplied, .stop, .configure, .start, .applied]

theorem noLostUpdate_fails :
    let old : DisplayConfiguration := [⟨.other 7, true, true, .on⟩, ⟨.hdmia, false, false, .off⟩]
    let c : DisplayConfiguration := [⟨.other 7, true, true, .on⟩, ⟨.hdmia, true, true, .on⟩]
    let s : MirScreen := { compositorRunning := true, displayConfiguration := old }
    ¬ ∀ es, Interleaving es → NoLostUpdate c (finish .on (getPowerModeFilterForOutputFilter .all) c s es) := by
  intro old c s h
  have lost := (h writesBack ⟨by decide, by decide⟩).kept
  have reverted : connections (finish .on (getPowerModeFilterForOutputFilter .all) c s
      writesBack).displayConfiguration = connections old := by
    rw [finish_displayConfiguration ⟨by decide, by decide⟩]
    decide
  rw [reverted] at lost
  revert lost
  decide

theorem noLostUpdate_mirLast :
    let old : DisplayConfiguration := [⟨.other 7, true, true, .on⟩, ⟨.hdmia, false, false, .off⟩]
    let c : DisplayConfiguration := [⟨.other 7, true, true, .on⟩, ⟨.hdmia, true, true, .on⟩]
    let s : MirScreen := { compositorRunning := true, displayConfiguration := old }
    let es : List ScreenStep := [.read, .stop, .configure, .start, .mirConfigure, .applied, .mirApplied]
    NoLostUpdate c (finish .off (getPowerModeFilterForOutputFilter .all) c s es) := by
  intro old c s es
  exact (noLostUpdate_iff .off (getPowerModeFilterForOutputFilter .all) c s ⟨by decide, by decide⟩).mpr
    ⟨.inl (by decide), .inl (by decide)⟩

end ConcurrentScreen
end SystemCompositor
