import Mathlib.Data.List.Forall2
import Mathlib.Data.List.Nodup
import SystemCompositor.MirScreen.Exceptions

namespace SystemCompositor
open Std

inductive ScreenCall
  | stop
  | configure (displayConfig : DisplayConfiguration)
  | start
  | handler (owner handler : Nat) (activeOutputs : ActiveOutputs)
deriving DecidableEq

def ScreenCall.configured : ScreenCall → Option DisplayConfiguration
  | .configure displayConfig => some displayConfig
  | .stop | .start | .handler _ _ _ => none

/-- The screen with the calls it has made, where nothing throws. -/
structure TracedScreen where
  screen : MirScreen
  calls : List ScreenCall := []

namespace TracedScreen
open ScreenM

def call (t : TracedScreen) (c : ScreenCall) (m : ScreenM Unit) : TracedScreen :=
  ⟨(exec m t.screen).2, t.calls ++ [c]⟩

def stop (t : TracedScreen) : TracedScreen := t.call .stop (MirScreen.stop {})

def configure (t : TracedScreen) (displayConfig : DisplayConfiguration) : TracedScreen :=
  t.call (.configure displayConfig) (MirScreen.configure {} displayConfig)

def start (t : TracedScreen) : TracedScreen := t.call .start (MirScreen.start {})

def callHandler (activeOutputs : ActiveOutputs) (t : TracedScreen) (entry : Nat × Nat) : TracedScreen :=
  t.call (.handler entry.1 entry.2 activeOutputs) (MirScreen.callHandler {} entry activeOutputs)

def configurationApplied (t : TracedScreen) (displayConfig : DisplayConfiguration) : TracedScreen :=
  let counted := { t with screen := { t.screen with activeOutputs := countActiveOutputs displayConfig } }
  counted.screen.activeOutputsHandlers.toList.foldl (callHandler counted.screen.activeOutputs) counted

def setPowerMode (t : TracedScreen) (mode : PowerMode) (filter : Output → Bool) : TracedScreen :=
  let displayConfig := applyPowerMode mode filter t.screen.displayConfiguration
  let configured := t.stop.configure displayConfig
  let started := if hasActiveOutputs displayConfig then configured.start else configured
  started.configurationApplied displayConfig

def turnOn (t : TracedScreen) (outputFilter : OutputFilter) : TracedScreen :=
  t.setPowerMode .on (getPowerModeFilterForOutputFilter outputFilter)

def turnOff (t : TracedScreen) (outputFilter : OutputFilter) : TracedScreen :=
  t.setPowerMode .off (getPowerModeFilterForOutputFilter outputFilter)

theorem callHandlers_eq (outputs : ActiveOutputs) (entries : List (Nat × Nat)) (t : TracedScreen) :
    entries.foldl (callHandler outputs) t =
      ⟨{ t.screen with known := MirScreen.told t.screen.known entries outputs },
        t.calls ++ entries.map fun entry => .handler entry.1 entry.2 outputs⟩ := by
  induction entries generalizing t with
  | nil => simp
  | cons entry entries ih =>
      rw [List.foldl_cons, ih, callHandler, call, MirScreen.callHandler_exec]
      simp [MirScreen.told_cons]

theorem setPowerMode_eq (t : TracedScreen) (mode : PowerMode) (filter : Output → Bool) :
    let displayConfig := applyPowerMode mode filter t.screen.displayConfiguration
    t.setPowerMode mode filter =
      ⟨{ t.screen with
          compositorRunning := hasActiveOutputs displayConfig
          displayConfiguration := displayConfig
          activeOutputs := countActiveOutputs displayConfig
          known := MirScreen.told t.screen.known t.screen.activeOutputsHandlers.toList
            (countActiveOutputs displayConfig) },
        t.calls ++ [.stop, .configure displayConfig] ++
          (if hasActiveOutputs displayConfig then [.start] else []) ++
          t.screen.activeOutputsHandlers.toList.map fun entry =>
            .handler entry.1 entry.2 (countActiveOutputs displayConfig)⟩ := by
  intro displayConfig
  simp only [setPowerMode, configurationApplied, callHandlers_eq]
  cases active : hasActiveOutputs displayConfig <;>
    simp [displayConfig, stop, configure, start, call, MirScreen.stop, MirScreen.configure, MirScreen.start,
      exec_perform]

/-- Without its trace this is `set_power_mode`. -/
theorem setPowerMode_screen {o : Outcomes} {mode : PowerMode} {filter : Output → Bool} {s : MirScreen}
    (calm : MirScreen.NothingThrows o (applyPowerMode mode filter s.displayConfiguration) s) :
    ((MirScreen.setPowerMode o mode filter).run s).2 = (setPowerMode ⟨s, []⟩ mode filter).screen := by
  rw [setPowerMode_eq]
  rw [(MirScreen.setPowerMode_ends o mode filter s).completes calm]

end TracedScreen

def Output.active (external : Bool) (output : Output) : Bool :=
  output.connected && output.used && output.powerMode = .on && isExternal output.type = external

theorem countActiveOutputs_eq (configuration : DisplayConfiguration) : countActiveOutputs configuration =
    ⟨configuration.countP (Output.active false), configuration.countP (Output.active true)⟩ := by
  have all (active : ActiveOutputs) (configuration : DisplayConfiguration) :
      configuration.foldl (fun active output =>
        if output.connected && output.used && output.powerMode = .on then
          if isExternal output.type then { active with external := active.external + 1 }
          else { active with internal := active.internal + 1 }
        else active) active =
      ⟨active.internal + configuration.countP (Output.active false),
        active.external + configuration.countP (Output.active true)⟩ := by
    induction configuration generalizing active with
    | nil => simp
    | cons output configuration ih =>
        rw [List.foldl_cons, ih, List.countP_cons, List.countP_cons]
        cases on : output.connected && output.used && output.powerMode = .on <;>
          cases external : isExternal output.type <;> simp [Output.active, on, external] <;> omega
  have counted := all ⟨0, 0⟩ configuration
  simpa [countActiveOutputs] using counted

theorem hasActiveOutputs_iff (configuration : DisplayConfiguration) : hasActiveOutputs configuration = true ↔
    (countActiveOutputs configuration).internal + (countActiveOutputs configuration).external ≠ 0 := by
  simp only [hasActiveOutputs, countActiveOutputs_eq, decide_eq_true_eq]
  omega

def OutputFilter.Matches (outputFilter : OutputFilter) (output : Output) : Prop :=
  match outputFilter with
  | .all => True
  | .internal => isExternal output.type = false
  | .external => isExternal output.type = true

theorem OutputFilter.matches_iff (outputFilter : OutputFilter) (output : Output) :
    getPowerModeFilterForOutputFilter outputFilter output = true ↔ outputFilter.Matches output := by
  cases outputFilter <;> simp [getPowerModeFilterForOutputFilter, Matches]

/-- `new` is `old` with the requested mode if it is to be changed. -/
structure Output.Turned (mode : PowerMode) (outputFilter : OutputFilter) (old new : Output) : Prop where
  changed : old.connected = true → old.used = true → outputFilter.Matches old → new = { old with powerMode := mode }
  kept : ¬(old.connected = true ∧ old.used = true ∧ outputFilter.Matches old) → new = old

theorem applyPowerMode_turned (mode : PowerMode) (outputFilter : OutputFilter)
    (configuration : DisplayConfiguration) :
    List.Forall₂ (Output.Turned mode outputFilter) configuration
      (applyPowerMode mode (getPowerModeFilterForOutputFilter outputFilter) configuration) := by
  rw [applyPowerMode, List.forall₂_map_right_iff, List.forall₂_same]
  intro output _
  refine ⟨fun connected used selected => ?_, fun other => ?_⟩
  · simp [connected, used, (outputFilter.matches_iff output).mpr selected]
  · rw [if_neg]
    simpa [Bool.and_eq_true, and_assoc, outputFilter.matches_iff] using other

structure Turned (mode : PowerMode) (outputFilter : OutputFilter) (s : MirScreen) (t : TracedScreen) : Prop where
  configured : t.calls.filterMap ScreenCall.configured = [t.screen.displayConfiguration]
  changed : List.Forall₂ (Output.Turned mode outputFilter) s.displayConfiguration t.screen.displayConfiguration
  counted : t.screen.activeOutputs = ⟨t.screen.displayConfiguration.countP (Output.active false),
    t.screen.displayConfiguration.countP (Output.active true)⟩
  called : ∀ owner handler, s.activeOutputsHandlers[owner]? = some handler →
    t.calls.count (.handler owner handler t.screen.activeOutputs) = 1
  only : ∀ owner handler outputs, .handler owner handler outputs ∈ t.calls →
    s.activeOutputsHandlers[owner]? = some handler ∧ outputs = t.screen.activeOutputs
  running : t.screen.compositorRunning = true ↔
    t.screen.activeOutputs.internal + t.screen.activeOutputs.external ≠ 0

theorem count_handlers (handlers : TreeMap Nat Nat) (outputs : ActiveOutputs) {owner handler : Nat}
    (registered : handlers[owner]? = some handler) :
    (handlers.toList.map fun entry => ScreenCall.handler entry.1 entry.2 outputs).count
      (.handler owner handler outputs) = 1 := by
  apply List.count_eq_one_of_mem
  · refine List.Pairwise.map _ (fun a b apart same => ?_) (TreeMap.distinct_keys_toList (t := handlers))
    simp only [ScreenCall.handler.injEq] at same
    exact apart (by simp [same.1])
  · exact List.mem_map.mpr ⟨(owner, handler), TreeMap.mem_toList_iff_getElem?_eq_some.mpr registered, rfl⟩

theorem turned (mode : PowerMode) (outputFilter : OutputFilter) (s : MirScreen) :
    Turned mode outputFilter s
      (TracedScreen.setPowerMode ⟨s, []⟩ mode (getPowerModeFilterForOutputFilter outputFilter)) := by
  rw [TracedScreen.setPowerMode_eq]
  have changed := applyPowerMode_turned mode outputFilter s.displayConfiguration
  have handlers (outputs : ActiveOutputs) : (s.activeOutputsHandlers.toList.map fun entry =>
      ScreenCall.handler entry.1 entry.2 outputs).filterMap ScreenCall.configured = [] := by
    simp [List.filterMap_map, Function.comp_def, ScreenCall.configured]
  generalize applyPowerMode mode _ s.displayConfiguration = displayConfig at changed ⊢
  refine ⟨?_, changed, countActiveOutputs_eq displayConfig, fun owner handler registered => ?_,
    fun owner handler outputs member => ?_, hasActiveOutputs_iff displayConfig⟩
  · cases hasActiveOutputs displayConfig <;>
      simp [List.filterMap_cons, handlers, ScreenCall.configured]
  · rw [List.count_append, count_handlers _ _ registered]
    cases hasActiveOutputs displayConfig <;> simp
  · rcases List.mem_append.mp member with before | told
    · cases active : hasActiveOutputs displayConfig <;> simp [active] at before
    · obtain ⟨entry, listed, same⟩ := List.mem_map.mp told
      obtain ⟨rfl, rfl, rfl⟩ := ScreenCall.handler.inj same
      exact ⟨TreeMap.mem_toList_iff_getElem?_eq_some.mp listed, rfl⟩

/-- Turning off one class of outputs leaves none of it active, and the other class as it was. -/
theorem countP_off (external : Bool) (configuration : DisplayConfiguration) :
    let off := applyPowerMode .off
      (getPowerModeFilterForOutputFilter (if external then .external else .internal)) configuration
    off.countP (Output.active external) = 0 ∧
      off.countP (Output.active !external) = configuration.countP (Output.active !external) := by
  simp only [applyPowerMode, List.countP_map]
  constructor
  · rw [List.countP_eq_zero]
    rintro ⟨type, connected, used, powerMode⟩ _
    cases external <;> cases kind : isExternal type <;> cases connected <;> cases used <;>
      simp [getPowerModeFilterForOutputFilter, Output.active, kind]
  · apply List.countP_congr
    rintro ⟨type, connected, used, powerMode⟩ _
    cases external <;> cases kind : isExternal type <;> cases connected <;> cases used <;>
      simp [getPowerModeFilterForOutputFilter, Output.active, kind]

theorem applyPowerMode_both (mode : PowerMode) (configuration : DisplayConfiguration) :
    let turn := fun outputFilter => applyPowerMode mode (getPowerModeFilterForOutputFilter outputFilter)
    turn .external (turn .internal configuration) = turn .all configuration ∧
      turn .internal (turn .external configuration) = turn .all configuration := by
  simp only [applyPowerMode, List.map_map]
  constructor <;> apply List.map_congr_left <;> rintro ⟨type, connected, used, powerMode⟩ _ <;>
    cases kind : isExternal type <;> cases connected <;> cases used <;>
      simp [getPowerModeFilterForOutputFilter, kind]

structure SameEffect (t u : TracedScreen) : Prop where
  configured : t.screen.displayConfiguration = u.screen.displayConfiguration
  counted : t.screen.activeOutputs = u.screen.activeOutputs
  running : t.screen.compositorRunning = u.screen.compositorRunning

theorem sameEffect_setPowerMode {mode : PowerMode} {filter filter' : Output → Bool} {t u : TracedScreen}
    (same : applyPowerMode mode filter t.screen.displayConfiguration =
      applyPowerMode mode filter' u.screen.displayConfiguration) :
    SameEffect (t.setPowerMode mode filter) (u.setPowerMode mode filter') := by
  rw [TracedScreen.setPowerMode_eq, TracedScreen.setPowerMode_eq, same]
  exact ⟨rfl, rfl, rfl⟩

theorem sameEffect_both (mode : PowerMode) (s : MirScreen) :
    let turn := fun outputFilter (t : TracedScreen) =>
      t.setPowerMode mode (getPowerModeFilterForOutputFilter outputFilter)
    SameEffect (turn .external (turn .internal ⟨s, []⟩)) (turn .all ⟨s, []⟩) ∧
      SameEffect (turn .internal (turn .external ⟨s, []⟩)) (turn .all ⟨s, []⟩) := by
  intro turn
  have configured (outputFilter : OutputFilter) : (turn outputFilter ⟨s, []⟩).screen.displayConfiguration =
      applyPowerMode mode (getPowerModeFilterForOutputFilter outputFilter) s.displayConfiguration := by
    simp only [turn, TracedScreen.setPowerMode_eq]
  obtain ⟨externalLast, internalLast⟩ := applyPowerMode_both mode s.displayConfiguration
  constructor
  · apply sameEffect_setPowerMode
    rw [configured]
    exact externalLast
  · apply sameEffect_setPowerMode
    rw [configured]
    exact internalLast

theorem turn_effect (s : MirScreen) :
    (∀ outputFilter, Turned .on outputFilter s (TracedScreen.turnOn ⟨s, []⟩ outputFilter) ∧
      Turned .off outputFilter s (TracedScreen.turnOff ⟨s, []⟩ outputFilter)) ∧
    (∀ o outputFilter,
      let filter := getPowerModeFilterForOutputFilter outputFilter
      (MirScreen.NothingThrows o (applyPowerMode .on filter s.displayConfiguration) s →
        s.turnOn o outputFilter = (TracedScreen.turnOn ⟨s, []⟩ outputFilter).screen) ∧
      (MirScreen.NothingThrows o (applyPowerMode .off filter s.displayConfiguration) s →
        s.turnOff o outputFilter = (TracedScreen.turnOff ⟨s, []⟩ outputFilter).screen)) ∧
    (TracedScreen.turnOff ⟨s, []⟩ .internal).screen.activeOutputs =
      ⟨0, (countActiveOutputs s.displayConfiguration).external⟩ ∧
    (TracedScreen.turnOff ⟨s, []⟩ .external).screen.activeOutputs =
      ⟨(countActiveOutputs s.displayConfiguration).internal, 0⟩ ∧
    SameEffect ((TracedScreen.turnOn ⟨s, []⟩ .internal).turnOn .external) (TracedScreen.turnOn ⟨s, []⟩ .all) ∧
    SameEffect ((TracedScreen.turnOn ⟨s, []⟩ .external).turnOn .internal) (TracedScreen.turnOn ⟨s, []⟩ .all) ∧
    SameEffect ((TracedScreen.turnOff ⟨s, []⟩ .internal).turnOff .external) (TracedScreen.turnOff ⟨s, []⟩ .all) ∧
    SameEffect ((TracedScreen.turnOff ⟨s, []⟩ .external).turnOff .internal)
      (TracedScreen.turnOff ⟨s, []⟩ .all) := by
  obtain ⟨onExternal, onInternal⟩ := sameEffect_both .on s
  obtain ⟨offExternal, offInternal⟩ := sameEffect_both .off s
  refine ⟨fun outputFilter => ⟨turned .on outputFilter s, turned .off outputFilter s⟩, ?_, ?_, ?_,
    onExternal, onInternal, offExternal, offInternal⟩
  · intro o outputFilter filter
    exact ⟨TracedScreen.setPowerMode_screen, TracedScreen.setPowerMode_screen⟩
  · obtain ⟨none, kept⟩ := countP_off false s.displayConfiguration
    simp only [Bool.false_eq_true, ↓reduceIte, Bool.not_false] at none kept
    rw [TracedScreen.turnOff, TracedScreen.setPowerMode_eq, countActiveOutputs_eq, countActiveOutputs_eq, none, kept]
    rfl
  · obtain ⟨none, kept⟩ := countP_off true s.displayConfiguration
    simp only [↓reduceIte, Bool.not_true] at none kept
    rw [TracedScreen.turnOff, TracedScreen.setPowerMode_eq, countActiveOutputs_eq, countActiveOutputs_eq, none, kept]
    rfl

end SystemCompositor
