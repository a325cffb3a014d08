import SystemCompositor.Library.LastOf
import SystemCompositor.Library.Run
import SystemCompositor.MirScreen.Exceptions

namespace SystemCompositor
open Std Library

inductive PowerRequest
  | turnOn (o : Outcomes) (outputFilter : OutputFilter)
  | turnOff (o : Outcomes) (outputFilter : OutputFilter)

namespace PowerRequest

def mode : PowerRequest → PowerMode
  | .turnOn .. => .on
  | .turnOff .. => .off

def outputFilter : PowerRequest → OutputFilter
  | .turnOn _ outputFilter | .turnOff _ outputFilter => outputFilter

def outcomes : PowerRequest → Outcomes
  | .turnOn o _ | .turnOff o _ => o

/-- The mode that the request is to give the output. -/
def sets (output : Output) (r : PowerRequest) : Option PowerMode :=
  if output.connected && output.used && getPowerModeFilterForOutputFilter r.outputFilter output then some r.mode
  else none

end PowerRequest

/-- The output after the requests, the last one that concerns it deciding. -/
def Output.requested (rs : List PowerRequest) (output : Output) : Output :=
  { output with powerMode := (lastOf (PowerRequest.sets output) rs).getD output.powerMode }

namespace MirScreen

def request (s : MirScreen) : PowerRequest → MirScreen
  | .turnOn o outputFilter => s.turnOn o outputFilter
  | .turnOff o outputFilter => s.turnOff o outputFilter

def requestedConfiguration (s : MirScreen) (r : PowerRequest) : DisplayConfiguration :=
  applyPowerMode r.mode (getPowerModeFilterForOutputFilter r.outputFilter) s.displayConfiguration

/-- A request during which nothing throws. -/
structure CalmRequest (s : MirScreen) (r : PowerRequest) (t : MirScreen) : Prop where
  calm : NothingThrows r.outcomes (s.requestedConfiguration r) s
  result : t = s.request r

theorem request_ends (s : MirScreen) (r : PowerRequest) :
    Ends r.outcomes (s.requestedConfiguration r) s (s.request r) := by
  cases r with
  | turnOn o outputFilter => exact setPowerMode_ends o .on _ s
  | turnOff o outputFilter => exact setPowerMode_ends o .off _ s

theorem requested_concat (rs : List PowerRequest) (r : PowerRequest) (configuration : DisplayConfiguration) :
    configuration.map (Output.requested (rs ++ [r])) = applyPowerMode r.mode
      (getPowerModeFilterForOutputFilter r.outputFilter) (configuration.map (Output.requested rs)) := by
  rw [applyPowerMode, List.map_map]
  refine List.map_congr_left fun output _ => ?_
  have same : getPowerModeFilterForOutputFilter r.outputFilter (Output.requested rs output) =
      getPowerModeFilterForOutputFilter r.outputFilter output := by
    cases r.outputFilter <;> rfl
  simp only [Function.comp_apply, same]
  by_cases sets : (output.connected && output.used && getPowerModeFilterForOutputFilter r.outputFilter output) = true
  · have set : PowerRequest.sets output r = some r.mode := if_pos sets
    simp only [Output.requested, lastOf_concat, set, sets, ↓reduceIte]
    rfl
  · have set : PowerRequest.sets output r = none := if_neg sets
    simp only [Output.requested, lastOf_concat, set, sets, Bool.false_eq_true, ↓reduceIte]
    rfl

structure Obeys (rs : List PowerRequest) (s t : MirScreen) : Prop where
  modes : t.displayConfiguration = s.displayConfiguration.map (Output.requested rs)
  handlers : t.activeOutputsHandlers = s.activeOutputsHandlers
  counted : rs ≠ [] → t.activeOutputs = countActiveOutputs t.displayConfiguration
  running : rs ≠ [] → t.compositorRunning = hasActiveOutputs t.displayConfiguration
  told : rs ≠ [] → ∀ owner handler : Nat, s.activeOutputsHandlers[owner]? = some handler →
    t.known handler = some t.activeOutputs

/-- Over any run of requests that end well each output has the mode that the last request for it gave it. -/
theorem power_modes {s t : MirScreen} {rs : List PowerRequest} (run : Run CalmRequest s rs t) : Obeys rs s t := by
  refine run.invariant (fun rs t => Obeys rs s t) ?_ ?_
  · exact ⟨(List.map_id _).symm, rfl, by simp, by simp, by simp⟩
  · rintro past m r t - obeys ⟨calm, rfl⟩
    rw [(m.request_ends r).completes calm]
    refine ⟨?_, obeys.handlers, fun _ => rfl, fun _ => rfl, fun _ owner handler registered => ?_⟩
    · rw [requested_concat, ← obeys.modes]
      rfl
    · refine if_pos (List.mem_map.mpr ⟨(owner, handler), ?_, rfl⟩)
      rw [obeys.handlers]
      exact TreeMap.mem_toList_iff_getElem?_eq_some.mpr registered

theorem calmRequest (s : MirScreen) (r : PowerRequest) (calm : r.outcomes = {}) : CalmRequest s r (s.request r) :=
  ⟨by rw [calm]; exact ⟨rfl, rfl, rfl, fun _ => rfl, fun _ _ => rfl⟩, rfl⟩

def docked : MirScreen :=
  { compositorRunning := true, displayConfiguration := [⟨.other 7, true, true, .on⟩, ⟨.hdmia, true, true, .on⟩] }

theorem power_modes_docked : ∃ t, Run CalmRequest docked
    [.turnOff {} .all, .turnOn {} .external, .turnOff {} .internal] t ∧ t.activeOutputs = ⟨0, 1⟩ ∧
      t.compositorRunning = true := by
  have run : Run CalmRequest docked [.turnOff {} .all, .turnOn {} .external, .turnOff {} .internal] _ :=
    .cons (calmRequest _ _ rfl) (.cons (calmRequest _ _ rfl) (.cons (calmRequest _ _ rfl) (.nil _)))
  have obeys := power_modes run
  have modes := obeys.modes
  refine ⟨_, run, ?_, ?_⟩
  · rw [obeys.counted (by simp), modes]
    decide
  · rw [obeys.running (by simp), modes]
    decide

end MirScreen

end SystemCompositor
