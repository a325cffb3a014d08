import Mathlib.Logic.Function.Basic
import SystemCompositor.Library.Run
import SystemCompositor.SessionSwitcher.Effects

namespace SystemCompositor
open Std

/-- What the switcher's calls have made of the scene. Sessions are stacked topmost first. What is visible is
told by the wrapper the calls were made on; two wrappers of one scene session would show and hide the same. -/
structure Scene where
  visible : Session → Bool := fun _ => false
  stacking : List Session := []

namespace Scene

def perform (scene : Scene) : Call → Scene
  | .session _ .toShow x => { scene with visible := Function.update scene.visible x true }
  | .session _ .toHide x => { scene with visible := Function.update scene.visible x false }
  | .session _ .toRaiseAndFocus x =>
      { scene with stacking := x :: scene.stacking.filter fun y => y ≠ x }
  | .ensureRunning | .kill => scene

def performAll (scene : Scene) (calls : List Call) : Scene := calls.foldl perform scene

@[simp] theorem performAll_nil (scene : Scene) : scene.performAll [] = scene := rfl

@[simp] theorem performAll_append (scene : Scene) (calls later : List Call) :
    scene.performAll (calls ++ later) = (scene.performAll calls).performAll later :=
  List.foldl_append

theorem visible_hides (scene : Scene) (caller : Caller) (xs : List Session) (z : Session) :
    (scene.performAll (xs.map (.session caller .toHide))).visible z =
      (scene.visible z && decide (z ∉ xs)) := by
  induction xs generalizing scene with
  | nil => simp
  | cons x xs ih =>
      rw [List.map_cons, performAll, List.foldl_cons, ← performAll, ih]
      by_cases same : z = x <;> simp [perform, same]

theorem visible_showCalls (scene : Scene) (caller : Caller) (mode : ShowMode) (x z : Session) :
    (scene.performAll (SessionSwitcher.showCalls caller mode x)).visible z =
      (decide (z = x) || scene.visible z) := by
  cases mode <;> by_cases same : z = x <;>
    simp [SessionSwitcher.showCalls, performAll, perform, same]

end Scene

namespace SessionSwitcher

/-- Whether an update leaves a tracked session visible, from whether it was visible before. -/
def displays (s : SessionSwitcher) (x : Session) (before : Bool) : Bool :=
  if !s.hasActiveOutputs then false
  else if s.spinnerMode.isSome && x.name == s.spinnerName then true
  else if s.showActive && (x.name == s.activeName ||
      x.name == s.nextName && s.isSessionReadyForDisplay s.nextName) then true
  else if s.uninteresting x then false
  else if !s.showActive && x.name == s.nextName && s.isSessionReadyForDisplay s.nextName then false
  else before

theorem WellFormed.eq_tracked_iff {s : SessionSwitcher} (wf : s.WellFormed) {name : Name} {x z : Session}
    (stored : s.tracked name = some x) : z = x ↔ s.Tracks z ∧ z.name = name := by
  constructor
  · rintro rfl
    exact ⟨wf.tracks stored, wf.tracked_name stored⟩
  · rintro ⟨tracks, rfl⟩
    exact Option.some.inj (tracks.symm.trans stored)

theorem visible_activeCalls {s : SessionSwitcher} (wf : s.WellFormed) (scene : Scene) (z : Session) :
    (scene.performAll s.activeCalls).visible z =
      (decide (s.showActive = true ∧ s.Tracks z ∧ z.name = s.activeName) || scene.visible z) := by
  unfold activeCalls
  cases active : s.showActive with
  | false => simp
  | true =>
      obtain ⟨x, stored⟩ := tracked_of_ready (Bool.and_eq_true_iff.mp active).2
      simp [stored, Scene.visible_showCalls, wf.eq_tracked_iff stored]

theorem visible_nextCalls {s : SessionSwitcher} (wf : s.WellFormed) (scene : Scene) (z : Session) :
    (scene.performAll s.nextCalls).visible z =
      if s.isSessionReadyForDisplay s.nextName = true ∧ s.Tracks z ∧ z.name = s.nextName then
        s.showActive
      else scene.visible z := by
  unfold nextCalls
  cases ready : s.isSessionReadyForDisplay s.nextName with
  | false => simp
  | true =>
      obtain ⟨x, stored⟩ := tracked_of_ready ready
      have same := wf.eq_tracked_iff (z := z) stored
      cases active : s.showActive with
      | true => simp [stored, Scene.visible_showCalls, same]
      | false =>
          have hidden := scene.visible_hides .hideSession [x] z
          simp only [List.map_cons, List.map_nil, List.mem_singleton, same] at hidden
          by_cases hit : s.Tracks z ∧ z.name = s.nextName <;> simp [stored, hidden, hit]

theorem visible_spinnerCalls {s : SessionSwitcher} (wf : s.WellFormed) (scene : Scene) (z : Session) :
    (scene.performAll s.spinnerCalls).visible z =
      (decide (s.spinnerMode.isSome = true ∧ s.Tracks z ∧ z.name = s.spinnerName) || scene.visible z) := by
  unfold spinnerCalls
  cases s.spinnerMode with
  | none => simp [Scene.performAll, Scene.perform]
  | some mode =>
      cases stored : s.tracked s.spinnerName with
      | none =>
          have absent : ¬(s.Tracks z ∧ z.name = s.spinnerName) := by
            rintro ⟨tracks, named⟩
            rw [Tracks, named, stored] at tracks
            cases tracks
          simp [Scene.performAll, Scene.perform, absent]
      | some x => simp [Scene.visible_showCalls, wf.eq_tracked_iff stored]

theorem visible_displayCalls {s : SessionSwitcher} (wf : s.WellFormed) (scene : Scene) (z : Session) :
    (scene.performAll s.displayCalls).visible z =
      if s.Tracks z then s.displays z (scene.visible z) else scene.visible z := by
  unfold displayCalls
  cases outputs : s.hasActiveOutputs with
  | false =>
      by_cases tracks : s.Tracks z <;>
        simp [Scene.visible_hides, wf.mem_sessionList, tracks, displays, outputs]
  | true =>
      simp only [↓reduceIte, Scene.performAll_append, visible_spinnerCalls wf, visible_nextCalls wf,
        visible_activeCalls wf, Scene.visible_hides, List.mem_filter, wf.mem_sessionList]
      by_cases tracks : s.Tracks z
      · simp only [tracks, displays, outputs, uninteresting, bne, true_and, ↓reduceIte]
        cases s.spinnerMode.isSome <;> cases s.showActive <;>
          cases s.isSessionReadyForDisplay s.nextName <;>
          by_cases spinner : z.name = s.spinnerName <;> by_cases active : z.name = s.activeName <;>
          by_cases next : z.name = s.nextName <;> simp_all
      · simp [tracks]

end SessionSwitcher
end SystemCompositor
