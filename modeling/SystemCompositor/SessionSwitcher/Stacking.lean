import SystemCompositor.Library.LastOf
import SystemCompositor.SessionSwitcher.World

namespace SystemCompositor
open Library Std

def Call.raised : Call → Option Session
  | .session _ .toRaiseAndFocus x => some x
  | .session _ .toShow _ | .session _ .toHide _ | .ensureRunning | .kill => none

theorem stacking_perform (scene : Scene) (c : Call) : (scene.perform c).stacking =
    match c.raised with
    | some x => x :: scene.stacking.filter fun y => y ≠ x
    | none => scene.stacking := by
  cases c with
  | session caller request x => cases request <;> rfl
  | ensureRunning | kill => rfl

theorem head_stacking (scene : Scene) (calls : List Call) :
    (scene.performAll calls).stacking.head? = (lastOf Call.raised calls).or scene.stacking.head? := by
  induction calls using List.reverseRecOn with
  | nil => rfl
  | append_singleton calls c ih =>
      rw [Scene.performAll_append, lastOf_concat, Scene.performAll, List.foldl_cons, List.foldl_nil,
        stacking_perform]
      cases c.raised with
      | some x => rfl
      | none => exact ih

namespace SessionSwitcher

theorem raised_requests (caller : Caller) {request : Request} (quiet : request ≠ .toRaiseAndFocus)
    (xs : List Session) : lastOf Call.raised (xs.map (.session caller request)) = none := by
  have none (x : Session) : Call.raised (.session caller request x) = Option.none := by
    cases request with
    | toRaiseAndFocus => exact absurd rfl quiet
    | toShow | toHide => rfl
  simp [lastOf, List.filterMap_map, none]

theorem raised_showCalls (caller : Caller) (mode : ShowMode) (x : Session) :
    lastOf Call.raised (showCalls caller mode x) = if mode = .asActive then some x else none := by
  cases mode <;> simp [showCalls, lastOf, List.filterMap_cons, Call.raised]

theorem raised_spinnerCalls (s : SessionSwitcher) : lastOf Call.raised s.spinnerCalls =
    if s.spinnerMode = some .asActive then s.tracked s.spinnerName else none := by
  unfold spinnerCalls
  cases s.spinnerMode with
  | none => rfl
  | some mode =>
      cases s.tracked s.spinnerName with
      | none => cases mode <;> rfl
      | some x => cases mode <;> exact raised_showCalls ..

/-- An update raises the active session, or the spinner's in its place, and nothing after it. -/
theorem raised_displayCalls {s : SessionSwitcher} (outputs : s.hasActiveOutputs = true) :
    lastOf Call.raised s.displayCalls =
      if s.showActive then s.tracked s.activeName
      else if isSessionExpectedToBecomeReady s.activeName then s.tracked s.spinnerName
      else none := by
  have next : lastOf Call.raised s.nextCalls = none := by
    unfold nextCalls
    cases s.tracked s.nextName with
    | none => split_ifs <;> rfl
    | some x =>
        split_ifs
        · simp [raised_showCalls]
        · exact raised_requests .hideSession (by decide) [x]
        · rfl
  rw [displayCalls, if_pos outputs, lastOf_append, lastOf_append, lastOf_append, next,
    raised_requests .hideUninterestingSessions (by decide)]
  cases active : s.showActive with
  | true =>
      have mode : s.spinnerMode ≠ some .asActive := by
        simp only [spinnerMode, active, ↓reduceIte]
        split_ifs <;> simp
      obtain ⟨x, stored⟩ := tracked_of_ready (Bool.and_eq_true_iff.mp active).2
      simp [raised_spinnerCalls, mode, activeCalls, active, stored, raised_showCalls]
  | false =>
      have mode : s.spinnerMode =
          if isSessionExpectedToBecomeReady s.activeName then some .asActive else none := by
        simp [spinnerMode, active]
      have silent : lastOf Call.raised s.activeCalls = none := by
        simp only [activeCalls, active, Bool.false_eq_true, ↓reduceIte]
        rfl
      rw [raised_spinnerCalls, mode, silent]
      cases isSessionExpectedToBecomeReady s.activeName <;> simp

end SessionSwitcher

namespace World

/-- A run with the calls it makes. -/
def trace (w : World) (ops : List Op) : Except Fault (World × List Call) :=
  ops.foldlM (fun (reached : World × List Call) op => do
    let (v, calls) ← reached.1.operate op
    return (v, reached.2 ++ calls)) (w, [])

theorem trace_total (ops : List Op) : ∃ w calls, trace {} ops = .ok (w, calls) ∧
    World.run {} ops = .ok w ∧ w.scene = ({} : Scene).performAll calls := by
  induction ops using List.reverseRecOn with
  | nil => exact ⟨{}, [], rfl, rfl, rfl⟩
  | append_singleton ops op ih =>
      obtain ⟨w, calls, traced, ran, scene⟩ := ih
      have wf := run_wellFormed initial_wellFormed (run_iff.mp ran)
      have operated := operate_eq wf op
      refine ⟨w.after op, calls ++ (w.switcher.outcome op).2, ?_, ?_, ?_⟩
      · rw [trace] at traced ⊢
        rw [List.foldlM_append, traced]
        simp [SwitcherM.ok_bind, operated, SwitcherM.pure_ok]
      · exact run_iff.mpr (Library.Run.concat_iff.mpr ⟨w, run_iff.mp ran, (step_iff wf).mpr rfl⟩)
      · rw [Scene.performAll_append, ← scene]
        rfl

def ActiveDisplayed (w : World) : Prop :=
  w.switcher.isSessionReadyForDisplay w.switcher.activeName = true ∧ w.switcher.booting = false

structure StackingLaw (w : World) (raised : Option Session) : Prop where
  active : w.ActiveDisplayed → ∃ x, w.switcher.tracked w.switcher.activeName = some x ∧ raised = some x
  spinner : ¬w.ActiveDisplayed → w.switcher.activeName ≠ [] →
    ∀ x, w.switcher.tracked w.switcher.spinnerName = some x → raised = some x

theorem stackingLaw_settle {w : World} {t : SessionSwitcher} (switcher : w.switcher = t.settle)
    (outputs : t.hasActiveOutputs = true) (before : Option Session) :
    w.StackingLaw ((lastOf Call.raised t.displayCalls).or before) := by
  rw [SessionSwitcher.raised_displayCalls outputs]
  have shown := t.settle_shown outputs
  constructor
  · rintro ⟨ready, booted⟩
    rw [switcher] at booted ready ⊢
    rw [SessionSwitcher.settle_activeName] at ready ⊢
    rw [ready, booted] at shown
    obtain ⟨x, stored⟩ := SessionSwitcher.tracked_of_ready ready
    rw [SessionSwitcher.settle_tracked] at stored ⊢
    exact ⟨x, stored, by simp [← shown, stored]⟩
  · intro hidden named x stored
    rw [ActiveDisplayed, switcher] at hidden
    rw [switcher] at named stored
    have waiting : SessionSwitcher.isSessionExpectedToBecomeReady t.activeName = true := by
      simpa [SessionSwitcher.isSessionExpectedToBecomeReady] using named
    have off : t.showActive = false := by
      rw [← shown]
      simpa using hidden
    simp only [SessionSwitcher.settle_spinnerName, SessionSwitcher.settle_tracked] at stored
    simp [off, waiting, stored]

theorem stacking_reached {ops : List Op} {w : World} (reached : Library.Run Step {} ops w)
    (outputs : w.switcher.hasActiveOutputs = true) : w.StackingLaw w.scene.stacking.head? := by
  refine induct (fun _ w => w.switcher.hasActiveOutputs = true → w.StackingLaw w.scene.stacking.head?)
    initial_wellFormed ?_ ?_ reached outputs
  · intro _
    refine ⟨fun displayed => ?_, fun _ expected => absurd rfl expected⟩
    cases displayed.2
  · intro past m op _ wf inv outputs
    -- An operation either leaves everything as it is or ends in an update, which decides the top anew.
    cases recorded : m.switcher.record op with
    | none =>
        rw [after_of_none recorded] at outputs ⊢
        exact inv outputs
    | some result =>
        obtain ⟨t, before⟩ := result
        have switcher := after_switcher recorded
        rw [switcher, SessionSwitcher.settle_hasActiveOutputs] at outputs
        have top : (m.after op).scene.stacking.head? =
            (lastOf Call.raised t.displayCalls).or (m.scene.performAll before).stacking.head? := by
          simp only [after, SessionSwitcher.outcome, recorded, Scene.performAll_append, head_stacking]
        rw [top]
        exact stackingLaw_settle switcher outputs _

/-- `raise_and_focus` puts a session on top, so the session on top is the last one it was called for. -/
theorem stacking_law (ops : List Op) : ∃ w calls, trace {} ops = .ok (w, calls) ∧
    w.scene.stacking.head? = lastOf Call.raised calls ∧
    (w.switcher.hasActiveOutputs = true → w.StackingLaw (lastOf Call.raised calls)) := by
  obtain ⟨w, calls, traced, ran, scene⟩ := trace_total ops
  have top : w.scene.stacking.head? = lastOf Call.raised calls := by
    rw [scene, head_stacking]
    exact Option.or_none
  refine ⟨w, calls, traced, top, fun outputs => ?_⟩
  rw [← top]
  exact stacking_reached (run_iff.mp ran) outputs

end World
end SystemCompositor
