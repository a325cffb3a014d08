import SystemCompositor.ExternalSpinner.Children
import SystemCompositor.SessionSwitcher.Stacking
import SystemCompositor.Supervision

namespace SystemCompositor
open Library Std

def Call.sets (z : Session) : Call → Option Bool
  | .session _ .toShow x => if z = x then some true else none
  | .session _ .toHide x => if z = x then some false else none
  | .session _ .toRaiseAndFocus _ | .ensureRunning | .kill => none

namespace Scene

theorem visible_perform (scene : Scene) (c : Call) (z : Session) :
    (scene.perform c).visible z = (c.sets z).getD (scene.visible z) := by
  cases c with
  | session caller request x =>
      cases request <;> by_cases same : z = x <;> simp [perform, Call.sets, same]
  | ensureRunning | kill => rfl

theorem visible_performAll (scene : Scene) (calls : List Call) (z : Session) :
    (scene.performAll calls).visible z = (lastOf (Call.sets z) calls).getD (scene.visible z) :=
  foldl_last_write (fun s : Scene => s.visible z) (Call.sets z) (fun _ => True) calls
    (fun _ _ _ _ => trivial) (fun s c _ _ => s.visible_perform c z) trivial

/-- What the calls raise ends above the rest, in an order that does not depend on the rest. -/
theorem stacking_performAll (calls : List Call) : ∃ top : List Session,
    (∀ x ∈ top, x ∈ calls.filterMap Call.raised) ∧ ∀ scene : Scene, (scene.performAll calls).stacking =
      top ++ scene.stacking.filter fun x => x ∉ calls.filterMap Call.raised := by
  induction calls using List.reverseRecOn with
  | nil => exact ⟨[], by simp, by simp⟩
  | append_singleton calls c ih =>
      obtain ⟨top, raised, stacked⟩ := ih
      have last (scene : Scene) : (scene.performAll (calls ++ [c])).stacking =
          ((scene.performAll calls).perform c).stacking := by
        rw [performAll_append]
        rfl
      cases made : c.raised with
      | none =>
          refine ⟨top, by simpa [made] using raised, fun scene => ?_⟩
          rw [last, stacking_perform, made, stacked]
          simp [made]
      | some x =>
          refine ⟨x :: top.filter fun y => y ≠ x, ?_, fun scene => ?_⟩
          · intro y member
            rcases List.mem_cons.mp member with rfl | below
            · simp [made]
            · simp [made, raised y (List.mem_of_mem_filter below)]
          · rw [last, stacking_perform, made, stacked]
            simp [made, List.filter_filter, and_comm]

theorem performAll_idem (scene : Scene) (calls : List Call) :
    (scene.performAll calls).performAll calls = scene.performAll calls := by
  have visible : ((scene.performAll calls).performAll calls).visible = (scene.performAll calls).visible := by
    funext z
    rw [visible_performAll, visible_performAll]
    cases lastOf (Call.sets z) calls <;> rfl
  have stacking : ((scene.performAll calls).performAll calls).stacking = (scene.performAll calls).stacking := by
    obtain ⟨top, raised, stacked⟩ := stacking_performAll calls
    have gone : top.filter (fun x => x ∉ calls.filterMap Call.raised) = [] := by
      simpa using raised
    rw [stacked, stacked, List.filter_append, gone, List.filter_filter]
    simp
  exact congrArg₂ Scene.mk visible stacking

end Scene

/-- An operation that sets a value, or marks entries, whatever was there before. -/
def Op.Repeatable : Op → Prop
  | .setActiveSession _ | .setNextSession _ | .markReady _ | .activeOutputs _ => True
  | .add _ _ _ | .remove _ => False

namespace SessionSwitcher

theorem settle_settle (s : SessionSwitcher) : s.settle.settle = s.settle := by
  rw [settle, settle_hasActiveOutputs, settle_showActive]
  split_ifs with shown
  · rw [settle, if_pos shown]
  · rfl

/-- The boot latch is the only thing that an update changes, and the update decides itself again. -/
theorem settle_displayCalls (s : SessionSwitcher) : s.settle.displayCalls = s.displayCalls := by
  have dull : s.settle.uninteresting = s.uninteresting := by
    funext x
    simp [uninteresting]
  simp only [displayCalls, sessionList, activeCalls, nextCalls, spinnerCalls, settle_sessions, settle_activeName,
    settle_nextName, settle_spinnerName, settle_hasActiveOutputs, settle_tracked, settle_ready, settle_showActive,
    settle_spinnerMode, dull]

theorem impl_map_map {α β : Type} [Ord α] (m : DTreeMap.Internal.Impl α fun _ => β) (f g : α → β → β) :
    (m.map f).map g = m.map fun a b => g a (f a b) := by
  induction m with
  | leaf => rfl
  | inner size k v l r left right =>
      rw [DTreeMap.Internal.Impl.map, DTreeMap.Internal.Impl.map, left, right]
      rfl

theorem treeMap_map_map {α β : Type} {cmp : α → α → Ordering} (m : TreeMap α β cmp) (f g : α → β → β) :
    (m.map f).map g = m.map fun a b => g a (f a b) := by
  let _ : Ord α := ⟨cmp⟩
  obtain ⟨⟨inner, wf⟩⟩ := m
  simp only [TreeMap.map, DTreeMap.map, impl_map_map]

theorem markEntry_markEntry (session : Nat) (info : SessionInfo) :
    markEntry session (markEntry session info) = markEntry session info := by
  by_cases own : info.session.any fun tracked => tracked.correspondsTo session <;> simp [markEntry, own]

theorem record_again {s t : SessionSwitcher} {op : Op} {before : List Call} (repeatable : op.Repeatable)
    (recorded : s.record op = some (t, before)) : t.settle.record op = some (t.settle, []) := by
  cases op with
  | add session pid spinnerPid | remove session => exact absurd repeatable id
  | setActiveSession name | setNextSession name | activeOutputs outputs =>
      obtain ⟨rfl, -⟩ := Prod.mk.inj (Option.some.inj recorded)
      simp only [record, settle]
      split_ifs <;> rfl
  | markReady session =>
      obtain ⟨rfl, -⟩ := Prod.mk.inj (Option.some.inj recorded)
      have marked : (s.sessions.map fun _ info => markEntry session info).map
          (fun _ info => markEntry session info) = s.sessions.map fun _ info => markEntry session info := by
        simp only [treeMap_map_map, markEntry_markEntry]
      simp only [record, settle_sessions, marked]
      unfold settle
      split_ifs <;> rfl

end SessionSwitcher

namespace SpinnerHost

theorem kill_kill (h : SpinnerHost) : h.kill.kill = h.kill := by
  rw [kill_eq h.kill, if_pos h.kill_spinnerPid]

theorem ensureRunning_again (h : SpinnerHost) {forked : Int} (parent : forked ≠ 0) (later : Int) :
    (h.ensureRunning forked).ensureRunning later = h.ensureRunning forked := by
  by_cases forks : h.spinner.Forks
  · rw [ensureRunning_of_forks forks parent]
    exact ensureRunning_of_not_forks (fun again => parent again.2) later
  · rw [ensureRunning_of_not_forks forks, ensureRunning_of_not_forks forks]

theorem obey_displayCalls_again (s : SessionSwitcher) (h : SpinnerHost) {forked : Int} (parent : forked ≠ 0)
    (later : Int) : s.displayCalls.foldl (obey later) (s.displayCalls.foldl (obey forked) h) =
      s.displayCalls.foldl (obey forked) h := by
  rw [obey_displayCalls, obey_displayCalls]
  split_ifs
  · cases s.spinnerMode with
    | none => exact h.kill_kill
    | some mode =>
        cases s.tracked s.spinnerName with
        | none => exact h.ensureRunning_again parent later
        | some x => rfl
  · rfl

end SpinnerHost

/-- The switcher, the scene it shows its sessions in, and the spinner it holds. -/
structure Presentation where
  world : World
  host : SpinnerHost

namespace Presentation

def perform (p : Presentation) (body : SwitcherM Unit) (fork : Fork) : Except Fault Presentation := do
  let (_, a) ← body.run ⟨p.world.switcher, []⟩
  return ⟨⟨a.switcher, p.world.scene.performAll a.calls⟩, a.calls.foldl (SpinnerHost.obey fork.result) p.host⟩

def updateDisplayedSessions (p : Presentation) (fork : Fork) : Except Fault Presentation :=
  p.perform SessionSwitcher.updateDisplayedSessions fork

def request (p : Presentation) (op : Op) (fork : Fork) : Except Fault Presentation := p.perform op.body fork

def shown (p : Presentation) (fork : Fork) : Presentation where
  world := ⟨p.world.switcher.settle, p.world.scene.performAll p.world.switcher.displayCalls⟩
  host := p.world.switcher.displayCalls.foldl (SpinnerHost.obey fork.result) p.host

theorem updateDisplayedSessions_eq {p : Presentation} (wf : p.world.switcher.WellFormed) (fork : Fork) :
    p.updateDisplayedSessions fork = .ok (p.shown fork) := by
  rw [updateDisplayedSessions, perform, SessionSwitcher.updateDisplayedSessions_run wf]
  rfl

theorem shown_shown (p : Presentation) (first second : Fork) : (p.shown first).shown second = p.shown first := by
  simp only [shown, SessionSwitcher.settle_settle, SessionSwitcher.settle_displayCalls, Scene.performAll_idem,
    SpinnerHost.obey_displayCalls_again _ _ first.result_ne_zero]

theorem request_eq {p : Presentation} (wf : p.world.switcher.WellFormed) (op : Op) (fork : Fork) :
    p.request op fork = .ok ⟨p.world.after op,
      (p.world.switcher.outcome op).2.foldl (SpinnerHost.obey fork.result) p.host⟩ := by
  rw [request, perform, SessionSwitcher.body_run wf op]
  rfl

theorem request_again {p : Presentation} (wf : p.world.switcher.WellFormed) {op : Op} (repeatable : op.Repeatable)
    (first second : Fork) : ∃ q, p.request op first = .ok q ∧ q.request op second = .ok q := by
  refine ⟨_, request_eq wf op first, ?_⟩
  rw [request_eq (wf.outcome op)]
  cases recorded : p.world.switcher.record op with
  | none => simp [World.after_of_none recorded, SessionSwitcher.outcome, recorded]
  | some result =>
      obtain ⟨t, before⟩ := result
      have again := SessionSwitcher.record_again repeatable recorded
      simp only [World.after, SessionSwitcher.outcome, recorded, again, List.nil_append, List.foldl_append,
        Scene.performAll_append, Scene.performAll_idem, SessionSwitcher.settle_settle,
        SessionSwitcher.settle_displayCalls, SpinnerHost.obey_displayCalls_again _ _ first.result_ne_zero]

theorem idempotent (p : Presentation) (wf : p.world.switcher.WellFormed) :
    (∀ first second, ∃ q, p.updateDisplayedSessions first = .ok q ∧ q.updateDisplayedSessions second = .ok q) ∧
    ∀ op, op.Repeatable → ∀ first second, ∃ q, p.request op first = .ok q ∧ q.request op second = .ok q := by
  constructor
  · intro first second
    refine ⟨p.shown first, updateDisplayedSessions_eq wf first, ?_⟩
    rw [updateDisplayedSessions_eq wf.settle, shown_shown]
  · intro op repeatable first second
    exact request_again wf repeatable first second

theorem idempotent_greeter :
    let greeter : Session := ⟨1, ⟨1, [103]⟩⟩
    let p : Presentation :=
      ⟨({} : World).after (.add greeter 1000 0), { spinner := { executable := [115], mirSocket := [] } }⟩
    ∃ q, p.request (.setActiveSession [103]) (.child 1001 (by decide) true) = .ok q ∧
      q.request (.setActiveSession [103]) .failed = .ok q := by
  intro greeter p
  have wf : p.world.switcher.WellFormed := World.initial_wellFormed.outcome (.add greeter 1000 0)
  exact (idempotent p wf).2 (.setActiveSession [103]) trivial (.child 1001 (by decide) true) .failed

end Presentation
end SystemCompositor
