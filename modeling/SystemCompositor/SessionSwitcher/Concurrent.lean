import SystemCompositor.Library.Monitor
import SystemCompositor.SessionSwitcher.Steps

namespace SystemCompositor
open Std Library

namespace SwitcherProgram
open Program

theorem quiet_readField {α : Type} (look : SessionSwitcher → α) : Quiet SharedSwitcher.mutexHeld (read look) :=
  quiet_read _

theorem quiet_update (change : SessionSwitcher → SessionSwitcher) :
    Quiet SharedSwitcher.mutexHeld (update change) := quiet_change fun _ => rfl

theorem quiet_call (c : Call) : Quiet SharedSwitcher.mutexHeld (call c) := quiet_change fun _ => rfl

theorem quiet_deref (session : Option Session) : Quiet SharedSwitcher.mutexHeld (deref session) := by
  cases session with
  | none => exact .fault
  | some x => exact quiet_pure x

theorem quiet_entry (name : Name) : Quiet SharedSwitcher.mutexHeld (entry name) := by
  refine (quiet_readField _).bind fun found => ?_
  cases found with
  | none => exact (quiet_update _).bind fun _ => quiet_pure _
  | some info => exact quiet_pure info

theorem quiet_hideAllSessions : Quiet SharedSwitcher.mutexHeld hideAllSessions := by
  refine (quiet_readField _).bind fun entries => Quiet.forM entries fun entry => ?_
  exact (quiet_deref _).bind fun session => quiet_call _

theorem quiet_hideUninterestingSessions : Quiet SharedSwitcher.mutexHeld hideUninterestingSessions := by
  refine (quiet_readField _).bind fun entries => Quiet.forM entries fun entry => ?_
  refine (quiet_deref _).bind fun session => (quiet_readField _).bind fun activeName => .ite ?_ (quiet_pure _)
  exact (quiet_readField _).bind fun nextName => .ite (quiet_call _) (quiet_pure _)

theorem quiet_showSession (name : Name) (mode : ShowMode) :
    Quiet SharedSwitcher.mutexHeld (showSession name mode) := by
  refine (quiet_entry name).bind fun info => (quiet_deref _).bind fun session => .ite ?_ (quiet_call _)
  exact (quiet_call _).bind fun _ => quiet_call _

theorem quiet_hideSession (name : Name) : Quiet SharedSwitcher.mutexHeld (hideSession name) :=
  (quiet_entry name).bind fun _ => (quiet_deref _).bind fun _ => quiet_call _

theorem quiet_ensureSpinnerWillBeShown (mode : ShowMode) :
    Quiet SharedSwitcher.mutexHeld (ensureSpinnerWillBeShown mode) := by
  refine (quiet_readField _).bind fun spinnerName => (quiet_readField _).bind fun found => ?_
  cases found with
  | none => exact quiet_call _
  | some info =>
      refine (quiet_deref _).bind fun session => .ite ?_ (quiet_call _)
      exact (quiet_call _).bind fun _ => quiet_call _

theorem quiet_allowedToDisplayActive : Quiet SharedSwitcher.mutexHeld allowedToDisplayActive := by
  refine (quiet_readField _).bind fun nextName => (quiet_readField _).bind fun ready => .ite (quiet_pure _) ?_
  refine (quiet_readField _).bind fun nextName => .ite (quiet_pure _) ?_
  exact (quiet_readField _).bind fun booting => quiet_pure _

theorem quiet_activeToBeShown : Quiet SharedSwitcher.mutexHeld activeToBeShown := by
  refine quiet_allowedToDisplayActive.bind fun allowed => .ite ?_ (quiet_pure _)
  exact (quiet_readField _).bind fun activeName => quiet_readField _

theorem quiet_updateDisplayedSessions : Quiet SharedSwitcher.mutexHeld updateDisplayedSessions := by
  refine (quiet_readField _).bind fun outputs => .ite quiet_hideAllSessions ?_
  refine quiet_hideUninterestingSessions.bind fun _ => ?_
  extract_lets no next spinner yes displayNext active
  have quiet_spinner (shown : Bool) (mode : ShowMode) : Quiet SharedSwitcher.mutexHeld (spinner () shown mode) :=
    .ite (quiet_ensureSpinnerWillBeShown mode) (quiet_call .kill)
  have quiet_next (shown : Bool) (mode : ShowMode) (showActive : Bool) :
      Quiet SharedSwitcher.mutexHeld (displayNext () shown mode showActive) := by
    refine .ite ?_ ?_
    · refine (quiet_readField _).bind fun nextName => (quiet_readField _).bind fun ready => .ite ?_ ?_
      · refine (quiet_readField _).bind fun nextName => (quiet_showSession _ _).bind fun _ => quiet_spinner _ _
      · refine (quiet_readField _).bind fun nextName => .ite (quiet_spinner _ _) (quiet_spinner _ _)
    · refine (quiet_readField _).bind fun nextName => (quiet_readField _).bind fun ready => ?_
      refine .ite ?_ (quiet_spinner _ _)
      exact (quiet_readField _).bind fun nextName => (quiet_hideSession _).bind fun _ => quiet_spinner _ _
  refine quiet_activeToBeShown.bind fun toBeShown => .ite ?_ ?_
  · refine (quiet_readField _).bind fun activeName => (quiet_showSession _ _).bind fun _ => ?_
    exact (quiet_update _).bind fun _ => quiet_next _ _ _
  · exact (quiet_readField _).bind fun activeName => .ite (quiet_next _ _ _) (quiet_next _ _ _)

theorem inside_unlock : Inside SharedSwitcher.mutexHeld unlock := inside_change fun _ => rfl

theorem inside_update : Inside SharedSwitcher.mutexHeld (do updateDisplayedSessions; unlock) :=
  quiet_updateDisplayedSessions.inside fun _ => inside_unlock

theorem guarded_lock {f : Unit → SwitcherProgram Unit} (rest : Inside SharedSwitcher.mutexHeld (f ())) :
    Guarded SharedSwitcher.mutexHeld (lock >>= f) :=
  guarded_await (fun _ => rfl) (fun _ => rfl) rest

theorem inside_changed (change : SessionSwitcher → SessionSwitcher) :
    Inside SharedSwitcher.mutexHeld (do update change; updateDisplayedSessions; unlock) :=
  (quiet_update change).inside fun _ => inside_update

theorem guarded_add (session : Session) (pid spinnerPid : Int) :
    Guarded SharedSwitcher.mutexHeld (add session pid spinnerPid) := by
  refine guarded_lock ?_
  dsimp only
  split_ifs
  · exact (quiet_update _).inside fun _ => inside_changed _
  · exact inside_changed _

theorem guarded_remove (session : SceneSession) : Guarded SharedSwitcher.mutexHeld (remove session) := by
  refine guarded_lock ((quiet_readField _).inside fun found => ?_)
  cases found with
  | none => exact inside_unlock
  | some info =>
      dsimp only
      cases info.session with
      | none => exact inside_unlock
      | some tracked =>
          dsimp only
          split_ifs
          · exact inside_unlock
          · refine (quiet_readField _).inside fun spinnerName => ?_
            have hide : Inside SharedSwitcher.mutexHeld (do
                call (.session .remove .toHide tracked)
                update fun s => { s with sessions := s.sessions.erase session.name }
                updateDisplayedSessions
                unlock) := (quiet_call _).inside fun _ => inside_changed _
            split_ifs
            · exact (quiet_update _).inside fun _ => hide
            · exact hide

end SwitcherProgram

/-- All but the handler of the active outputs. -/
def Op.TakesLock : Op → Prop
  | .add .. | .remove _ | .setActiveSession _ | .setNextSession _ | .markReady _ => True
  | .activeOutputs _ => False

open SwitcherProgram in
theorem Op.TakesLock.guarded {op : Op} (takesLock : op.TakesLock) :
    op.program.Guarded SharedSwitcher.mutexHeld := by
  cases op with
  | add session pid spinnerPid => exact guarded_add session pid spinnerPid
  | remove session => exact guarded_remove session
  | setActiveSession name | setNextSession name | markReady scene => exact guarded_lock (inside_changed _)
  | activeOutputs outputs => cases takesLock

namespace SessionSwitcher

/-- The operations that lock `mutex`, called by any number of threads. -/
def monitor : Monitor SharedSwitcher {op : Op // op.TakesLock} where
  held := SharedSwitcher.mutexHeld
  program op := op.1.program
  guarded op := op.2.guarded

theorem monitor_performs : monitor.Performs (fun s => s.world.switcher.WellFormed)
    fun s op => ⟨s.world.after op.1, false⟩ := by
  rintro op ⟨w, held⟩ free wf
  obtain rfl : held = false := free
  exact ⟨SwitcherProgram.alone_program wf op.1, rfl, wf.outcome op.1⟩

theorem run_foldl {w : World} (wf : w.switcher.WellFormed) (order : List (Nat × {op : Op // op.TakesLock})) :
    w.run (order.map fun entry => entry.2.1) = .ok (order.foldl (fun (s : SharedSwitcher) entry =>
      ⟨s.world.after entry.2.1, false⟩) ⟨w, false⟩).world := by
  induction order generalizing w with
  | nil => rfl
  | cons entry order ih =>
      rw [List.map_cons, World.run, List.foldlM_cons, World.step_eq wf entry.2.1]
      exact ih (wf.outcome entry.2.1)

/-- Whatever the threads call and however their steps are interleaved, the switcher is left as by a sequence
of the same calls. -/
theorem linearizable {past : List Op} {w : World} (ran : World.run {} past = .ok w)
    {es : List (Pool.Event {op : Op // op.TakesLock})} {c : Pool SharedSwitcher {op : Op // op.TakesLock}}
    (run : Run monitor.Step ⟨⟨w, false⟩, []⟩ es c) :
    ∃ order, monitor.Linearizes ⟨w, false⟩ es c order ∧ (c.shared.mutexHeld = false →
      World.run {} (past ++ order.map fun entry => entry.2.1) = .ok c.shared.world) := by
  have reached := World.run_iff.mp ran
  have wf := World.run_wellFormed World.initial_wellFormed reached
  obtain ⟨order, linearizes⟩ := Monitor.linearize (m := monitor) rfl run
  refine ⟨order, linearizes, fun free => ?_⟩
  have serial := (monitor_performs.serial (s := ⟨w, false⟩) rfl wf order).1
  rw [(linearizes.settled free).1, Option.some.injEq] at serial
  rw [serial]
  exact World.run_iff.mpr (Run.append_iff.mpr ⟨w, reached, World.run_iff.mp (run_foldl wf order)⟩)

def bothCalls : List (Pool.Event {op : Op // op.TakesLock}) :=
  [.call ⟨.setActiveSession [97], trivial⟩, .step 0, .call ⟨.setNextSession [98], trivial⟩] ++
    List.replicate 15 (.step 0) ++ List.replicate 15 (.step 1)

theorem linearizable_bothCalls : ∃ c order, c.shared.mutexHeld = false ∧
    monitor.Linearizes ⟨{}, false⟩ bothCalls c order ∧
    World.run {} (order.map fun entry => entry.2.1) = .ok c.shared.world := by
  obtain ⟨c, ran, free⟩ : ∃ c, bothCalls.foldlM monitor.next ⟨⟨{}, false⟩, []⟩ = some c ∧
    c.shared.mutexHeld = false := ⟨_, rfl, rfl⟩
  have fresh : World.run {} [] = .ok {} := rfl
  obtain ⟨order, linearizes, serial⟩ := linearizable fresh (run_of_foldlM_option.mp ran)
  exact ⟨c, order, free, linearizes, serial free⟩

/-- No call faults or waits for ever: as long as one has not returned some call can go on, and steps without
new calls come to an end. -/
theorem no_call_stuck {past : List Op} {w : World} (ran : World.run {} past = .ok w)
    {es : List (Pool.Event {op : Op // op.TakesLock})} {c : Pool SharedSwitcher {op : Op // op.TakesLock}}
    (run : Run monitor.Step ⟨⟨w, false⟩, []⟩ es c) :
    (∀ entry ∈ c.calls, entry.2 ≠ .fault) ∧ (c.AllReturned ∨ ∃ k d, monitor.Step c (.step k) d) ∧
      ∀ f : Nat → Pool SharedSwitcher {op : Op // op.TakesLock}, f 0 = c →
        ∃ n, ∀ k, ¬ monitor.Step (f n) (.step k) (f (n + 1)) := by
  have wf := World.run_wellFormed World.initial_wellFormed (World.run_iff.mp ran)
  obtain ⟨sound, progress⟩ := monitor_performs.no_deadlock rfl wf run
  exact ⟨sound, progress, fun f _ => Monitor.steps_end f⟩

theorem no_call_stuck_bothCalls : ∃ c, Run monitor.Step ⟨⟨{}, false⟩, []⟩ bothCalls c ∧
    (c.AllReturned ∨ ∃ k d, monitor.Step c (.step k) d) := by
  obtain ⟨c, ran⟩ : ∃ c, bothCalls.foldlM monitor.next ⟨⟨{}, false⟩, []⟩ = some c := ⟨_, rfl⟩
  have run := run_of_foldlM_option.mp ran
  have fresh : World.run {} [] = .ok {} := rfl
  exact ⟨c, run, (no_call_stuck fresh run).2.1⟩

end SessionSwitcher
end SystemCompositor
