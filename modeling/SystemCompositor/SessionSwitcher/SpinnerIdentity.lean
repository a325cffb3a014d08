import Mathlib.Data.Fintype.List
import Mathlib.Data.Fintype.EquivFin
import SystemCompositor.SessionSwitcher.World

namespace SystemCompositor
open Std

def AddedAsSpinner (ops : List Op) (x : Session) : Prop :=
  ∃ pid, pid ≠ 0 ∧ Op.add x pid pid ∈ ops

theorem addedAsSpinner_concat {past : List Op} {op : Op} {x : Session} :
    AddedAsSpinner (past ++ [op]) x ↔ AddedAsSpinner past x ∨ ∃ pid, pid ≠ 0 ∧ op = .add x pid pid := by
  simp only [AddedAsSpinner, List.mem_append, List.mem_singleton, and_or_left, exists_or, eq_comm]

def SpinnerIdentity (ops : List Op) : Prop :=
  ∀ past op, past ++ [op] <+: ops → ∀ w v calls, World.run {} past = .ok w →
    w.operate op = .ok (v, calls) → ∀ request x,
      .session .ensureSpinnerWillBeShown request x ∈ calls → AddedAsSpinner (past ++ [op]) x

namespace SessionSwitcher

theorem mem_showCalls {caller c : Caller} {mode : ShowMode} {request : Request} {x y : Session}
    (member : Call.session c request y ∈ showCalls caller mode x) : c = caller ∧ y = x := by
  cases mode <;> simp [showCalls] at member <;> grind

theorem mem_displayCalls {s : SessionSwitcher} {request : Request} {x : Session}
    (member : Call.session .ensureSpinnerWillBeShown request x ∈ s.displayCalls) :
    s.tracked s.spinnerName = some x := by
  unfold displayCalls at member
  split_ifs at member with outputs
  · simp only [List.mem_append] at member
    rcases member with ((hidden | active) | next) | spinner
    · simp at hidden
    · unfold activeCalls at active
      split_ifs at active
      · obtain ⟨y, -, made⟩ := List.mem_flatMap.mp active
        cases (mem_showCalls made).1
      · cases active
    · unfold nextCalls at next
      split_ifs at next
      · obtain ⟨y, -, made⟩ := List.mem_flatMap.mp next
        cases (mem_showCalls made).1
      · simp at next
      · cases next
    · unfold spinnerCalls at spinner
      split at spinner
      · simp at spinner
      · split at spinner
        · simp at spinner
        · rename_i y stored
          rw [stored, (mem_showCalls spinner).2]
  · simp at member

theorem show_mem_displayCalls {s : SessionSwitcher} {mode : ShowMode} {x : Session}
    (outputs : s.hasActiveOutputs = true) (asked : s.spinnerMode = some mode)
    (stored : s.tracked s.spinnerName = some x) :
    .session .ensureSpinnerWillBeShown .toShow x ∈ s.displayCalls := by
  simp [displayCalls, outputs, spinnerCalls, asked, stored, showCalls]

theorem mem_outcome {s t : SessionSwitcher} {op : Op} {before : List Call} {request : Request}
    {x : Session} (recorded : s.record op = some (t, before))
    (member : Call.session .ensureSpinnerWillBeShown request x ∈ (s.outcome op).2) :
    t.tracked t.spinnerName = some x := by
  simp only [outcome, recorded, List.mem_append] at member
  rcases member with early | late
  · cases op with
    | remove session =>
        obtain ⟨y, -, -, -, rfl⟩ := record_remove recorded
        simp at early
    | _ =>
        obtain ⟨-, rfl⟩ := Prod.mk.inj (Option.some.inj recorded)
        cases early
  · exact mem_displayCalls late

end SessionSwitcher

namespace World

def Genuine (past : List Op) (w : World) : Prop :=
  ∀ x, w.switcher.tracked w.switcher.spinnerName = some x → AddedAsSpinner past x

/-- An operation puts no other session under the spinner's name: not by adding one under it, and
not by forgetting the name while a nameless client is there. -/
def Unambiguous (past : List Op) (w : World) : Op → Prop
  | .add x pid spinnerPid =>
      (if pid = spinnerPid then x.name else w.switcher.spinnerName) = x.name →
        AddedAsSpinner (past ++ [.add x pid spinnerPid]) x
  | .remove session =>
      w.switcher.record (.remove session) ≠ none → session.name = w.switcher.spinnerName →
        session.name ≠ [] → ∀ x, w.switcher.tracked [] = some x → AddedAsSpinner past x
  | _ => True

theorem genuine_iff_unambiguous {past : List Op} {w : World}
    (genuine : w.Genuine past) (op : Op) :
    (w.after op).Genuine (past ++ [op]) ↔ w.Unambiguous past op := by
  cases op with
  | add x pid spinnerPid =>
      have recorded : w.switcher.record (.add x pid spinnerPid) = some _ := rfl
      simp only [Genuine, after_switcher recorded, SessionSwitcher.settle_spinnerName,
        SessionSwitcher.settle_tracked, SessionSwitcher.tracked_insert, Unambiguous]
      constructor
      · intro after same
        exact after x (by rw [if_pos same.symm])
      · intro condition y stored
        by_cases same : x.name = if pid = spinnerPid then x.name else w.switcher.spinnerName
        · rw [if_pos same] at stored
          cases stored
          exact condition same.symm
        · have other : pid ≠ spinnerPid := fun own => same (by rw [if_pos own])
          rw [if_neg same, if_neg other] at stored
          exact addedAsSpinner_concat.mpr (.inl (genuine y stored))
  | remove session =>
      have history (y : Session) : AddedAsSpinner (past ++ [.remove session]) y ↔ AddedAsSpinner past y := by
        simp [addedAsSpinner_concat]
      cases recorded : w.switcher.record (.remove session) with
      | none =>
          simpa only [after_of_none recorded, Genuine, history, Unambiguous, recorded, ne_eq,
            not_true_eq_false, false_implies, iff_true] using genuine
      | some result =>
          obtain ⟨t, calls⟩ := result
          obtain ⟨y, -, -, rfl, -⟩ := SessionSwitcher.record_remove recorded
          simp only [Genuine, after_switcher recorded, SessionSwitcher.settle_spinnerName,
            SessionSwitcher.settle_tracked, SessionSwitcher.tracked_erase, history, Unambiguous, recorded]
          by_cases spinner : session.name = w.switcher.spinnerName
          · by_cases nameless : session.name = []
            · simp only [if_pos spinner, if_pos nameless]
              exact ⟨fun _ _ _ named => absurd nameless named, fun _ _ stored => nomatch stored⟩
            · simp only [if_pos spinner, if_neg nameless]
              exact ⟨fun after _ _ _ => after, fun condition => condition (by simp) spinner nameless⟩
          · simp only [spinner, ↓reduceIte, false_implies, implies_true, iff_true]
            exact genuine
  | markReady scene | setActiveSession name | setNextSession name | activeOutputs outputs =>
      refine ⟨fun _ => trivial, fun _ y stored => addedAsSpinner_concat.mpr (.inl (genuine y ?_))⟩
      rwa [after_tracked, after_spinnerName] at stored <;> simp

theorem impostor_shown {past : List Op} {w : World} (reached : World.run {} past = .ok w) {x : Session}
    (stored : w.switcher.tracked w.switcher.spinnerName = some x) (impostor : ¬AddedAsSpinner past x) :
    ∃ name, ¬SpinnerIdentity (past ++ [.activeOutputs ⟨1, 0⟩, .setActiveSession name]) := by
  obtain ⟨name, unused⟩ := Infinite.exists_notMem_finset ([] :: w.switcher.sessions.keys).toFinset
  simp only [List.mem_toFinset, List.mem_cons, TreeMap.mem_keys, not_or] at unused
  obtain ⟨named, unused⟩ := unused
  refine ⟨name, fun identity => ?_⟩
  have wf := run_wellFormed initial_wellFormed (run_iff.mp reached)
  let v := w.after (.activeOutputs ⟨1, 0⟩)
  have wf' : v.switcher.WellFormed := wf.outcome (.activeOutputs ⟨1, 0⟩)
  have reached' : World.run {} (past ++ [.activeOutputs ⟨1, 0⟩]) = .ok v :=
    run_iff.mpr (Library.Run.concat_iff.mpr ⟨w, run_iff.mp reached, (step_iff wf).mpr rfl⟩)
  let t : SessionSwitcher := { v.switcher with activeName := name }
  have stored' : t.tracked t.spinnerName = some x := by
    have same : v.switcher.tracked v.switcher.spinnerName = some x := by
      rw [after_tracked, after_spinnerName] <;> simp [stored]
    exact same
  have outputs : t.hasActiveOutputs = true := by
    simp [t, v, after, SessionSwitcher.outcome, SessionSwitcher.record]
  have unready : t.isSessionReadyForDisplay t.activeName = false := by
    have missing : w.switcher.sessions[name]? = none := by simpa using unused
    simp [t, v, after, SessionSwitcher.outcome, SessionSwitcher.record,
      SessionSwitcher.isSessionReadyForDisplay, missing]
  have asked : t.spinnerMode = some .asActive := by
    have expected : SessionSwitcher.isSessionExpectedToBecomeReady t.activeName = true := by
      simpa [SessionSwitcher.isSessionExpectedToBecomeReady, t] using named
    simp [SessionSwitcher.spinnerMode, SessionSwitcher.showActive, unready, expected]
  have shown := SessionSwitcher.show_mem_displayCalls outputs asked stored'
  have added := identity (past ++ [.activeOutputs ⟨1, 0⟩]) (.setActiveSession name) (by simp) v _ _
    reached' (operate_eq wf' _) .toShow x
    (by simpa [SessionSwitcher.outcome, SessionSwitcher.record] using shown)
  rw [addedAsSpinner_concat, addedAsSpinner_concat] at added
  exact impostor (by simpa using added)

/-- Every run whose operations put no other session under the spinner's name shows only the spinner
process as the spinner, and the condition is exact: it holds of a run if and only if no prefix of the
run lets another session be shown as the spinner as soon as a session that is not ready is named. -/
theorem spinnerIdentity_of_unambiguous (ops : List Op) :
    (Library.Along Step (fun past w => w.Unambiguous past) {} ops → SpinnerIdentity ops) ∧
    (Library.Along Step (fun past w => w.Unambiguous past) {} ops ↔ ∀ past, past <+: ops → ∀ name,
      SpinnerIdentity (past ++ [.activeOutputs ⟨1, 0⟩, .setActiveSession name])) := by
  have total (past : List Op) (m : World) (op : Op) (before : Library.Run Step {} past m) :
      ∃ t, Step m op t :=
    ⟨_, step_eq (run_wellFormed initial_wellFormed before) op⟩
  have genuine := Library.throughout_iff_along (fun past w => w.Genuine past)
    (fun past w => w.Unambiguous past) (s := ({} : World))
    (by intro x stored; simp [SessionSwitcher.tracked] at stored) total
    (by
      intro past m op v before inv step
      obtain rfl := (step_iff (run_wellFormed initial_wellFormed before)).mp step
      exact genuine_iff_unambiguous inv op)
  have secure {ops : List Op} (allowed : Library.Along Step (fun past w => w.Unambiguous past) {} ops) :
      SpinnerIdentity ops := by
    intro past op le w v calls reached operated request x member
    have wf := run_wellFormed initial_wellFormed (run_iff.mp reached)
    rw [operate_eq wf, Except.ok.injEq, Prod.mk.injEq] at operated
    obtain ⟨rfl, rfl⟩ := operated
    have stored : (w.after op).switcher.tracked (w.after op).switcher.spinnerName = some x := by
      cases recorded : w.switcher.record op with
      | none => simp [SessionSwitcher.outcome, recorded] at member
      | some result =>
          obtain ⟨t, before⟩ := result
          simpa [after_switcher recorded] using SessionSwitcher.mem_outcome recorded member
    exact (genuine ops).mpr allowed (past ++ [op]) le _
      (Library.Run.concat_iff.mpr ⟨w, run_iff.mp reached, (step_iff wf).mpr rfl⟩) x stored
  refine ⟨secure, fun allowed past le name => secure ?_, fun identity => ?_⟩
  · have quiet := allowed.restrict le
    have first : Library.Along Step (fun past w => w.Unambiguous past) {}
        (past ++ [.activeOutputs ⟨1, 0⟩]) := quiet.concat (fun _ _ => trivial)
    have second : Library.Along Step (fun past w => w.Unambiguous past) {}
        (past ++ [.activeOutputs ⟨1, 0⟩] ++ [.setActiveSession name]) := first.concat (fun _ _ => trivial)
    simpa using second
  · refine (genuine ops).mp fun past le w before x stored => ?_
    by_contra impostor
    obtain ⟨name, fooled⟩ := impostor_shown (run_iff.mpr before) stored impostor
    exact fooled (identity past le name)

theorem spinnerIdentity_fails :
    ¬SpinnerIdentity [.setActiveSession [97], .add ⟨1, ⟨1, [115]⟩⟩ 7 7, .add ⟨2, ⟨2, [115]⟩⟩ 1000 7] ∧
    ¬SpinnerIdentity [.setActiveSession [97], .add ⟨2, ⟨2, []⟩⟩ 1000 7] ∧
    ¬SpinnerIdentity [.setActiveSession [97], .add ⟨2, ⟨2, [120]⟩⟩ 0 0] := by
  have fooled (past : List Op) (op : Op) (x : Session) (request : Request)
      (shown : (World.run {} past).bind (fun w => (w.operate op).map fun r =>
        decide (Call.session .ensureSpinnerWillBeShown request x ∈ r.2)) = .ok true)
      (other : ¬AddedAsSpinner (past ++ [op]) x) : ¬SpinnerIdentity (past ++ [op]) := by
    intro identity
    obtain ⟨w, reached⟩ := run_total initial_wellFormed past
    have wf := run_wellFormed initial_wellFormed (run_iff.mp reached)
    have operated := operate_eq wf op
    rw [reached, Except.bind, operated, Except.map, Except.ok.injEq, decide_eq_true_eq] at shown
    exact other (identity past op (List.prefix_refl _) w _ _ reached operated request x shown)
  refine ⟨fooled [.setActiveSession [97], .add ⟨1, ⟨1, [115]⟩⟩ 7 7] _ ⟨2, ⟨2, [115]⟩⟩ .toShow
      (by decide) ?_, fooled [.setActiveSession [97]] _ ⟨2, ⟨2, []⟩⟩ .toShow (by decide) ?_,
    fooled [.setActiveSession [97]] _ ⟨2, ⟨2, [120]⟩⟩ .toShow (by decide) ?_⟩
  all_goals simp [AddedAsSpinner]

end World
end SystemCompositor
