import SystemCompositor.SessionSwitcher.World

namespace SystemCompositor
open Std

namespace World

def Dark (w : World) : Prop :=
  w.switcher.activeName = [] →
    ∀ name x, w.switcher.tracked name = some x → w.scene.visible x = false

/-- The condition under which an operation keeps the scene dark, on the switcher that its update
runs on: no nameless session passes the boot gate, and neither a nameless session nor an unready
next session is visible already. -/
def StaysDark (w : World) (op : Op) : Prop :=
  ∀ t calls, w.switcher.record op = some (t, calls) → t.hasActiveOutputs = true → t.activeName = [] →
    (t.isSessionReadyForDisplay [] = true → t.allowedToDisplayActive = false) ∧
    (∀ x, t.tracked [] = some x → w.scene.visible x = false) ∧
    (∀ x, t.tracked t.nextName = some x → t.isSessionReadyForDisplay t.nextName = false →
      w.scene.visible x = false)

end World

namespace SessionSwitcher

theorem displays_of_noActive {s : SessionSwitcher} (outputs : s.hasActiveOutputs = true)
    (none : s.activeName = []) (closed : s.showActive = false) (x : Session) (before : Bool) :
    s.displays x before =
      (before && (decide (x.name = []) ||
        decide (x.name = s.nextName) && !s.isSessionReadyForDisplay s.nextName)) := by
  have idle : s.spinnerMode = Option.none := by
    simp [spinnerMode, closed, isSessionExpectedToBecomeReady, none]
  simp only [displays, outputs, idle, closed, uninteresting, none]
  by_cases nameless : x.name = []
  · by_cases next : x.name = s.nextName
    · cases ready : s.isSessionReadyForDisplay s.nextName with
      | true =>
          have opened : s.showActive = true := by
            simp [showActive, allowedToDisplayActive, none, ← nameless, next, ready]
          rw [closed] at opened
          cases opened
      | false => simp [nameless]
    · simp [nameless, Ne.symm (nameless ▸ next)]
  · by_cases next : x.name = s.nextName
    · have named : s.nextName ≠ [] := next ▸ nameless
      cases s.isSessionReadyForDisplay s.nextName <;> simp [next, named]
    · simp [nameless, next]

/-- Without an active name an update shows nothing exactly if it has nothing to leave visible. -/
theorem displays_none_iff {s : SessionSwitcher} (wf : s.WellFormed) (outputs : s.hasActiveOutputs = true)
    (none : s.activeName = []) (visible : Session → Bool) :
    (∀ name x, s.tracked name = some x → s.displays x (visible x) = false) ↔
      (s.isSessionReadyForDisplay [] = true → s.allowedToDisplayActive = false) ∧
      (∀ x, s.tracked [] = some x → visible x = false) ∧
      ∀ x, s.tracked s.nextName = some x → s.isSessionReadyForDisplay s.nextName = false →
        visible x = false := by
  have gate : s.showActive = (s.allowedToDisplayActive && s.isSessionReadyForDisplay []) := by
    rw [showActive, none]
  constructor
  · intro hidden
    have closed : s.showActive = false := by
      rw [← Bool.not_eq_true]
      intro active
      obtain ⟨x, stored⟩ := tracked_of_ready (Bool.and_eq_true_iff.mp active).2
      have shown := hidden s.activeName x stored
      simp [displays, outputs, active, wf.tracked_name stored] at shown
    have kept {name : Name} {x : Session} (stored : s.tracked name = some x) := hidden name x stored
    simp only [displays_of_noActive outputs none closed] at kept
    refine ⟨fun ready => ?_, fun x stored => ?_, fun x stored unready => ?_⟩
    · simpa [gate, ready] using closed
    · simpa [wf.tracked_name stored] using kept stored
    · simpa [wf.tracked_name stored, unready] using kept stored
  · rintro ⟨boot, nameless, next⟩ name x stored
    have closed : s.showActive = false := by
      rw [gate]
      cases ready : s.isSessionReadyForDisplay [] with
      | false => simp
      | true => simp [boot ready]
    rw [displays_of_noActive outputs none closed, wf.tracked_name stored, Bool.and_eq_false_iff]
    by_cases empty : name = []
    · exact .inl (nameless x (empty ▸ stored))
    · by_cases isNext : name = s.nextName
      · cases ready : s.isSessionReadyForDisplay s.nextName with
        | true => simp [empty]
        | false => exact .inl (next x (isNext ▸ stored) ready)
      · simp [empty, isNext]

end SessionSwitcher

namespace World

theorem dark_iff_staysDark {w : World} (wf : w.switcher.WellFormed) (dark : w.Dark) (op : Op) :
    (w.after op).Dark ↔ w.StaysDark op := by
  cases recorded : w.switcher.record op with
  | none => simp [after_of_none recorded, dark, StaysDark, recorded]
  | some result =>
      obtain ⟨t, calls⟩ := result
      have wf' := wf.record recorded
      have shownAfter {name : Name} {x : Session} (stored : t.tracked name = some x) :
          (w.after op).scene.visible x = t.displays x (w.scene.visible x) := by
        rw [after_visible wf recorded, if_pos (wf'.tracks stored)]
      simp only [Dark, after_switcher recorded, SessionSwitcher.settle_activeName,
        SessionSwitcher.settle_tracked, StaysDark, recorded, Option.some.injEq, Prod.mk.injEq]
      constructor
      · rintro after t' calls' ⟨rfl, rfl⟩ outputs none
        refine (SessionSwitcher.displays_none_iff wf' outputs none w.scene.visible).mp fun name x stored => ?_
        rw [← shownAfter stored]
        exact after none name x stored
      · intro condition none name x stored
        rw [shownAfter stored]
        cases outputs : t.hasActiveOutputs with
        | false => simp [SessionSwitcher.displays, outputs]
        | true =>
            exact (SessionSwitcher.displays_none_iff wf' outputs none w.scene.visible).mpr
              (condition t calls ⟨rfl, rfl⟩ outputs none) name x stored

/-- A run keeps the scene dark without an active session exactly if every operation does. -/
theorem dark_iff (ops : List Op) :
    Library.Throughout Step (fun _ => Dark) {} ops ↔ Library.Along Step (fun _ => StaysDark) {} ops := by
  refine Library.throughout_iff_along _ _ ?_ ?_ ?_ ops
  · intro _ name x stored
    simp [SessionSwitcher.tracked] at stored
  · intro past m op before
    exact ⟨_, step_eq (run_wellFormed initial_wellFormed before) op⟩
  · intro past m op v before dark step
    have wf := run_wellFormed initial_wellFormed before
    obtain rfl := (step_iff wf).mp step
    exact dark_iff_staysDark wf dark op

theorem dark_fails :
    ¬Library.Throughout Step (fun _ => Dark) {} [.add ⟨1, ⟨1, []⟩⟩ 1000 0, .markReady 1] ∧
    ¬Library.Throughout Step (fun _ => Dark) {} [.add ⟨1, ⟨1, [115]⟩⟩ 1000 1000, .setNextSession [115],
      .setActiveSession [97], .setActiveSession []] := by
  have lit (ops : List Op) (x : Session)
      (shown : (World.run {} ops).map (fun w => (w.switcher.activeName, w.switcher.tracked x.name,
        w.scene.visible x)) = .ok ([], some x, true)) : ¬Library.Throughout Step (fun _ => Dark) {} ops := by
    intro dark
    obtain ⟨w, ran⟩ := run_total initial_wellFormed ops
    have seen := observe ran _ shown
    simp only [Prod.mk.injEq] at seen
    have hidden := dark.last (run_iff.mp ran) seen.1 x.name x seen.2.1
    rw [seen.2.2] at hidden
    cases hidden
  exact ⟨lit _ ⟨1, ⟨1, []⟩⟩ (by decide), lit _ ⟨1, ⟨1, [115]⟩⟩ (by decide)⟩

end World
end SystemCompositor
