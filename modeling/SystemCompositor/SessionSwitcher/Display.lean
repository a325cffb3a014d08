import SystemCompositor.SessionSwitcher.World

namespace SystemCompositor
open Std

def addedSessions (ops : List Op) : List Session :=
  ops.filterMap fun
    | .add session _ _ => some session
    | _ => none

@[simp] theorem addedSessions_concat (past : List Op) (op : Op) :
    addedSessions (past ++ [op]) = addedSessions past ++ addedSessions [op] := by
  simp [addedSessions]

/-- No state reached along `ops` remembers `name` as the spinner's. -/
def NeverSpinner (ops : List Op) (name : Name) : Prop :=
  ∀ past, past <+: ops → ∀ v, World.run {} past = .ok v → v.switcher.spinnerName ≠ name

theorem NeverSpinner.restrict {past ops : List Op} {name : Name} (never : NeverSpinner ops name)
    (le : past <+: ops) : NeverSpinner past name :=
  fun earlier le' => never earlier (le'.trans le)

namespace SessionSwitcher

theorem displays_iff {s : SessionSwitcher} {x : Session} (ordinary : x.name ≠ s.spinnerName)
    {before : Bool}
    (proper : before = true → s.isSessionReadyForDisplay x.name = true ∧ s.booting = false) :
    s.displays x before = true ↔
      s.hasActiveOutputs = true ∧ s.settle.booting = false ∧
      s.isSessionReadyForDisplay s.activeName = true ∧ s.isSessionReadyForDisplay x.name = true ∧
      (x.name = s.activeName ∨ x.name = s.nextName) := by
  cases outputs : s.hasActiveOutputs with
  | false => simp [displays, outputs]
  | true =>
      have shown := s.settle_shown outputs
      rw [settle_ready] at shown
      cases active : s.showActive with
      | true =>
          rw [active, Bool.and_eq_true, Bool.not_eq_true'] at shown
          simp only [displays, outputs, active, uninteresting, bne, shown, Bool.not_true,
            Bool.false_eq_true, ↓reduceIte, Bool.true_and, Bool.false_and, true_and]
          by_cases isActive : x.name = s.activeName
          · simp [isActive, shown.1]
          · by_cases isNext : x.name = s.nextName
            · cases ready : s.isSessionReadyForDisplay s.nextName <;> simp_all
            · simp [isActive, isNext, ordinary]
      | false =>
          have hidden : s.displays x before = false := by
            cases stale : before with
            | false => simp [displays, outputs, active, ordinary]
            | true =>
                obtain ⟨ready, booted⟩ := proper stale
                have notActive : x.name ≠ s.activeName := by
                  intro isActive
                  rw [isActive] at ready
                  simp [showActive, allowedToDisplayActive, booted, ready] at active
                by_cases isNext : x.name = s.nextName
                · simp_all [displays, uninteresting]
                · simp [displays, uninteresting, active, ordinary, notActive, isNext]
          rw [hidden]
          constructor
          · intro impossible
            cases impossible
          · rintro ⟨-, booted, ready, -⟩
            simp [active, booted, ready] at shown

end SessionSwitcher

namespace World

def CalledFor (w : World) (x : Session) : Prop :=
  w.switcher.hasActiveOutputs = true ∧ w.switcher.booting = false ∧
    w.switcher.isSessionReadyForDisplay w.switcher.activeName = true ∧
    w.switcher.isSessionReadyForDisplay x.name = true ∧
    (x.name = w.switcher.activeName ∨ x.name = w.switcher.nextName)

theorem visible_added {ops : List Op} {w : World} (reached : Library.Run Step {} ops w) :
    ∀ x, w.scene.visible x = true ∨ w.switcher.Tracks x → x ∈ addedSessions ops := by
  refine induct (fun ops w => ∀ x, w.scene.visible x = true ∨ w.switcher.Tracks x →
    x ∈ addedSessions ops) initial_wellFormed ?_ ?_ reached
  · rintro x (shown | tracks)
    · cases shown
    · simp [SessionSwitcher.Tracks, SessionSwitcher.tracked] at tracks
  · intro past m op _ wf inv x
    rw [addedSessions_concat, List.mem_append]
    cases recorded : m.switcher.record op with
    | none =>
        rw [after_of_none recorded]
        exact fun h => .inl (inv x h)
    | some result =>
        obtain ⟨t, before⟩ := result
        rw [after_visible wf recorded, after_switcher recorded, SessionSwitcher.settle_tracks]
        by_cases tracks : t.Tracks x
        · intro _
          rcases SessionSwitcher.record_tracks recorded tracks with ⟨pid, spinnerPid, rfl⟩ | ⟨old, -⟩
          · exact .inr (by simp [addedSessions])
          · exact .inl (inv x (.inr old))
        · simp only [tracks, ↓reduceIte, or_false]
          exact fun shown => .inl (inv x (.inl (SessionSwitcher.record_before recorded _ shown)))

theorem addedOnce_fresh {past : List Op} {session : Session} {pid spinnerPid : Int}
    (once : (addedSessions (past ++ [.add session pid spinnerPid])).Nodup) :
    session ∉ addedSessions past := by
  rw [addedSessions_concat, List.nodup_append] at once
  exact fun member => once.2.2 session member session (by simp [addedSessions]) rfl

theorem visible_iff_calledFor {ops : List Op} {w : World} (once : (addedSessions ops).Nodup)
    (reached : Library.Run Step {} ops w) {x : Session} (tracks : w.switcher.Tracks x)
    (never : NeverSpinner ops x.name) : w.scene.visible x = true ↔ w.CalledFor x := by
  refine induct (fun ops w => (addedSessions ops).Nodup →
    ∀ x, w.switcher.Tracks x → NeverSpinner ops x.name → (w.scene.visible x = true ↔ w.CalledFor x))
    initial_wellFormed ?_ ?_ reached once x tracks never
  · intro _ x tracks
    simp [SessionSwitcher.Tracks, SessionSwitcher.tracked] at tracks
  · intro past m op before wf inv once x tracks never
    have oncePast : (addedSessions past).Nodup := by
      rw [addedSessions_concat, List.nodup_append] at once
      exact once.1
    have neverPast := never.restrict (List.prefix_append past [op])
    cases recorded : m.switcher.record op with
    | none =>
        rw [after_of_none recorded] at tracks ⊢
        exact inv oncePast x tracks neverPast
    | some result =>
        obtain ⟨t, calls⟩ := result
        have reachedNext : World.run {} (past ++ [op]) = .ok (m.after op) :=
          run_iff.mpr (Library.Run.concat_iff.mpr ⟨m, before, (step_iff wf).mpr rfl⟩)
        have ordinary : x.name ≠ t.spinnerName := by
          have last := never _ (List.prefix_refl _) _ reachedNext
          rw [after_switcher recorded, SessionSwitcher.settle_spinnerName] at last
          exact last.symm
        rw [after_switcher recorded, SessionSwitcher.settle_tracks] at tracks
        -- A session visible before was called for, hence ready, and shown after boot.
        have proper : m.scene.visible x = true →
            t.isSessionReadyForDisplay x.name = true ∧ t.booting = false := by
          intro shown
          rcases SessionSwitcher.record_tracks recorded tracks with ⟨pid, spinnerPid, rfl⟩ | ⟨old, ready⟩
          · exact absurd (visible_added before x (.inl shown)) (addedOnce_fresh once)
          · obtain ⟨-, booted, -, readyBefore, -⟩ := (inv oncePast x old neverPast).mp shown
            exact ⟨ready readyBefore, (SessionSwitcher.record_booting recorded).trans booted⟩
        rw [after_visible wf recorded, if_pos tracks, SessionSwitcher.displays_iff ordinary proper,
          CalledFor, after_switcher recorded]
        simp

theorem active_visible {ops : List Op} {w : World} (reached : Library.Run Step {} ops w)
    (outputs : w.switcher.hasActiveOutputs = true) (booted : w.switcher.booting = false)
    (ready : w.switcher.isSessionReadyForDisplay w.switcher.activeName = true) :
    ∃ a, w.switcher.tracked w.switcher.activeName = some a ∧ w.scene.visible a = true := by
  refine induct (fun _ w => w.switcher.hasActiveOutputs = true →
    w.switcher.booting = false → w.switcher.isSessionReadyForDisplay w.switcher.activeName = true →
    ∃ a, w.switcher.tracked w.switcher.activeName = some a ∧ w.scene.visible a = true)
    initial_wellFormed ?_ ?_ reached outputs booted ready
  · intro _ booted
    cases booted
  · intro past m op before wf inv outputs booted ready
    cases recorded : m.switcher.record op with
    | none =>
        rw [after_of_none recorded] at outputs booted ready ⊢
        exact inv outputs booted ready
    | some result =>
        obtain ⟨t, calls⟩ := result
        simp only [after_switcher recorded, SessionSwitcher.settle_hasActiveOutputs,
          SessionSwitcher.settle_activeName, SessionSwitcher.settle_ready,
          SessionSwitcher.settle_tracked] at outputs booted ready ⊢
        have shown := t.settle_shown outputs
        simp only [SessionSwitcher.settle_ready, ready, booted, Bool.not_false, Bool.and_self] at shown
        obtain ⟨a, stored⟩ := SessionSwitcher.tracked_of_ready ready
        have named := (wf.record recorded).tracked_name stored
        refine ⟨a, stored, ?_⟩
        rw [after_visible wf recorded, if_pos ((wf.record recorded).tracks stored)]
        simp [SessionSwitcher.displays, outputs, ← shown, named]

def DisplayLaw (ops : List Op) (w : World) : Prop :=
  ∀ name x, w.switcher.tracked name = some x → NeverSpinner ops x.name →
    (w.scene.visible x = true ↔
      w.switcher.hasActiveOutputs = true ∧ w.switcher.booting = false ∧
      w.switcher.isSessionReadyForDisplay w.switcher.activeName = true ∧
      w.switcher.isSessionReadyForDisplay x.name = true ∧
      (x.name = w.switcher.activeName ∨ x.name = w.switcher.nextName)) ∧
    (w.switcher.booting = true → w.scene.visible x = false) ∧
    (w.switcher.isSessionReadyForDisplay x.name = false → w.scene.visible x = false) ∧
    (w.scene.visible x = true → x.name = w.switcher.nextName →
      ∃ a, w.switcher.tracked w.switcher.activeName = some a ∧ w.scene.visible a = true)

theorem display_law (ops : List Op) (once : (addedSessions ops).Nodup) :
    ∃ w, World.run {} ops = .ok w ∧ w.DisplayLaw ops := by
  obtain ⟨w, ran⟩ := run_total initial_wellFormed ops
  have reached := run_iff.mp ran
  refine ⟨w, ran, fun name x stored never => ?_⟩
  have wf := run_wellFormed initial_wellFormed reached
  have law := visible_iff_calledFor once reached (wf.tracks stored) never
  refine ⟨law, ?_, ?_, ?_⟩
  · intro booting
    rw [← Bool.not_eq_true, law]
    exact fun called => by simp [CalledFor, booting] at called
  · intro unready
    rw [← Bool.not_eq_true, law]
    exact fun called => by simp [CalledFor, unready] at called
  · intro shown _
    obtain ⟨outputs, booted, ready, -⟩ := law.mp shown
    exact active_visible reached outputs booted ready

theorem display_law_greeter :
    let greeter : Session := ⟨1, ⟨1, [103]⟩⟩
    let ops : List Op := [.add greeter 1000 0, .setActiveSession [103], .markReady 1]
    ∃ w, World.run {} ops = .ok w ∧ w.scene.visible greeter = true := by
  intro greeter ops
  obtain ⟨w, ran, law⟩ := display_law ops (by decide)
  have never : NeverSpinner ops greeter.name := by
    intro past le v reached
    have names : ∀ past ∈ ops.inits,
        (World.run {} past).toOption.all (fun v => v.switcher.spinnerName != greeter.name) = true := by
      decide
    have apart := names past ((List.mem_inits past ops).mpr le)
    simpa [reached, Except.toOption] using apart
  have stored := observe ran (fun w => w.switcher.tracked [103]) (v := some greeter) (by decide)
  refine ⟨w, ran, (law [103] greeter stored never).1.mpr ?_⟩
  have rules := observe ran (fun w => (w.switcher.hasActiveOutputs, w.switcher.booting,
    w.switcher.activeName, w.switcher.isSessionReadyForDisplay [103])) (v := (true, false, [103], true))
    (by decide)
  simp only [Prod.mk.injEq] at rules
  obtain ⟨outputs, booted, active, ready⟩ := rules
  exact ⟨outputs, booted, active ▸ ready, ready, .inl active.symm⟩

end World
end SystemCompositor
