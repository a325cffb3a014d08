import SystemCompositor.SessionSwitcher.Display

namespace SystemCompositor
open Std

namespace SessionSwitcher

theorem record_untracks {s t : SessionSwitcher} {op : Op} {before : List Call} {z : Session}
    (recorded : s.record op = some (t, before)) (tracks : s.Tracks z) (gone : ¬t.Tracks z)
    (scene : Scene) :
    (∃ x pid spinnerPid, op = .add x pid spinnerPid ∧ x.name = z.name ∧ z ≠ x) ∨
      (scene.performAll before).visible z = false := by
  cases op with
  | add x pid spinnerPid =>
      obtain ⟨rfl, -⟩ := Prod.mk.inj (Option.some.inj recorded)
      simp only [Tracks, tracked, TreeMap.getElem?_insert] at tracks gone
      by_cases same : compare x.name z.name = .eq
      · refine .inl ⟨x, pid, spinnerPid, rfl, by simpa using same, ?_⟩
        rintro rfl
        simp at gone
      · simp only [same, ↓reduceIte] at gone
        exact absurd tracks gone
  | remove session =>
      obtain ⟨x, stored, -, rfl, rfl⟩ := record_remove recorded
      simp only [Tracks, tracked, TreeMap.getElem?_erase] at tracks gone
      by_cases same : compare session.name z.name = .eq
      · have named : session.name = z.name := by simpa using same
        have removed : x = z := by
          rw [named, tracked, tracks] at stored
          exact (Option.some.inj stored).symm
        exact .inr (by simp [Scene.performAll, Scene.perform, removed])
      · simp only [same, ↓reduceIte] at gone
        exact absurd tracks gone
  | markReady scene =>
      obtain ⟨rfl, -⟩ := Prod.mk.inj (Option.some.inj recorded)
      simp only [Tracks, tracked, TreeMap.getElem?_map] at tracks gone
      cases found : s.sessions[z.name]? with
      | none => simp [found] at tracks
      | some info =>
          simp only [found, Option.map_some, Option.bind_some, markEntry_session] at tracks gone
          exact absurd tracks gone
  | setActiveSession name | setNextSession name | activeOutputs outputs =>
      obtain ⟨rfl, -⟩ := Prod.mk.inj (Option.some.inj recorded)
      exact absurd tracks gone

theorem displays_interesting {s : SessionSwitcher} {x : Session} {before : Bool}
    (shown : s.displays x before = true) :
    s.hasActiveOutputs = true ∧
      (x.name = s.activeName ∨ x.name = s.nextName ∨ x.name = s.spinnerName) := by
  unfold displays at shown
  split_ifs at shown with outputs spinner active dull
  · exact ⟨by simpa using outputs, .inr (.inr (by simp_all))⟩
  · refine ⟨by simpa using outputs, ?_⟩
    simp only [Bool.and_eq_true, Bool.or_eq_true, beq_iff_eq] at active
    rcases active.2 with isActive | ⟨isNext, -⟩
    · exact .inl isActive
    · exact .inr (.inl isNext)
  · refine ⟨by simpa using outputs, ?_⟩
    by_cases isActive : x.name = s.activeName
    · exact .inl isActive
    · exact .inr (.inl (by simpa [uninteresting, isActive] using dull))

/-- An update would leave `x` on screen without showing it: `x` is named active or next, but it is not
shown as the active session nor as the spinner, and a ready next session is shown or hidden. -/
def Strands (s : SessionSwitcher) (x : Session) : Prop :=
  (x.name = s.activeName ∨ x.name = s.nextName) ∧
  ¬(x.name = s.nextName ∧ s.isSessionReadyForDisplay s.nextName = true) ∧
  ¬(x.name = s.activeName ∧ s.showActive = true) ∧
  ¬(x.name = s.spinnerName ∧ s.spinnerMode.isSome = true)

theorem displays_false_iff {s : SessionSwitcher} {x : Session} : s.displays x false = true ↔
    s.hasActiveOutputs = true ∧ (s.spinnerMode.isSome = true ∧ x.name = s.spinnerName ∨
      s.showActive = true ∧ (x.name = s.activeName ∨
        x.name = s.nextName ∧ s.isSessionReadyForDisplay s.nextName = true)) := by
  unfold displays
  split_ifs <;> simp_all

theorem displays_true_iff {s : SessionSwitcher} {x : Session} : s.displays x true = true ↔
    s.displays x false = true ∨ s.hasActiveOutputs = true ∧ s.Strands x := by
  rw [displays_false_iff]
  unfold displays Strands uninteresting
  cases outputs : s.hasActiveOutputs with
  | false => simp
  | true =>
      by_cases active : x.name = s.activeName <;> by_cases next : x.name = s.nextName <;>
        by_cases spinner : x.name = s.spinnerName <;> cases s.showActive <;> cases s.spinnerMode.isSome <;>
        cases s.isSessionReadyForDisplay s.nextName <;> simp_all

end SessionSwitcher

namespace World

def NoOrphan (w : World) : Prop :=
  ∀ x, w.scene.visible x = true → w.switcher.tracked x.name = some x

def KeepsHold (w : World) : Op → Prop
  | .add x _ _ => ∀ old, w.switcher.tracked x.name = some old → w.scene.visible old = true → old = x
  | _ => True

theorem noOrphan_iff_keepsHold {w : World} (wf : w.switcher.WellFormed) (held : w.NoOrphan) (op : Op) :
    (w.after op).NoOrphan ↔ w.KeepsHold op := by
  constructor
  · intro after
    cases op with
    | add x pid spinnerPid =>
        intro old stored shown
        by_contra other
        have recorded : w.switcher.record (.add x pid spinnerPid) = some _ := rfl
        have replaced : (w.after (.add x pid spinnerPid)).switcher.tracked x.name = some x := by
          simp [after_switcher recorded, SessionSwitcher.tracked]
        have named := wf.tracked_name stored
        have still : (w.after (.add x pid spinnerPid)).scene.visible old = true := by
          rw [after_visible wf recorded, if_neg]
          · exact shown
          · simp [SessionSwitcher.Tracks, SessionSwitcher.tracked, named, Ne.symm other]
        have kept := after old still
        rw [named, replaced] at kept
        exact other (Option.some.inj kept).symm
    | _ => trivial
  · intro keeps
    cases recorded : w.switcher.record op with
    | none => rwa [after_of_none recorded]
    | some result =>
        obtain ⟨t, calls⟩ := result
        intro z shown
        rw [after_switcher recorded, SessionSwitcher.settle_tracked]
        by_contra (gone : ¬t.Tracks z)
        rw [after_visible wf recorded, if_neg gone] at shown
        have tracks := held z (SessionSwitcher.record_before recorded _ shown)
        rcases SessionSwitcher.record_untracks recorded tracks gone w.scene with
          ⟨x, pid, spinnerPid, rfl, named, other⟩ | hidden
        · exact other (keeps z (named ▸ tracks) (SessionSwitcher.record_before recorded _ shown))
        · rw [hidden] at shown
          cases shown

theorem visible_interesting {ops : List Op} {w : World} (reached : Library.Run Step {} ops w) {x : Session}
    (tracks : w.switcher.Tracks x) (shown : w.scene.visible x = true) :
    w.switcher.hasActiveOutputs = true ∧ (x.name = w.switcher.activeName ∨
      x.name = w.switcher.nextName ∨ x.name = w.switcher.spinnerName) := by
  refine induct (fun _ w => ∀ x, w.switcher.Tracks x →
    w.scene.visible x = true → w.switcher.hasActiveOutputs = true ∧ (x.name = w.switcher.activeName ∨
      x.name = w.switcher.nextName ∨ x.name = w.switcher.spinnerName)) initial_wellFormed ?_ ?_ reached x tracks shown
  · intro x _ shown
    cases shown
  · intro past m op _ wf inv x tracks shown
    cases recorded : m.switcher.record op with
    | none =>
        rw [after_of_none recorded] at tracks shown ⊢
        exact inv x tracks shown
    | some result =>
        obtain ⟨t, calls⟩ := result
        rw [after_switcher recorded, SessionSwitcher.settle_tracks] at tracks
        rw [after_visible wf recorded, if_pos tracks] at shown
        simpa [after_switcher recorded] using SessionSwitcher.displays_interesting shown

theorem remove_untracks (w : World) (session : SceneSession) {x : Session}
    (own : x.sceneSession = session) : (w.after (.remove session)).switcher.tracked x.name ≠ some x := by
  subst own
  intro stored
  cases recorded : w.switcher.record (.remove x.sceneSession) with
  | none =>
      rw [after_of_none recorded] at stored
      change w.switcher.tracked x.sceneSession.name = some x at stored
      simp [SessionSwitcher.record, stored, Session.correspondsTo] at recorded
  | some result =>
      obtain ⟨t, calls⟩ := result
      obtain ⟨y, -, -, rfl, -⟩ := SessionSwitcher.record_remove recorded
      simp [after_switcher recorded, SessionSwitcher.tracked, Session.name] at stored

/-- The display rules call for `x` as the active or the next session, or as the spinner. -/
def RulesCall (w : World) (x : Session) : Prop :=
  w.switcher.Tracks x ∧ (w.CalledFor x ∨ w.switcher.hasActiveOutputs = true ∧
    w.switcher.spinnerMode.isSome = true ∧ x.name = w.switcher.spinnerName)

/-- `op` is to take `x` off the screen: it turns the outputs off, makes another session the active
one, or removes `x`. -/
def Dismisses (w : World) : Op → Session → Prop
  | .activeOutputs outputs, _ => outputs.internal + outputs.external = 0
  | .setActiveSession name, _ => name ≠ w.switcher.activeName
  | .remove session, x => x.sceneSession = session
  | _, _ => False

def LetsGo (w : World) : Op → Prop
  | .setActiveSession name => name ≠ w.switcher.activeName → w.switcher.hasActiveOutputs = true →
      ∀ x, w.switcher.Tracks x → w.scene.visible x = true →
        ¬({ w.switcher with activeName := name } : SessionSwitcher).Strands x
  | _ => True

theorem rulesCall_iff {w : World} {op : Op} {t : SessionSwitcher} {before : List Call}
    (recorded : w.switcher.record op = some (t, before)) (x : Session) :
    (w.after op).RulesCall x ↔ t.Tracks x ∧ t.displays x false = true := by
  simp only [RulesCall, CalledFor, after_switcher recorded, SessionSwitcher.settle_tracks,
    SessionSwitcher.settle_hasActiveOutputs, SessionSwitcher.settle_spinnerMode, SessionSwitcher.settle_ready,
    SessionSwitcher.settle_activeName, SessionSwitcher.settle_nextName, SessionSwitcher.settle_spinnerName,
    SessionSwitcher.displays_false_iff]
  refine and_congr_right fun _ => ?_
  cases outputs : t.hasActiveOutputs with
  | false => simp
  | true =>
      have shown := t.settle_shown outputs
      rw [SessionSwitcher.settle_ready] at shown
      rw [← shown]
      by_cases active : x.name = t.activeName <;> by_cases next : x.name = t.nextName <;>
        cases t.settle.booting <;> simp_all [or_comm]

theorem NoOrphan.shown {w : World} {op : Op} (wf : w.switcher.WellFormed) (tracks : (w.after op).NoOrphan)
    {t : SessionSwitcher} {before : List Call} (recorded : w.switcher.record op = some (t, before))
    {x : Session} (shown : (w.after op).scene.visible x = true) :
    t.Tracks x ∧ t.displays x (w.scene.visible x) = true := by
  have stored : (w.after op).switcher.Tracks x := tracks x shown
  rw [after_switcher recorded, SessionSwitcher.settle_tracks] at stored
  rw [after_visible wf recorded, if_pos stored] at shown
  exact ⟨stored, shown⟩

theorem called_iff {w : World} {op : Op} (wf : w.switcher.WellFormed) (tracks : (w.after op).NoOrphan)
    {t : SessionSwitcher} {before : List Call} (recorded : w.switcher.record op = some (t, before)) :
    (∀ x, (w.after op).scene.visible x = true → (w.after op).RulesCall x) ↔
      (t.hasActiveOutputs = true → ∀ x, t.Tracks x → w.scene.visible x = true → ¬t.Strands x) := by
  simp only [rulesCall_iff recorded]
  constructor
  · intro called outputs x stored shown strands
    have still : (w.after op).scene.visible x = true := by
      rw [after_visible wf recorded, if_pos stored, shown, SessionSwitcher.displays_true_iff]
      exact .inr ⟨outputs, strands⟩
    have rules := (called x still).2
    rw [SessionSwitcher.displays_false_iff] at rules
    obtain ⟨-, next, active, spinner⟩ := strands
    rcases rules with ⟨-, ⟨mode, named⟩ | ⟨shows, named | named⟩⟩
    · exact spinner ⟨named, mode⟩
    · exact active ⟨named, shows⟩
    · exact next named
  · intro lets x shown
    obtain ⟨stored, displayed⟩ := tracks.shown wf recorded shown
    refine ⟨stored, ?_⟩
    cases before : w.scene.visible x with
    | false => rwa [before] at displayed
    | true =>
        rw [before, SessionSwitcher.displays_true_iff] at displayed
        rcases displayed with called | ⟨outputs, strands⟩
        · exact called
        · exact absurd strands (lets outputs x stored before)

theorem dismissed_iff {w : World} (wf : w.switcher.WellFormed) {op : Op} (tracks : (w.after op).NoOrphan) :
    (∀ x, w.Dismisses op x → (w.after op).scene.visible x = true → (w.after op).RulesCall x) ↔
      w.LetsGo op := by
  cases op with
  | activeOutputs outputs =>
      refine iff_of_true (fun x (off : outputs.internal + outputs.external = 0) shown => ?_) trivial
      have displayed := (tracks.shown wf rfl shown).2
      simp [SessionSwitcher.displays, off] at displayed
  | remove session =>
      refine iff_of_true (fun x own shown => ?_) trivial
      exact absurd (tracks x shown) (remove_untracks w session own)
  | setActiveSession name =>
      have called := called_iff wf tracks rfl
      constructor
      · exact fun dismissed another => called.mp fun x => dismissed x another
      · exact fun lets x another => called.mpr (lets another) x
  | add x pid spinnerPid | setNextSession name | markReady scene =>
      exact iff_of_true (fun x dismissed => dismissed.elim) trivial

theorem step_deterministic (s : World) (op : Op) (t t' : World) (step : s.Step op t)
    (step' : s.Step op t') : t = t' :=
  Except.ok.inj (step.symm.trans step')

/-- No session object is on screen that is not tracked, and none that the last operation dismissed
unless the display rules call for it. -/
def OffScreen (past : List Op) (w : World) : Prop :=
  w.NoOrphan ∧ ∀ earlier op, past = earlier ++ [op] → ∀ m, Library.Run Step {} earlier m →
    ∀ x, m.Dismisses op x → w.scene.visible x = true → w.RulesCall x

theorem offScreen_concat {past : List Op} {m : World} (reached : Library.Run Step {} past m) {op : Op} :
    OffScreen (past ++ [op]) (m.after op) ↔ (m.after op).NoOrphan ∧
      ∀ x, m.Dismisses op x → (m.after op).scene.visible x = true → (m.after op).RulesCall x := by
  constructor
  · rintro ⟨held, dismissed⟩
    exact ⟨held, dismissed past op rfl m reached⟩
  · rintro ⟨held, dismissed⟩
    refine ⟨held, fun earlier last same n reached' => ?_⟩
    obtain ⟨rfl, rfl⟩ := List.append_singleton_inj.mp same
    obtain rfl := Library.Run.unique step_deterministic reached reached'
    exact dismissed

/-- A run leaves no orphan, and none of its operations leaves a session on screen that it should have
dismissed, exactly if no `add` takes the name of a visible session from it and no new active session
strands a visible one. -/
theorem noOrphan_iff (ops : List Op) :
    (Library.Throughout Step OffScreen {} ops ↔
      Library.Along Step (fun _ w op => w.KeepsHold op ∧ w.LetsGo op) {} ops) ∧
    (Library.Throughout Step OffScreen {} ops → ∀ w, World.run {} ops = .ok w →
      (w.switcher.hasActiveOutputs = false → ∀ x, w.scene.visible x = false) ∧
      (∀ x, w.scene.visible x = true → x.name = w.switcher.activeName ∨
        x.name = w.switcher.nextName ∨ x.name = w.switcher.spinnerName) ∧
      (∀ past session, ops = past ++ [.remove session] → ∀ x, x.sceneSession = session →
        w.scene.visible x = false)) := by
  refine ⟨Library.throughout_iff_along _ _ ?_ ?_ ?_ ops, ?_⟩
  · exact ⟨fun x shown => absurd shown (by simp), fun earlier op same => absurd same (by simp)⟩
  · intro past m op before
    exact ⟨_, step_eq (run_wellFormed initial_wellFormed before) op⟩
  · intro past m op v before held step
    have wf := run_wellFormed initial_wellFormed before
    obtain rfl := (step_iff wf).mp step
    rw [offScreen_concat before, noOrphan_iff_keepsHold wf held.1]
    refine and_congr_right fun keeps => ?_
    exact dismissed_iff wf ((noOrphan_iff_keepsHold wf held.1 op).mpr keeps)
  · intro held w ran
    have reached := run_iff.mp ran
    have tracks := (held.last reached).1
    refine ⟨fun off x => ?_, fun x shown => (visible_interesting reached (tracks x shown) shown).2, ?_⟩
    · rw [← Bool.not_eq_true]
      intro shown
      have on := (visible_interesting reached (tracks x shown) shown).1
      rw [off] at on
      cases on
    · rintro past session rfl x own
      obtain ⟨m, before, step⟩ := Library.Run.concat_iff.mp reached
      have wf := run_wellFormed initial_wellFormed before
      obtain rfl := (step_iff wf).mp step
      rw [← Bool.not_eq_true]
      exact fun shown => remove_untracks m session own (tracks x shown)

theorem noOrphan_fails :
    ¬Library.Throughout Step (fun _ => NoOrphan) {} [.add ⟨1, ⟨1, [97]⟩⟩ 1000 0, .setActiveSession [97],
      .markReady 1, .add ⟨2, ⟨2, [97]⟩⟩ 2000 0, .activeOutputs ⟨0, 0⟩] ∧
    ¬Library.Throughout Step OffScreen {} [.add ⟨1, ⟨1, [115]⟩⟩ 7 7, .setNextSession [115],
      .add ⟨2, ⟨2, [98]⟩⟩ 1000 7, .markReady 2, .setActiveSession [98], .add ⟨3, ⟨3, [116]⟩⟩ 7 7,
      .setActiveSession [99]] := by
  constructor
  · intro held
    obtain ⟨w, ran⟩ := run_total initial_wellFormed [.add ⟨1, ⟨1, [97]⟩⟩ 1000 0, .setActiveSession [97],
      .markReady 1, .add ⟨2, ⟨2, [97]⟩⟩ 2000 0, .activeOutputs ⟨0, 0⟩]
    have seen := observe ran (fun w => (w.scene.visible ⟨1, ⟨1, [97]⟩⟩, w.switcher.tracked [97]))
      (v := (true, some ⟨2, ⟨2, [97]⟩⟩)) (by decide)
    simp only [Prod.mk.injEq] at seen
    have kept := held.last (run_iff.mp ran) _ seen.1
    change w.switcher.tracked [97] = _ at kept
    rw [seen.2] at kept
    cases kept
  · intro held
    let earlier : List Op := [.add ⟨1, ⟨1, [115]⟩⟩ 7 7, .setNextSession [115], .add ⟨2, ⟨2, [98]⟩⟩ 1000 7,
      .markReady 2, .setActiveSession [98], .add ⟨3, ⟨3, [116]⟩⟩ 7 7]
    obtain ⟨m, before⟩ := run_total initial_wellFormed earlier
    obtain ⟨w, ran⟩ := run_total initial_wellFormed (earlier ++ [.setActiveSession [99]])
    have active := observe before (fun m => m.switcher.activeName) (v := [98]) (by decide +kernel)
    have seen := observe ran (fun w => (w.scene.visible ⟨1, ⟨1, [115]⟩⟩,
      w.switcher.isSessionReadyForDisplay [115], w.switcher.spinnerName)) (v := (true, false, [116]))
      (by decide +kernel)
    simp only [Prod.mk.injEq] at seen
    have another : m.Dismisses (.setActiveSession [99]) ⟨1, ⟨1, [115]⟩⟩ := by
      change [99] ≠ m.switcher.activeName
      rw [active]
      decide
    obtain ⟨-, ⟨-, -, -, ready, -⟩ | ⟨-, -, named⟩⟩ :=
      (held.last (run_iff.mp ran)).2 earlier _ rfl m (run_iff.mp before) _ another seen.1
    · rw [show (⟨1, ⟨1, [115]⟩⟩ : Session).name = [115] from rfl, seen.2.1] at ready
      cases ready
    · rw [seen.2.2] at named
      exact absurd named (by decide)

end World
end SystemCompositor
