import SystemCompositor.SessionSwitcher.Scene

namespace SystemCompositor
open Std

namespace SessionSwitcher

@[simp] theorem settle_sessions (s : SessionSwitcher) : s.settle.sessions = s.sessions := by
  unfold settle; split_ifs <;> rfl

@[simp] theorem settle_activeName (s : SessionSwitcher) : s.settle.activeName = s.activeName := by
  unfold settle; split_ifs <;> rfl

@[simp] theorem settle_nextName (s : SessionSwitcher) : s.settle.nextName = s.nextName := by
  unfold settle; split_ifs <;> rfl

@[simp] theorem settle_spinnerName (s : SessionSwitcher) : s.settle.spinnerName = s.spinnerName := by
  unfold settle; split_ifs <;> rfl

@[simp] theorem settle_hasActiveOutputs (s : SessionSwitcher) :
    s.settle.hasActiveOutputs = s.hasActiveOutputs := by
  unfold settle; split_ifs <;> rfl

theorem settle_booting (s : SessionSwitcher) :
    s.settle.booting = (s.booting && !(s.hasActiveOutputs && s.showActive)) := by
  unfold settle; split_ifs with h <;> simp [h]

@[simp] theorem settle_tracked (s : SessionSwitcher) (name : Name) :
    s.settle.tracked name = s.tracked name := by
  simp [tracked]

@[simp] theorem settle_tracks (s : SessionSwitcher) (x : Session) : s.settle.Tracks x ↔ s.Tracks x := by
  simp [Tracks]

@[simp] theorem settle_ready (s : SessionSwitcher) (name : Name) :
    s.settle.isSessionReadyForDisplay name = s.isSessionReadyForDisplay name := by
  simp [isSessionReadyForDisplay]

@[simp] theorem settle_showActive (s : SessionSwitcher) :
    s.settle.showActive = s.showActive := by
  unfold settle
  split_ifs with shown
  · have active := (Bool.and_eq_true_iff.mp shown).2
    have ready := (Bool.and_eq_true_iff.mp active).2
    rw [active]
    simp only [showActive, allowedToDisplayActive, Bool.not_false, Bool.or_true, Bool.true_and]
    exact ready
  · rfl

@[simp] theorem settle_spinnerMode (s : SessionSwitcher) : s.settle.spinnerMode = s.spinnerMode := by
  simp [spinnerMode]

/-- With outputs on, the boot latch and the table say whether an update has shown the active session. -/
theorem settle_shown (s : SessionSwitcher) (outputs : s.hasActiveOutputs = true) :
    (s.settle.isSessionReadyForDisplay s.activeName && !s.settle.booting) = s.showActive := by
  rw [settle_booting, settle_ready, outputs]
  cases ready : s.isSessionReadyForDisplay s.activeName with
  | false => simp [showActive, ready]
  | true =>
      cases gate : s.allowedToDisplayActive with
      | true => simp [showActive, ready, gate]
      | false =>
          have closed : s.booting = true := by simp_all [allowedToDisplayActive]
          simp [showActive, gate, closed]

theorem tracked_insert (s : SessionSwitcher) (x : Session) (spinner name : Name) :
    ({ s with spinnerName := spinner, sessions := s.sessions.insert x.name { session := x } } :
      SessionSwitcher).tracked name = if x.name = name then some x else s.tracked name := by
  by_cases same : x.name = name <;> simp [tracked, TreeMap.getElem?_insert, same]

theorem tracked_erase (s : SessionSwitcher) (removed spinner name : Name) :
    ({ s with spinnerName := spinner, sessions := s.sessions.erase removed } :
      SessionSwitcher).tracked name = if removed = name then none else s.tracked name := by
  by_cases same : removed = name <;> simp [tracked, TreeMap.getElem?_erase, same]

theorem tracked_mark (s : SessionSwitcher) (scene : Nat) (name : Name) :
    ({ s with sessions := s.sessions.map fun _ info => markEntry scene info } :
      SessionSwitcher).tracked name = s.tracked name := by
  cases found : s.sessions[name]? <;> simp [tracked, found, markEntry_session]

theorem record_booting {s t : SessionSwitcher} {op : Op} {before : List Call}
    (recorded : s.record op = some (t, before)) : t.booting = s.booting := by
  cases op with
  | remove session =>
      obtain ⟨x, -, -, rfl, -⟩ := record_remove recorded
      rfl
  | _ =>
      obtain ⟨rfl, -⟩ := Prod.mk.inj (Option.some.inj recorded)
      rfl

theorem record_tracks {s t : SessionSwitcher} {op : Op} {before : List Call} {x : Session}
    (recorded : s.record op = some (t, before)) (tracks : t.Tracks x) :
    (∃ pid spinnerPid, op = .add x pid spinnerPid) ∨ s.Tracks x ∧
      (s.isSessionReadyForDisplay x.name = true → t.isSessionReadyForDisplay x.name = true) := by
  cases op with
  | add y pid spinnerPid =>
      obtain ⟨rfl, -⟩ := Prod.mk.inj (Option.some.inj recorded)
      simp only [Tracks, tracked, isSessionReadyForDisplay, TreeMap.getElem?_insert] at tracks ⊢
      by_cases same : compare y.name x.name = .eq
      · simp only [same, ↓reduceIte, Option.bind_some, Option.some.injEq] at tracks
        exact .inl ⟨pid, spinnerPid, by rw [tracks]⟩
      · simp only [same, ↓reduceIte] at tracks ⊢
        exact .inr ⟨tracks, id⟩
  | remove session =>
      obtain ⟨y, -, -, rfl, -⟩ := record_remove recorded
      simp only [Tracks, tracked, isSessionReadyForDisplay, TreeMap.getElem?_erase] at tracks ⊢
      by_cases same : compare session.name x.name = .eq
      · simp [same] at tracks
      · simp only [same, ↓reduceIte] at tracks ⊢
        exact .inr ⟨tracks, id⟩
  | markReady scene =>
      obtain ⟨rfl, -⟩ := Prod.mk.inj (Option.some.inj recorded)
      simp only [Tracks, tracked, isSessionReadyForDisplay, TreeMap.getElem?_map] at tracks ⊢
      cases found : s.sessions[x.name]? with
      | none => simp [found] at tracks
      | some info =>
          simp only [found, Option.map_some, Option.bind_some, markEntry_session] at tracks ⊢
          refine .inr ⟨tracks, fun ready => ?_⟩
          simp only [Bool.and_eq_true] at ready ⊢
          refine ⟨ready.1, ?_⟩
          unfold markEntry
          split_ifs
          · rfl
          · exact ready.2
  | setActiveSession name | setNextSession name | activeOutputs outputs =>
      obtain ⟨rfl, -⟩ := Prod.mk.inj (Option.some.inj recorded)
      exact .inr ⟨tracks, id⟩

theorem record_visible {s t : SessionSwitcher} {op : Op} {before : List Call} (wf : s.WellFormed)
    (recorded : s.record op = some (t, before)) (scene : Scene) {z : Session} (tracks : t.Tracks z) :
    (scene.performAll before).visible z = scene.visible z := by
  cases op with
  | remove session =>
      obtain ⟨x, stored, -, rfl, rfl⟩ := record_remove recorded
      have named := wf.tracked_name stored
      have other : z ≠ x := by
        rintro rfl
        simp [Tracks, tracked, named] at tracks
      simp [Scene.performAll, Scene.perform, other]
  | _ =>
      obtain ⟨-, rfl⟩ := Prod.mk.inj (Option.some.inj recorded)
      rfl

theorem record_before {s t : SessionSwitcher} {op : Op} {before : List Call}
    (recorded : s.record op = some (t, before)) (scene : Scene) {z : Session}
    (shown : (scene.performAll before).visible z = true) : scene.visible z = true := by
  cases op with
  | remove session =>
      obtain ⟨x, -, -, -, rfl⟩ := record_remove recorded
      by_cases same : z = x <;> simp_all [Scene.performAll, Scene.perform]
  | _ =>
      obtain ⟨-, rfl⟩ := Prod.mk.inj (Option.some.inj recorded)
      exact shown

end SessionSwitcher

structure World where
  switcher : SessionSwitcher := {}
  scene : Scene := {}

namespace World

def operate (w : World) (op : Op) : Except Fault (World × List Call) := do
  let (_, a) ← op.body.run ⟨w.switcher, []⟩
  return (⟨a.switcher, w.scene.performAll a.calls⟩, a.calls)

def step (w : World) (op : Op) : Except Fault World := do
  return (← w.operate op).1

def run (w : World) (ops : List Op) : Except Fault World := ops.foldlM step w

def after (w : World) (op : Op) : World :=
  ⟨(w.switcher.outcome op).1, w.scene.performAll (w.switcher.outcome op).2⟩

abbrev Step (w : World) (op : Op) (v : World) : Prop := w.step op = .ok v

theorem operate_eq {w : World} (wf : w.switcher.WellFormed) (op : Op) :
    w.operate op = .ok (w.after op, (w.switcher.outcome op).2) := by
  rw [operate, SessionSwitcher.body_run wf op]
  rfl

theorem step_eq {w : World} (wf : w.switcher.WellFormed) (op : Op) : w.step op = .ok (w.after op) := by
  rw [step, operate_eq wf op]
  rfl

theorem step_iff {w v : World} (wf : w.switcher.WellFormed) {op : Op} :
    w.Step op v ↔ v = w.after op := by
  rw [Step, step_eq wf op, Except.ok.injEq, eq_comm]

theorem run_iff {w v : World} {ops : List Op} : w.run ops = .ok v ↔ Library.Run Step w ops v :=
  Library.run_of_foldlM

theorem initial_wellFormed : ({} : World).switcher.WellFormed := by
  intro name info found
  simp at found

theorem run_wellFormed {w v : World} {ops : List Op} (wf : w.switcher.WellFormed)
    (reached : Library.Run Step w ops v) : v.switcher.WellFormed :=
  Library.Run.invariant (fun _ v => v.switcher.WellFormed) wf
    (fun _ m op t _ before step => by
      obtain rfl := (step_iff before).mp step
      exact before.outcome op) reached

theorem induct (Inv : List Op → World → Prop) {w : World} (wf : w.switcher.WellFormed)
    (start : Inv [] w)
    (next : ∀ past m op, Library.Run Step w past m → m.switcher.WellFormed → Inv past m →
      Inv (past ++ [op]) (m.after op))
    {ops : List Op} {v : World} (reached : Library.Run Step w ops v) : Inv ops v :=
  Library.Run.invariant Inv start
    (fun past m op t before inv step => by
      have sound := run_wellFormed wf before
      obtain rfl := (step_iff sound).mp step
      exact next past m op before sound inv) reached

/-- No operation dereferences a null session, so every sequence of operations runs to its end. -/
theorem run_total {w : World} (wf : w.switcher.WellFormed) (ops : List Op) : ∃ v, w.run ops = .ok v := by
  induction ops generalizing w with
  | nil => exact ⟨w, rfl⟩
  | cons op ops ih =>
      obtain ⟨v, rest⟩ := ih (w := w.after op) (wf.outcome op)
      refine ⟨v, ?_⟩
      rw [run, List.foldlM_cons, step_eq wf op]
      exact rest

theorem observe {α : Type} {w : World} {ops : List Op} (ran : World.run {} ops = .ok w)
    (look : World → α) {v : α} (evaluated : (World.run {} ops).map look = .ok v) : look w = v := by
  rw [ran] at evaluated
  exact Except.ok.inj evaluated

theorem after_of_none {w : World} {op : Op} (early : w.switcher.record op = none) : w.after op = w := by
  simp [after, SessionSwitcher.outcome, early]

theorem after_switcher {w : World} {op : Op} {t : SessionSwitcher} {before : List Call}
    (recorded : w.switcher.record op = some (t, before)) : (w.after op).switcher = t.settle := by
  simp [after, SessionSwitcher.outcome, recorded]

theorem after_tracked {w : World} {op : Op} (notAdd : ∀ x pid spinnerPid, op ≠ .add x pid spinnerPid)
    (notRemove : ∀ session, op ≠ .remove session) (name : Name) :
    (w.after op).switcher.tracked name = w.switcher.tracked name := by
  cases op with
  | add x pid spinnerPid => exact absurd rfl (notAdd x pid spinnerPid)
  | remove session => exact absurd rfl (notRemove session)
  | markReady scene =>
      simp [after, SessionSwitcher.outcome, SessionSwitcher.record, SessionSwitcher.tracked_mark]
  | setActiveSession _ | setNextSession _ | activeOutputs _ =>
      simp [after, SessionSwitcher.outcome, SessionSwitcher.record, SessionSwitcher.tracked]

theorem after_spinnerName {w : World} {op : Op} (notAdd : ∀ x pid spinnerPid, op ≠ .add x pid spinnerPid)
    (notRemove : ∀ session, op ≠ .remove session) :
    (w.after op).switcher.spinnerName = w.switcher.spinnerName := by
  cases op with
  | add x pid spinnerPid => exact absurd rfl (notAdd x pid spinnerPid)
  | remove session => exact absurd rfl (notRemove session)
  | _ => simp [after, SessionSwitcher.outcome, SessionSwitcher.record]

theorem after_visible {w : World} (wf : w.switcher.WellFormed) {op : Op} {t : SessionSwitcher}
    {before : List Call} (recorded : w.switcher.record op = some (t, before)) (z : Session) :
    (w.after op).scene.visible z =
      if t.Tracks z then t.displays z (w.scene.visible z)
      else (w.scene.performAll before).visible z := by
  have updated := SessionSwitcher.visible_displayCalls (wf.record recorded) (w.scene.performAll before) z
  simp only [after, SessionSwitcher.outcome, recorded, Scene.performAll_append, updated]
  by_cases tracks : t.Tracks z
  · simp only [tracks, ↓reduceIte, SessionSwitcher.record_visible wf recorded w.scene tracks]
  · simp only [tracks, ↓reduceIte]

theorem showActive_reached {ops : List Op} {w : World} (reached : Library.Run Step {} ops w)
    (outputs : w.switcher.hasActiveOutputs = true) : w.switcher.showActive =
      (w.switcher.isSessionReadyForDisplay w.switcher.activeName && !w.switcher.booting) := by
  refine induct (fun _ w => w.switcher.hasActiveOutputs = true → w.switcher.showActive =
      (w.switcher.isSessionReadyForDisplay w.switcher.activeName && !w.switcher.booting))
    initial_wellFormed ?_ ?_ reached outputs
  · intro _
    simp [SessionSwitcher.showActive, SessionSwitcher.isSessionReadyForDisplay]
  · intro past m op _ wf inv outputs
    cases recorded : m.switcher.record op with
    | none =>
        rw [after_of_none recorded] at outputs ⊢
        exact inv outputs
    | some result =>
        obtain ⟨t, calls⟩ := result
        rw [after_switcher recorded, SessionSwitcher.settle_hasActiveOutputs] at outputs
        rw [after_switcher recorded, SessionSwitcher.settle_activeName, t.settle_shown outputs,
          SessionSwitcher.settle_showActive]

end World
end SystemCompositor
