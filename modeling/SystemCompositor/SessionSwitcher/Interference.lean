import SystemCompositor.SessionSwitcher.Blanking
import SystemCompositor.SessionSwitcher.Cuts
import SystemCompositor.SessionSwitcher.Idempotence
import SystemCompositor.SessionSwitcher.Orphans

namespace SystemCompositor
open Std Library

namespace World

def notified (w : World) (outputs : ActiveOutputs) : World :=
  { w with switcher.hasActiveOutputs := outputs.internal + outputs.external != 0 }

def updated (w : World) : World := ⟨w.switcher.settle, w.scene.performAll w.switcher.displayCalls⟩

/-- The switcher with its latch, and what is visible, but not how it is stacked. -/
def Alike (v w : World) : Prop := v.switcher = w.switcher ∧ v.scene.visible = w.scene.visible

theorem after_notified (w : World) (outputs : ActiveOutputs) :
    w.after (.activeOutputs outputs) = (w.notified outputs).updated := rfl

theorem after_recorded {w : World} {op : Op} {t : SessionSwitcher} {before : List Call}
    (recorded : w.switcher.record op = some (t, before)) :
    w.after op = updated ⟨t, w.scene.performAll before⟩ := by
  simp [after, updated, SessionSwitcher.outcome, recorded]

theorem record_notified {w : World} {op : Op} (quiet : ∀ changed, op ≠ .activeOutputs changed)
    (outputs : ActiveOutputs) : (w.notified outputs).switcher.record op =
      (w.switcher.record op).map fun r =>
        ({ r.1 with hasActiveOutputs := outputs.internal + outputs.external != 0 }, r.2) := by
  have same : (w.notified outputs).switcher =
      w.switcher.flags w.switcher.booting (outputs.internal + outputs.external != 0) := rfl
  rw [same, SessionSwitcher.record_flags _ quiet]
  cases recorded : w.switcher.record op with
  | none => rfl
  | some r => simp [SessionSwitcher.flags, SessionSwitcher.record_booting recorded]

theorem updated_visible {v : World} (wf : v.switcher.WellFormed) (z : Session) :
    v.updated.scene.visible z =
      if v.switcher.Tracks z then v.switcher.displays z (v.scene.visible z) else v.scene.visible z :=
  SessionSwitcher.visible_displayCalls wf v.scene z

theorem updated_updated {v : World} (wf : v.switcher.WellFormed) : Alike v.updated.updated v.updated := by
  refine ⟨v.switcher.settle_settle, funext fun z => ?_⟩
  have wf' : v.updated.switcher.WellFormed := wf.settle
  rw [updated_visible wf', updated_visible wf]
  have same : v.updated.switcher = v.switcher.settle := rfl
  simp only [same, SessionSwitcher.settle_tracks, SessionSwitcher.displays_settle]
  by_cases tracks : v.switcher.Tracks z
  · simp [tracks, SessionSwitcher.displays_idem]
  · simp [tracks]

theorem notified_same {w : World} {outputs : ActiveOutputs}
    (same : w.switcher.hasActiveOutputs = (outputs.internal + outputs.external != 0)) : w.notified outputs = w := by
  rw [notified, ← same]

/-- An `add` to a switcher whose outputs are on does not end its boot. -/
theorem settle_add {past : List Op} {w : World} (reached : Library.Run Step {} past w) {x : Session}
    {pid spinnerPid : Int} {t : SessionSwitcher} {before : List Call}
    (outputs : w.switcher.hasActiveOutputs = true)
    (recorded : w.switcher.record (.add x pid spinnerPid) = some (t, before)) : t.settle.booting = t.booting := by
  have gate := showActive_reached reached outputs
  have ready (name : Name) (ready : t.isSessionReadyForDisplay name = true) :
      w.switcher.isSessionReadyForDisplay name = true := by
    obtain ⟨rfl, -⟩ := Prod.mk.inj (Option.some.inj recorded)
    simp only [SessionSwitcher.isSessionReadyForDisplay, TreeMap.getElem?_insert] at ready ⊢
    split_ifs at ready
    · simp at ready
    · exact ready
  have latch := SessionSwitcher.record_booting recorded
  rw [SessionSwitcher.settle_booting]
  cases booting : t.booting with
  | false => rfl
  | true =>
      have shut : t.showActive = false := by
        rw [← Bool.not_eq_true]
        intro shown
        obtain ⟨allowed, active⟩ := Bool.and_eq_true_iff.mp shown
        have names : t.nextName = w.switcher.nextName ∧ t.activeName = w.switcher.activeName := by
          obtain ⟨rfl, -⟩ := Prod.mk.inj (Option.some.inj recorded)
          exact ⟨rfl, rfl⟩
        have before : w.switcher.showActive = true := by
          simp only [SessionSwitcher.allowedToDisplayActive, booting, names.1, Bool.not_true, Bool.or_false,
            Bool.or_eq_true] at allowed
          rw [SessionSwitcher.showActive, SessionSwitcher.allowedToDisplayActive, Bool.and_eq_true]
          refine ⟨?_, ready _ (names.2 ▸ active)⟩
          rcases allowed with next | unexpected
          · simp [ready _ next]
          · simp [unexpected]
        rw [gate, ← latch, booting] at before
        simp at before
      simp [shut]

section Alike
variable {w : World} {op : Op} {outputs : ActiveOutputs} {t : SessionSwitcher} {before : List Call}

theorem alike_op_first (wf : w.switcher.WellFormed) (recorded : w.switcher.record op = some (t, before))
    (switcher : (World.notified ⟨t, w.scene⟩ outputs).switcher.settle =
      (World.notified ⟨t.settle, w.scene⟩ outputs).switcher.settle)
    (displayed : ∀ z, t.Tracks z →
      (World.notified ⟨t, w.scene⟩ outputs).switcher.displays z (w.scene.visible z) =
        (World.notified ⟨t.settle, w.scene⟩ outputs).switcher.displays z (t.displays z (w.scene.visible z))) :
    Alike (World.notified ⟨t, w.scene.performAll before⟩ outputs).updated
      ((w.after op).after (.activeOutputs outputs)) := by
  have wf' := wf.record recorded
  rw [after_notified, after_recorded recorded]
  refine ⟨switcher, funext fun z => ?_⟩
  rw [updated_visible (show (World.notified ⟨t, _⟩ outputs).switcher.WellFormed from wf'),
    updated_visible (show (World.notified (updated ⟨t, _⟩) outputs).switcher.WellFormed from wf'.settle)]
  have same : (World.notified (updated ⟨t, w.scene.performAll before⟩) outputs).scene.visible z = _ :=
    updated_visible (v := ⟨t, w.scene.performAll before⟩) wf' z
  rw [same]
  have kept (on : Bool) : ({ t with hasActiveOutputs := on } : SessionSwitcher).Tracks z ↔ t.Tracks z := Iff.rfl
  have kept' (on : Bool) : ({ t.settle with hasActiveOutputs := on } : SessionSwitcher).Tracks z ↔ t.Tracks z :=
    t.settle_tracks z
  simp only [notified, updated, kept, kept']
  by_cases tracks : t.Tracks z
  · simp only [tracks, ↓reduceIte, SessionSwitcher.record_visible wf recorded w.scene tracks]
    exact displayed z tracks
  · simp only [tracks, ↓reduceIte]

theorem alike_same (wf : w.switcher.WellFormed) (quiet : ∀ changed, op ≠ .activeOutputs changed)
    (recorded : w.switcher.record op = some (t, before))
    (same : w.switcher.hasActiveOutputs = (outputs.internal + outputs.external != 0)) :
    Alike (World.notified ⟨t, w.scene.performAll before⟩ outputs).updated
      ((w.after op).after (.activeOutputs outputs)) := by
  have flag := SessionSwitcher.record_hasActiveOutputs quiet recorded
  have unchanged : World.notified ⟨t, w.scene⟩ outputs = ⟨t, w.scene⟩ := notified_same (flag.trans same)
  have unchanged' : World.notified ⟨t.settle, w.scene⟩ outputs = ⟨t.settle, w.scene⟩ :=
    notified_same (t.settle_hasActiveOutputs.trans (flag.trans same))
  refine alike_op_first wf recorded ?_ fun z tracks => ?_
  · rw [unchanged, unchanged', t.settle_settle]
  · rw [unchanged, unchanged', t.displays_settle, t.displays_idem]

theorem alike_lit (wf : w.switcher.WellFormed) (recorded : w.switcher.record op = some (t, before))
    (off : t.hasActiveOutputs = false) (dark : ∀ z, t.Tracks z → w.scene.visible z = false) :
    Alike (World.notified ⟨t, w.scene.performAll before⟩ outputs).updated
      ((w.after op).after (.activeOutputs outputs)) := by
  have settled : t.settle = t := by simp [SessionSwitcher.settle, off]
  refine alike_op_first wf recorded (by rw [settled]) fun z tracks => ?_
  have unlit : t.displays z false = false := by simp [SessionSwitcher.displays, off]
  rw [dark z tracks, unlit, settled]

theorem alike_added (wf : w.switcher.WellFormed) (recorded : w.switcher.record op = some (t, before))
    (off : outputs.internal + outputs.external = 0) (latch : t.settle.booting = t.booting) :
    Alike (World.notified ⟨t, w.scene.performAll before⟩ outputs).updated
      ((w.after op).after (.activeOutputs outputs)) := by
  refine alike_op_first wf recorded ?_ fun z tracks => ?_
  · have settled : t.settle = { t with booting := t.settle.booting } := by
      unfold SessionSwitcher.settle
      split_ifs <;> rfl
    rw [settled, latch]
  · simp [notified, SessionSwitcher.displays, off]

theorem alike_dark (wf : w.switcher.WellFormed) (quiet : ∀ changed, op ≠ .activeOutputs changed)
    (recorded : w.switcher.record op = some (t, before)) (off : outputs.internal + outputs.external = 0)
    (noAdd : ∀ x pid spinnerPid, op ≠ .add x pid spinnerPid) :
    Alike (World.notified ⟨t, w.scene.performAll before⟩ outputs).updated
      ((w.after (.activeOutputs outputs)).after op) := by
  have settled : (w.after (.activeOutputs outputs)).switcher = (w.notified outputs).switcher := by
    simp [after_notified, updated, notified, SessionSwitcher.settle, off]
  have flagged : (w.after (.activeOutputs outputs)).switcher.record op =
      some ((World.notified ⟨t, w.scene⟩ outputs).switcher, before) := by
    rw [settled, record_notified quiet, recorded]
    rfl
  rw [after_recorded flagged]
  refine ⟨rfl, funext fun z => ?_⟩
  have sound : t.WellFormed := wf.record recorded
  have wf' : (World.notified ⟨t, w.scene.performAll before⟩ outputs).switcher.WellFormed := sound
  rw [updated_visible wf', updated_visible (by exact wf')]
  have kept (on : Bool) : ({ t with hasActiveOutputs := on } : SessionSwitcher).Tracks z ↔ t.Tracks z := Iff.rfl
  simp only [notified, kept]
  by_cases tracks : t.Tracks z
  · simp [tracks, SessionSwitcher.displays, off]
  · simp only [tracks, ↓reduceIte]
    by_cases old : w.switcher.Tracks z
    · have removed (scene : Scene) : (scene.performAll before).visible z = false := by
        rcases SessionSwitcher.record_untracks recorded old tracks scene with ⟨x, pid, spinnerPid, added, -⟩ | gone
        · exact absurd added (noAdd x pid spinnerPid)
        · exact gone
      rw [removed, removed]
    · have untouched : (w.after (.activeOutputs outputs)).scene.visible z = w.scene.visible z := by
        rw [after_notified, updated_visible (show (w.notified outputs).switcher.WellFormed from wf)]
        exact if_neg old
      rw [Scene.visible_performAll, Scene.visible_performAll, untouched]

end Alike

/-- Where the operation's changes and the notification come before both updates, the end is that of one
of the sequential orders. -/
theorem alike_sequential {past : List Op} {w : World} (reached : Library.Run Step {} past w) {op : Op}
    (quiet : ∀ changed, op ≠ .activeOutputs changed) (outputs : ActiveOutputs)
    (hidden : w.switcher.hasActiveOutputs = false → ∀ x pid spinnerPid, op = .add x pid spinnerPid →
      w.scene.visible x = false)
    {t : SessionSwitcher} {before : List Call} (recorded : w.switcher.record op = some (t, before)) :
    Alike (World.notified ⟨t, w.scene.performAll before⟩ outputs).updated
      ((w.after op).after (.activeOutputs outputs)) ∨
    Alike (World.notified ⟨t, w.scene.performAll before⟩ outputs).updated
      ((w.after (.activeOutputs outputs)).after op) := by
  have wf := run_wellFormed initial_wellFormed reached
  have flag := SessionSwitcher.record_hasActiveOutputs quiet recorded
  by_cases same : w.switcher.hasActiveOutputs = (outputs.internal + outputs.external != 0)
  · exact .inl (alike_same wf quiet recorded same)
  cases on : w.switcher.hasActiveOutputs with
  | true =>
      have off : outputs.internal + outputs.external = 0 := by
        simpa [on] using same
      by_cases added : ∃ x pid spinnerPid, op = .add x pid spinnerPid
      · obtain ⟨x, pid, spinnerPid, rfl⟩ := added
        exact .inl (alike_added wf recorded off (settle_add reached on recorded))
      · exact .inr (alike_dark wf quiet recorded off (by simpa using added))
  | false =>
      refine .inl (alike_lit wf recorded (flag.trans on) fun z tracks => ?_)
      rcases SessionSwitcher.record_tracks recorded tracks with ⟨pid, spinnerPid, added⟩ | ⟨old, -⟩
      · exact hidden on z pid spinnerPid added
      · rw [← Bool.not_eq_true]
        intro shown
        have lit := (visible_interesting reached old shown).1
        rw [on] at lit
        cases lit

/-- An operation on the left, on another thread a notification on the right. -/
def race (w : World) (op : Op) (outputs : ActiveOutputs) : Parallel SharedSwitcher where
  shared := ⟨w, false⟩
  program
    | .left => op.program
    | .right => (Op.activeOutputs outputs).program

def Serializable (w : World) (op : Op) (outputs : ActiveOutputs) (schedule : List Side) : Prop :=
  ∀ c, (w.race op outputs).run schedule = some c → (∀ side, (c.program side).Finished) →
    (∃ v, (w.run [op, .activeOutputs outputs] = .ok v ∨ w.run [.activeOutputs outputs, op] = .ok v) ∧
      Alike c.shared.world v) ∧
    (outputs.internal + outputs.external = 0 → ∀ name x, c.shared.world.switcher.tracked name = some x →
      c.shared.world.scene.visible x = false)

theorem run_pair {w : World} (wf : w.switcher.WellFormed) (first second : Op) :
    w.run [first, second] = .ok ((w.after first).after second) := by
  have wf' : (w.after first).switcher.WellFormed := wf.outcome first
  simp [run, step_eq wf, step_eq wf', bind, Except.bind, pure, Except.pure]

theorem hasActiveOutputs_after {w : World} {op : Op} (quiet : ∀ outputs, op ≠ .activeOutputs outputs) :
    (w.after op).switcher.hasActiveOutputs = w.switcher.hasActiveOutputs := by
  cases recorded : w.switcher.record op with
  | none => rw [after_of_none recorded]
  | some result =>
      obtain ⟨t, calls⟩ := result
      rw [after_switcher recorded, SessionSwitcher.settle_hasActiveOutputs,
        SessionSwitcher.record_hasActiveOutputs quiet recorded]

theorem hasActiveOutputs_notified (w : World) (outputs : ActiveOutputs) :
    (w.after (.activeOutputs outputs)).switcher.hasActiveOutputs =
      (outputs.internal + outputs.external != 0) := by
  rw [after_notified]
  exact SessionSwitcher.settle_hasActiveOutputs _

theorem alone_updated {w : World} (wf : w.switcher.WellFormed) (held : Bool) :
    SwitcherProgram.updateDisplayedSessions.alone ⟨w, held⟩ = some ((), ⟨w.updated, held⟩) :=
  SwitcherProgram.alone_updateDisplayedSessions wf w.scene held

theorem notified_wellFormed {w : World} (wf : w.switcher.WellFormed) (outputs : ActiveOutputs) :
    (w.notified outputs).switcher.WellFormed := wf

theorem updated_wellFormed {w : World} (wf : w.switcher.WellFormed) : w.updated.switcher.WellFormed := wf.settle

/-- The handler's update comes before the operation has changed anything. -/
theorem serial_early {w : World} (wf : w.switcher.WellFormed) {op : Op}
    (quiet : ∀ changed, op ≠ .activeOutputs changed) {outputs : ActiveOutputs} {k : Nat}
    {r : SwitcherProgram Unit} {t u v : SharedSwitcher} (le : k ≤ op.stepsBeforeChange)
    (left : Parallel.Touched op.program (SharedSwitcher.notified outputs) ⟨w, false⟩ k r t)
    (right : SwitcherProgram.updateDisplayedSessions.alone t = some ((), u)) (rest : r.alone u = some ((), v)) :
    v.world = (w.after (.activeOutputs outputs)).after op := by
  have table : (w.notified outputs).updated.switcher.sessions = w.switcher.sessions :=
    SessionSwitcher.settle_sessions _
  have spinner : (w.notified outputs).updated.switcher.spinnerName = w.switcher.spinnerName :=
    SessionSwitcher.settle_spinnerName _
  -- In either case the update starts from the notified world, and the operation goes on as from its end.
  obtain ⟨held, rfl, advanced⟩ : ∃ held, t = ⟨w.notified outputs, held⟩ ∧
      op.program.advances ⟨(w.notified outputs).updated, false⟩ k =
        some (r, ⟨(w.notified outputs).updated, held⟩) := by
    rcases left with first | ⟨s, last, rfl, -⟩
    · obtain ⟨world, advanced⟩ :=
        SwitcherProgram.advances_unchanged (v := w.notified outputs) quiet le first table spinner
      exact ⟨t.mutexHeld, by rw [← world], advanced⟩
    · obtain ⟨world, advanced⟩ := SwitcherProgram.advances_unchanged quiet le last table spinner
      exact ⟨s.mutexHeld, by rw [SharedSwitcher.notified, world]; rfl, advanced⟩
  have sound := notified_wellFormed wf outputs
  rw [alone_updated sound, Option.some.injEq, Prod.mk.injEq] at right
  obtain ⟨-, rfl⟩ := right
  rw [Program.alone_advances advanced, SwitcherProgram.alone_program (updated_wellFormed sound), Option.some.injEq,
    Prod.mk.injEq] at rest
  rw [← rest.2, after_notified]

/-- The handler's update comes between the operation's changes and the operation's own update. -/
theorem serial_between {w : World} (wf : w.switcher.WellFormed) {op : Op}
    (quiet : ∀ changed, op ≠ .activeOutputs changed) {outputs : ActiveOutputs} {r : SwitcherProgram Unit}
    {t u v : SharedSwitcher}
    (left : Parallel.Touched op.program (SharedSwitcher.notified outputs) ⟨w, false⟩
      (op.stepsBeforeUpdate w.switcher) r t)
    (right : SwitcherProgram.updateDisplayedSessions.alone t = some ((), u)) (rest : r.alone u = some ((), v)) :
    ∃ s before, w.switcher.record op = some (s, before) ∧
      v.world = (World.notified ⟨s, w.scene.performAll before⟩ outputs).updated.updated := by
  have count : op.stepsBeforeUpdate (w.notified outputs).switcher = op.stepsBeforeUpdate w.switcher := by
    cases op <;> rfl
  have flagged := record_notified quiet outputs (w := w)
  cases recorded : w.switcher.record op with
  | none =>
      rw [recorded] at flagged
      have never := SwitcherProgram.advances_none (notified_wellFormed wf outputs) flagged
      rcases left with first | ⟨s, last, -, -⟩
      · rw [← count] at first
        exact absurd (never.symm.trans first) (by simp)
      · exact absurd ((SwitcherProgram.advances_none wf recorded).symm.trans last) (by simp)
  | some result =>
      obtain ⟨s, before⟩ := result
      rw [recorded, Option.map_some] at flagged
      obtain ⟨rfl, rfl⟩ : r = (do SwitcherProgram.updateDisplayedSessions; SwitcherProgram.unlock) ∧
          t = ⟨World.notified ⟨s, w.scene.performAll before⟩ outputs, true⟩ := by
        rcases left with first | ⟨m, last, rfl, -⟩
        · rw [← count] at first
          exact (Prod.mk.inj (Option.some.inj
            ((SwitcherProgram.advances_update quiet flagged).symm.trans first))).imp Eq.symm Eq.symm
        · obtain ⟨rfl, rfl⟩ := Prod.mk.inj (Option.some.inj
            ((SwitcherProgram.advances_update quiet recorded).symm.trans last))
          exact ⟨rfl, rfl⟩
      have sound := notified_wellFormed (w := ⟨s, w.scene.performAll before⟩) (wf.record recorded) outputs
      rw [alone_updated sound, Option.some.injEq, Prod.mk.injEq] at right
      obtain ⟨-, rfl⟩ := right
      rw [Program.alone_bind, alone_updated (updated_wellFormed sound), Option.bind_some,
        SwitcherProgram.alone_unlock, Option.some.injEq, Prod.mk.injEq] at rest
      exact ⟨s, before, rfl, by rw [← rest.2]⟩

/-- The handler's update comes after the operation's own one. -/
theorem serial_late {w : World} (wf : w.switcher.WellFormed) {op : Op}
    (quiet : ∀ changed, op ≠ .activeOutputs changed) {outputs : ActiveOutputs} {k : Nat}
    {r : SwitcherProgram Unit} {t u v : SharedSwitcher} (ended : r.LastStep t ∨ r.Finished)
    (left : Parallel.Touched op.program (SharedSwitcher.notified outputs) ⟨w, false⟩ k r t)
    (right : SwitcherProgram.updateDisplayedSessions.alone t = some ((), u)) (rest : r.alone u = some ((), v)) :
    v.world = (w.after op).after (.activeOutputs outputs) ∨ ∃ s before, w.switcher.record op = some (s, before) ∧
      v.world = (World.notified ⟨s, w.scene.performAll before⟩ outputs).updated.updated := by
  have ends := SwitcherProgram.endsIn_unlock quiet
  have idle {s s' : SharedSwitcher} (alone : r.alone s = some ((), s')) : s'.world = s.world := by
    have later : r.Finished ∨ SwitcherProgram.unlock.EndsIn r := by
      rcases left with first | ⟨m, last, -, -⟩
      · exact ends.advances first
      · exact ends.advances last
    have only : r = .done () ∨ r = SwitcherProgram.unlock := by
      rcases later with finished | later
      · exact .inl finished.eq_done
      · exact ended.symm.imp Program.Finished.eq_done later.of_lastStep
    rcases only with rfl | rfl
    · rw [← (Prod.mk.inj (Option.some.inj alone)).2]
    · rw [SwitcherProgram.alone_unlock, Option.some.injEq, Prod.mk.injEq] at alone
      rw [← alone.2]
  have updates {x : World} (sound : x.switcher.WellFormed) (same : t.world = x) : v.world = x.updated := by
    rw [idle rest]
    obtain ⟨x', held⟩ := t
    cases same
    rw [alone_updated sound, Option.some.injEq, Prod.mk.injEq] at right
    rw [← right.2]
  have flagged := record_notified quiet outputs (w := w)
  rcases left with first | ⟨m, last, rfl, -⟩
  · have alone := Program.alone_advances first
    rw [show SharedSwitcher.notified outputs ⟨w, false⟩ = ⟨w.notified outputs, false⟩ from rfl,
      SwitcherProgram.alone_program (notified_wellFormed wf outputs)] at alone
    have through := updates (x := (w.notified outputs).after op) (notified_wellFormed wf outputs |>.outcome op)
      (idle alone).symm
    cases recorded : w.switcher.record op with
    | none =>
        rw [recorded] at flagged
        rw [after_of_none flagged] at through
        exact .inl (by rw [through, after_of_none recorded, after_notified])
    | some result =>
        obtain ⟨s, before⟩ := result
        rw [recorded] at flagged
        rw [after_recorded flagged] at through
        exact .inr ⟨s, before, rfl, through⟩
  · have alone := Program.alone_advances last
    rw [SwitcherProgram.alone_program wf] at alone
    refine .inl ?_
    rw [after_notified]
    exact updates (notified_wellFormed (wf.outcome op) outputs) (by rw [SharedSwitcher.notified, ← idle alone]; rfl)

theorem Alike.trans {u v w : World} (first : Alike u v) (second : Alike v w) : Alike u w :=
  ⟨first.1.trans second.1, first.2.trans second.2⟩

/-- An operation and a notification leave the switcher as one of the two sequential orders does if the
handler's update keeps out of the operation's changes and of its update. -/
theorem serializable_of_apart (past : List Op) (w : World) (ran : World.run {} past = .ok w) (op : Op)
    (quiet : ∀ changed, op ≠ .activeOutputs changed) (outputs : ActiveOutputs)
    (hidden : w.switcher.hasActiveOutputs = false → ∀ x pid spinnerPid, op = .add x pid spinnerPid →
      w.scene.visible x = false) (schedule : List Side)
    (apart : Along Parallel.Step (Parallel.Apart (op.AtCut w.switcher)) (w.race op outputs) schedule) :
    w.Serializable op outputs schedule := by
  intro c raced finished
  have reached := run_iff.mp ran
  have wf := run_wellFormed initial_wellFormed reached
  obtain ⟨k, r, t, u, left, held, right, rest⟩ := Parallel.apart_run
    (SwitcherProgram.looksOnce_program outputs quiet) rfl rfl apart (Parallel.run_iff.mp raced) finished
  have ends : (c.shared.world = (w.after op).after (.activeOutputs outputs) ∨
      c.shared.world = (w.after (.activeOutputs outputs)).after op) ∨
      ∃ s before, w.switcher.record op = some (s, before) ∧
        c.shared.world = (World.notified ⟨s, w.scene.performAll before⟩ outputs).updated.updated := by
    rcases held with (early | rfl | last) | ended
    · exact .inl (.inr (serial_early wf quiet early left right rest))
    · exact .inr (serial_between wf quiet left right rest)
    · exact (serial_late wf quiet last left right rest).imp_left .inl
    · exact (serial_late wf quiet (.inr ended) left right rest).imp_left .inl
  obtain ⟨v, order, alike⟩ : ∃ v, (w.run [op, .activeOutputs outputs] = .ok v ∨
      w.run [.activeOutputs outputs, op] = .ok v) ∧ Alike c.shared.world v := by
    rcases ends with (same | same) | ⟨s, before, recorded, same⟩
    · exact ⟨_, .inl (run_pair wf op _), by rw [same]; exact ⟨rfl, rfl⟩⟩
    · exact ⟨_, .inr (run_pair wf _ op), by rw [same]; exact ⟨rfl, rfl⟩⟩
    · have sound := notified_wellFormed (w := ⟨s, w.scene.performAll before⟩) (wf.record recorded) outputs
      rw [same]
      rcases alike_sequential reached quiet outputs hidden recorded with alike | alike
      · exact ⟨_, .inl (run_pair wf op _), (updated_updated sound).trans alike⟩
      · exact ⟨_, .inr (run_pair wf _ op), (updated_updated sound).trans alike⟩
  refine ⟨⟨v, order, alike⟩, fun off name x stored => ?_⟩
  -- In either order the flag is the one that the notification set.
  have flag : v.switcher.hasActiveOutputs = false := by
    rcases order with order | order <;> rw [run_pair wf, Except.ok.injEq] at order <;> rw [← order]
    · simp [hasActiveOutputs_notified, off]
    · simp [hasActiveOutputs_after quiet, hasActiveOutputs_notified, off]
  obtain ⟨ops, ended⟩ : ∃ ops, World.run {} ops = .ok v := by
    rcases order with order | order
    all_goals exact ⟨_, run_iff.mpr (Library.Run.append_iff.mpr ⟨w, reached, run_iff.mp order⟩)⟩
  have reached' := run_iff.mp ended
  rw [alike.1] at stored
  have tracks := (run_wellFormed initial_wellFormed reached').tracks stored
  rw [alike.2, ← Bool.not_eq_true]
  intro shown
  have on := (visible_interesting reached' tracks shown).1
  rw [flag] at on
  cases on

theorem run_computed (ops : List Op) : World.run {} ops = .ok ((World.run {} ops).toOption.getD {}) := by
  obtain ⟨w, ran⟩ := run_total initial_wellFormed ops
  rw [ran]
  rfl

theorem serializable_greeter :
    let greeter : Session := ⟨1, ⟨1, [97]⟩⟩
    -- The handler runs between the change of the active name and the update, or it writes its flag in
    -- the midst of the update and does its own before the mutex is released.
    let between : List Side := .replicate 2 .left ++ .replicate 4 .right ++ .replicate 4 .left
    let late : List Side :=
      .replicate 5 .left ++ [.right] ++ .replicate 14 .left ++ .replicate 3 .right ++ [.left]
    ∃ w, World.run {} [.add greeter 1000 0, .markReady 1] = .ok w ∧ ∀ schedule ∈ [between, late],
      ∃ c, (w.race (.setActiveSession [97]) ⟨0, 0⟩).run schedule = some c ∧
        c.shared.world.switcher.activeName = [97] ∧ c.shared.world.scene.visible greeter = false := by
  intro greeter between late
  let w := (World.run {} [.add greeter 1000 0, .markReady 1]).toOption.getD {}
  have ran : World.run {} _ = .ok w := run_computed [.add greeter 1000 0, .markReady 1]
  refine ⟨w, ran, fun schedule member => ?_⟩
  have seen : ∀ schedule ∈ [between, late], ((w.race (.setActiveSession [97]) ⟨0, 0⟩).run schedule).map
      (fun c => (decide (c.program .left).Finished, decide (c.program .right).Finished,
        c.shared.world.switcher.activeName, c.shared.world.switcher.tracked [97])) =
      some (true, true, [97], some greeter) := by decide
  have apart : ∀ schedule ∈ [between, late], Along Parallel.Step
      (Parallel.Apart ((Op.setActiveSession [97]).AtCut w.switcher)) (w.race (.setActiveSession [97]) ⟨0, 0⟩)
      schedule := by decide +kernel
  obtain ⟨c, raced, seen⟩ := Option.map_eq_some_iff.mp (seen schedule member)
  simp only [Prod.mk.injEq, decide_eq_true_eq] at seen
  have law := serializable_of_apart _ w ran (.setActiveSession [97]) (by simp) ⟨0, 0⟩ (by simp) schedule
    (apart schedule member) c raced (fun side => by cases side <;> simp [seen])
  exact ⟨c, raced, seen.2.2.1, law.2 rfl [97] greeter seen.2.2.2⟩

theorem serializable_fails :
    ∃ w, World.run {} [.add ⟨1, ⟨1, [97]⟩⟩ 1000 0, .markReady 1] = .ok w ∧
      ¬w.Serializable (.setActiveSession [97]) ⟨0, 0⟩
        (.replicate 3 .left ++ .replicate 4 .right ++ .replicate 17 .left) := by
  let w := (World.run {} [.add ⟨1, ⟨1, [97]⟩⟩ 1000 0, .markReady 1]).toOption.getD {}
  have ran : World.run {} _ = .ok w := run_computed [.add ⟨1, ⟨1, [97]⟩⟩ 1000 0, .markReady 1]
  refine ⟨w, ran, fun serializable => ?_⟩
  have seen : ((w.race (.setActiveSession [97]) ⟨0, 0⟩).run
      (.replicate 3 .left ++ .replicate 4 .right ++ .replicate 17 .left)).map
      (fun c => (decide (c.program .left).Finished, decide (c.program .right).Finished,
        c.shared.world.switcher.tracked [97], c.shared.world.scene.visible ⟨1, ⟨1, [97]⟩⟩)) =
      some (true, true, some ⟨1, ⟨1, [97]⟩⟩, true) := by decide
  obtain ⟨c, raced, seen⟩ := Option.map_eq_some_iff.mp seen
  simp only [Prod.mk.injEq, decide_eq_true_eq] at seen
  have dark := (serializable c raced (fun side => by cases side <;> simp [seen])).2 rfl [97] _ seen.2.2.1
  rw [seen.2.2.2] at dark
  cases dark

end World
end SystemCompositor
