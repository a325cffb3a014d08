import SystemCompositor.Library.LastOf
import SystemCompositor.SessionSwitcher.Blanking
import SystemCompositor.SessionSwitcher.History
import SystemCompositor.SessionSwitcher.Interference

namespace SystemCompositor
open Std Library

def Op.activates : Op → Option Name
  | .setActiveSession name => some name
  | .add .. | .remove _ | .setNextSession _ | .markReady _ | .activeOutputs _ => none

def Op.announces : Op → Option Name
  | .setNextSession name => some name
  | .add .. | .remove _ | .setActiveSession _ | .markReady _ | .activeOutputs _ => none

def Op.spinner : Op → Option Name
  | .add session pid spinnerPid => if pid = spinnerPid then some session.name else none
  | .remove _ | .setActiveSession _ | .setNextSession _ | .markReady _ | .activeOutputs _ => none

def anyActive (outputs : ActiveOutputs) : Bool := outputs.internal + outputs.external != 0

def Op.tells : Op → Option Bool
  | .activeOutputs outputs => some (anyActive outputs)
  | .add .. | .remove _ | .setActiveSession _ | .setNextSession _ | .markReady _ => none

/-! What the calls made so far ask for, without the state of the switcher. -/

namespace Chronicle

def active (ops : List Op) : Name := (lastOf Op.activates ops).getD []

def next (ops : List Op) : Name := (lastOf Op.announces ops).getD []

def outputsOn (ops : List Op) : Bool := (lastOf Op.tells ops).getD true

def Ready (ops : List Op) (name : Name) : Prop := ∃ x, Holds ops name ⟨some x, true⟩

/-- Nothing stands against showing the active session for the first time. -/
def Boots (ops : List Op) : Prop :=
  outputsOn ops = true ∧ Ready ops (active ops) ∧ (Ready ops (next ops) ∨ next ops = [])

def Booted (ops : List Op) : Prop := ∃ past, past <+: ops ∧ Boots past

def Shows (ops : List Op) (x : Session) : Prop :=
  outputsOn ops = true ∧ Booted ops ∧ Ready ops (active ops) ∧ Ready ops x.name ∧
    (x.name = active ops ∨ x.name = next ops)

end Chronicle

namespace World
open Chronicle

theorem after_names (w : World) (op : Op) :
    (w.after op).switcher.activeName = op.activates.getD w.switcher.activeName ∧
      (w.after op).switcher.nextName = op.announces.getD w.switcher.nextName := by
  cases recorded : w.switcher.record op with
  | none =>
      rw [after_of_none recorded]
      cases op with
      | remove session => exact ⟨rfl, rfl⟩
      | _ => cases recorded
  | some result =>
      obtain ⟨t, before⟩ := result
      rw [after_switcher recorded, SessionSwitcher.settle_activeName, SessionSwitcher.settle_nextName]
      cases op with
      | remove session =>
          obtain ⟨x, -, -, rfl, -⟩ := SessionSwitcher.record_remove recorded
          exact ⟨rfl, rfl⟩
      | _ =>
          obtain ⟨rfl, -⟩ := Prod.mk.inj (Option.some.inj recorded)
          exact ⟨rfl, rfl⟩

theorem after_outputs (w : World) (op : Op) :
    (w.after op).switcher.hasActiveOutputs = op.tells.getD w.switcher.hasActiveOutputs := by
  cases op with
  | activeOutputs outputs => exact w.hasActiveOutputs_notified outputs
  | add _ _ _ | remove _ | setActiveSession _ | setNextSession _ | markReady _ =>
      exact hasActiveOutputs_after (by simp)

theorem run_foldl {w : World} (wf : w.switcher.WellFormed) (ops : List Op) : w.run ops = .ok (ops.foldl after w) := by
  induction ops generalizing w with
  | nil => rfl
  | cons op ops ih =>
      rw [run, List.foldlM_cons, step_eq wf op]
      exact ih (wf.outcome op)

theorem run_written {β : Type} (field : World → β) (write : Op → Option β)
    (one : ∀ w op, field (after w op) = (write op).getD (field w)) {w v : World} (wf : w.switcher.WellFormed)
    {ops : List Op} (ran : w.run ops = .ok v) : field v = (lastOf write ops).getD (field w) := by
  obtain rfl := Except.ok.inj ((run_foldl wf ops).symm.trans ran)
  exact foldl_last_write field write (fun w => w.switcher.WellFormed) ops (fun _ op _ wf => wf.outcome op)
    (fun w op _ _ => one w op) wf

theorem names_of_run {ops : List Op} {w : World} (reached : Run Step {} ops w) :
    w.switcher.activeName = active ops ∧ w.switcher.nextName = next ops :=
  have ran := run_iff.mpr reached
  ⟨run_written (·.switcher.activeName) Op.activates (fun w op => (w.after_names op).1) initial_wellFormed ran,
    run_written (·.switcher.nextName) Op.announces (fun w op => (w.after_names op).2) initial_wellFormed ran⟩

theorem outputs_of_run {ops : List Op} {w : World} (reached : Run Step {} ops w) :
    w.switcher.hasActiveOutputs = outputsOn ops :=
  run_written (·.switcher.hasActiveOutputs) Op.tells after_outputs initial_wellFormed (run_iff.mpr reached)

theorem spinnerName_of_run {ops : List Op} {w : World} (reached : Run Step {} ops w) :
    w.switcher.spinnerName = [] ∨ ∃ op ∈ ops, op.spinner = some w.switcher.spinnerName := by
  refine induct (fun ops w => w.switcher.spinnerName = [] ∨ ∃ op ∈ ops, op.spinner = some w.switcher.spinnerName)
    initial_wellFormed (.inl rfl) ?_ reached
  intro past m op _ _ before
  have kept : m.switcher.spinnerName = [] ∨ ∃ earlier ∈ past ++ [op], earlier.spinner = some m.switcher.spinnerName :=
    before.imp_right fun ⟨earlier, member, named⟩ => ⟨earlier, List.mem_append_left _ member, named⟩
  cases recorded : m.switcher.record op with
  | none => rwa [after_of_none recorded]
  | some result =>
      obtain ⟨t, calls⟩ := result
      rw [after_switcher recorded, SessionSwitcher.settle_spinnerName]
      cases op with
      | add x pid spinnerPid =>
          obtain ⟨rfl, -⟩ := Prod.mk.inj (Option.some.inj recorded)
          dsimp only
          split_ifs with own
          · exact .inr ⟨_, List.mem_append_right _ (List.mem_singleton_self _), if_pos own⟩
          · exact kept
      | remove session =>
          obtain ⟨x, -, -, rfl, -⟩ := SessionSwitcher.record_remove recorded
          dsimp only
          split_ifs
          · exact .inl rfl
          · exact kept
      | _ =>
          obtain ⟨rfl, -⟩ := Prod.mk.inj (Option.some.inj recorded)
          exact kept

theorem neverSpinner_of_pids {ops : List Op} {name : Name} (named : name ≠ [])
    (other : ∀ op ∈ ops, op.spinner ≠ some name) : NeverSpinner ops name := by
  rintro past le v ran rfl
  rcases spinnerName_of_run (run_iff.mp ran) with none | ⟨op, member, own⟩
  · exact named none
  · exact other op (le.subset member) own

theorem table_of_run {ops : List Op} {w : World} (reached : Run Step {} ops w) :
    ∀ name info, w.switcher.sessions[name]? = some info ↔ Holds ops name info := by
  refine induct (fun ops w => ∀ name info, w.switcher.sessions[name]? = some info ↔ Holds ops name info)
    initial_wellFormed ?_ ?_ reached
  · intro name info
    simp [Holds, LastAdded]
  · intro past m op _ wf law name info
    exact holds_step wf law op name info

theorem ready_of_run {ops : List Op} {w : World} (reached : Run Step {} ops w) (name : Name) :
    w.switcher.isSessionReadyForDisplay name = true ↔ Ready ops name := by
  rw [SessionSwitcher.ready_iff]
  constructor
  · rintro ⟨⟨session, ready⟩, x, found, rfl, rfl⟩
    exact ⟨x, (table_of_run reached name _).mp found⟩
  · rintro ⟨x, held⟩
    exact ⟨_, x, (table_of_run reached name _).mpr held, rfl, rfl⟩

/-- The switcher is at the first showing of the active session, as far as its table, names and outputs go. -/
def opens (s : SessionSwitcher) : Bool :=
  s.hasActiveOutputs && s.isSessionReadyForDisplay s.activeName &&
    (s.isSessionReadyForDisplay s.nextName || s.nextName.isEmpty)

theorem opens_of_run {ops : List Op} {w : World} (reached : Run Step {} ops w) :
    opens w.switcher = true ↔ Boots ops := by
  obtain ⟨active, next⟩ := names_of_run reached
  simp only [opens, Boots, Bool.and_eq_true, Bool.or_eq_true, List.isEmpty_iff, ready_of_run reached,
    outputs_of_run reached, active, next, and_assoc]

theorem after_booting {w : World} (op : Op) (fresh : w.switcher.booting = true → opens w.switcher = false) :
    (w.after op).switcher.booting = (w.switcher.booting && !opens (w.after op).switcher) := by
  cases recorded : w.switcher.record op with
  | none =>
      rw [after_of_none recorded]
      cases booting : w.switcher.booting with
      | false => rfl
      | true => rw [fresh booting]; rfl
  | some result =>
      obtain ⟨t, calls⟩ := result
      have same : t.booting = w.switcher.booting := SessionSwitcher.record_booting recorded
      rw [after_switcher recorded, SessionSwitcher.settle_booting, same]
      cases booting : w.switcher.booting with
      | false => rfl
      | true =>
          rw [booting] at same
          simp only [opens, SessionSwitcher.showActive, SessionSwitcher.allowedToDisplayActive, same,
            SessionSwitcher.settle_hasActiveOutputs, SessionSwitcher.settle_ready, SessionSwitcher.settle_activeName,
            SessionSwitcher.settle_nextName, SessionSwitcher.isSessionExpectedToBecomeReady, Bool.not_not,
            Bool.not_true, Bool.or_false, Bool.true_and, Bool.and_assoc]
          rw [Bool.and_comm (_ || _)]

theorem booted_concat {past : List Op} {op : Op} : Booted (past ++ [op]) ↔ Booted past ∨ Boots (past ++ [op]) := by
  constructor
  · rintro ⟨earlier, le, opens⟩
    rcases List.prefix_concat_iff.mp le with rfl | le
    · exact .inr opens
    · exact .inl ⟨earlier, le, opens⟩
  · rintro (⟨earlier, le, opens⟩ | opens)
    · exact ⟨earlier, le.trans (List.prefix_append _ _), opens⟩
    · exact ⟨_, List.prefix_refl _, opens⟩

/-- The boot latch is open exactly if at some moment so far the active session could be shown. -/
theorem booting_of_run {ops : List Op} {w : World} (reached : Run Step {} ops w) :
    w.switcher.booting = false ↔ Booted ops := by
  refine induct (fun ops w => w.switcher.booting = false ↔ Booted ops) initial_wellFormed ?_ ?_ reached
  · refine iff_of_false (by simp) ?_
    rintro ⟨past, le, opened⟩
    obtain rfl := List.prefix_nil.mp le
    have shut := (opens_of_run (.nil ({} : World))).mpr opened
    simp [opens, SessionSwitcher.isSessionReadyForDisplay] at shut
  · intro past m op before wf law
    have fresh : m.switcher.booting = true → opens m.switcher = false := by
      intro booting
      rw [← Bool.not_eq_true, opens_of_run before]
      intro opened
      rw [law.mpr ⟨past, List.prefix_refl _, opened⟩] at booting
      cases booting
    have reached : Run Step {} (past ++ [op]) (m.after op) := Run.concat_iff.mpr ⟨m, before, (step_iff wf).mpr rfl⟩
    have opened := opens_of_run reached
    rw [booted_concat, ← law, ← opened, after_booting op fresh]
    cases m.switcher.booting <;> simp

/-- After any calls the session that is held under its name is on screen exactly if the calls ask for it,
unless the spinner has had its name. -/
theorem shows_iff (ops : List Op) (once : (addedSessions ops).Nodup) :
    ∃ w, World.run {} ops = .ok w ∧ ∀ x info, Holds ops x.name info → info.session = some x → x.name ≠ [] →
      (∀ op ∈ ops, op.spinner ≠ some x.name) → (w.scene.visible x = true ↔ Shows ops x) := by
  obtain ⟨w, ran⟩ := run_total initial_wellFormed ops
  have reached := run_iff.mp ran
  refine ⟨w, ran, fun x info held own named other => ?_⟩
  have tracks : w.switcher.Tracks x := by
    have found := (table_of_run reached x.name info).mpr held
    simp [SessionSwitcher.Tracks, SessionSwitcher.tracked, found, own]
  obtain ⟨active, next⟩ := names_of_run reached
  rw [visible_iff_calledFor once reached tracks (neverSpinner_of_pids named other), CalledFor, Shows,
    outputs_of_run reached, booting_of_run reached, ready_of_run reached, ready_of_run reached, active, next]

theorem shows_iff_login :
    let login : Session := ⟨1, ⟨1, [103]⟩⟩
    ∃ w, World.run {} [.add login 1000 0, .setActiveSession [103], .markReady 1] = .ok w ∧
      w.scene.visible login = true := by
  intro login
  obtain ⟨w, ran, law⟩ := shows_iff [.add login 1000 0, .setActiveSession [103], .markReady 1] (by decide)
  have held : Holds [.add login 1000 0, .setActiveSession [103], .markReady 1] [103] ⟨some login, true⟩ :=
    ⟨login, [.setActiveSession [103], .markReady 1], ⟨[], 1000, 0, rfl, by simp⟩, rfl, by simp, rfl⟩
  have ready : Ready [.add login 1000 0, .setActiveSession [103], .markReady 1] [103] := ⟨login, held⟩
  exact ⟨w, ran, (law login _ held rfl (by decide) (by decide)).mpr
    ⟨rfl, ⟨_, List.prefix_refl _, rfl, ready, .inr rfl⟩, ready, ready, .inl rfl⟩⟩

end World

end SystemCompositor
