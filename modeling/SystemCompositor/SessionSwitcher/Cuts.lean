import SystemCompositor.SessionSwitcher.Steps

namespace SystemCompositor
open Std Library

/-- The handler's first step. -/
def SharedSwitcher.notified (outputs : ActiveOutputs) (s : SharedSwitcher) : SharedSwitcher :=
  { s with world.switcher.hasActiveOutputs := outputs.internal + outputs.external != 0 }

namespace SwitcherProgram
open SharedSwitcher

section Blind
variable (outputs : ActiveOutputs)

/-- Nothing but the test of `has_active_outputs` looks at what the handler writes. -/
theorem blind_read {α : Type} {look : SessionSwitcher → α}
    (same : ∀ s on, look { s with hasActiveOutputs := on } = look s) :
    (read look).Blind (notified outputs) := .read fun _ => same _ _

theorem blind_update {change : SessionSwitcher → SessionSwitcher}
    (commutes : ∀ s on, change { s with hasActiveOutputs := on } = { change s with hasActiveOutputs := on }) :
    (update change).Blind (notified outputs) :=
  .change fun s => by rw [notified, commutes, notified]

theorem blind_call (c : Call) : (call c).Blind (notified outputs) := .change fun _ => rfl

theorem blind_deref (session : Option Session) : (deref session).Blind (notified outputs) := by
  cases session with
  | none => exact .fault
  | some x => exact .done x

theorem blind_entry (name : Name) : (entry name).Blind (notified outputs) := by
  refine (blind_read outputs fun _ _ => rfl).bind fun found => ?_
  cases found with
  | none => exact (blind_update outputs fun _ _ => rfl).bind fun _ => .done _
  | some info => exact .done info

theorem blind_isSessionReadyForDisplay (name : Name) : (isSessionReadyForDisplay name).Blind (notified outputs) :=
  blind_read outputs fun _ _ => rfl

theorem blind_hideUninterestingSessions : hideUninterestingSessions.Blind (notified outputs) := by
  refine (blind_read outputs fun _ _ => rfl).bind fun entries => .forM (fun entry => ?_) entries
  refine (blind_deref outputs entry.2.session).bind fun session => ?_
  refine (blind_read outputs fun _ _ => rfl).bind fun activeName => .ite ?_ (.done _)
  exact (blind_read outputs fun _ _ => rfl).bind fun nextName => .ite (blind_call outputs _) (.done _)

theorem blind_hideAllSessions : hideAllSessions.Blind (notified outputs) := by
  refine (blind_read outputs fun _ _ => rfl).bind fun entries => .forM (fun entry => ?_) entries
  exact (blind_deref outputs entry.2.session).bind fun session => blind_call outputs _

theorem blind_showSession (name : Name) (mode : ShowMode) : (showSession name mode).Blind (notified outputs) := by
  refine (blind_entry outputs name).bind fun info => (blind_deref outputs info.session).bind fun session => ?_
  cases mode with
  | asActive => exact (blind_call outputs _).bind fun _ => blind_call outputs _
  | asNext => exact blind_call outputs _

theorem blind_hideSession (name : Name) : (hideSession name).Blind (notified outputs) :=
  (blind_entry outputs name).bind fun info =>
    (blind_deref outputs info.session).bind fun _ => blind_call outputs _

theorem blind_ensureSpinnerWillBeShown (mode : ShowMode) :
    (ensureSpinnerWillBeShown mode).Blind (notified outputs) := by
  refine (blind_read outputs fun _ _ => rfl).bind fun spinnerName => ?_
  refine (blind_read outputs fun _ _ => rfl).bind fun found => ?_
  cases found with
  | none => exact blind_call outputs _
  | some info =>
      refine (blind_deref outputs info.session).bind fun session => ?_
      cases mode with
      | asActive => exact (blind_call outputs _).bind fun _ => blind_call outputs _
      | asNext => exact blind_call outputs _

theorem blind_allowedToDisplayActive : allowedToDisplayActive.Blind (notified outputs) := by
  refine (blind_read outputs fun _ _ => rfl).bind fun nextName => ?_
  refine (blind_isSessionReadyForDisplay outputs nextName).bind fun ready => .ite (.done _) ?_
  refine (blind_read outputs fun _ _ => rfl).bind fun nextName => .ite (.done _) ?_
  exact (blind_read outputs fun _ _ => rfl).bind fun booting => .done _

theorem blind_activeToBeShown : activeToBeShown.Blind (notified outputs) := by
  refine (blind_allowedToDisplayActive outputs).bind fun allowed => .ite ?_ (.done _)
  exact (blind_read outputs fun _ _ => rfl).bind fun activeName => blind_isSessionReadyForDisplay outputs activeName

theorem blind_spinner (showSpinner : Bool) (mode : ShowMode) :
    (if showSpinner = true then ensureSpinnerWillBeShown mode else ensureSpinnerIsNotRunning).Blind
      (notified outputs) :=
  .ite (blind_ensureSpinnerWillBeShown outputs mode) (blind_call outputs .kill)

/-- An update looks at `has_active_outputs` once, at its start. -/
theorem looksOnce_updateDisplayedSessions : updateDisplayedSessions.LooksOnce (notified outputs) := by
  refine .read _ fun on => .ite (blind_hideAllSessions outputs) ?_
  refine (blind_hideUninterestingSessions outputs).bind fun _ => ?_
  refine (blind_activeToBeShown outputs).bind fun active => ?_
  -- What follows the decision about the active session is the same after each of its outcomes.
  have next (showSpinner showActive : Bool) (mode : ShowMode) : Program.Blind (notified outputs) (
      if (!showSpinner && showActive) = true then do
        if ← isSessionReadyForDisplay (← read (·.nextName)) then
          showSession (← read (·.nextName)) .asNext
          if showSpinner = true then ensureSpinnerWillBeShown mode else ensureSpinnerIsNotRunning
        else if SessionSwitcher.isSessionExpectedToBecomeReady (← read (·.nextName)) then
          ensureSpinnerWillBeShown .asNext
        else if showSpinner = true then ensureSpinnerWillBeShown mode else ensureSpinnerIsNotRunning
      else do
        if ← isSessionReadyForDisplay (← read (·.nextName)) then
          hideSession (← read (·.nextName))
          if showSpinner = true then ensureSpinnerWillBeShown mode else ensureSpinnerIsNotRunning
        else if showSpinner = true then ensureSpinnerWillBeShown mode else ensureSpinnerIsNotRunning :
      SwitcherProgram Unit) := by
    refine .ite ?_ ?_
    · refine (blind_read outputs fun _ _ => rfl).bind fun nextName => ?_
      refine (blind_isSessionReadyForDisplay outputs nextName).bind fun ready => .ite ?_ ?_
      · refine (blind_read outputs fun _ _ => rfl).bind fun nextName => ?_
        exact (blind_showSession outputs nextName .asNext).bind fun _ => blind_spinner outputs showSpinner mode
      · refine (blind_read outputs fun _ _ => rfl).bind fun nextName => .ite ?_ ?_
        · exact blind_ensureSpinnerWillBeShown outputs .asNext
        · exact blind_spinner outputs showSpinner mode
    · refine (blind_read outputs fun _ _ => rfl).bind fun nextName => ?_
      refine (blind_isSessionReadyForDisplay outputs nextName).bind fun ready => .ite ?_ ?_
      · refine (blind_read outputs fun _ _ => rfl).bind fun nextName => ?_
        exact (blind_hideSession outputs nextName).bind fun _ => blind_spinner outputs showSpinner mode
      · exact blind_spinner outputs showSpinner mode
  refine .ite ?_ ?_
  · refine (blind_read outputs fun _ _ => rfl).bind fun activeName => ?_
    refine (blind_showSession outputs activeName .asActive).bind fun _ => ?_
    exact (blind_update outputs fun _ _ => rfl).bind fun _ => next false true .asNext
  · refine (blind_read outputs fun _ _ => rfl).bind fun activeName => .ite ?_ ?_
    · exact next true false .asActive
    · exact next false false .asNext

theorem blind_lock : lock.Blind (notified outputs) := .await (fun _ => rfl) fun _ => rfl

theorem blind_unlock : unlock.Blind (notified outputs) := .change fun _ => rfl

theorem looksOnce_updated :
    (do updateDisplayedSessions; unlock : SwitcherProgram Unit).LooksOnce (notified outputs) :=
  (looksOnce_updateDisplayedSessions outputs).bind_blind fun _ => blind_unlock outputs

theorem looksOnce_program {op : Op} (quiet : ∀ changed, op ≠ .activeOutputs changed) :
    op.program.LooksOnce (notified outputs) := by
  have written {change : SessionSwitcher → SessionSwitcher} {rest : SwitcherProgram Unit}
      (commutes : ∀ s on, change { s with hasActiveOutputs := on } = { change s with hasActiveOutputs := on })
      (later : rest.LooksOnce (notified outputs)) : (do update change; rest).LooksOnce (notified outputs) :=
    .bind (blind_update outputs commutes) fun _ => later
  cases op with
  | add x pid spinnerPid =>
      refine .bind (blind_lock outputs) fun _ => ?_
      have insert : (do
          update fun s => { s with sessions := s.sessions.insert x.name { session := x } }
          updateDisplayedSessions
          unlock : SwitcherProgram Unit).LooksOnce (notified outputs) :=
        written (fun _ _ => rfl) (looksOnce_updated outputs)
      by_cases own : pid = spinnerPid
      · rw [if_pos own]
        exact written (fun _ _ => rfl) insert
      · rw [if_neg own]
        exact insert
  | remove session =>
      refine .bind (blind_lock outputs) fun _ => .bind (blind_read outputs fun _ _ => rfl) fun found => ?_
      have early : unlock.LooksOnce (notified outputs) := .blind (blind_unlock outputs)
      rcases found with _ | ⟨_ | tracked, ready⟩
      · exact early
      · exact early
      · have erased : (do
            call (.session .remove .toHide tracked)
            update fun s => { s with sessions := s.sessions.erase session.name }
            updateDisplayedSessions
            unlock : SwitcherProgram Unit).LooksOnce (notified outputs) :=
          .bind (blind_call outputs _) fun _ => written (fun _ _ => rfl) (looksOnce_updated outputs)
        refine .ite early (.bind (blind_read outputs fun _ _ => rfl) fun spinnerName => ?_)
        exact .ite (written (fun _ _ => rfl) erased) erased
  | setActiveSession name | setNextSession name | markReady session =>
      exact .bind (blind_lock outputs) fun _ => written (fun _ _ => rfl) (looksOnce_updated outputs)
  | activeOutputs changed => exact absurd rfl (quiet changed)

end Blind

theorem endsIn_unlock {op : Op} (quiet : ∀ changed, op ≠ .activeOutputs changed) : unlock.EndsIn op.program := by
  have ends {α : Type} (p : SwitcherProgram α) {rest : α → SwitcherProgram Unit}
      (later : ∀ a, unlock.EndsIn (rest a)) : unlock.EndsIn (p >>= rest) := .bind later p
  have updated : unlock.EndsIn (do updateDisplayedSessions; unlock : SwitcherProgram Unit) :=
    ends _ fun _ => .last
  cases op with
  | add x pid spinnerPid =>
      refine ends lock fun _ => ?_
      by_cases own : pid = spinnerPid
      · rw [if_pos own]
        exact ends _ fun _ => ends _ fun _ => updated
      · rw [if_neg own]
        exact ends _ fun _ => updated
  | remove session =>
      refine ends lock fun _ => ends (read fun s => s.sessions[session.name]?) fun found => ?_
      rcases found with _ | ⟨_ | tracked, ready⟩
      · exact .last
      · exact .last
      · refine .ite .last (ends (read fun s => s.spinnerName) fun spinnerName => ?_)
        exact .ite (ends _ fun _ => ends _ fun _ => ends _ fun _ => updated)
          (ends _ fun _ => ends _ fun _ => updated)
  | setActiveSession name | setNextSession name | markReady session =>
      exact ends lock fun _ => ends _ fun _ => updated
  | activeOutputs changed => exact absurd rfl (quiet changed)

end SwitcherProgram

/-- The steps of an operation before the first that changes anything. -/
def Op.stepsBeforeChange : Op → Nat
  | .remove _ => 3
  | .add _ _ _ | .setActiveSession _ | .setNextSession _ | .markReady _ | .activeOutputs _ => 1

/-- The steps of an operation before its update, if it gets that far. -/
def Op.stepsBeforeUpdate (s : SessionSwitcher) : Op → Nat
  | .add _ pid spinnerPid => if pid = spinnerPid then 3 else 2
  | .remove session => if session.name = s.spinnerName then 6 else 5
  | .setActiveSession _ | .setNextSession _ | .markReady _ | .activeOutputs _ => 2

/-- After `k` steps the operation has changed nothing yet, or is about to update what is displayed, or
has at most its mutex left to release. -/
def Op.AtCut (s : SessionSwitcher) (op : Op) (k : Nat) (p : SwitcherProgram Unit) (shared : SharedSwitcher) : Prop :=
  k ≤ op.stepsBeforeChange ∨ k = op.stepsBeforeUpdate s ∨ p.LastStep shared ∨ p.Finished

instance (s : SessionSwitcher) (op : Op) (k : Nat) (p : SwitcherProgram Unit) (shared : SharedSwitcher) :
    Decidable (op.AtCut s k p shared) := inferInstanceAs (Decidable (_ ∨ _))

namespace SwitcherProgram

theorem remove_reads (session : SceneSession) : ∃ rest : Option SessionInfo → SwitcherProgram Unit,
    (∀ w, (Op.remove session).program.advances ⟨w, false⟩ 2 =
      some (rest w.switcher.sessions[session.name]?, ⟨w, true⟩)) ∧
    ∀ found, ∃ (next : Name → SwitcherProgram Unit) (held : Bool), ∀ w,
      (rest found).advance ⟨w, true⟩ = some (next w.switcher.spinnerName, ⟨w, held⟩) := by
  obtain ⟨rest, program, ended⟩ : ∃ rest, (Op.remove session).program =
      (lock >>= fun _ => read (fun s => s.sessions[session.name]?) >>= rest) ∧
      ∀ found, ∃ (next : Name → SwitcherProgram Unit) (held : Bool), ∀ w,
        (rest found).advance ⟨w, true⟩ = some (next w.switcher.spinnerName, ⟨w, held⟩) := by
    refine ⟨_, rfl, fun found => ?_⟩
    have early : ∀ w, unlock.advance ⟨w, true⟩ = some (.done (), ⟨w, false⟩) := fun _ => rfl
    rcases found with _ | ⟨_ | tracked, ready⟩
    · exact ⟨fun _ => .done (), false, early⟩
    · exact ⟨fun _ => .done (), false, early⟩
    · cases corresponds : tracked.correspondsTo session.address with
      | false =>
          refine ⟨fun _ => .done (), false, fun w => ?_⟩
          simp only [corresponds]
          exact early w
      | true =>
          simp only [corresponds]
          obtain ⟨next, same⟩ : ∃ next, (if (!true) = true then unlock else (do
              if session.name = (← read (·.spinnerName)) then
                update fun s => { s with spinnerName := [] }
              call (.session .remove .toHide tracked)
              update fun s => { s with sessions := s.sessions.erase session.name }
              updateDisplayedSessions
              unlock)) = (read (fun s => s.spinnerName) >>= next) := ⟨_, rfl⟩
          exact ⟨next, true, fun w => by rw [same]; rfl⟩
  exact ⟨rest, fun w => by rw [program]; rfl, ended⟩

theorem advances_unchanged {v u : World} {op : Op} {k : Nat} {r : SwitcherProgram Unit} {t : SharedSwitcher}
    (quiet : ∀ changed, op ≠ .activeOutputs changed) (le : k ≤ op.stepsBeforeChange)
    (advanced : op.program.advances ⟨v, false⟩ k = some (r, t))
    (table : u.switcher.sessions = v.switcher.sessions) (spinner : u.switcher.spinnerName = v.switcher.spinnerName) :
    t.world = v ∧ op.program.advances ⟨u, false⟩ k = some (r, ⟨u, t.mutexHeld⟩) := by
  match k with
  | 0 =>
      obtain ⟨rfl, rfl⟩ := Prod.mk.inj (Option.some.inj advanced)
      exact ⟨rfl, rfl⟩
  | 1 =>
      cases op with
      | activeOutputs changed => exact absurd rfl (quiet changed)
      | _ =>
          obtain ⟨rfl, rfl⟩ := Prod.mk.inj (Option.some.inj advanced)
          exact ⟨rfl, rfl⟩
  | 2 =>
      cases op with
      | remove session =>
          obtain ⟨rest, looked, -⟩ := remove_reads session
          rw [looked] at advanced ⊢
          obtain ⟨rfl, rfl⟩ := Prod.mk.inj (Option.some.inj advanced)
          exact ⟨rfl, by rw [table]⟩
      | _ => simp [Op.stepsBeforeChange] at le
  | 3 =>
      cases op with
      | remove session =>
          obtain ⟨rest, looked, ended⟩ := remove_reads session
          obtain ⟨next, held, stepped⟩ := ended v.switcher.sessions[session.name]?
          rw [Program.advances, looked, Option.bind_some, stepped] at advanced
          rw [Program.advances, looked, Option.bind_some, table, stepped, spinner]
          obtain ⟨rfl, rfl⟩ := Prod.mk.inj (Option.some.inj advanced)
          exact ⟨rfl, rfl⟩
      | _ => simp [Op.stepsBeforeChange] at le
  | k + 4 => cases op <;> simp [Op.stepsBeforeChange] at le

theorem advance_read {α : Type} (look : SessionSwitcher → α) (rest : α → SwitcherProgram Unit) (s : SharedSwitcher) :
    (read look >>= rest).advance s = some (rest (look s.world.switcher), s) := rfl

theorem advance_update (change : SessionSwitcher → SessionSwitcher) (rest : Unit → SwitcherProgram Unit)
    (s : SharedSwitcher) : (update change >>= rest).advance s =
      some (rest (), { s with world.switcher := change s.world.switcher }) := rfl

theorem advance_call (c : Call) (rest : Unit → SwitcherProgram Unit) (s : SharedSwitcher) :
    (call c >>= rest).advance s = some (rest (), { s with world.scene := s.world.scene.perform c }) := rfl

theorem advance_lock (rest : Unit → SwitcherProgram Unit) (w : World) :
    (lock >>= rest).advance ⟨w, false⟩ = some (rest (), ⟨w, true⟩) := rfl

theorem advances_update {v : World} {op : Op} {t : SessionSwitcher} {before : List Call}
    (quiet : ∀ changed, op ≠ .activeOutputs changed) (recorded : v.switcher.record op = some (t, before)) :
    op.program.advances ⟨v, false⟩ (op.stepsBeforeUpdate v.switcher) =
      some (do updateDisplayedSessions; unlock, ⟨⟨t, v.scene.performAll before⟩, true⟩) := by
  cases op with
  | add x pid spinnerPid =>
      obtain ⟨rfl, rfl⟩ := Prod.mk.inj (Option.some.inj recorded)
      by_cases own : pid = spinnerPid <;>
        simp [Op.program, Op.stepsBeforeUpdate, add, own, Program.advances, advance_lock, advance_update]
  | remove session =>
      obtain ⟨x, stored, corresponds, rfl, rfl⟩ := SessionSwitcher.record_remove recorded
      obtain ⟨info, found, held⟩ := Option.bind_eq_some_iff.mp stored
      by_cases spinner : session.name = v.switcher.spinnerName
      · rw [spinner] at found
        simp [Op.program, Op.stepsBeforeUpdate, remove, Program.advances, advance_lock, advance_read, advance_update,
          advance_call, found, held, corresponds, spinner, Scene.performAll]
      · simp [Op.program, Op.stepsBeforeUpdate, remove, Program.advances, advance_lock, advance_read, advance_update,
          advance_call, found, held, corresponds, spinner, Scene.performAll]
  | setActiveSession name | setNextSession name | markReady session =>
      obtain ⟨rfl, rfl⟩ := Prod.mk.inj (Option.some.inj recorded)
      rfl
  | activeOutputs changed => exact absurd rfl (quiet changed)

theorem advance_unlock (s : SharedSwitcher) : unlock.advance s = some (.done (), { s with mutexHeld := false }) := rfl

theorem advances_none {v : World} {op : Op} (wf : v.switcher.WellFormed) (early : v.switcher.record op = none) :
    op.program.advances ⟨v, false⟩ (op.stepsBeforeUpdate v.switcher) = none := by
  cases op with
  | remove session =>
      have ended : (Op.remove session).program.advances ⟨v, false⟩ 3 = some (.done (), ⟨v, false⟩) := by
        cases found : v.switcher.sessions[session.name]? with
        | none => simp [Op.program, remove, Program.advances, advance_lock, advance_read, advance_unlock, found]
        | some info =>
            obtain ⟨x, held, stored⟩ := wf.found found
            have other : x.correspondsTo session.address = false := by
              simpa [SessionSwitcher.record, stored] using early
            simp [Op.program, remove, Program.advances, advance_lock, advance_read, advance_unlock, found, held,
                other]
      have stopped : (Op.remove session).program.advances ⟨v, false⟩ 4 = none := by
        rw [Program.advances, ended]
        rfl
      have still : (Op.remove session).program.advances ⟨v, false⟩ 5 = none := by
        rw [Program.advances, stopped]
        rfl
      by_cases spinner : session.name = v.switcher.spinnerName
      · simp only [Op.stepsBeforeUpdate, spinner, ↓reduceIte]
        rw [Program.advances, still]
        rfl
      · simp only [Op.stepsBeforeUpdate, spinner, ↓reduceIte]
        exact still
  | _ => cases early

end SwitcherProgram

end SystemCompositor
