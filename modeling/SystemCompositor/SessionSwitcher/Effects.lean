import SystemCompositor.SessionSwitcher.Basic

namespace SystemCompositor
open Std

namespace SwitcherM

theorem ok_bind {α β : Type} (a : α) (f : α → Except Fault β) : (Except.ok a >>= f) = f a := rfl

theorem pure_ok {α : Type} (a : α) : (pure a : Except Fault α) = .ok a := rfl

theorem pure_run {α : Type} (x : α) (a : Activation) :
    (pure x : SwitcherM α).run a = .ok (x, a) := rfl

@[simp] theorem switcher_run (a : Activation) : switcher.run a = .ok (a.switcher, a) := rfl

@[simp] theorem update_run (change : SessionSwitcher → SessionSwitcher) (a : Activation) :
    (update change).run a = .ok ((), { a with switcher := change a.switcher }) := rfl

@[simp] theorem call_run (c : Call) (a : Activation) :
    (call c).run a = .ok ((), { a with calls := a.calls ++ [c] }) := rfl

@[simp] theorem deref_run (x : Session) (a : Activation) :
    (deref (some x)).run a = .ok (x, a) := rfl

theorem entry_run {name : Name} {info : SessionInfo} {a : Activation}
    (found : a.switcher.sessions[name]? = some info) : (entry name).run a = .ok (info, a) := by
  simp only [entry, StateT.run_bind, switcher_run, ok_bind, found, pure_run]

theorem forM_run {α : Type} (body : α → SwitcherM Unit) (made : α → List Call) (a : Activation)
    (xs : List α)
    (each : ∀ x ∈ xs, ∀ calls, (body x).run ⟨a.switcher, calls⟩ = .ok ((), ⟨a.switcher, calls ++ made x⟩)) :
    (xs.forM body).run a = .ok ((), ⟨a.switcher, a.calls ++ xs.flatMap made⟩) := by
  obtain ⟨s, calls⟩ := a
  induction xs generalizing calls with
  | nil => simp [pure_ok]
  | cons x xs ih =>
      have first := each x (by simp) calls
      have rest := ih (calls ++ made x) (fun y member => each y (by simp [member]))
      simp only [List.forM_eq_forM, List.forM_cons, StateT.run_bind, first, ok_bind] at rest ⊢
      simpa [List.flatMap_cons] using rest

end SwitcherM

namespace SessionSwitcher
open SwitcherM

def tracked (s : SessionSwitcher) (name : Name) : Option Session :=
  s.sessions[name]?.bind SessionInfo.session

def Tracks (s : SessionSwitcher) (x : Session) : Prop := s.tracked x.name = some x

instance (s : SessionSwitcher) (x : Session) : Decidable (s.Tracks x) :=
  inferInstanceAs (Decidable (_ = _))

def WellFormed (s : SessionSwitcher) : Prop :=
  ∀ (name : Name) (info : SessionInfo), s.sessions[name]? = some info →
    ∃ x : Session, info.session = some x ∧ x.name = name

def allowedToDisplayActive (s : SessionSwitcher) : Bool :=
  s.isSessionReadyForDisplay s.nextName || !isSessionExpectedToBecomeReady s.nextName || !s.booting

def showActive (s : SessionSwitcher) : Bool :=
  s.allowedToDisplayActive && s.isSessionReadyForDisplay s.activeName

def spinnerMode (s : SessionSwitcher) : Option ShowMode :=
  if s.showActive then
    if s.isSessionReadyForDisplay s.nextName then none
    else if isSessionExpectedToBecomeReady s.nextName then some .asNext
    else none
  else if isSessionExpectedToBecomeReady s.activeName then some .asActive
  else none

def sessionList (s : SessionSwitcher) : List Session :=
  s.sessions.toList.filterMap fun entry => entry.2.session

def uninteresting (s : SessionSwitcher) (x : Session) : Bool :=
  x.name != s.activeName && x.name != s.nextName

def showCalls (caller : Caller) (mode : ShowMode) (x : Session) : List Call :=
  (if mode = .asActive then [.session caller .toRaiseAndFocus x] else []) ++
    [.session caller .toShow x]

def activeCalls (s : SessionSwitcher) : List Call :=
  if s.showActive then (s.tracked s.activeName).toList.flatMap (showCalls .showSession .asActive) else []

def nextCalls (s : SessionSwitcher) : List Call :=
  if s.isSessionReadyForDisplay s.nextName then
    if s.showActive then (s.tracked s.nextName).toList.flatMap (showCalls .showSession .asNext)
    else (s.tracked s.nextName).toList.map (.session .hideSession .toHide)
  else []

def spinnerCalls (s : SessionSwitcher) : List Call :=
  match s.spinnerMode with
  | none => [.kill]
  | some mode =>
      match s.tracked s.spinnerName with
      | none => [.ensureRunning]
      | some x => showCalls .ensureSpinnerWillBeShown mode x

def displayCalls (s : SessionSwitcher) : List Call :=
  if s.hasActiveOutputs then
    (s.sessionList.filter s.uninteresting).map (.session .hideUninterestingSessions .toHide) ++
      s.activeCalls ++ s.nextCalls ++ s.spinnerCalls
  else s.sessionList.map (.session .hideAllSessions .toHide)

def settle (s : SessionSwitcher) : SessionSwitcher :=
  if s.hasActiveOutputs && s.showActive then { s with booting := false } else s

theorem WellFormed.tracked_name {s : SessionSwitcher} (wf : s.WellFormed) {name : Name} {x : Session}
    (stored : s.tracked name = some x) : x.name = name := by
  obtain ⟨info, found, held⟩ := Option.bind_eq_some_iff.mp stored
  obtain ⟨y, same, named⟩ := wf name info found
  rw [held] at same
  cases same
  exact named

theorem WellFormed.tracks {s : SessionSwitcher} (wf : s.WellFormed) {name : Name} {x : Session}
    (stored : s.tracked name = some x) : s.Tracks x := by
  rw [Tracks, wf.tracked_name stored, stored]

theorem WellFormed.found {s : SessionSwitcher} (wf : s.WellFormed) {name : Name} {info : SessionInfo}
    (found : s.sessions[name]? = some info) :
    ∃ x, info.session = some x ∧ s.tracked name = some x := by
  obtain ⟨x, held, -⟩ := wf name info found
  exact ⟨x, held, by simp [tracked, found, held]⟩

theorem ready_iff {s : SessionSwitcher} {name : Name} :
    s.isSessionReadyForDisplay name = true ↔
      ∃ info x, s.sessions[name]? = some info ∧ info.session = some x ∧ info.ready = true := by
  unfold isSessionReadyForDisplay
  cases found : s.sessions[name]? with
  | none => simp
  | some info => simp [Option.isSome_iff_exists]

theorem tracked_of_ready {s : SessionSwitcher} {name : Name}
    (ready : s.isSessionReadyForDisplay name = true) : ∃ x, s.tracked name = some x := by
  obtain ⟨info, x, found, held, -⟩ := ready_iff.mp ready
  exact ⟨x, by simp [tracked, found, held]⟩

theorem WellFormed.mem_sessionList {s : SessionSwitcher} (wf : s.WellFormed) {x : Session} :
    x ∈ s.sessionList ↔ s.Tracks x := by
  simp only [sessionList, List.mem_filterMap, Prod.exists, TreeMap.mem_toList_iff_getElem?_eq_some,
    Tracks]
  constructor
  · rintro ⟨name, info, found, held⟩
    have stored : s.tracked name = some x := by simp [tracked, found, held]
    exact wf.tracks stored
  · intro stored
    obtain ⟨info, found, held⟩ := Option.bind_eq_some_iff.mp stored
    exact ⟨x.name, info, found, held⟩

theorem hideAllSessions_run {s : SessionSwitcher} (wf : s.WellFormed) (calls : List Call) :
    hideAllSessions.run ⟨s, calls⟩ =
      .ok ((), ⟨s, calls ++ s.sessionList.map (.session .hideAllSessions .toHide)⟩) := by
  have loop := forM_run (fun (entry : Name × SessionInfo) => do
      let session ← deref entry.2.session
      call (.session .hideAllSessions .toHide session))
    (fun entry => entry.2.session.toList.map (.session .hideAllSessions .toHide))
    ⟨s, calls⟩ s.sessions.toList (by
      rintro ⟨name, info⟩ member calls
      obtain ⟨x, held, -⟩ := wf name info (TreeMap.mem_toList_iff_getElem?_eq_some.mp member)
      simp [held, StateT.run_bind, ok_bind])
  simp only [hideAllSessions, StateT.run_bind, switcher_run, ok_bind]
  rw [loop]
  simp [sessionList, List.filterMap_eq_flatMap_toList, List.map_flatMap]

theorem hideUninterestingSessions_run {s : SessionSwitcher} (wf : s.WellFormed) (calls : List Call) :
    hideUninterestingSessions.run ⟨s, calls⟩ = .ok ((), ⟨s, calls ++
      (s.sessionList.filter s.uninteresting).map (.session .hideUninterestingSessions .toHide)⟩) := by
  have loop := forM_run (fun (entry : Name × SessionInfo) => do
      let session ← deref entry.2.session
      if session.name != s.activeName && session.name != s.nextName then
        call (.session .hideUninterestingSessions .toHide session))
    (fun entry => (entry.2.session.toList.filter s.uninteresting).map
      (.session .hideUninterestingSessions .toHide))
    ⟨s, calls⟩ s.sessions.toList (by
      rintro ⟨name, info⟩ member calls
      obtain ⟨x, held, -⟩ := wf name info (TreeMap.mem_toList_iff_getElem?_eq_some.mp member)
      have dull : s.uninteresting x = (x.name != s.activeName && x.name != s.nextName) := rfl
      simp only [held, StateT.run_bind, deref_run, ok_bind, ← dull]
      cases interest : s.uninteresting x <;> simp [interest, pure_ok])
  simp only [hideUninterestingSessions, StateT.run_bind, switcher_run, ok_bind]
  rw [loop]
  simp [sessionList, List.filterMap_eq_flatMap_toList, List.map_flatMap, List.filter_flatMap]

theorem showSession_run {s : SessionSwitcher} {name : Name} {x : Session} (mode : ShowMode)
    (stored : s.tracked name = some x) (calls : List Call) :
    (showSession name mode).run ⟨s, calls⟩ = .ok ((), ⟨s, calls ++ showCalls .showSession mode x⟩) := by
  obtain ⟨info, found, held⟩ := Option.bind_eq_some_iff.mp stored
  have looked : (entry name).run ⟨s, calls⟩ = .ok (info, ⟨s, calls⟩) := entry_run found
  cases mode <;> simp [showSession, StateT.run_bind, looked, ok_bind, held, showCalls]

theorem hideSession_run {s : SessionSwitcher} {name : Name} {x : Session}
    (stored : s.tracked name = some x) (calls : List Call) :
    (hideSession name).run ⟨s, calls⟩ =
      .ok ((), ⟨s, calls ++ [.session .hideSession .toHide x]⟩) := by
  obtain ⟨info, found, held⟩ := Option.bind_eq_some_iff.mp stored
  have looked : (entry name).run ⟨s, calls⟩ = .ok (info, ⟨s, calls⟩) := entry_run found
  simp [hideSession, StateT.run_bind, looked, ok_bind, held]

theorem ensureSpinnerWillBeShown_run {s : SessionSwitcher} (wf : s.WellFormed) (mode : ShowMode)
    (calls : List Call) :
    (ensureSpinnerWillBeShown mode).run ⟨s, calls⟩ = .ok ((), ⟨s, calls ++
      match s.tracked s.spinnerName with
      | none => [.ensureRunning]
      | some x => showCalls .ensureSpinnerWillBeShown mode x⟩) := by
  cases found : s.sessions[s.spinnerName]? with
  | none => simp [ensureSpinnerWillBeShown, StateT.run_bind, ok_bind, tracked, found]
  | some info =>
      obtain ⟨x, held, stored⟩ := wf.found found
      cases mode <;>
        simp [ensureSpinnerWillBeShown, StateT.run_bind, ok_bind, found, held, stored, showCalls]

theorem ensureSpinnerIsNotRunning_run (a : Activation) :
    ensureSpinnerIsNotRunning.run a = .ok ((), { a with calls := a.calls ++ [.kill] }) := rfl

theorem updateDisplayedSessions_run {s : SessionSwitcher} (wf : s.WellFormed) (calls : List Call) :
    updateDisplayedSessions.run ⟨s, calls⟩ = .ok ((), ⟨s.settle, calls ++ s.displayCalls⟩) := by
  have gate : ((s.isSessionReadyForDisplay s.nextName || !isSessionExpectedToBecomeReady s.nextName ||
      !s.booting) && s.isSessionReadyForDisplay s.activeName) = s.showActive := rfl
  cases outputs : s.hasActiveOutputs with
  | false =>
      simp [updateDisplayedSessions, StateT.run_bind, ok_bind, outputs, hideAllSessions_run wf,
        settle, displayCalls]
  | true =>
      simp only [updateDisplayedSessions, StateT.run_bind, switcher_run, ok_bind, outputs,
        hideUninterestingSessions_run wf, gate, Bool.not_true, Bool.false_eq_true, ↓reduceIte,
        displayCalls]
      cases active : s.showActive with
      | true =>
          obtain ⟨x, stored⟩ := tracked_of_ready (Bool.and_eq_true_iff.mp active).2
          let t : SessionSwitcher := { s with booting := false }
          have settled : s.settle = t := by simp [settle, outputs, active, t]
          have wf' : t.WellFormed := wf
          simp only [↓reduceIte, StateT.run_bind, showSession_run .asActive stored, ok_bind,
            update_run, switcher_run, Bool.not_false, Bool.true_and, settled, activeCalls, nextCalls, spinnerCalls,
            spinnerMode, active, stored]
          change StateT.run (if s.isSessionReadyForDisplay s.nextName = true then _ else _)
            (Activation.mk t _) = _
          cases next : s.isSessionReadyForDisplay s.nextName with
          | true =>
              obtain ⟨y, storedNext⟩ := tracked_of_ready next
              have shown := showSession_run (s := t) .asNext storedNext
              simp [StateT.run_bind, shown, ok_bind, ensureSpinnerIsNotRunning_run, storedNext]
          | false =>
              cases expected : isSessionExpectedToBecomeReady s.nextName with
              | true =>
                  simp only [Bool.false_eq_true, ↓reduceIte, ensureSpinnerWillBeShown_run wf']
                  simp [t, tracked]
              | false => simp [ensureSpinnerIsNotRunning_run]
      | false =>
          have settled : s.settle = s := by simp [settle, active]
          simp only [settled, activeCalls, nextCalls, spinnerCalls, spinnerMode, active]
          cases expected : isSessionExpectedToBecomeReady s.activeName <;>
            cases next : s.isSessionReadyForDisplay s.nextName
          case true.true | false.true =>
            obtain ⟨y, storedNext⟩ := tracked_of_ready next
            simp [StateT.run_bind, next, hideSession_run storedNext, ok_bind, storedNext,
              ensureSpinnerWillBeShown_run wf, ensureSpinnerIsNotRunning_run]
          all_goals
            simp [StateT.run_bind, next, ok_bind, ensureSpinnerWillBeShown_run wf,
              ensureSpinnerIsNotRunning_run]

/-! ## The operations -/

/-- What an operation records before it calls `update_displayed_sessions`, and the calls it makes
before that. `none` when it returns early. -/
def record (s : SessionSwitcher) : Op → Option (SessionSwitcher × List Call)
  | .add session pid spinnerPid =>
      some ({ s with
        spinnerName := if pid = spinnerPid then session.name else s.spinnerName
        sessions := s.sessions.insert session.name { session } }, [])
  | .remove session =>
      match s.tracked session.name with
      | none => none
      | some x =>
          if x.correspondsTo session.address then
            some ({ s with
              spinnerName := if session.name = s.spinnerName then [] else s.spinnerName
              sessions := s.sessions.erase session.name }, [.session .remove .toHide x])
          else none
  | .setActiveSession name => some ({ s with activeName := name }, [])
  | .setNextSession name => some ({ s with nextName := name }, [])
  | .markReady session =>
      some ({ s with sessions := s.sessions.map fun _ info => markEntry session info }, [])
  | .activeOutputs outputs =>
      some ({ s with hasActiveOutputs := outputs.internal + outputs.external != 0 }, [])

def outcome (s : SessionSwitcher) (op : Op) : SessionSwitcher × List Call :=
  match s.record op with
  | none => (s, [])
  | some (t, before) => (t.settle, before ++ t.displayCalls)

theorem markEntry_session (scene : Nat) (info : SessionInfo) :
    (markEntry scene info).session = info.session := by
  unfold markEntry
  split_ifs <;> rfl

theorem record_remove {s t : SessionSwitcher} {session : SceneSession} {before : List Call}
    (recorded : s.record (.remove session) = some (t, before)) :
    ∃ x, s.tracked session.name = some x ∧ x.correspondsTo session.address = true ∧
      t = { s with
        spinnerName := if session.name = s.spinnerName then [] else s.spinnerName
        sessions := s.sessions.erase session.name } ∧
      before = [.session .remove .toHide x] := by
  simp only [record] at recorded
  cases stored : s.tracked session.name with
  | none => simp [stored] at recorded
  | some x =>
      simp only [stored, Option.ite_none_right_eq_some] at recorded
      obtain ⟨corresponds, same⟩ := recorded
      obtain ⟨rfl, rfl⟩ := Prod.mk.inj (Option.some.inj same)
      exact ⟨x, rfl, corresponds, rfl, rfl⟩

theorem WellFormed.record {s t : SessionSwitcher} {op : Op} {before : List Call} (wf : s.WellFormed)
    (recorded : s.record op = some (t, before)) : t.WellFormed := by
  cases op with
  | add session pid spinnerPid =>
      obtain ⟨rfl, rfl⟩ := Prod.mk.inj (Option.some.inj recorded)
      intro name info found
      rw [TreeMap.getElem?_insert] at found
      split_ifs at found with same
      · cases found
        exact ⟨session, rfl, by simpa using same⟩
      · exact wf name info found
  | remove session =>
      obtain ⟨x, -, -, rfl, -⟩ := record_remove recorded
      intro name info found
      rw [TreeMap.getElem?_erase] at found
      split_ifs at found
      exact wf name info found
  | markReady scene =>
      obtain ⟨rfl, rfl⟩ := Prod.mk.inj (Option.some.inj recorded)
      intro name info found
      simp only [TreeMap.getElem?_map, Option.map_eq_some_iff] at found
      obtain ⟨old, found, rfl⟩ := found
      rw [markEntry_session]
      exact wf name old found
  | setActiveSession name | setNextSession name | activeOutputs outputs =>
      obtain ⟨rfl, rfl⟩ := Prod.mk.inj (Option.some.inj recorded)
      exact wf

theorem WellFormed.settle {s : SessionSwitcher} (wf : s.WellFormed) : s.settle.WellFormed := by
  unfold SessionSwitcher.settle
  split_ifs
  · exact wf
  · exact wf

theorem WellFormed.outcome {s : SessionSwitcher} (wf : s.WellFormed) (op : Op) :
    (s.outcome op).1.WellFormed := by
  unfold SessionSwitcher.outcome
  cases recorded : s.record op with
  | none => exact wf
  | some result => exact (wf.record recorded).settle

/-- Every operation is its bookkeeping followed by an update, and dereferences no null session. -/
theorem body_run {s : SessionSwitcher} (wf : s.WellFormed) (op : Op) :
    op.body.run ⟨s, []⟩ = .ok ((), ⟨(s.outcome op).1, (s.outcome op).2⟩) := by
  have updated {t : SessionSwitcher} {before : List Call} (recorded : s.record op = some (t, before)) :
      updateDisplayedSessions.run ⟨t, before⟩ = .ok ((), ⟨(s.outcome op).1, (s.outcome op).2⟩) := by
    rw [updateDisplayedSessions_run (wf.record recorded) before, outcome, recorded]
  cases op with
  | add session pid spinnerPid =>
      have begun : (Op.add session pid spinnerPid).body.run ⟨s, []⟩ = updateDisplayedSessions.run
          ⟨{ s with
            spinnerName := if pid = spinnerPid then session.name else s.spinnerName
            sessions := s.sessions.insert session.name { session } }, []⟩ := by
        by_cases own : pid = spinnerPid <;> simp [Op.body, add, StateT.run_bind, ok_bind, own]
      rw [begun]
      exact updated rfl
  | remove session =>
      cases found : s.sessions[session.name]? with
      | none => simp [Op.body, remove, StateT.run_bind, ok_bind, found, pure_ok, outcome, record, tracked]
      | some info =>
          obtain ⟨x, held, stored⟩ := wf.found found
          cases corresponds : x.correspondsTo session.address with
          | false =>
              simp [Op.body, remove, StateT.run_bind, ok_bind, found, held, corresponds, pure_ok,
                outcome, record, stored]
          | true =>
              have begun : (Op.remove session).body.run ⟨s, []⟩ = updateDisplayedSessions.run
                  ⟨{ s with
                    spinnerName := if session.name = s.spinnerName then [] else s.spinnerName
                    sessions := s.sessions.erase session.name }, [.session .remove .toHide x]⟩ := by
                by_cases spinner : session.name = s.spinnerName
                · rw [spinner] at found
                  simp [Op.body, remove, StateT.run_bind, ok_bind, found, held, corresponds, spinner]
                · simp [Op.body, remove, StateT.run_bind, ok_bind, found, held, corresponds, spinner]
              rw [begun]
              exact updated (by simp [record, stored, corresponds])
  | setActiveSession name | setNextSession name | markReady session | activeOutputs outputs =>
      exact updated rfl

end SessionSwitcher

end SystemCompositor
