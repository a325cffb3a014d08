import SystemCompositor.Library.Interleaving
import SystemCompositor.SessionSwitcher.World

namespace SystemCompositor
open Std Library

structure SharedSwitcher where
  world : World
  mutexHeld : Bool := false

abbrev SwitcherProgram := Program SharedSwitcher

/-! The operations of the switcher once more, step by step: each read of a field, each assignment and
each call on a session is a step of its own, between which another thread may run. -/

namespace SwitcherProgram

def read {α : Type} (look : SessionSwitcher → α) : SwitcherProgram α := Program.read fun s => look s.world.switcher

def update (change : SessionSwitcher → SessionSwitcher) : SwitcherProgram Unit :=
  Program.change fun s => { s with world.switcher := change s.world.switcher }

def call (c : Call) : SwitcherProgram Unit :=
  Program.change fun s => { s with world.scene := s.world.scene.perform c }

def deref : Option Session → SwitcherProgram Session
  | some session => pure session
  | none => .fault

/-- `sessions[name]`, which default-constructs a missing entry. -/
def entry (name : Name) : SwitcherProgram SessionInfo := do
  match ← read (·.sessions[name]?) with
  | some info => pure info
  | none =>
      update fun s => { s with sessions := s.sessions.insert name {} }
      pure {}

def lock : SwitcherProgram Unit := Program.await (fun s => !s.mutexHeld) fun s => { s with mutexHeld := true }

def unlock : SwitcherProgram Unit := Program.change fun s => { s with mutexHeld := false }

def isSessionReadyForDisplay (name : Name) : SwitcherProgram Bool := read (·.isSessionReadyForDisplay name)

def hideUninterestingSessions : SwitcherProgram Unit := do
  (← read (·.sessions.toList)).forM fun (_, info) => do
    let session ← deref info.session
    if session.name != (← read (·.activeName)) then
      if session.name != (← read (·.nextName)) then
        call (.session .hideUninterestingSessions .toHide session)

def hideAllSessions : SwitcherProgram Unit := do
  (← read (·.sessions.toList)).forM fun (_, info) => do
    let session ← deref info.session
    call (.session .hideAllSessions .toHide session)

def showSession (name : Name) (showMode : ShowMode) : SwitcherProgram Unit := do
  let info ← entry name
  let session ← deref info.session
  if showMode = .asActive then
    call (.session .showSession .toRaiseAndFocus session)
  call (.session .showSession .toShow session)

def hideSession (name : Name) : SwitcherProgram Unit := do
  let info ← entry name
  let session ← deref info.session
  call (.session .hideSession .toHide session)

def ensureSpinnerWillBeShown (showMode : ShowMode) : SwitcherProgram Unit := do
  let spinnerName ← read (·.spinnerName)
  match ← read (·.sessions[spinnerName]?) with
  | none => call .ensureRunning
  | some info =>
      let session ← deref info.session
      if showMode = .asActive then
        call (.session .ensureSpinnerWillBeShown .toRaiseAndFocus session)
      call (.session .ensureSpinnerWillBeShown .toShow session)

def ensureSpinnerIsNotRunning : SwitcherProgram Unit := call .kill

def allowedToDisplayActive : SwitcherProgram Bool := do
  if ← isSessionReadyForDisplay (← read (·.nextName)) then pure true
  else if !SessionSwitcher.isSessionExpectedToBecomeReady (← read (·.nextName)) then pure true
  else pure !(← read (·.booting))

/-- `allowed_to_display_active && is_session_ready_for_display(active_name)` -/
def activeToBeShown : SwitcherProgram Bool := do
  if ← allowedToDisplayActive then isSessionReadyForDisplay (← read (·.activeName)) else pure false

def updateDisplayedSessions : SwitcherProgram Unit := do
  if !(← read (·.hasActiveOutputs)) then
    return ← hideAllSessions
  hideUninterestingSessions
  let mut showSpinner := false
  let mut showSpinnerMode := ShowMode.asNext
  let mut showActive := false
  if ← activeToBeShown then
    showSession (← read (·.activeName)) .asActive
    showActive := true
    update fun s => { s with booting := false }
  else if SessionSwitcher.isSessionExpectedToBecomeReady (← read (·.activeName)) then
    showSpinner := true
    showSpinnerMode := .asActive
  let allowedToDisplayNext := !showSpinner && showActive
  if allowedToDisplayNext then
    if ← isSessionReadyForDisplay (← read (·.nextName)) then
      showSession (← read (·.nextName)) .asNext
    else if SessionSwitcher.isSessionExpectedToBecomeReady (← read (·.nextName)) then
      showSpinner := true
      showSpinnerMode := .asNext
  else if ← isSessionReadyForDisplay (← read (·.nextName)) then
    hideSession (← read (·.nextName))
  if showSpinner then
    ensureSpinnerWillBeShown showSpinnerMode
  else
    ensureSpinnerIsNotRunning

def add (session : Session) (pid spinnerPid : Int) : SwitcherProgram Unit := do
  lock
  if pid = spinnerPid then
    update fun s => { s with spinnerName := session.name }
  update fun s => { s with sessions := s.sessions.insert session.name { session } }
  updateDisplayedSessions
  unlock

def remove (session : SceneSession) : SwitcherProgram Unit := do
  lock
  match ← read (·.sessions[session.name]?) with
  | none => unlock
  | some info =>
      match info.session with
      | none => unlock
      | some tracked =>
          if !tracked.correspondsTo session.address then
            unlock
          else
            if session.name = (← read (·.spinnerName)) then
              update fun s => { s with spinnerName := [] }
            call (.session .remove .toHide tracked)
            update fun s => { s with sessions := s.sessions.erase session.name }
            updateDisplayedSessions
            unlock

def setActiveSession (name : Name) : SwitcherProgram Unit := do
  lock
  update fun s => { s with activeName := name }
  updateDisplayedSessions
  unlock

def setNextSession (name : Name) : SwitcherProgram Unit := do
  lock
  update fun s => { s with nextName := name }
  updateDisplayedSessions
  unlock

def markReady (session : Nat) : SwitcherProgram Unit := do
  lock
  update fun s => { s with sessions := s.sessions.map fun _ info => SessionSwitcher.markEntry session info }
  updateDisplayedSessions
  unlock

/-- The handler takes no lock of the switcher. -/
def activeOutputsHandler (outputs : ActiveOutputs) : SwitcherProgram Unit := do
  update fun s => { s with hasActiveOutputs := outputs.internal + outputs.external != 0 }
  updateDisplayedSessions

end SwitcherProgram

def Op.program : Op → SwitcherProgram Unit
  | .add session pid spinnerPid => SwitcherProgram.add session pid spinnerPid
  | .remove session => SwitcherProgram.remove session
  | .setActiveSession name => SwitcherProgram.setActiveSession name
  | .setNextSession name => SwitcherProgram.setNextSession name
  | .markReady session => SwitcherProgram.markReady session
  | .activeOutputs outputs => SwitcherProgram.activeOutputsHandler outputs

namespace SwitcherProgram

@[simp] theorem alone_readField {α : Type} (look : SessionSwitcher → α) (s : SharedSwitcher) :
    (read look).alone s = some (look s.world.switcher, s) := Program.alone_read _ s

@[simp] theorem alone_update (change : SessionSwitcher → SessionSwitcher) (s : SharedSwitcher) :
    (update change).alone s = some ((), { s with world.switcher := change s.world.switcher }) :=
  Program.alone_change _ s

@[simp] theorem alone_call (c : Call) (s : SharedSwitcher) :
    (call c).alone s = some ((), { s with world.scene := s.world.scene.perform c }) :=
  Program.alone_change _ s

@[simp] theorem alone_lock (w : World) : lock.alone ⟨w, false⟩ = some ((), ⟨w, true⟩) :=
  Program.alone_await rfl _

@[simp] theorem alone_unlock (s : SharedSwitcher) :
    unlock.alone s = some ((), { s with mutexHeld := false }) := Program.alone_change _ s

theorem alone_entry {name : Name} {info : SessionInfo} {s : SharedSwitcher}
    (found : s.world.switcher.sessions[name]? = some info) : (entry name).alone s = some (info, s) := by
  simp [entry, found]

theorem alone_calls {γ : Type} (body : γ → SwitcherProgram PUnit) (made : γ → List Call) {s : SessionSwitcher}
    (xs : List γ) (one : ∀ x ∈ xs, ∀ scene held, (body x).alone ⟨⟨s, scene⟩, held⟩ =
      some ((), ⟨⟨s, scene.performAll (made x)⟩, held⟩)) (scene : Scene) (held : Bool) :
    (xs.forM body).alone ⟨⟨s, scene⟩, held⟩ = some ((), ⟨⟨s, scene.performAll (xs.flatMap made)⟩, held⟩) := by
  rw [Program.alone_forM body (fun t x => { t with world.scene := t.world.scene.performAll (made x) })
    (fun t => t.world.switcher = s) xs ?_ rfl]
  · have folded (t : SharedSwitcher) : xs.foldl (fun t x =>
        { t with world.scene := t.world.scene.performAll (made x) }) t =
        { t with world.scene := t.world.scene.performAll (xs.flatMap made) } := by
      clear one
      induction xs generalizing t with
      | nil => rfl
      | cons x xs ih => rw [List.foldl_cons, ih, List.flatMap_cons, Scene.performAll_append]
    rw [folded]
  · rintro x member ⟨⟨_, scene⟩, held⟩ rfl
    exact ⟨one x member scene held, rfl⟩

theorem alone_hideAllSessions {s : SessionSwitcher} (wf : s.WellFormed) (scene : Scene) (held : Bool) :
    hideAllSessions.alone ⟨⟨s, scene⟩, held⟩ = some ((), ⟨⟨s, scene.performAll
      (s.sessionList.map (.session .hideAllSessions .toHide))⟩, held⟩) := by
  have loop := alone_calls (s := s) (fun (entry : Name × SessionInfo) => do
      let session ← deref entry.2.session
      call (.session .hideAllSessions .toHide session))
    (fun entry => entry.2.session.toList.map (.session .hideAllSessions .toHide)) s.sessions.toList (by
      rintro ⟨name, info⟩ member scene held
      obtain ⟨x, stored, -⟩ := wf name info (TreeMap.mem_toList_iff_getElem?_eq_some.mp member)
      simp [stored, deref, Scene.performAll]) scene held
  simp only [hideAllSessions, Program.alone_bind, alone_readField, Option.bind_some]
  rw [loop]
  simp [SessionSwitcher.sessionList, List.filterMap_eq_flatMap_toList, List.map_flatMap]

theorem alone_hideUninterestingSessions {s : SessionSwitcher} (wf : s.WellFormed) (scene : Scene) (held : Bool) :
    hideUninterestingSessions.alone ⟨⟨s, scene⟩, held⟩ = some ((), ⟨⟨s, scene.performAll
      ((s.sessionList.filter s.uninteresting).map (.session .hideUninterestingSessions .toHide))⟩, held⟩) := by
  have loop := alone_calls (s := s) (fun (entry : Name × SessionInfo) => do
      let session ← deref entry.2.session
      if session.name != (← read (·.activeName)) then
        if session.name != (← read (·.nextName)) then
          call (.session .hideUninterestingSessions .toHide session))
    (fun entry => (entry.2.session.toList.filter s.uninteresting).map
      (.session .hideUninterestingSessions .toHide)) s.sessions.toList (by
      rintro ⟨name, info⟩ member scene held
      obtain ⟨x, stored, -⟩ := wf name info (TreeMap.mem_toList_iff_getElem?_eq_some.mp member)
      by_cases active : x.name = s.activeName <;> by_cases next : x.name = s.nextName <;>
        simp [stored, deref, active, next, SessionSwitcher.uninteresting, List.filter_cons, Scene.performAll])
    scene held
  simp only [hideUninterestingSessions, Program.alone_bind, alone_readField, Option.bind_some]
  rw [loop]
  simp [SessionSwitcher.sessionList, List.filterMap_eq_flatMap_toList, List.map_flatMap, List.filter_flatMap]

theorem alone_showSession {s : SessionSwitcher} {name : Name} {x : Session} (mode : ShowMode)
    (stored : s.tracked name = some x) (scene : Scene) (held : Bool) :
    (showSession name mode).alone ⟨⟨s, scene⟩, held⟩ =
      some ((), ⟨⟨s, scene.performAll (SessionSwitcher.showCalls .showSession mode x)⟩, held⟩) := by
  obtain ⟨info, found, stored⟩ := Option.bind_eq_some_iff.mp stored
  have looked : (entry name).alone ⟨⟨s, scene⟩, held⟩ = some (info, ⟨⟨s, scene⟩, held⟩) := alone_entry found
  cases mode <;> simp [showSession, looked, stored, deref, SessionSwitcher.showCalls, Scene.performAll]

theorem alone_hideSession {s : SessionSwitcher} {name : Name} {x : Session}
    (stored : s.tracked name = some x) (scene : Scene) (held : Bool) :
    (hideSession name).alone ⟨⟨s, scene⟩, held⟩ =
      some ((), ⟨⟨s, scene.performAll [.session .hideSession .toHide x]⟩, held⟩) := by
  obtain ⟨info, found, stored⟩ := Option.bind_eq_some_iff.mp stored
  have looked : (entry name).alone ⟨⟨s, scene⟩, held⟩ = some (info, ⟨⟨s, scene⟩, held⟩) := alone_entry found
  simp [hideSession, looked, stored, deref, Scene.performAll]

theorem alone_ensureSpinnerWillBeShown {s : SessionSwitcher} (wf : s.WellFormed) (mode : ShowMode)
    (scene : Scene) (held : Bool) :
    (ensureSpinnerWillBeShown mode).alone ⟨⟨s, scene⟩, held⟩ = some ((), ⟨⟨s, scene.performAll
      (match s.tracked s.spinnerName with
        | none => [.ensureRunning]
        | some x => SessionSwitcher.showCalls .ensureSpinnerWillBeShown mode x)⟩, held⟩) := by
  cases found : s.sessions[s.spinnerName]? with
  | none => simp [ensureSpinnerWillBeShown, SessionSwitcher.tracked, found, Scene.performAll]
  | some info =>
      obtain ⟨x, stored, tracked⟩ := wf.found found
      cases mode <;>
        simp [ensureSpinnerWillBeShown, found, stored, tracked, deref, SessionSwitcher.showCalls, Scene.performAll]

@[simp] theorem alone_ensureSpinnerIsNotRunning (s : SharedSwitcher) :
    ensureSpinnerIsNotRunning.alone s = some ((), { s with world.scene := s.world.scene.perform .kill }) :=
  alone_call .kill s

@[simp] theorem alone_isSessionReadyForDisplay (name : Name) (s : SharedSwitcher) :
    (isSessionReadyForDisplay name).alone s = some (s.world.switcher.isSessionReadyForDisplay name, s) := rfl

theorem alone_allowedToDisplayActive (s : SharedSwitcher) :
    allowedToDisplayActive.alone s = some (s.world.switcher.allowedToDisplayActive, s) := by
  simp only [allowedToDisplayActive, Program.alone_bind, alone_readField, Option.bind_some,
    alone_isSessionReadyForDisplay, Program.alone_ite, SessionSwitcher.allowedToDisplayActive]
  split_ifs <;> simp_all

theorem alone_activeToBeShown (s : SharedSwitcher) :
    activeToBeShown.alone s = some (s.world.switcher.showActive, s) := by
  simp only [activeToBeShown, Program.alone_bind, alone_readField, Option.bind_some,
    alone_isSessionReadyForDisplay, alone_allowedToDisplayActive, Program.alone_ite, SessionSwitcher.showActive]
  split_ifs <;> simp_all

/-- The display update that shows the active session: the end of the boot lets the next session show, too. -/
theorem alone_updateDisplayedSessions_active {s : SessionSwitcher} (wf : s.WellFormed)
    (outputs : s.hasActiveOutputs = true) (active : s.showActive = true) (scene : Scene) (held : Bool) :
    updateDisplayedSessions.alone ⟨⟨s, scene⟩, held⟩ =
      some ((), ⟨⟨s.settle, scene.performAll s.displayCalls⟩, held⟩) := by
  obtain ⟨x, stored⟩ := SessionSwitcher.tracked_of_ready (Bool.and_eq_true_iff.mp active).2
  obtain ⟨t, booted⟩ : ∃ t : SessionSwitcher, t = { s with booting := false } := ⟨_, rfl⟩
  have settled : s.settle = t := by simp [SessionSwitcher.settle, outputs, active, booted]
  have wf' : t.WellFormed := by rw [booted]; exact wf
  have tracked (name : Name) : t.tracked name = s.tracked name := by rw [booted]; rfl
  have ready (name : Name) : t.isSessionReadyForDisplay name = s.isSessionReadyForDisplay name := by
    rw [booted]; rfl
  have nextName : t.nextName = s.nextName := by rw [booted]
  have spinnerName : t.spinnerName = s.spinnerName := by rw [booted]
  simp only [updateDisplayedSessions, Program.alone_bind, alone_readField, Option.bind_some, outputs,
    alone_hideUninterestingSessions wf, alone_activeToBeShown, Bool.not_true, Bool.false_eq_true,
    ↓reduceIte, SessionSwitcher.displayCalls, Scene.performAll_append]
  simp only [active, ↓reduceIte, Program.alone_bind, alone_readField, Option.bind_some,
    alone_showSession .asActive stored, alone_update, Bool.not_false, Bool.true_and, settled,
    SessionSwitcher.activeCalls, SessionSwitcher.nextCalls, SessionSwitcher.spinnerCalls,
    SessionSwitcher.spinnerMode, stored, ← booted, alone_isSessionReadyForDisplay, ready]
  cases next : s.isSessionReadyForDisplay s.nextName with
  | true =>
      obtain ⟨y, storedNext⟩ := SessionSwitcher.tracked_of_ready next
      have shown := alone_showSession (s := t) .asNext ((tracked _).trans storedNext)
      simp [nextName, shown, storedNext, Scene.performAll]
  | false =>
      cases expected : SessionSwitcher.isSessionExpectedToBecomeReady s.nextName with
      | true =>
          cases spinner : s.tracked s.spinnerName <;>
            simp [nextName, expected, alone_ensureSpinnerWillBeShown wf', tracked, spinnerName, spinner]
      | false => simp [nextName, expected, Scene.performAll]

/-- The display update that does not: the next session is hidden, and the spinner stands in for the active one. -/
theorem alone_updateDisplayedSessions_inactive {s : SessionSwitcher} (wf : s.WellFormed)
    (outputs : s.hasActiveOutputs = true) (active : s.showActive = false) (scene : Scene) (held : Bool) :
    updateDisplayedSessions.alone ⟨⟨s, scene⟩, held⟩ =
      some ((), ⟨⟨s.settle, scene.performAll s.displayCalls⟩, held⟩) := by
  have settled : s.settle = s := by simp [SessionSwitcher.settle, active]
  simp only [updateDisplayedSessions, Program.alone_bind, alone_readField, Option.bind_some, outputs,
    alone_hideUninterestingSessions wf, alone_activeToBeShown, active, Bool.not_true, Bool.false_eq_true,
    ↓reduceIte, SessionSwitcher.displayCalls, Scene.performAll_append, settled, SessionSwitcher.activeCalls,
    SessionSwitcher.nextCalls, SessionSwitcher.spinnerCalls, SessionSwitcher.spinnerMode]
  cases next : s.isSessionReadyForDisplay s.nextName with
  | true =>
      obtain ⟨y, storedNext⟩ := SessionSwitcher.tracked_of_ready next
      cases expected : SessionSwitcher.isSessionExpectedToBecomeReady s.activeName with
      | true =>
          cases spinner : s.tracked s.spinnerName <;>
            simp [next, alone_hideSession storedNext, storedNext, alone_ensureSpinnerWillBeShown wf, spinner]
      | false => simp [next, alone_hideSession storedNext, storedNext, Scene.performAll]
  | false =>
      cases expected : SessionSwitcher.isSessionExpectedToBecomeReady s.activeName with
      | true =>
          cases spinner : s.tracked s.spinnerName <;>
            simp [next, alone_ensureSpinnerWillBeShown wf, spinner]
      | false => simp [next, Scene.performAll]

theorem alone_updateDisplayedSessions {s : SessionSwitcher} (wf : s.WellFormed) (scene : Scene) (held : Bool) :
    updateDisplayedSessions.alone ⟨⟨s, scene⟩, held⟩ =
      some ((), ⟨⟨s.settle, scene.performAll s.displayCalls⟩, held⟩) := by
  cases outputs : s.hasActiveOutputs with
  | false =>
      simp [updateDisplayedSessions, outputs, alone_hideAllSessions wf, SessionSwitcher.settle,
        SessionSwitcher.displayCalls]
  | true =>
      cases active : s.showActive with
      | true => exact alone_updateDisplayedSessions_active wf outputs active scene held
      | false => exact alone_updateDisplayedSessions_inactive wf outputs active scene held

theorem alone_activeOutputsHandler {w : World} (wf : w.switcher.WellFormed) (outputs : ActiveOutputs) (held : Bool) :
    (activeOutputsHandler outputs).alone ⟨w, held⟩ = some ((), ⟨w.after (.activeOutputs outputs), held⟩) := by
  have recorded : w.switcher.record (.activeOutputs outputs) = some (_, []) := rfl
  simp only [activeOutputsHandler, Program.alone_bind, alone_update, Option.bind_some]
  rw [alone_updateDisplayedSessions (wf.record recorded)]
  rfl

/-- The steps of an operation that finds the mutex free, with no other thread in between, make up the
operation. -/
theorem alone_program {w : World} (wf : w.switcher.WellFormed) (op : Op) :
    op.program.alone ⟨w, false⟩ = some ((), ⟨w.after op, false⟩) := by
  have updated {t : SessionSwitcher} {before : List Call} (recorded : w.switcher.record op = some (t, before)) :
      (do updateDisplayedSessions; unlock : SwitcherProgram Unit).alone ⟨⟨t, w.scene.performAll before⟩, true⟩ =
        some ((), ⟨w.after op, false⟩) := by
    rw [Program.alone_bind, alone_updateDisplayedSessions (wf.record recorded)]
    simp [World.after, SessionSwitcher.outcome, recorded]
  cases op with
  | add session pid spinnerPid =>
      rw [← updated rfl]
      by_cases own : pid = spinnerPid <;> simp [Op.program, add, own, Scene.performAll]
  | remove session =>
      cases found : w.switcher.sessions[session.name]? with
      | none =>
          have early : w.switcher.record (.remove session) = none := by
            simp [SessionSwitcher.record, SessionSwitcher.tracked, found]
          simp [Op.program, remove, found, World.after_of_none early]
      | some info =>
          obtain ⟨x, stored, tracked⟩ := wf.found found
          cases corresponds : x.correspondsTo session.address with
          | false =>
              have early : w.switcher.record (.remove session) = none := by
                simp [SessionSwitcher.record, tracked, corresponds]
              simp [Op.program, remove, found, stored, corresponds, World.after_of_none early]
          | true =>
              have recorded : w.switcher.record (.remove session) = some ({ w.switcher with
                  spinnerName := if session.name = w.switcher.spinnerName then [] else w.switcher.spinnerName
                  sessions := w.switcher.sessions.erase session.name }, [.session .remove .toHide x]) := by
                simp [SessionSwitcher.record, tracked, corresponds]
              rw [← updated recorded]
              by_cases spinner : session.name = w.switcher.spinnerName
              · rw [spinner] at found
                simp [Op.program, remove, found, stored, corresponds, spinner, Scene.performAll]
              · simp [Op.program, remove, found, stored, corresponds, spinner, Scene.performAll]
  | setActiveSession name | setNextSession name | markReady session =>
      rw [← updated rfl]
      rfl
  | activeOutputs outputs => exact alone_activeOutputsHandler wf outputs false

end SwitcherProgram
end SystemCompositor
