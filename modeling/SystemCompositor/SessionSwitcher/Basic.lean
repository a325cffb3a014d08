import Mathlib.Data.Option.Basic
import SystemCompositor.Session

namespace SystemCompositor
open Std

inductive ShowMode
  | asActive
  | asNext
deriving DecidableEq

inductive Caller
  | remove
  | hideUninterestingSessions
  | hideAllSessions
  | showSession
  | hideSession
  | ensureSpinnerWillBeShown
deriving DecidableEq

inductive Request
  | toShow
  | toHide
  | toRaiseAndFocus
deriving DecidableEq

inductive Call
  | session (caller : Caller) (request : Request) (session : Session)
  | ensureRunning
  | kill
deriving DecidableEq

inductive Fault
  | nullSession
deriving DecidableEq

structure SessionInfo where
  session : Option Session := none
  ready : Bool := false
deriving DecidableEq

structure SessionSwitcher where
  sessions : TreeMap Name SessionInfo := {}
  activeName : Name := []
  nextName : Name := []
  spinnerName : Name := []
  booting : Bool := true
  hasActiveOutputs : Bool := true

/-- An operation in progress: the switcher, and the calls made so far, oldest first. -/
structure Activation where
  switcher : SessionSwitcher
  calls : List Call := []

abbrev SwitcherM := StateT Activation (Except Fault)

namespace SwitcherM

def switcher : SwitcherM SessionSwitcher := return (← get).switcher

def update (change : SessionSwitcher → SessionSwitcher) : SwitcherM Unit :=
  modify fun a => { a with switcher := change a.switcher }

def call (c : Call) : SwitcherM Unit :=
  modify fun a => { a with calls := a.calls ++ [c] }

def deref : Option Session → SwitcherM Session
  | some session => pure session
  | none => throw .nullSession

/-- `sessions[name]`, which default-constructs a missing entry. -/
def entry (name : Name) : SwitcherM SessionInfo := do
  match (← switcher).sessions[name]? with
  | some info => pure info
  | none =>
      update fun s => { s with sessions := s.sessions.insert name {} }
      pure {}

end SwitcherM

open SwitcherM

namespace SessionSwitcher

def isSessionReadyForDisplay (s : SessionSwitcher) (name : Name) : Bool :=
  match s.sessions[name]? with
  | none => false
  | some info => info.session.isSome && info.ready

def isSessionExpectedToBecomeReady (name : Name) : Bool := !name.isEmpty

def hideUninterestingSessions : SwitcherM Unit := do
  let s ← switcher
  s.sessions.toList.forM fun (_, info) => do
    let session ← deref info.session
    if session.name != s.activeName && session.name != s.nextName then
      call (.session .hideUninterestingSessions .toHide session)

def hideAllSessions : SwitcherM Unit := do
  (← switcher).sessions.toList.forM fun (_, info) => do
    let session ← deref info.session
    call (.session .hideAllSessions .toHide session)

def showSession (name : Name) (showMode : ShowMode) : SwitcherM Unit := do
  let info ← entry name
  let session ← deref info.session
  if showMode = .asActive then
    call (.session .showSession .toRaiseAndFocus session)
  call (.session .showSession .toShow session)

def hideSession (name : Name) : SwitcherM Unit := do
  let info ← entry name
  let session ← deref info.session
  call (.session .hideSession .toHide session)

def ensureSpinnerWillBeShown (showMode : ShowMode) : SwitcherM Unit := do
  let s ← switcher
  match s.sessions[s.spinnerName]? with
  | none => call .ensureRunning
  | some info =>
      let session ← deref info.session
      if showMode = .asActive then
        call (.session .ensureSpinnerWillBeShown .toRaiseAndFocus session)
      call (.session .ensureSpinnerWillBeShown .toShow session)

def ensureSpinnerIsNotRunning : SwitcherM Unit := call .kill

def updateDisplayedSessions : SwitcherM Unit := do
  let s ← switcher
  if !s.hasActiveOutputs then
    return ← hideAllSessions
  hideUninterestingSessions
  let mut showSpinner := false
  let mut showSpinnerMode := ShowMode.asNext
  let allowedToDisplayActive :=
    s.isSessionReadyForDisplay s.nextName ||
    !isSessionExpectedToBecomeReady s.nextName ||
    !s.booting
  let mut showActive := false
  if allowedToDisplayActive && s.isSessionReadyForDisplay s.activeName then
    showSession s.activeName .asActive
    showActive := true
    update fun s => { s with booting := false }
  else if isSessionExpectedToBecomeReady s.activeName then
    showSpinner := true
    showSpinnerMode := .asActive
  let s ← switcher
  let allowedToDisplayNext := !showSpinner && showActive
  if allowedToDisplayNext then
    if s.isSessionReadyForDisplay s.nextName then
      showSession s.nextName .asNext
    else if isSessionExpectedToBecomeReady s.nextName then
      showSpinner := true
      showSpinnerMode := .asNext
  else if s.isSessionReadyForDisplay s.nextName then
    hideSession s.nextName
  if showSpinner then
    ensureSpinnerWillBeShown showSpinnerMode
  else
    ensureSpinnerIsNotRunning

/-- `spinnerPid` is the value that `spinner_process->pid()` returns to this call. -/
def add (session : Session) (pid spinnerPid : Int) : SwitcherM Unit := do
  if pid = spinnerPid then
    update fun s => { s with spinnerName := session.name }
  update fun s => { s with sessions := s.sessions.insert session.name { session } }
  updateDisplayedSessions

def remove (session : SceneSession) : SwitcherM Unit := do
  let s ← switcher
  match s.sessions[session.name]? with
  | none => return
  | some info =>
      match info.session with
      | none => return
      | some tracked =>
          if !tracked.correspondsTo session.address then
            return
          if session.name = s.spinnerName then
            update fun s => { s with spinnerName := [] }
          call (.session .remove .toHide tracked)
          update fun s => { s with sessions := s.sessions.erase session.name }
          updateDisplayedSessions

def setActiveSession (name : Name) : SwitcherM Unit := do
  update fun s => { s with activeName := name }
  updateDisplayedSessions

def setNextSession (name : Name) : SwitcherM Unit := do
  update fun s => { s with nextName := name }
  updateDisplayedSessions

def markEntry (session : Nat) (info : SessionInfo) : SessionInfo :=
  if info.session.any (fun tracked => tracked.correspondsTo session) then
    { info with ready := true }
  else info

def markReady (session : Nat) : SwitcherM Unit := do
  update fun s => { s with sessions := s.sessions.map fun _ info => markEntry session info }
  updateDisplayedSessions

/-- The handler that `set_screen` registers with the screen. -/
def activeOutputsHandler (outputs : ActiveOutputs) : SwitcherM Unit := do
  update fun s => { s with hasActiveOutputs := outputs.internal + outputs.external != 0 }
  updateDisplayedSessions

end SessionSwitcher

/-- The entry points of the switcher, with the values its environment supplies. -/
inductive Op
  | add (session : Session) (pid spinnerPid : Int)
  | remove (session : SceneSession)
  | setActiveSession (name : Name)
  | setNextSession (name : Name)
  | markReady (session : Nat)
  | activeOutputs (outputs : ActiveOutputs)
deriving DecidableEq

def Op.body : Op → SwitcherM Unit
  | .add session pid spinnerPid => SessionSwitcher.add session pid spinnerPid
  | .remove session => SessionSwitcher.remove session
  | .setActiveSession name => SessionSwitcher.setActiveSession name
  | .setNextSession name => SessionSwitcher.setNextSession name
  | .markReady session => SessionSwitcher.markReady session
  | .activeOutputs outputs => SessionSwitcher.activeOutputsHandler outputs

end SystemCompositor
