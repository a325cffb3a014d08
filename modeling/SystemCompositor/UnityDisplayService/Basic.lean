import SystemCompositor.DBusEventLoop.Basic
import SystemCompositor.UnityDisplayService.Messages

namespace SystemCompositor

/-- Whether the thread that holds `active_outputs_mutex` has still to call the service's handler. -/
inductive NotifyPhase
  | calling
  | called
deriving DecidableEq

inductive ServiceMessage
  | propertiesChanged (activeOutputs : ActiveOutputs)
  | reply (message : DBusMessage) (reply : DBusReply)

def ServiceMessage.signal : ServiceMessage → Option ActiveOutputs
  | .propertiesChanged activeOutputs => some activeOutputs
  | .reply _ _ => none

/-- The screen, the service and the loop. `screenOutputs` is the screen's `active_outputs`, and
`activeOutputs` the service's own; `dispatching` is the message at hand with what is left to do for it;
`outgoing`, and `assigned` with the values of `screenOutputs` since the registration, are histories. -/
structure DisplaySystem where
  loop : DBusEventLoop ActiveOutputs := {}
  registered : Bool := false
  screenOutputs : ActiveOutputs
  notifying : Option (Thread × NotifyPhase) := none
  activeOutputs : ActiveOutputs := ⟨0, 0⟩
  dispatching : Option (DBusMessage × List DisplayEffect) := none
  outgoing : List ServiceMessage := []
  assigned : List ActiveOutputs := []

inductive DisplayEvent
  | loop (e : LoopEvent ActiveOutputs)
  | register (thread : Thread)
  | notify (thread : Thread) (configuration : DisplayConfiguration)
  | callHandler
  | unlock
  | dispatch (message : DBusMessage)
  | turn (configuration : Option DisplayConfiguration)
  | reply
  | handled

namespace DisplaySystem

def free (s : DisplaySystem) : Bool := (s.loop.calls .loop).isNone && !s.notifying.any (·.1 = .loop)

/-- The lock, the assignment and the choice of handlers in a notification of the screen. -/
def assign (s : DisplaySystem) (t : Thread) (activeOutputs : ActiveOutputs) : Option DisplaySystem :=
  if s.notifying.isNone && s.loop.mayCall t then
    some { s with
      screenOutputs := activeOutputs
      notifying := some (t, if s.registered then .calling else .called)
      assigned := if s.registered then s.assigned ++ [activeOutputs] else s.assigned }
  else none

def register (s : DisplaySystem) (t : Thread) : Option DisplaySystem :=
  if s.notifying.isNone && s.loop.mayCall t && !s.registered then
    some { s with registered := true, notifying := some (t, .calling), assigned := s.assigned ++ [s.screenOutputs] }
  else none

def callHandler (s : DisplaySystem) : Option DisplaySystem :=
  match s.notifying with
  | some (t, .calling) =>
      (s.loop.step (.enqueue t s.screenOutputs)).map fun l => { s with loop := l, notifying := some (t, .called) }
  | _ => none

def unlock (s : DisplaySystem) : Option DisplaySystem :=
  match s.notifying with
  | some (t, .called) => if (s.loop.calls t).isNone then some { s with notifying := none } else none
  | _ => none

/-- An action sets the copy of the service and then sends the signal. -/
def afterRun (s : DisplaySystem) (l : DBusEventLoop ActiveOutputs) : DisplaySystem :=
  match s.loop.point with
  | .executing (activeOutputs :: _) => { s with loop := l, activeOutputs }
  | .acting _ _ => { s with loop := l, outgoing := s.outgoing ++ [.propertiesChanged s.activeOutputs] }
  | _ => { s with loop := l }

/-- A step of the loop or of a thread in one of its calls; only the handler calls `enqueue`. -/
def stepLoop (s : DisplaySystem) : LoopEvent ActiveOutputs → Option DisplaySystem
  | .enqueue _ _ => none
  | .run => if s.dispatching.isNone && s.free then (s.loop.step .run).map s.afterRun else none
  | e => (s.loop.step e).map fun l => { s with loop := l }

def dispatch (bus : LibDBus) (introspection : String) (s : DisplaySystem) (message : DBusMessage) :
    Option DisplaySystem :=
  match s.loop.point, s.dispatching with
  | .dispatching, none =>
      let effects := UnityDisplayService.handleDBusMessage bus introspection s.activeOutputs message
      if s.free then some { s with dispatching := some (message, effects) } else none
  | _, _ => none

/-- `turn_on` or `turn_off`, over the configuration that the display has; without one it throws
before it applies anything. -/
def turn (s : DisplaySystem) (configuration : Option DisplayConfiguration) : Option DisplaySystem :=
  let apply (message : DBusMessage) (rest : List DisplayEffect) (mode : PowerMode) (filter : OutputFilter) :=
    let done := { s with dispatching := some (message, rest) }
    match configuration with
    | none => if s.free then some done else none
    | some configuration => done.assign .loop
        (countActiveOutputs (applyPowerMode mode (getPowerModeFilterForOutputFilter filter) configuration))
  match s.dispatching with
  | some (message, .turnOn filter :: rest) => apply message rest .on filter
  | some (message, .turnOff filter :: rest) => apply message rest .off filter
  | _ => none

def reply (s : DisplaySystem) : Option DisplaySystem :=
  match s.dispatching with
  | some (message, .send reply :: rest) =>
      if s.free then
        some { s with dispatching := some (message, rest), outgoing := s.outgoing ++ [.reply message reply] }
      else none
  | _ => none

def handled (s : DisplaySystem) : Option DisplaySystem :=
  match s.dispatching with
  | some (_, []) => if s.free then some { s with dispatching := none } else none
  | _ => none

def step (bus : LibDBus) (introspection : String) (s : DisplaySystem) : DisplayEvent → Option DisplaySystem
  | .loop e => s.stepLoop e
  | .register t => s.register t
  | .notify t configuration => s.assign t (countActiveOutputs configuration)
  | .callHandler => s.callHandler
  | .unlock => s.unlock
  | .dispatch message => s.dispatch bus introspection message
  | .turn configuration => s.turn configuration
  | .reply => s.reply
  | .handled => s.handled

abbrev Run (bus : LibDBus) (introspection : String) (s : DisplaySystem) (es : List DisplayEvent)
    (t : DisplaySystem) : Prop :=
  Library.Run (fun s e t => s.step bus introspection e = some t) s es t

def start (screenOutputs : ActiveOutputs) : DisplaySystem := { screenOutputs }

def signals (outgoing : List ServiceMessage) : List ActiveOutputs := outgoing.filterMap ServiceMessage.signal

@[simp] theorem signals_reply (outgoing : List ServiceMessage) (message : DBusMessage) (reply : DBusReply) :
    signals (outgoing ++ [.reply message reply]) = signals outgoing := by
  simp [signals, List.filterMap_cons, ServiceMessage.signal]

@[simp] theorem signals_propertiesChanged (outgoing : List ServiceMessage) (activeOutputs : ActiveOutputs) :
    signals (outgoing ++ [.propertiesChanged activeOutputs]) = signals outgoing ++ [activeOutputs] := by
  simp [signals, ServiceMessage.signal]

def lastSent (outgoing : List ServiceMessage) : ActiveOutputs := (signals outgoing).getLast?.getD ⟨0, 0⟩

end DisplaySystem
end SystemCompositor
