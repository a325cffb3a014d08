import Mathlib.Data.List.Nodup
import SystemCompositor.DBusMessage

namespace SystemCompositor

inductive InputSetter
  | setMousePrimaryButton (button : Int)
  | setMouseCursorSpeed (speed : UInt64)
  | setMouseScrollSpeed (speed : UInt64)
  | setTouchpadPrimaryButton (button : Int)
  | setTouchpadCursorSpeed (speed : UInt64)
  | setTouchpadScrollSpeed (speed : UInt64)
  | setTwoFingerScroll (enable : Bool)
  | setTapToClick (enable : Bool)
  | setDisableTouchpadWhileTyping (enable : Bool)
  | setDisableTouchpadWithMouse (enable : Bool)
deriving DecidableEq

inductive InputEffect
  | set (setter : InputSetter)
  | send (reply : DBusReply)

def InputEffect.setter : InputEffect → Option InputSetter
  | .set setter => some setter
  | .send _ => none

def InputEffect.reply : InputEffect → Option DBusReply
  | .set _ => none
  | .send reply => some reply

/-- A method of `InputConfiguration` with the type of its parameter, which picks the overload of
`handle_message`. -/
structure InputMethod where
  type : BasicType
  call : DBusValue → Option InputSetter
  call_isSome : ∀ value, (call value).isSome = true ↔ value.basicType = some type

namespace InputMethod

def boolean (method : Bool → InputSetter) : InputMethod where
  type := .boolean
  call
    | .boolean flag => some (method flag)
    | _ => none
  call_isSome value := by cases value <;> simp [DBusValue.basicType]

def double (method : UInt64 → InputSetter) : InputMethod where
  type := .double
  call
    | .double value => some (method value)
    | _ => none
  call_isSome value := by cases value <;> simp [DBusValue.basicType]

def int32 (method : Int → InputSetter) : InputMethod where
  type := .int32
  call
    | .int32 value => some (method value)
    | _ => none
  call_isSome value := by cases value <;> simp [DBusValue.basicType]

end InputMethod

namespace UnityInputService

def dbusInputInterface : String := "com.canonical.Unity.Input"

/-- The members that `handle_dbus_message` compares with, in its order. -/
def methods : List (String × InputMethod) := [
  ("setMousePrimaryButton", .int32 .setMousePrimaryButton),
  ("setMouseCursorSpeed", .double .setMouseCursorSpeed),
  ("setMouseScrollSpeed", .double .setMouseScrollSpeed),
  ("setTouchpadPrimaryButton", .int32 .setTouchpadPrimaryButton),
  ("setTouchpadCursorSpeed", .double .setTouchpadCursorSpeed),
  ("setTouchpadScrollSpeed", .double .setTouchpadScrollSpeed),
  ("setTouchpadDisableWhileTyping", .boolean .setDisableTouchpadWhileTyping),
  ("setTouchpadTapToClick", .boolean .setTapToClick),
  ("setTouchpadTwoFingerScroll", .boolean .setTwoFingerScroll),
  ("setTouchpadDisableWithMouse", .boolean .setDisableTouchpadWithMouse)]

section
variable (bus : LibDBus) (introspection : String) (message : DBusMessage)

/-- `args_error` is the helper's own, so a bad argument ends the call without an answer. -/
def handleMessage (method : InputMethod) : List InputEffect :=
  match bus.getArgs message [method.type] with
  | some [value] =>
      match method.call value with
      | some setter => [.set setter, .send (.methodReturn [])]
      | none => []
  | _ => []

def branches : List InputEffect :=
  if bus.isMethodCall message dbusIntrospectableInterface "Introspect" then
    [.send (.methodReturn [.string introspection])]
  else
    match methods.find? fun entry => bus.isMethodCall message dbusInputInterface entry.1 with
    | some entry => handleMessage bus message entry.2
    | none =>
        if message.type = .methodCall then [.send (.error dbusErrorFailed "Not supported")] else []

/-- No branch sets the `args_error` that the last reply depends on. -/
def handleDBusMessage : List InputEffect :=
  let argsError := false
  branches bus introspection message ++
    if argsError then [.send (.error dbusErrorFailed "Invalid arguments")] else []

def setters : List InputSetter := (handleDBusMessage bus introspection message).filterMap InputEffect.setter

def replies : List DBusReply := (handleDBusMessage bus introspection message).filterMap InputEffect.reply

def Requests (setter : InputSetter) : Prop :=
  ∃ entry ∈ methods, bus.isMethodCall message dbusInputInterface entry.1 = true ∧
    ∃ value rest, message.args = value :: rest ∧ entry.2.call value = some setter

structure Conforms : Prop where
  called : ∀ setter, Requests bus message setter → setters bus introspection message = [setter]
  uncalled : (∀ setter, ¬Requests bus message setter) → setters bus introspection message = []
  one : (replies bus introspection message).length = if message.type = .methodCall then 1 else 0
  kind : ∀ reply ∈ replies bus introspection message, reply.isError = false ↔
    (∃ setter, Requests bus message setter) ∨
      bus.isMethodCall message dbusIntrospectableInterface "Introspect" = true

def WellFormed : Prop :=
  (∃ entry ∈ methods, bus.isMethodCall message dbusInputInterface entry.1 = true) →
    ∃ setter, Requests bus message setter

variable {bus introspection message}

theorem methods_unique {entry other : String × InputMethod} (member : entry ∈ methods) (member' : other ∈ methods)
    (same : entry.1 = other.1) : entry = other :=
  List.inj_on_of_nodup_map (f := Prod.fst) (by decide) member member' same

theorem find_of_call {entry : String × InputMethod} (member : entry ∈ methods)
    (call : bus.isMethodCall message dbusInputInterface entry.1 = true) :
    methods.find? (fun entry => bus.isMethodCall message dbusInputInterface entry.1) = some entry := by
  cases found : methods.find? fun entry => bus.isMethodCall message dbusInputInterface entry.1 with
  | none =>
      have refused := List.find?_eq_none.mp found entry member
      exact absurd call refused
  | some other =>
      have call' := List.find?_some found
      have named := ((bus.isMethodCall_iff _ _ _).mp call).2.1
      have named' := ((bus.isMethodCall_iff _ _ _).mp call').2.1
      rw [methods_unique member (List.mem_of_find?_eq_some found) (Option.some.inj (named.symm.trans named'))]

theorem handleMessage_of_call {method : InputMethod} {value : DBusValue} {rest : List DBusValue}
    {setter : InputSetter}
    (args : message.args = value :: rest) (call : method.call value = some setter) :
    handleMessage bus message method = [.set setter, .send (.methodReturn [])] := by
  have typed : value.basicType = some method.type := (method.call_isSome value).mp (by simp [call])
  have read : bus.getArgs message [method.type] = some [value] :=
    bus.getArgs_one.mpr ⟨value, rest, args, typed, rfl⟩
  simp [handleMessage, read, call]

theorem handleMessage_of_refused {method : InputMethod}
    (refused : ∀ value rest setter, message.args = value :: rest → method.call value ≠ some setter) :
    handleMessage bus message method = [] := by
  cases read : bus.getArgs message [method.type] with
  | none => simp [handleMessage, read]
  | some values =>
      obtain ⟨value, rest, args, typed, rfl⟩ := bus.getArgs_one.mp read
      cases call : method.call value with
      | none => simp [handleMessage, read, call]
      | some setter => exact absurd call (refused value rest setter args)

theorem notIntrospect_of_call {entry : String × InputMethod} (member : entry ∈ methods)
    (call : bus.isMethodCall message dbusInputInterface entry.1 = true) :
    bus.isMethodCall message dbusIntrospectableInterface "Introspect" = false := by
  have others : ∀ name ∈ methods.map Prod.fst, name ≠ "Introspect" := by decide
  exact bus.isMethodCall_other call _ _ (others _ (List.mem_map_of_mem member))

theorem handle_of_call {entry : String × InputMethod} (member : entry ∈ methods)
    (call : bus.isMethodCall message dbusInputInterface entry.1 = true) :
    handleDBusMessage bus introspection message = handleMessage bus message entry.2 := by
  simp [handleDBusMessage, branches, notIntrospect_of_call member call, find_of_call member call]

theorem handle_of_introspect (call : bus.isMethodCall message dbusIntrospectableInterface "Introspect" = true) :
    handleDBusMessage bus introspection message = [.send (.methodReturn [.string introspection])] := by
  simp [handleDBusMessage, branches, call]

theorem handle_of_other (notIntrospect : bus.isMethodCall message dbusIntrospectableInterface "Introspect" = false)
    (none : ¬∃ entry ∈ methods, bus.isMethodCall message dbusInputInterface entry.1 = true) :
    handleDBusMessage bus introspection message =
      if message.type = .methodCall then [.send (.error dbusErrorFailed "Not supported")] else [] := by
  have missing : methods.find? (fun entry => bus.isMethodCall message dbusInputInterface entry.1) = .none :=
    List.find?_eq_none.mpr fun entry member call => none ⟨entry, member, call⟩
  simp [handleDBusMessage, branches, notIntrospect, missing]

theorem handle_of_request {setter : InputSetter} (h : Requests bus message setter) :
    handleDBusMessage bus introspection message = [.set setter, .send (.methodReturn [])] := by
  obtain ⟨entry, member, call, value, rest, args, decoded⟩ := h
  rw [handle_of_call member call, handleMessage_of_call args decoded]

theorem handle_of_bad {entry : String × InputMethod} (member : entry ∈ methods)
    (call : bus.isMethodCall message dbusInputInterface entry.1 = true)
    (bad : ∀ setter, ¬Requests bus message setter) : handleDBusMessage bus introspection message = [] := by
  rw [handle_of_call member call]
  apply handleMessage_of_refused
  intro value rest setter args decoded
  exact bad setter ⟨entry, member, call, value, rest, args, decoded⟩

theorem setters_of_none (none : ∀ setter, ¬Requests bus message setter) :
    setters bus introspection message = [] := by
  by_cases called : ∃ entry ∈ methods, bus.isMethodCall message dbusInputInterface entry.1 = true
  · obtain ⟨entry, member, call⟩ := called
    rw [setters, handle_of_bad member call none]
    rfl
  · cases introspect : bus.isMethodCall message dbusIntrospectableInterface "Introspect" with
    | true =>
        rw [setters, handle_of_introspect introspect]
        rfl
    | false =>
        rw [setters, handle_of_other introspect called]
        split_ifs <;> rfl

theorem answered_of_wellFormed (formed : WellFormed bus message) :
    (replies bus introspection message).length = (if message.type = .methodCall then 1 else 0) ∧
      ∀ reply ∈ replies bus introspection message, reply.isError = false ↔
        (∃ setter, Requests bus message setter) ∨
          bus.isMethodCall message dbusIntrospectableInterface "Introspect" = true := by
  by_cases called : ∃ entry ∈ methods, bus.isMethodCall message dbusInputInterface entry.1 = true
  · obtain ⟨setter, request⟩ := formed called
    obtain ⟨entry, -, call⟩ := called
    have answer : replies bus introspection message = [.methodReturn []] := by
      rw [replies, handle_of_request request]
      rfl
    simp only [answer, bus.type_of_isMethodCall call, if_true, List.length_singleton, List.forall_mem_singleton,
      true_and]
    exact iff_of_true rfl (.inl ⟨setter, request⟩)
  · have noRequest : ¬∃ setter, Requests bus message setter :=
      fun ⟨_, entry, member, call, _⟩ => called ⟨entry, member, call⟩
    cases introspect : bus.isMethodCall message dbusIntrospectableInterface "Introspect" with
    | true =>
        have answer : replies bus introspection message = [.methodReturn [.string introspection]] := by
          rw [replies, handle_of_introspect introspect]
          rfl
        simp [answer, bus.type_of_isMethodCall introspect, DBusReply.isError]
    | false =>
        rw [replies, handle_of_other introspect called]
        split_ifs <;> simp [InputEffect.reply, DBusReply.isError, noRequest]

/-- The service does what a message asks for exactly when that is no call with a bad argument. -/
theorem conforms_iff (bus : LibDBus) (introspection : String) (message : DBusMessage) :
    Conforms bus introspection message ↔ WellFormed bus message := by
  constructor
  · rintro ⟨-, -, one, -⟩ ⟨entry, member, call⟩
    by_contra none
    rw [replies, handle_of_bad member call (not_exists.mp none), if_pos (bus.type_of_isMethodCall call)] at one
    cases one
  · intro formed
    obtain ⟨one, kind⟩ : (replies bus introspection message).length = _ ∧ _ := answered_of_wellFormed formed
    refine ⟨fun setter h => ?_, setters_of_none, one, kind⟩
    rw [setters, handle_of_request h]
    rfl

end

theorem conforms_fails :
    ¬Conforms .reference "" ⟨.methodCall, some dbusInputInterface, some "setTouchpadTapToClick", []⟩ ∧
      replies .reference "" ⟨.methodCall, some dbusInputInterface, some "setTouchpadTapToClick", []⟩ = [] := by
  have silent :
      replies .reference "" ⟨.methodCall, some dbusInputInterface, some "setTouchpadTapToClick", []⟩ = [] := by
    rfl
  refine ⟨fun conforms => ?_, silent⟩
  have one := conforms.one
  rw [silent] at one
  cases one

end UnityInputService
end SystemCompositor
