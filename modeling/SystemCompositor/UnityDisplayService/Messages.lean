import SystemCompositor.DBusMessage
import SystemCompositor.MirScreen.Basic

namespace SystemCompositor

def dbusDisplayInterface : String := "com.canonical.Unity.Display"

def dbusPropertiesInterface : String := "org.freedesktop.DBus.Properties"

def activeOutputsVariant (activeOutputs : ActiveOutputs) : DBusValue :=
  .variant (.struct [.int32 activeOutputs.internal, .int32 activeOutputs.external])

def activeOutputsDict (activeOutputs : ActiveOutputs) : DBusValue :=
  .dict [("ActiveOutputs", activeOutputsVariant activeOutputs)]

def outputFilterFromString (filter : String) : OutputFilter :=
  if filter = "internal" then .internal else if filter = "external" then .external else .all

inductive DisplayEffect
  | turnOn (outputFilter : OutputFilter)
  | turnOff (outputFilter : OutputFilter)
  | send (reply : DBusReply)

def DisplayEffect.reply : DisplayEffect → Option DBusReply
  | .send reply => some reply
  | .turnOn _ | .turnOff _ => none

namespace UnityDisplayService

def dbusPropertiesGet (activeOutputs : ActiveOutputs) (property : String) : List DBusValue :=
  if property = "ActiveOutputs" then [activeOutputsVariant activeOutputs] else []

def dbusPropertiesGetAll (activeOutputs : ActiveOutputs) : List DBusValue := [activeOutputsDict activeOutputs]

/-- The filter of `TurnOn` and `TurnOff`, which older callers leave out. -/
def filterOf : Option (List DBusValue) → OutputFilter
  | some [.string filter] => outputFilterFromString filter
  | _ => outputFilterFromString "all"

section
variable (bus : LibDBus) (introspection : String) (activeOutputs : ActiveOutputs) (message : DBusMessage)

/-- The branches of `handle_dbus_message`, with whether `args_error` is set after them. -/
def branches : List DisplayEffect × Bool :=
  if bus.isMethodCall message dbusIntrospectableInterface "Introspect" then
    ([.send (.methodReturn [.string introspection])], false)
  else if bus.isMethodCall message dbusDisplayInterface "TurnOn" then
    let args := bus.getArgs message [.string]
    ([.turnOn (filterOf args), .send (.methodReturn [])], args.isNone)
  else if bus.isMethodCall message dbusDisplayInterface "TurnOff" then
    let args := bus.getArgs message [.string]
    ([.turnOff (filterOf args), .send (.methodReturn [])], args.isNone)
  else if bus.isMethodCall message dbusPropertiesInterface "Get" then
    match bus.getArgs message [.string, .string] with
    | some [.string interface, .string property] =>
        let body := if interface = dbusDisplayInterface then dbusPropertiesGet activeOutputs property else []
        ([.send (.methodReturn body)], false)
    | _ => ([.send (.methodReturn [])], true)
  else if bus.isMethodCall message dbusPropertiesInterface "GetAll" then
    match bus.getArgs message [.string] with
    | some [.string interface] =>
        let body := if interface = dbusDisplayInterface then dbusPropertiesGetAll activeOutputs else []
        ([.send (.methodReturn body)], false)
    | _ => ([.send (.methodReturn [])], true)
  else if message.type = .methodCall then ([.send (.error dbusErrorFailed "Not supported")], false)
  else ([], false)

def handleDBusMessage : List DisplayEffect :=
  let handled := branches bus introspection activeOutputs message
  if handled.2 then handled.1 ++ [.send (.error dbusErrorFailed "Invalid arguments")] else handled.1

def replies : List DBusReply :=
  (handleDBusMessage bus introspection activeOutputs message).filterMap DisplayEffect.reply

def AsksGet : Prop :=
  bus.getArgs message [.string, .string] = some [.string dbusDisplayInterface, .string "ActiveOutputs"]

def AsksGetAll : Prop := bus.getArgs message [.string] = some [.string dbusDisplayInterface]

def methods : List (String × String) := [
  (dbusIntrospectableInterface, "Introspect"), (dbusDisplayInterface, "TurnOn"), (dbusDisplayInterface, "TurnOff"),
  (dbusPropertiesInterface, "Get"), (dbusPropertiesInterface, "GetAll")]

def Unknown : Prop := ∀ method ∈ methods, bus.isMethodCall message method.1 method.2 = false

structure OneReply : Prop where
  count : (replies bus introspection activeOutputs message).length = if message.type = .methodCall then 1 else 0
  get : bus.isMethodCall message dbusPropertiesInterface "Get" = true →
    ∀ reply ∈ replies bus introspection activeOutputs message,
      (AsksGet bus message → reply = .methodReturn [activeOutputsVariant activeOutputs]) ∧
      (¬AsksGet bus message → reply.isError = true)
  getAll : bus.isMethodCall message dbusPropertiesInterface "GetAll" = true →
    ∀ reply ∈ replies bus introspection activeOutputs message,
      (AsksGetAll bus message → reply = .methodReturn [activeOutputsDict activeOutputs]) ∧
      (¬AsksGetAll bus message → reply.isError = true)
  unknown : Unknown bus message → ∀ reply ∈ replies bus introspection activeOutputs message, reply.isError = true

structure WellFormed : Prop where
  turn : bus.isMethodCall message dbusDisplayInterface "TurnOn" = true ∨
    bus.isMethodCall message dbusDisplayInterface "TurnOff" = true →
      ∃ filter, bus.getArgs message [.string] = some [.string filter]
  get : bus.isMethodCall message dbusPropertiesInterface "Get" = true → AsksGet bus message
  getAll : bus.isMethodCall message dbusPropertiesInterface "GetAll" = true → AsksGetAll bus message

variable {bus introspection activeOutputs message}

theorem not_unknown {interface member : String} (listed : (interface, member) ∈ methods)
    (call : bus.isMethodCall message interface member = true) : ¬Unknown bus message := by
  intro unknown
  rw [unknown _ listed] at call
  cases call

theorem replies_introspect (call : bus.isMethodCall message dbusIntrospectableInterface "Introspect" = true) :
    replies bus introspection activeOutputs message = [.methodReturn [.string introspection]] := by
  simp [replies, handleDBusMessage, branches, call, DisplayEffect.reply]

theorem replies_unknown (unknown : Unknown bus message) : replies bus introspection activeOutputs message =
    if message.type = .methodCall then [.error dbusErrorFailed "Not supported"] else [] := by
  simp only [Unknown, methods, List.forall_mem_cons] at unknown
  obtain ⟨notIntrospect, notOn, notOff, notGet, notGetAll, -⟩ := unknown
  simp only [replies, handleDBusMessage, branches, notIntrospect, notOn, notOff, notGet, notGetAll]
  split_ifs <;> simp_all [DisplayEffect.reply]

theorem replies_turn (call : bus.isMethodCall message dbusDisplayInterface "TurnOn" = true ∨
    bus.isMethodCall message dbusDisplayInterface "TurnOff" = true) :
    replies bus introspection activeOutputs message = .methodReturn [] ::
      if (bus.getArgs message [.string]).isNone then [.error dbusErrorFailed "Invalid arguments"] else [] := by
  rcases call with on | off
  · have notIntrospect := bus.isMethodCall_other on dbusIntrospectableInterface "Introspect" (by decide)
    rw [replies, handleDBusMessage, branches]
    cases args : bus.getArgs message [.string] <;>
      simp [notIntrospect, on, List.filterMap_cons, DisplayEffect.reply]
  · have notIntrospect := bus.isMethodCall_other off dbusIntrospectableInterface "Introspect" (by decide)
    have notOn := bus.isMethodCall_other off dbusDisplayInterface "TurnOn" (by decide)
    rw [replies, handleDBusMessage, branches]
    cases args : bus.getArgs message [.string] <;>
      simp [notIntrospect, notOn, off, List.filterMap_cons, DisplayEffect.reply]

theorem replies_get (call : bus.isMethodCall message dbusPropertiesInterface "Get" = true) :
    (AsksGet bus message →
      replies bus introspection activeOutputs message = [.methodReturn [activeOutputsVariant activeOutputs]]) ∧
    (¬AsksGet bus message →
      ∃ rest, replies bus introspection activeOutputs message = .methodReturn [] :: rest) := by
  have notIntrospect := bus.isMethodCall_other call dbusIntrospectableInterface "Introspect" (by decide)
  have notOn := bus.isMethodCall_other call dbusDisplayInterface "TurnOn" (by decide)
  have notOff := bus.isMethodCall_other call dbusDisplayInterface "TurnOff" (by decide)
  have equation : replies bus introspection activeOutputs message =
      match bus.getArgs message [.string, .string] with
      | some [.string interface, .string property] => [.methodReturn
          (if interface = dbusDisplayInterface then dbusPropertiesGet activeOutputs property else [])]
      | _ => [.methodReturn [], .error dbusErrorFailed "Invalid arguments"] := by
    rw [replies, handleDBusMessage, branches]
    simp only [notIntrospect, notOn, notOff, call, Bool.false_eq_true, if_false, if_true]
    split <;> simp [DisplayEffect.reply]
  rw [equation, AsksGet]
  constructor
  · intro asks
    rw [asks]
    rfl
  · intro not
    split
    · next interface property args =>
      rw [args] at not
      have other :
          (if interface = dbusDisplayInterface then dbusPropertiesGet activeOutputs property else []) = [] := by
        rw [dbusPropertiesGet]
        split_ifs <;> simp_all
      rw [other]
      exact ⟨[], rfl⟩
    · exact ⟨_, rfl⟩

theorem replies_getAll (call : bus.isMethodCall message dbusPropertiesInterface "GetAll" = true) :
    (AsksGetAll bus message →
      replies bus introspection activeOutputs message = [.methodReturn [activeOutputsDict activeOutputs]]) ∧
    (¬AsksGetAll bus message →
      ∃ rest, replies bus introspection activeOutputs message = .methodReturn [] :: rest) := by
  have notIntrospect := bus.isMethodCall_other call dbusIntrospectableInterface "Introspect" (by decide)
  have notOn := bus.isMethodCall_other call dbusDisplayInterface "TurnOn" (by decide)
  have notOff := bus.isMethodCall_other call dbusDisplayInterface "TurnOff" (by decide)
  have notGet := bus.isMethodCall_other call dbusPropertiesInterface "Get" (by decide)
  have equation : replies bus introspection activeOutputs message =
      match bus.getArgs message [.string] with
      | some [.string interface] => [.methodReturn
          (if interface = dbusDisplayInterface then dbusPropertiesGetAll activeOutputs else [])]
      | _ => [.methodReturn [], .error dbusErrorFailed "Invalid arguments"] := by
    rw [replies, handleDBusMessage, branches]
    simp only [notIntrospect, notOn, notOff, notGet, call, Bool.false_eq_true, if_false, if_true]
    split <;> simp [DisplayEffect.reply]
  rw [equation, AsksGetAll]
  constructor
  · intro asks
    rw [asks]
    rfl
  · intro not
    split
    · next interface args =>
      rw [args] at not
      have other : interface ≠ dbusDisplayInterface := by
        rintro rfl
        exact not rfl
      rw [if_neg other]
      exact ⟨[], rfl⟩
    · exact ⟨_, rfl⟩

theorem answered_iff {asks : Prop} {body : List DBusValue} (answers : List DBusReply)
    (good : asks → answers = [.methodReturn body])
    (bad : ¬asks → ∃ rest, answers = .methodReturn [] :: rest) :
    (answers.length = 1 ∧ ∀ reply ∈ answers,
      (asks → reply = .methodReturn body) ∧ (¬asks → reply.isError = true)) ↔ asks := by
  by_cases h : asks
  · simp [good h, h]
  · obtain ⟨rest, answers_eq⟩ := bad h
    refine iff_of_false ?_ h
    rintro ⟨-, every⟩
    have failed := (every (.methodReturn []) (by simp [answers_eq])).2 h
    cases failed

theorem oneReply_iff_of_turn (turn : bus.isMethodCall message dbusDisplayInterface "TurnOn" = true ∨
    bus.isMethodCall message dbusDisplayInterface "TurnOff" = true) :
    OneReply bus introspection activeOutputs message ↔ WellFormed bus message := by
  have isCall : message.type = .methodCall := turn.elim bus.type_of_isMethodCall bus.type_of_isMethodCall
  have notGet : bus.isMethodCall message dbusPropertiesInterface "Get" = false :=
    turn.elim (bus.isMethodCall_other · _ _ (by decide)) (bus.isMethodCall_other · _ _ (by decide))
  have notGetAll : bus.isMethodCall message dbusPropertiesInterface "GetAll" = false :=
    turn.elim (bus.isMethodCall_other · _ _ (by decide)) (bus.isMethodCall_other · _ _ (by decide))
  have answered : replies bus introspection activeOutputs message = _ := replies_turn turn
  cases args : bus.getArgs message [.string] with
  | none =>
      apply iff_of_false
      · intro one
        simpa [answered, args, isCall] using one.count
      · intro formed
        obtain ⟨filter, found⟩ := formed.turn turn
        simp [args] at found
  | some values =>
      obtain ⟨value, rest, -, isString, rfl⟩ := bus.getArgs_one.mp args
      obtain ⟨filter, rfl⟩ := DBusValue.string_of_basicType isString
      apply iff_of_true
      · refine ⟨?_, by simp [notGet], by simp [notGetAll], fun unknown => absurd unknown ?_⟩
        · simp [answered, args, isCall]
        · exact turn.elim (not_unknown (by simp [methods])) (not_unknown (by simp [methods]))
      · exact ⟨fun _ => ⟨filter, args⟩, by simp [notGet], by simp [notGetAll]⟩

theorem oneReply_iff_of_get (get : bus.isMethodCall message dbusPropertiesInterface "Get" = true) :
    OneReply bus introspection activeOutputs message ↔ WellFormed bus message := by
  have isCall := bus.type_of_isMethodCall get
  have notOn := bus.isMethodCall_other get dbusDisplayInterface "TurnOn" (by decide)
  have notOff := bus.isMethodCall_other get dbusDisplayInterface "TurnOff" (by decide)
  have notGetAll := bus.isMethodCall_other get dbusPropertiesInterface "GetAll" (by decide)
  have answered := answered_iff (replies bus introspection activeOutputs message)
    (replies_get get).1 (replies_get get).2
  constructor
  · intro one
    have asks := answered.mp ⟨by simpa [isCall] using one.count, one.get get⟩
    exact ⟨by simp [notOn, notOff], fun _ => asks, by simp [notGetAll]⟩
  · intro formed
    obtain ⟨count, values⟩ := answered.mpr (formed.get get)
    exact ⟨by simpa [isCall] using count, fun _ => values, by simp [notGetAll],
      fun unknown => absurd unknown (not_unknown (by simp [methods]) get)⟩

theorem oneReply_iff_of_getAll (getAll : bus.isMethodCall message dbusPropertiesInterface "GetAll" = true) :
    OneReply bus introspection activeOutputs message ↔ WellFormed bus message := by
  have isCall := bus.type_of_isMethodCall getAll
  have notOn := bus.isMethodCall_other getAll dbusDisplayInterface "TurnOn" (by decide)
  have notOff := bus.isMethodCall_other getAll dbusDisplayInterface "TurnOff" (by decide)
  have notGet := bus.isMethodCall_other getAll dbusPropertiesInterface "Get" (by decide)
  have answered := answered_iff (replies bus introspection activeOutputs message)
    (replies_getAll getAll).1 (replies_getAll getAll).2
  constructor
  · intro one
    have asks := answered.mp ⟨by simpa [isCall] using one.count, one.getAll getAll⟩
    exact ⟨by simp [notOn, notOff], by simp [notGet], fun _ => asks⟩
  · intro formed
    obtain ⟨count, values⟩ := answered.mpr (formed.getAll getAll)
    exact ⟨by simpa [isCall] using count, by simp [notGet], fun _ => values,
      fun unknown => absurd unknown (not_unknown (by simp [methods]) getAll)⟩

/-- The service answers as it should exactly the calls whose arguments are in order. -/
theorem oneReply_iff (bus : LibDBus) (introspection : String) (activeOutputs : ActiveOutputs)
    (message : DBusMessage) :
    OneReply bus introspection activeOutputs message ↔ WellFormed bus message := by
  by_cases on : bus.isMethodCall message dbusDisplayInterface "TurnOn" = true
  · exact oneReply_iff_of_turn (.inl on)
  by_cases off : bus.isMethodCall message dbusDisplayInterface "TurnOff" = true
  · exact oneReply_iff_of_turn (.inr off)
  by_cases get : bus.isMethodCall message dbusPropertiesInterface "Get" = true
  · exact oneReply_iff_of_get get
  by_cases getAll : bus.isMethodCall message dbusPropertiesInterface "GetAll" = true
  · exact oneReply_iff_of_getAll getAll
  rw [Bool.not_eq_true] at on off get getAll
  refine iff_of_true ?_ ⟨by simp [on, off], by simp [get], by simp [getAll]⟩
  cases introspect : bus.isMethodCall message dbusIntrospectableInterface "Introspect" with
  | true =>
      have isCall := bus.type_of_isMethodCall introspect
      exact ⟨by simp [replies_introspect introspect, isCall], by simp [get], by simp [getAll],
        fun unknown => absurd unknown (not_unknown (by simp [methods]) introspect)⟩
  | false =>
      have unknown : Unknown bus message := by simp [Unknown, methods, introspect, on, off, get, getAll]
      have answered : replies bus introspection activeOutputs message = _ := replies_unknown unknown
      refine ⟨?_, by simp [get], by simp [getAll], fun _ => ?_⟩
      · rw [answered]
        split_ifs <;> rfl
      · rw [answered]
        split_ifs <;> simp [DBusReply.isError]

end

theorem oneReply_fails :
    ¬OneReply .reference "" ⟨0, 0⟩ ⟨.methodCall, some dbusDisplayInterface, some "TurnOn", []⟩ ∧
    replies .reference "" ⟨0, 0⟩ ⟨.methodCall, some dbusDisplayInterface, some "TurnOn", []⟩ =
      [.methodReturn [], .error dbusErrorFailed "Invalid arguments"] := by
  have twice : replies .reference "" ⟨0, 0⟩ ⟨.methodCall, some dbusDisplayInterface, some "TurnOn", []⟩ =
      [.methodReturn [], .error dbusErrorFailed "Invalid arguments"] := replies_turn (.inl (by decide))
  refine ⟨fun one => ?_, twice⟩
  have count := one.count
  rw [twice] at count
  cases count

end UnityDisplayService
end SystemCompositor
