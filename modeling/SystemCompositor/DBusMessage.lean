import Mathlib.Data.List.Infix

namespace SystemCompositor

inductive MessageType
  | methodCall
  | methodReturn
  | error
  | signal
  | other (value : Nat)
deriving DecidableEq

/-- The values the services read or write; `other` is one of any other signature. A double is its bits. -/
inductive DBusValue
  | boolean (value : Bool)
  | int32 (value : Int)
  | double (bits : UInt64)
  | string (value : String)
  | variant (value : DBusValue)
  | struct (fields : List DBusValue)
  | dict (entries : List (String × DBusValue))
  | other (signature : String)

inductive BasicType
  | boolean
  | int32
  | double
  | string
deriving DecidableEq

def DBusValue.basicType : DBusValue → Option BasicType
  | .boolean _ => some .boolean
  | .int32 _ => some .int32
  | .double _ => some .double
  | .string _ => some .string
  | .variant _ | .struct _ | .dict _ | .other _ => none

theorem DBusValue.string_of_basicType {value : DBusValue} (h : value.basicType = some .string) :
    ∃ s, value = .string s := by
  cases value with
  | string s => exact ⟨s, rfl⟩
  | _ => cases h

structure DBusMessage where
  type : MessageType
  interface : Option String
  member : Option String
  args : List DBusValue

inductive DBusReply
  | methodReturn (body : List DBusValue)
  | error (name : String) (text : String)

def DBusReply.isError : DBusReply → Bool
  | .methodReturn _ => false
  | .error _ _ => true

def dbusIntrospectableInterface : String := "org.freedesktop.DBus.Introspectable"

def dbusErrorFailed : String := "org.freedesktop.DBus.Error.Failed"

/-- The two functions of libdbus that take a message apart, as its documentation gives them: a call
may leave out its interface, and arguments that were not asked for are left alone. -/
structure LibDBus where
  isMethodCall : DBusMessage → String → String → Bool
  getArgs : DBusMessage → List BasicType → Option (List DBusValue)
  isMethodCall_iff : ∀ message interface member, isMethodCall message interface member = true ↔
    message.type = .methodCall ∧ message.member = some member ∧
      (message.interface = none ∨ message.interface = some interface)
  getArgs_iff : ∀ message types values, getArgs message types = some values ↔
    values <+: message.args ∧ values.map DBusValue.basicType = types.map some

namespace LibDBus

theorem isMethodCall_other (bus : LibDBus) {message : DBusMessage} {interface member : String}
    (call : bus.isMethodCall message interface member = true) (interface' member' : String)
    (ne : member ≠ member') : bus.isMethodCall message interface' member' = false := by
  by_contra other
  have one := ((bus.isMethodCall_iff _ _ _).mp call).2.1
  have two := ((bus.isMethodCall_iff _ _ _).mp (by simpa using other)).2.1
  exact ne (Option.some.inj (one.symm.trans two))

theorem type_of_isMethodCall (bus : LibDBus) {message : DBusMessage} {interface member : String}
    (call : bus.isMethodCall message interface member = true) : message.type = .methodCall :=
  ((bus.isMethodCall_iff _ _ _).mp call).1

theorem getArgs_one (bus : LibDBus) {message : DBusMessage} {type : BasicType} {values : List DBusValue} :
    bus.getArgs message [type] = some values ↔
      ∃ value rest, message.args = value :: rest ∧ value.basicType = some type ∧ values = [value] := by
  rw [bus.getArgs_iff]
  constructor
  · rintro ⟨⟨rest, first⟩, types⟩
    have length : values.length = 1 := by simpa using congrArg List.length types
    obtain ⟨value, rfl⟩ := List.length_eq_one_iff.mp length
    exact ⟨value, rest, first.symm, by simpa using types, rfl⟩
  · rintro ⟨value, rest, args, type_eq, rfl⟩
    simp [args, type_eq]

def reference : LibDBus where
  isMethodCall message interface member :=
    message.type = .methodCall && message.member = some member &&
      (message.interface = none || message.interface = some interface)
  getArgs message types :=
    let values := message.args.take types.length
    if values.map DBusValue.basicType = types.map some then some values else none
  isMethodCall_iff := by simp [and_assoc]
  getArgs_iff message types values := by
    constructor
    · intro h
      dsimp only at h
      split_ifs at h with typed
      obtain rfl := Option.some.inj h
      exact ⟨List.take_prefix _ _, typed⟩
    · rintro ⟨first, typed⟩
      have length : values.length = types.length := by simpa using congrArg List.length typed
      have taken : message.args.take types.length = values := by
        rw [← length]
        exact (List.prefix_iff_eq_take.mp first).symm
      simp [taken, typed]

end LibDBus
end SystemCompositor
