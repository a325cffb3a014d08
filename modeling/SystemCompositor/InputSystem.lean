import SystemCompositor.MirInputConfiguration
import SystemCompositor.UnityInputService

namespace SystemCompositor
open Library

/-- The input service with the configuration that it sets, and the replies that it has sent. -/
structure InputSystem (δ ρ : Type) where
  config : MirInputConfiguration δ ρ
  replies : List DBusReply := []

/-- What the D-Bus thread and Mir's input thread bring in. `MirInputConfiguration` takes no lock: the events come one
after another. -/
inductive InputSystemEvent (δ : Type)
  | message (message : DBusMessage)
  | deviceAdded (dev : δ)
  | deviceRemoved (dev : δ)

/-- A method of `InputConfiguration` as `MirInputConfiguration` takes it; `value` reads a double. -/
def InputSetter.event {δ : Type} (value : UInt64 → ℚ) : InputSetter → InputEvent δ
  | .setMousePrimaryButton button => .setMousePrimaryButton button
  | .setMouseCursorSpeed speed => .setMouseCursorSpeed (value speed)
  | .setMouseScrollSpeed speed => .setMouseScrollSpeed (value speed)
  | .setTouchpadPrimaryButton button => .setTouchpadPrimaryButton button
  | .setTouchpadCursorSpeed speed => .setTouchpadCursorSpeed (value speed)
  | .setTouchpadScrollSpeed speed => .setTouchpadScrollSpeed (value speed)
  | .setTwoFingerScroll enable => .setTwoFingerScroll enable
  | .setTapToClick enable => .setTapToClick enable
  | .setDisableTouchpadWhileTyping enable => .setDisableTouchpadWhileTyping enable
  | .setDisableTouchpadWithMouse enable => .setDisableTouchpadWithMouse enable

namespace InputSystem
open UnityInputService
variable {δ ρ : Type} [DecidableEq δ] (capabilities : δ → DeviceCapabilities) (twoFingerScroll : BitVec 32)
variable (bus : LibDBus) (introspection : String) (value : UInt64 → ℚ)

def take (s : InputSystem δ ρ) : InputEffect → InputSystem δ ρ
  | .set setter => { s with config := s.config.handle twoFingerScroll capabilities (setter.event value) }
  | .send reply => { s with replies := s.replies ++ [reply] }

def handle (s : InputSystem δ ρ) : InputSystemEvent δ → InputSystem δ ρ
  | .message message =>
      (handleDBusMessage bus introspection message).foldl (take capabilities twoFingerScroll value) s
  | .deviceAdded dev => { s with config := s.config.handle twoFingerScroll capabilities (.deviceAdded dev) }
  | .deviceRemoved dev => { s with config := s.config.handle twoFingerScroll capabilities (.deviceRemoved dev) }

/-! What the messages ask for, read off the table of the methods. -/

def called (message : DBusMessage) : Option InputMethod :=
  (methods.find? fun entry => bus.isMethodCall message dbusInputInterface entry.1).map Prod.snd

def requested (message : DBusMessage) : Option InputSetter :=
  (called bus message).bind fun method => message.args.head?.bind method.call

/-- A call of a method whose first argument is missing or of another type. -/
def badArgument (message : DBusMessage) : Bool := (called bus message).isSome && (requested bus message).isNone

def asked : InputSystemEvent δ → List (InputEvent δ)
  | .message message => ((requested bus message).map (InputSetter.event value)).toList
  | .deviceAdded dev => [.deviceAdded dev]
  | .deviceRemoved dev => [.deviceRemoved dev]

def answered : InputSystemEvent δ → Bool
  | .message message => message.type = .methodCall && !badArgument bus message
  | .deviceAdded _ | .deviceRemoved _ => false

variable {bus introspection}

theorem called_isSome {message : DBusMessage} : (called bus message).isSome = true ↔
    ∃ entry ∈ methods, bus.isMethodCall message dbusInputInterface entry.1 = true := by
  rw [called, Option.isSome_map, List.find?_isSome]

theorem requested_iff {message : DBusMessage} {setter : InputSetter} :
    requested bus message = some setter ↔ Requests bus message setter := by
  constructor
  · intro h
    obtain ⟨method, isCalled, read⟩ := Option.bind_eq_some_iff.mp h
    obtain ⟨value, first, decoded⟩ := Option.bind_eq_some_iff.mp read
    obtain ⟨entry, found, rfl⟩ := Option.map_eq_some_iff.mp isCalled
    obtain ⟨rest, args⟩ := List.head?_eq_some_iff.mp first
    have call := List.find?_some found
    exact ⟨entry, List.mem_of_find?_eq_some found, call, value, rest, args, decoded⟩
  · rintro ⟨entry, member, call, value, rest, args, decoded⟩
    simp [requested, called, find_of_call member call, args, decoded]

theorem setters_eq (message : DBusMessage) :
    setters bus introspection message = (requested bus message).toList := by
  cases request : requested bus message with
  | none =>
      refine setters_of_none fun setter requests => ?_
      rw [requested_iff.mpr requests] at request
      cases request
  | some setter =>
      rw [setters, handle_of_request (requested_iff.mp request)]
      rfl

theorem replies_length (message : DBusMessage) : (UnityInputService.replies bus introspection message).length =
    if message.type = .methodCall && !badArgument bus message then 1 else 0 := by
  cases request : requested bus message with
  | some setter =>
      have requests := requested_iff.mp request
      obtain ⟨entry, -, call, -⟩ := id requests
      rw [UnityInputService.replies, handle_of_request requests]
      simp [badArgument, request, bus.type_of_isMethodCall call, List.filterMap_cons, InputEffect.reply]
  | none =>
      have noRequest (setter) : ¬Requests bus message setter := fun requests => by
        rw [requested_iff.mpr requests] at request
        cases request
      by_cases some : (called bus message).isSome = true
      · obtain ⟨entry, member, call⟩ := called_isSome.mp some
        rw [UnityInputService.replies, handle_of_bad member call noRequest]
        simp [badArgument, request, some]
      · have formed : WellFormed bus message := fun call => absurd (called_isSome.mpr call) some
        rw [(answered_of_wellFormed formed).1]
        simp [badArgument, some]

theorem foldl_take (effects : List InputEffect) (s : InputSystem δ ρ) :
    effects.foldl (take capabilities twoFingerScroll value) s =
      ⟨((effects.filterMap InputEffect.setter).map (InputSetter.event value)).foldl
          (MirInputConfiguration.handle twoFingerScroll capabilities) s.config,
        s.replies ++ effects.filterMap InputEffect.reply⟩ := by
  induction effects generalizing s with
  | nil => simp
  | cons effect rest ih =>
      cases effect <;> simp [ih, take, List.filterMap_cons, InputEffect.setter, InputEffect.reply]

theorem handle_config (s : InputSystem δ ρ) (e : InputSystemEvent δ) :
    (s.handle capabilities twoFingerScroll bus introspection value e).config =
      (asked bus value e).foldl (MirInputConfiguration.handle twoFingerScroll capabilities) s.config := by
  cases e with
  | message message =>
      have does : setters bus introspection message = (requested bus message).toList := setters_eq message
      rw [handle, foldl_take, asked, Option.toList_map, ← does]
      rfl
  | deviceAdded dev | deviceRemoved dev => rfl

theorem handle_replies (s : InputSystem δ ρ) (e : InputSystemEvent δ) :
    (s.handle capabilities twoFingerScroll bus introspection value e).replies.length =
      s.replies.length + if answered bus e then 1 else 0 := by
  cases e with
  | message message =>
      have sent : (UnityInputService.replies bus introspection message).length = _ := replies_length message
      rw [handle, foldl_take, List.length_append, answered, ← sent]
      rfl
  | deviceAdded dev | deviceRemoved dev => rfl

variable (bus introspection) (mouse touchpadPointer : MirPointerConfig ρ) (touchpad : MirTouchpadConfig ρ)

def reached (events : List (InputSystemEvent δ)) : InputSystem δ ρ :=
  events.foldl (handle capabilities twoFingerScroll bus introspection value)
    ⟨MirInputConfiguration.constructed mouse touchpadPointer touchpad, []⟩

theorem reached_concat (events : List (InputSystemEvent δ)) (e : InputSystemEvent δ) :
    reached capabilities twoFingerScroll bus introspection value mouse touchpadPointer touchpad (events ++ [e]) =
      (reached capabilities twoFingerScroll bus introspection value mouse touchpadPointer touchpad events).handle
        capabilities twoFingerScroll bus introspection value e := by
  simp [reached]

theorem reached_config (events : List (InputSystemEvent δ)) :
    (reached capabilities twoFingerScroll bus introspection value mouse touchpadPointer touchpad events).config =
      MirInputConfiguration.reached capabilities twoFingerScroll mouse touchpadPointer touchpad
        (events.flatMap (asked bus value)) := by
  induction events using List.reverseRecOn with
  | nil => rfl
  | append_singleton events e ih =>
      rw [reached_concat, handle_config, ih, List.flatMap_append, List.flatMap_singleton,
        MirInputConfiguration.reached, MirInputConfiguration.reached, List.foldl_append]

theorem reached_replies (events : List (InputSystemEvent δ)) :
    (reached capabilities twoFingerScroll bus introspection value mouse touchpadPointer touchpad
      events).replies.length = events.countP (answered bus) := by
  induction events using List.reverseRecOn with
  | nil => rfl
  | append_singleton events e ih =>
      rw [reached_concat, handle_replies, ih, List.countP_append, List.countP_singleton]

/-- Whatever messages and devices come, the devices have what the well-formed calls set, and each call
with a good argument or for no method of the service is answered once. -/
theorem settings_reach_devices (events : List (InputSystemEvent δ)) :
    let history := events.flatMap (asked bus value)
    let s := reached capabilities twoFingerScroll bus introspection value mouse touchpadPointer touchpad events
    (∀ dev, InputEvent.Present history dev → ((capabilities dev).touchpad || (capabilities dev).pointer) = true →
        s.config.Has capabilities s.config.calls dev) ∧
      s.config.mousePointerConfig = mouse.after (history.filterMap InputEvent.mouseSetting) ∧
      s.config.touchpadPointerConfig = touchpadPointer.after (history.filterMap InputEvent.touchpadPointerSetting) ∧
      s.config.touchpadConfig = touchpad.after twoFingerScroll (history.filterMap InputEvent.touchpadSetting) ∧
      s.replies.length = events.countP (answered bus) := by
  intro history s
  have config : s.config = MirInputConfiguration.reached capabilities twoFingerScroll mouse touchpadPointer touchpad
      history :=
    reached_config capabilities twoFingerScroll bus introspection value mouse touchpadPointer touchpad events
  obtain ⟨mouseSettings, pointerSettings, touchpadSettings⟩ :=
    MirInputConfiguration.reached_settings capabilities twoFingerScroll mouse touchpadPointer touchpad history
  rw [config]
  exact ⟨MirInputConfiguration.reached_has capabilities twoFingerScroll mouse touchpadPointer touchpad history,
    mouseSettings, pointerSettings, touchpadSettings,
    reached_replies capabilities twoFingerScroll bus introspection value mouse touchpadPointer touchpad events⟩

end InputSystem
end SystemCompositor
