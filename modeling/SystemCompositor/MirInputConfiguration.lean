import Mathlib.Data.Rat.Defs
import Mathlib.Data.List.Induction
import SystemCompositor.Library.LastOf

namespace SystemCompositor
open Library

inductive MirPointerHandedness
  | right
  | left
deriving DecidableEq

/-- `others` is what Mir keeps in a pointer configuration besides. -/
structure MirPointerConfig (ρ : Type) where
  handedness : MirPointerHandedness
  cursorAccelerationBias : ℚ
  horizontalScrollScale : ℚ
  verticalScrollScale : ℚ
  others : ρ

structure MirTouchpadConfig (ρ : Type) where
  scrollMode : BitVec 32
  tapToClick : Bool
  disableWhileTyping : Bool
  disableWithMouse : Bool
  others : ρ

/-- The bits of `mi::DeviceCapabilities` that are looked at. -/
structure DeviceCapabilities where
  touchpad : Bool
  pointer : Bool

inductive DeviceCall (δ ρ : Type)
  | applyPointerConfiguration (dev : δ) (config : MirPointerConfig ρ)
  | applyTouchpadConfiguration (dev : δ) (config : MirTouchpadConfig ρ)

structure MirInputConfiguration (δ ρ : Type) where
  touchpads : List δ := []
  mice : List δ := []
  mousePointerConfig : MirPointerConfig ρ
  touchpadPointerConfig : MirPointerConfig ρ
  touchpadConfig : MirTouchpadConfig ρ
  calls : List (DeviceCall δ ρ) := []

inductive PointerSetting
  | primaryButton (button : Int)
  | cursorSpeed (speed : ℚ)
  | scrollSpeed (speed : ℚ)

inductive TouchpadSetting
  | twoFingerScroll (enable : Bool)
  | tapToClick (enable : Bool)
  | disableWhileTyping (enable : Bool)
  | disableWithMouse (enable : Bool)

inductive InputEvent (δ : Type)
  | deviceAdded (dev : δ)
  | deviceRemoved (dev : δ)
  | setMousePrimaryButton (button : Int)
  | setMouseCursorSpeed (speed : ℚ)
  | setMouseScrollSpeed (speed : ℚ)
  | setTouchpadPrimaryButton (button : Int)
  | setTouchpadCursorSpeed (speed : ℚ)
  | setTouchpadScrollSpeed (speed : ℚ)
  | setTwoFingerScroll (enable : Bool)
  | setTapToClick (enable : Bool)
  | setDisableTouchpadWhileTyping (enable : Bool)
  | setDisableTouchpadWithMouse (enable : Bool)

def handednessOf (button : Int) : MirPointerHandedness := if button = 0 then .right else .left

def clamp (speed : ℚ) : ℚ :=
  let clamped := if speed < 0 then 0 else speed
  if 1 < clamped then 1 else clamped

def MirPointerConfig.set {ρ : Type} (config : MirPointerConfig ρ) : PointerSetting → MirPointerConfig ρ
  | .primaryButton button => { config with handedness := handednessOf button }
  | .cursorSpeed speed => { config with cursorAccelerationBias := clamp speed * 2 - 1 }
  | .scrollSpeed speed => { config with horizontalScrollScale := speed, verticalScrollScale := speed }

section
variable (twoFingerScroll : BitVec 32)

def MirTouchpadConfig.set {ρ : Type} (config : MirTouchpadConfig ρ) : TouchpadSetting → MirTouchpadConfig ρ
  | .twoFingerScroll enable =>
      let current := config.scrollMode
      { config with scrollMode := if enable then current ||| twoFingerScroll else current &&& ~~~twoFingerScroll }
  | .tapToClick enable => { config with tapToClick := enable }
  | .disableWhileTyping enable => { config with disableWhileTyping := enable }
  | .disableWithMouse enable => { config with disableWithMouse := enable }

namespace MirInputConfiguration
variable {δ ρ : Type} [DecidableEq δ] (capabilities : δ → DeviceCapabilities)

def configureMouse (c : MirInputConfiguration δ ρ) (dev : δ) : MirInputConfiguration δ ρ :=
  { c with calls := c.calls ++ [.applyPointerConfiguration dev c.mousePointerConfig] }

def configureTouchpad (c : MirInputConfiguration δ ρ) (dev : δ) : MirInputConfiguration δ ρ :=
  { c with
    calls := c.calls ++ [.applyPointerConfiguration dev c.touchpadPointerConfig,
      .applyTouchpadConfiguration dev c.touchpadConfig] }

def deviceRemoved (c : MirInputConfiguration δ ρ) (dev : δ) : MirInputConfiguration δ ρ :=
  { c with touchpads := c.touchpads.filter (· ≠ dev), mice := c.mice.filter (· ≠ dev) }

def deviceAdded (c : MirInputConfiguration δ ρ) (dev : δ) : MirInputConfiguration δ ρ :=
  if (capabilities dev).touchpad then { c with touchpads := c.touchpads.insert dev }.configureTouchpad dev
  else if (capabilities dev).pointer then { c with mice := c.mice.insert dev }.configureMouse dev
  else c

def updateTouchpads (c : MirInputConfiguration δ ρ) : MirInputConfiguration δ ρ :=
  c.touchpads.foldl configureTouchpad c

def updateMice (c : MirInputConfiguration δ ρ) : MirInputConfiguration δ ρ :=
  c.mice.foldl configureMouse c

def setMouse (setting : PointerSetting) (c : MirInputConfiguration δ ρ) : MirInputConfiguration δ ρ :=
  { c with mousePointerConfig := c.mousePointerConfig.set setting }.updateMice

def setTouchpadPointer (setting : PointerSetting) (c : MirInputConfiguration δ ρ) : MirInputConfiguration δ ρ :=
  { c with touchpadPointerConfig := c.touchpadPointerConfig.set setting }.updateTouchpads

def setTouchpad (setting : TouchpadSetting) (c : MirInputConfiguration δ ρ) : MirInputConfiguration δ ρ :=
  { c with touchpadConfig := c.touchpadConfig.set twoFingerScroll setting }.updateTouchpads

def handle (c : MirInputConfiguration δ ρ) : InputEvent δ → MirInputConfiguration δ ρ
  | .deviceAdded dev => c.deviceAdded capabilities dev
  | .deviceRemoved dev => c.deviceRemoved dev
  | .setMousePrimaryButton button => c.setMouse (.primaryButton button)
  | .setMouseCursorSpeed speed => c.setMouse (.cursorSpeed speed)
  | .setMouseScrollSpeed speed => c.setMouse (.scrollSpeed speed)
  | .setTouchpadPrimaryButton button => c.setTouchpadPointer (.primaryButton button)
  | .setTouchpadCursorSpeed speed => c.setTouchpadPointer (.cursorSpeed speed)
  | .setTouchpadScrollSpeed speed => c.setTouchpadPointer (.scrollSpeed speed)
  | .setTwoFingerScroll enable => c.setTouchpad twoFingerScroll (.twoFingerScroll enable)
  | .setTapToClick enable => c.setTouchpad twoFingerScroll (.tapToClick enable)
  | .setDisableTouchpadWhileTyping enable => c.setTouchpad twoFingerScroll (.disableWhileTyping enable)
  | .setDisableTouchpadWithMouse enable => c.setTouchpad twoFingerScroll (.disableWithMouse enable)

end MirInputConfiguration
end

/-! What the history of the events says. -/

namespace PointerSetting

def button? : PointerSetting → Option Int
  | .primaryButton button => some button
  | .cursorSpeed _ | .scrollSpeed _ => none

def cursorSpeed? : PointerSetting → Option ℚ
  | .cursorSpeed speed => some speed
  | .primaryButton _ | .scrollSpeed _ => none

def scrollSpeed? : PointerSetting → Option ℚ
  | .scrollSpeed speed => some speed
  | .primaryButton _ | .cursorSpeed _ => none

end PointerSetting

namespace TouchpadSetting

def twoFingerScroll? : TouchpadSetting → Option Bool
  | .twoFingerScroll enable => some enable
  | .tapToClick _ | .disableWhileTyping _ | .disableWithMouse _ => none

def tapToClick? : TouchpadSetting → Option Bool
  | .tapToClick enable => some enable
  | .twoFingerScroll _ | .disableWhileTyping _ | .disableWithMouse _ => none

def disableWhileTyping? : TouchpadSetting → Option Bool
  | .disableWhileTyping enable => some enable
  | .twoFingerScroll _ | .tapToClick _ | .disableWithMouse _ => none

def disableWithMouse? : TouchpadSetting → Option Bool
  | .disableWithMouse enable => some enable
  | .twoFingerScroll _ | .tapToClick _ | .disableWhileTyping _ => none

end TouchpadSetting

def MirPointerConfig.after {ρ : Type} (config : MirPointerConfig ρ) (settings : List PointerSetting) :
    MirPointerConfig ρ where
  handedness := ((lastOf PointerSetting.button? settings).map handednessOf).getD config.handedness
  cursorAccelerationBias := ((lastOf PointerSetting.cursorSpeed? settings).map fun speed =>
    clamp speed * 2 - 1).getD config.cursorAccelerationBias
  horizontalScrollScale := (lastOf PointerSetting.scrollSpeed? settings).getD config.horizontalScrollScale
  verticalScrollScale := (lastOf PointerSetting.scrollSpeed? settings).getD config.verticalScrollScale
  others := config.others

def withBits (enable : Bool) (bits mode : BitVec 32) : BitVec 32 :=
  if enable then mode ||| bits else mode &&& ~~~bits

def MirTouchpadConfig.after {ρ : Type} (twoFingerScroll : BitVec 32) (config : MirTouchpadConfig ρ)
    (settings : List TouchpadSetting) : MirTouchpadConfig ρ where
  scrollMode := ((lastOf TouchpadSetting.twoFingerScroll? settings).map fun enable =>
    withBits enable twoFingerScroll config.scrollMode).getD config.scrollMode
  tapToClick := (lastOf TouchpadSetting.tapToClick? settings).getD config.tapToClick
  disableWhileTyping := (lastOf TouchpadSetting.disableWhileTyping? settings).getD config.disableWhileTyping
  disableWithMouse := (lastOf TouchpadSetting.disableWithMouse? settings).getD config.disableWithMouse
  others := config.others

theorem withBits_withBits (enable before : Bool) (bits mode : BitVec 32) :
    withBits enable bits (withBits before bits mode) = withBits enable bits mode := by
  cases enable <;> cases before <;> simp only [withBits] <;> ext i <;> simp <;> grind

theorem MirPointerConfig.after_concat {ρ : Type} (config : MirPointerConfig ρ) (settings : List PointerSetting)
    (setting : PointerSetting) : config.after (settings ++ [setting]) = (config.after settings).set setting := by
  cases setting <;> simp [after, set, lastOf_concat, PointerSetting.button?, PointerSetting.cursorSpeed?,
    PointerSetting.scrollSpeed?]

theorem MirTouchpadConfig.after_concat {ρ : Type} (twoFingerScroll : BitVec 32) (config : MirTouchpadConfig ρ)
    (settings : List TouchpadSetting) (setting : TouchpadSetting) :
    config.after twoFingerScroll (settings ++ [setting]) =
      (config.after twoFingerScroll settings).set twoFingerScroll setting := by
  cases setting with
  | twoFingerScroll enable =>
      have again (mode : BitVec 32) : (if enable then mode ||| twoFingerScroll else mode &&& ~~~twoFingerScroll) =
        withBits enable twoFingerScroll mode := rfl
      cases last : lastOf TouchpadSetting.twoFingerScroll? settings <;>
        simp [after, set, again, lastOf_concat, last, withBits_withBits, TouchpadSetting.twoFingerScroll?,
          TouchpadSetting.tapToClick?, TouchpadSetting.disableWhileTyping?, TouchpadSetting.disableWithMouse?]
  | tapToClick enable | disableWhileTyping enable | disableWithMouse enable =>
      simp [after, set, lastOf_concat, TouchpadSetting.twoFingerScroll?, TouchpadSetting.tapToClick?,
        TouchpadSetting.disableWhileTyping?, TouchpadSetting.disableWithMouse?]

namespace InputEvent
variable {δ : Type}

def mouseSetting : InputEvent δ → Option PointerSetting
  | .setMousePrimaryButton button => some (.primaryButton button)
  | .setMouseCursorSpeed speed => some (.cursorSpeed speed)
  | .setMouseScrollSpeed speed => some (.scrollSpeed speed)
  | .deviceAdded _ | .deviceRemoved _ | .setTouchpadPrimaryButton _ | .setTouchpadCursorSpeed _
  | .setTouchpadScrollSpeed _ | .setTwoFingerScroll _ | .setTapToClick _ | .setDisableTouchpadWhileTyping _
  | .setDisableTouchpadWithMouse _ => none

def touchpadPointerSetting : InputEvent δ → Option PointerSetting
  | .setTouchpadPrimaryButton button => some (.primaryButton button)
  | .setTouchpadCursorSpeed speed => some (.cursorSpeed speed)
  | .setTouchpadScrollSpeed speed => some (.scrollSpeed speed)
  | .deviceAdded _ | .deviceRemoved _ | .setMousePrimaryButton _ | .setMouseCursorSpeed _
  | .setMouseScrollSpeed _ | .setTwoFingerScroll _ | .setTapToClick _ | .setDisableTouchpadWhileTyping _
  | .setDisableTouchpadWithMouse _ => none

def touchpadSetting : InputEvent δ → Option TouchpadSetting
  | .setTwoFingerScroll enable => some (.twoFingerScroll enable)
  | .setTapToClick enable => some (.tapToClick enable)
  | .setDisableTouchpadWhileTyping enable => some (.disableWhileTyping enable)
  | .setDisableTouchpadWithMouse enable => some (.disableWithMouse enable)
  | .deviceAdded _ | .deviceRemoved _ | .setMousePrimaryButton _ | .setMouseCursorSpeed _
  | .setMouseScrollSpeed _ | .setTouchpadPrimaryButton _ | .setTouchpadCursorSpeed _
  | .setTouchpadScrollSpeed _ => none

variable [DecidableEq δ]

def presence (dev : δ) : InputEvent δ → Option Bool
  | .deviceAdded d => if d = dev then some true else none
  | .deviceRemoved d => if d = dev then some false else none
  | .setMousePrimaryButton _ | .setMouseCursorSpeed _ | .setMouseScrollSpeed _
  | .setTouchpadPrimaryButton _ | .setTouchpadCursorSpeed _ | .setTouchpadScrollSpeed _
  | .setTwoFingerScroll _ | .setTapToClick _ | .setDisableTouchpadWhileTyping _
  | .setDisableTouchpadWithMouse _ => none

def Present (events : List (InputEvent δ)) (dev : δ) : Prop := lastOf (presence dev) events = some true

theorem present_added (events : List (InputEvent δ)) (dev d : δ) :
    Present (events ++ [.deviceAdded dev]) d ↔ d = dev ∨ Present events d := by
  by_cases same : dev = d
  · simp [Present, lastOf_concat, presence, same]
  · simp [Present, lastOf_concat, presence, same, Ne.symm same]

theorem present_removed (events : List (InputEvent δ)) (dev d : δ) :
    Present (events ++ [.deviceRemoved dev]) d ↔ d ≠ dev ∧ Present events d := by
  by_cases same : dev = d
  · simp [Present, lastOf_concat, presence, same]
  · simp [Present, lastOf_concat, presence, same, Ne.symm same]

end InputEvent

namespace DeviceCall
variable {δ ρ : Type} [DecidableEq δ]

def pointerFor (dev : δ) : DeviceCall δ ρ → Option (MirPointerConfig ρ)
  | .applyPointerConfiguration d config => if d = dev then some config else none
  | .applyTouchpadConfiguration _ _ => none

def touchpadFor (dev : δ) : DeviceCall δ ρ → Option (MirTouchpadConfig ρ)
  | .applyTouchpadConfiguration d config => if d = dev then some config else none
  | .applyPointerConfiguration _ _ => none

end DeviceCall

namespace MirInputConfiguration
variable {δ ρ : Type} [DecidableEq δ] (capabilities : δ → DeviceCapabilities) (twoFingerScroll : BitVec 32)

/-- A call on a device that is present, with the current configuration for its class. -/
def Rightful (events : List (InputEvent δ)) (c : MirInputConfiguration δ ρ) : DeviceCall δ ρ → Prop
  | .applyPointerConfiguration dev config => InputEvent.Present events dev ∧
      ((capabilities dev).touchpad = true ∧ config = c.touchpadPointerConfig ∨
        (capabilities dev).touchpad = false ∧ (capabilities dev).pointer = true ∧ config = c.mousePointerConfig)
  | .applyTouchpadConfiguration dev config => InputEvent.Present events dev ∧
      (capabilities dev).touchpad = true ∧ config = c.touchpadConfig

structure UpToDate (start : MirInputConfiguration δ ρ) (events : List (InputEvent δ))
    (c : MirInputConfiguration δ ρ) : Prop where
  touchpads : ∀ dev, InputEvent.Present events dev → (capabilities dev).touchpad = true →
    lastOf (DeviceCall.pointerFor dev) c.calls = some c.touchpadPointerConfig ∧
      lastOf (DeviceCall.touchpadFor dev) c.calls = some c.touchpadConfig
  mice : ∀ dev, InputEvent.Present events dev → (capabilities dev).touchpad = false →
    (capabilities dev).pointer = true →
      lastOf (DeviceCall.pointerFor dev) c.calls = some c.mousePointerConfig
  mousePointerConfig :
    c.mousePointerConfig = start.mousePointerConfig.after (events.filterMap InputEvent.mouseSetting)
  touchpadPointerConfig : c.touchpadPointerConfig =
    start.touchpadPointerConfig.after (events.filterMap InputEvent.touchpadPointerSetting)
  touchpadConfig : c.touchpadConfig =
    start.touchpadConfig.after twoFingerScroll (events.filterMap InputEvent.touchpadSetting)

structure Tracks (events : List (InputEvent δ)) (c : MirInputConfiguration δ ρ) : Prop where
  touchpads : ∀ dev, dev ∈ c.touchpads ↔ InputEvent.Present events dev ∧ (capabilities dev).touchpad = true
  mice : ∀ dev, dev ∈ c.mice ↔ InputEvent.Present events dev ∧ (capabilities dev).touchpad = false ∧
    (capabilities dev).pointer = true

def callsFor (c : MirInputConfiguration δ ρ) (dev : δ) : List (DeviceCall δ ρ) :=
  if (capabilities dev).touchpad then
    [.applyPointerConfiguration dev c.touchpadPointerConfig, .applyTouchpadConfiguration dev c.touchpadConfig]
  else [.applyPointerConfiguration dev c.mousePointerConfig]

/-- The devices that are configured when `e` is handled. -/
def touched (c : MirInputConfiguration δ ρ) : InputEvent δ → List δ
  | .deviceAdded dev => if (capabilities dev).touchpad || (capabilities dev).pointer then [dev] else []
  | .deviceRemoved _ => []
  | .setMousePrimaryButton _ | .setMouseCursorSpeed _ | .setMouseScrollSpeed _ => c.mice
  | .setTouchpadPrimaryButton _ | .setTouchpadCursorSpeed _ | .setTouchpadScrollSpeed _
  | .setTwoFingerScroll _ | .setTapToClick _ | .setDisableTouchpadWhileTyping _
  | .setDisableTouchpadWithMouse _ => c.touchpads

omit [DecidableEq δ] in
theorem foldl_configure {configure : MirInputConfiguration δ ρ → δ → MirInputConfiguration δ ρ}
    (c : MirInputConfiguration δ ρ) (devs : List δ)
    (one : ∀ dev ∈ devs, ∀ calls, configure { c with calls } dev =
      { c with calls := calls ++ c.callsFor capabilities dev }) (calls : List (DeviceCall δ ρ)) :
    devs.foldl configure { c with calls } =
      { c with calls := calls ++ devs.flatMap (c.callsFor capabilities) } := by
  induction devs generalizing calls with
  | nil => simp
  | cons dev devs ih =>
      rw [List.foldl_cons, one dev (by simp), ih (fun d member => one d (by simp [member])),
        List.flatMap_cons, List.append_assoc]

omit [DecidableEq δ] in
theorem updateMice_eq (c : MirInputConfiguration δ ρ) (mice : ∀ dev ∈ c.mice, (capabilities dev).touchpad = false) :
    c.updateMice = { c with calls := c.calls ++ c.mice.flatMap (c.callsFor capabilities) } :=
  foldl_configure capabilities c c.mice
    (fun dev member calls => by simp [configureMouse, callsFor, mice dev member]) c.calls

omit [DecidableEq δ] in
theorem updateTouchpads_eq (c : MirInputConfiguration δ ρ)
    (touchpads : ∀ dev ∈ c.touchpads, (capabilities dev).touchpad = true) :
    c.updateTouchpads = { c with calls := c.calls ++ c.touchpads.flatMap (c.callsFor capabilities) } :=
  foldl_configure capabilities c c.touchpads
    (fun dev member calls => by simp [configureTouchpad, callsFor, touchpads dev member]) c.calls

/-- What handling an event leaves: its own setting changes, and the touched devices are configured with
what is current then. -/
structure Handles (c : MirInputConfiguration δ ρ) (e : InputEvent δ) (after : MirInputConfiguration δ ρ) :
    Prop where
  calls : after.calls = c.calls ++ (c.touched capabilities e).flatMap (after.callsFor capabilities)
  mousePointerConfig : after.mousePointerConfig = e.mouseSetting.elim c.mousePointerConfig c.mousePointerConfig.set
  touchpadPointerConfig : after.touchpadPointerConfig =
    e.touchpadPointerSetting.elim c.touchpadPointerConfig c.touchpadPointerConfig.set
  touchpadConfig :
    after.touchpadConfig = e.touchpadSetting.elim c.touchpadConfig (c.touchpadConfig.set twoFingerScroll)
  tracks : ∀ events, c.Tracks capabilities events → after.Tracks capabilities (events ++ [e])

theorem tracks_of_setting {c after : MirInputConfiguration δ ρ} {e : InputEvent δ}
    (neither : ∀ dev, e.presence dev = none) (touchpads : after.touchpads = c.touchpads)
    (mice : after.mice = c.mice) (events : List (InputEvent δ)) (tracks : c.Tracks capabilities events) :
    after.Tracks capabilities (events ++ [e]) := by
  have present (dev : δ) : InputEvent.Present (events ++ [e]) dev ↔ InputEvent.Present events dev := by
    rw [InputEvent.Present, lastOf_concat, neither]
    rfl
  exact ⟨fun dev => by rw [touchpads, present, tracks.touchpads], fun dev => by rw [mice, present, tracks.mice]⟩

theorem tracks_of_added {c after : MirInputConfiguration δ ρ} {dev : δ}
    (touchpads : ∀ d, d ∈ after.touchpads ↔ d = dev ∧ (capabilities d).touchpad = true ∨ d ∈ c.touchpads)
    (mice : ∀ d, d ∈ after.mice ↔ d = dev ∧ (capabilities d).touchpad = false ∧ (capabilities d).pointer = true ∨
      d ∈ c.mice)
    (events : List (InputEvent δ)) (tracks : c.Tracks capabilities events) :
    after.Tracks capabilities (events ++ [.deviceAdded dev]) := by
  constructor
  · intro d
    rw [touchpads, tracks.touchpads, InputEvent.present_added]
    by_cases same : d = dev <;> simp [same]
  · intro d
    rw [mice, tracks.mice, InputEvent.present_added]
    by_cases same : d = dev <;> simp [same]

theorem handles_deviceAdded (c : MirInputConfiguration δ ρ) (dev : δ) :
    c.Handles capabilities twoFingerScroll (.deviceAdded dev)
      (c.handle twoFingerScroll capabilities (.deviceAdded dev)) := by
  cases touchpad : (capabilities dev).touchpad with
  | true =>
      have added : c.handle twoFingerScroll capabilities (.deviceAdded dev) =
          { c with touchpads := c.touchpads.insert dev, calls := c.calls ++ c.callsFor capabilities dev } := by
        simp [handle, deviceAdded, configureTouchpad, callsFor, touchpad]
      rw [added]
      refine ⟨by simp [touched, callsFor, touchpad], rfl, rfl, rfl, tracks_of_added capabilities ?_ ?_⟩
      · intro d
        by_cases same : d = dev <;> simp [same, touchpad]
      · intro d
        by_cases same : d = dev <;> simp [same, touchpad]
  | false =>
      cases pointer : (capabilities dev).pointer with
      | true =>
          have added : c.handle twoFingerScroll capabilities (.deviceAdded dev) =
              { c with mice := c.mice.insert dev, calls := c.calls ++ c.callsFor capabilities dev } := by
            simp [handle, deviceAdded, configureMouse, callsFor, touchpad, pointer]
          rw [added]
          refine ⟨by simp [touched, callsFor, touchpad, pointer], rfl, rfl, rfl,
            tracks_of_added capabilities ?_ ?_⟩
          · intro d
            by_cases same : d = dev <;> simp [same, touchpad]
          · intro d
            by_cases same : d = dev <;> simp [same, touchpad, pointer]
      | false =>
          have ignored : c.handle twoFingerScroll capabilities (.deviceAdded dev) = c := by
            simp [handle, deviceAdded, touchpad, pointer]
          rw [ignored]
          refine ⟨by simp [touched, touchpad, pointer], rfl, rfl, rfl, tracks_of_added capabilities ?_ ?_⟩
          · intro d
            by_cases same : d = dev <;> simp [same, touchpad]
          · intro d
            by_cases same : d = dev <;> simp [same, pointer]

theorem handles {c : MirInputConfiguration δ ρ} {events : List (InputEvent δ)} (tracks : c.Tracks capabilities events)
    (e : InputEvent δ) :
    c.Handles capabilities twoFingerScroll e (c.handle twoFingerScroll capabilities e) := by
  have mice : ∀ dev ∈ c.mice, (capabilities dev).touchpad = false :=
    fun dev member => ((tracks.mice dev).mp member).2.1
  have touchpads : ∀ dev ∈ c.touchpads, (capabilities dev).touchpad = true :=
    fun dev member => ((tracks.touchpads dev).mp member).2
  cases e with
  | deviceAdded dev => exact handles_deviceAdded capabilities twoFingerScroll c dev
  | deviceRemoved dev =>
      refine ⟨by simp [handle, deviceRemoved, touched], rfl, rfl, rfl, fun events tracks => ⟨?_, ?_⟩⟩
      · intro d
        by_cases same : d = dev <;> simp [handle, deviceRemoved, InputEvent.present_removed, tracks.touchpads, same]
      · intro d
        by_cases same : d = dev <;> simp [handle, deviceRemoved, InputEvent.present_removed, tracks.mice, same]
  | setMousePrimaryButton button | setMouseCursorSpeed button | setMouseScrollSpeed button =>
      simp only [handle, setMouse]
      rw [updateMice_eq capabilities]
      · exact ⟨rfl, rfl, rfl, rfl, tracks_of_setting capabilities (fun _ => rfl) rfl rfl⟩
      · exact mice
  | setTouchpadPrimaryButton button | setTouchpadCursorSpeed button | setTouchpadScrollSpeed button =>
      simp only [handle, setTouchpadPointer]
      rw [updateTouchpads_eq capabilities]
      · exact ⟨rfl, rfl, rfl, rfl, tracks_of_setting capabilities (fun _ => rfl) rfl rfl⟩
      · exact touchpads
  | setTwoFingerScroll enable | setTapToClick enable | setDisableTouchpadWhileTyping enable
  | setDisableTouchpadWithMouse enable =>
      simp only [handle, setTouchpad]
      rw [updateTouchpads_eq capabilities]
      · exact ⟨rfl, rfl, rfl, rfl, tracks_of_setting capabilities (fun _ => rfl) rfl rfl⟩
      · exact touchpads

def Has (c : MirInputConfiguration δ ρ) (calls : List (DeviceCall δ ρ)) (dev : δ) : Prop :=
  lastOf (DeviceCall.pointerFor dev) calls =
      some (if (capabilities dev).touchpad then c.touchpadPointerConfig else c.mousePointerConfig) ∧
    ((capabilities dev).touchpad = true → lastOf (DeviceCall.touchpadFor dev) calls = some c.touchpadConfig)

theorem pointerFor_callsFor (c : MirInputConfiguration δ ρ) (dev d : δ) :
    lastOf (DeviceCall.pointerFor dev) (c.callsFor capabilities d) = if d = dev then
      some (if (capabilities dev).touchpad then c.touchpadPointerConfig else c.mousePointerConfig) else none := by
  by_cases same : d = dev
  · subst same
    cases touchpad : (capabilities d).touchpad <;>
      simp [callsFor, touchpad, lastOf, List.filterMap_cons, DeviceCall.pointerFor]
  · cases touchpad : (capabilities d).touchpad <;>
      simp [callsFor, touchpad, lastOf, List.filterMap_cons, DeviceCall.pointerFor, same]

theorem touchpadFor_callsFor (c : MirInputConfiguration δ ρ) (dev d : δ) :
    lastOf (DeviceCall.touchpadFor dev) (c.callsFor capabilities d) =
      if d = dev ∧ (capabilities dev).touchpad = true then some c.touchpadConfig else none := by
  by_cases same : d = dev
  · subst same
    cases touchpad : (capabilities d).touchpad <;>
      simp [callsFor, touchpad, lastOf, List.filterMap_cons, DeviceCall.touchpadFor]
  · cases touchpad : (capabilities d).touchpad <;>
      simp [callsFor, touchpad, lastOf, List.filterMap_cons, DeviceCall.touchpadFor, same]

theorem has_configured (c : MirInputConfiguration δ ρ) (devs : List δ) (dev : δ) (before : List (DeviceCall δ ρ))
    (had : dev ∉ devs → c.Has capabilities before dev) :
    c.Has capabilities (before ++ devs.flatMap (c.callsFor capabilities)) dev := by
  have pointer (d : δ) (other : d ≠ dev) :
      lastOf (DeviceCall.pointerFor dev) (c.callsFor capabilities d) = none := by
    rw [pointerFor_callsFor, if_neg other]
  have touchpad (d : δ) (other : d ≠ dev) :
      lastOf (DeviceCall.touchpadFor dev) (c.callsFor capabilities d) = none := by
    rw [touchpadFor_callsFor, if_neg fun both => other both.1]
  rw [Has, lastOf_flatMap pointer, lastOf_flatMap touchpad]
  by_cases member : dev ∈ devs
  · refine ⟨by simp [member, pointerFor_callsFor], fun own => by simp [member, touchpadFor_callsFor, own]⟩
  · rw [if_neg member, if_neg member]
    exact had member

/-- A device that is not touched was there before, and the configurations for its class stay. -/
theorem untouched {c after : MirInputConfiguration δ ρ} {events : List (InputEvent δ)} {e : InputEvent δ}
    (tracks : c.Tracks capabilities events) (handles : c.Handles capabilities twoFingerScroll e after) {dev : δ}
    (present : InputEvent.Present (events ++ [e]) dev)
    (classed : ((capabilities dev).touchpad || (capabilities dev).pointer) = true)
    (absent : dev ∉ c.touched capabilities e) : InputEvent.Present events dev ∧
      (if (capabilities dev).touchpad then after.touchpadPointerConfig else after.mousePointerConfig) =
        (if (capabilities dev).touchpad then c.touchpadPointerConfig else c.mousePointerConfig) ∧
      ((capabilities dev).touchpad = true → after.touchpadConfig = c.touchpadConfig) := by
  rw [handles.mousePointerConfig, handles.touchpadPointerConfig, handles.touchpadConfig]
  cases e with
  | deviceAdded d =>
      refine ⟨?_, rfl, fun _ => rfl⟩
      rcases (InputEvent.present_added events d dev).mp present with rfl | before
      · simp [touched, classed] at absent
      · exact before
  | deviceRemoved d => exact ⟨((InputEvent.present_removed events d dev).mp present).2, rfl, fun _ => rfl⟩
  | setMousePrimaryButton button | setMouseCursorSpeed speed | setMouseScrollSpeed speed =>
      have before : InputEvent.Present events dev := by
        simpa [InputEvent.Present, lastOf_concat, InputEvent.presence] using present
      cases touchpad : (capabilities dev).touchpad with
      | true => exact ⟨before, rfl, fun _ => rfl⟩
      | false => exact absurd ((tracks.mice dev).mpr ⟨before, touchpad, by simpa [touchpad] using classed⟩) absent
  | setTouchpadPrimaryButton button | setTouchpadCursorSpeed speed | setTouchpadScrollSpeed speed
  | setTwoFingerScroll enable | setTapToClick enable | setDisableTouchpadWhileTyping enable
  | setDisableTouchpadWithMouse enable =>
      have before : InputEvent.Present events dev := by
        simpa [InputEvent.Present, lastOf_concat, InputEvent.presence] using present
      cases touchpad : (capabilities dev).touchpad with
      | true => exact absurd ((tracks.touchpads dev).mpr ⟨before, touchpad⟩) absent
      | false => exact ⟨before, rfl, fun other => by cases other⟩

theorem has_handle {c after : MirInputConfiguration δ ρ} {events : List (InputEvent δ)} {e : InputEvent δ}
    (tracks : c.Tracks capabilities events) (handles : c.Handles capabilities twoFingerScroll e after)
    (had : ∀ dev, InputEvent.Present events dev → ((capabilities dev).touchpad || (capabilities dev).pointer) = true →
      c.Has capabilities c.calls dev) {dev : δ} (present : InputEvent.Present (events ++ [e]) dev)
    (classed : ((capabilities dev).touchpad || (capabilities dev).pointer) = true) :
    after.Has capabilities after.calls dev := by
  rw [handles.calls]
  apply has_configured
  intro absent
  obtain ⟨before, pointer, touchpad⟩ := untouched capabilities twoFingerScroll tracks handles present classed absent
  obtain ⟨hadPointer, hadTouchpad⟩ := had dev before classed
  refine ⟨hadPointer.trans (congrArg some pointer.symm), fun own => ?_⟩
  rw [hadTouchpad own, touchpad own]

theorem touched_present {c : MirInputConfiguration δ ρ} {events : List (InputEvent δ)} {e : InputEvent δ}
    (tracks : c.Tracks capabilities events) {dev : δ} (touched : dev ∈ c.touched capabilities e) :
    InputEvent.Present (events ++ [e]) dev ∧
      ((capabilities dev).touchpad || (capabilities dev).pointer) = true := by
  cases e with
  | deviceAdded d =>
      simp only [MirInputConfiguration.touched] at touched
      split_ifs at touched with classed
      · obtain rfl := List.mem_singleton.mp touched
        exact ⟨(InputEvent.present_added events dev dev).mpr (.inl rfl), classed⟩
      · cases touched
  | deviceRemoved d => cases touched
  | setMousePrimaryButton button | setMouseCursorSpeed speed | setMouseScrollSpeed speed =>
      obtain ⟨before, -, pointer⟩ := (tracks.mice dev).mp touched
      refine ⟨?_, by simp [pointer]⟩
      simpa [InputEvent.Present, lastOf_concat, InputEvent.presence] using before
  | setTouchpadPrimaryButton button | setTouchpadCursorSpeed speed | setTouchpadScrollSpeed speed
  | setTwoFingerScroll enable | setTapToClick enable | setDisableTouchpadWhileTyping enable
  | setDisableTouchpadWithMouse enable =>
      obtain ⟨before, touchpad⟩ := (tracks.touchpads dev).mp touched
      refine ⟨?_, by simp [touchpad]⟩
      simpa [InputEvent.Present, lastOf_concat, InputEvent.presence] using before

theorem rightful_handle {c : MirInputConfiguration δ ρ} {events : List (InputEvent δ)} {e : InputEvent δ}
    (tracks : c.Tracks capabilities events) (after : MirInputConfiguration δ ρ) :
    ∀ call ∈ (c.touched capabilities e).flatMap (after.callsFor capabilities),
      after.Rightful capabilities (events ++ [e]) call := by
  intro call member
  obtain ⟨dev, touched, called⟩ := List.mem_flatMap.mp member
  obtain ⟨present, classed⟩ := touched_present capabilities tracks touched
  cases touchpad : (capabilities dev).touchpad with
  | true =>
      simp only [callsFor, touchpad, if_true, List.mem_cons, List.not_mem_nil, or_false] at called
      rcases called with rfl | rfl
      · exact ⟨present, .inl ⟨touchpad, rfl⟩⟩
      · exact ⟨present, touchpad, rfl⟩
  | false =>
      rw [touchpad, Bool.false_or] at classed
      simp only [callsFor, touchpad, Bool.false_eq_true, if_false, List.mem_singleton] at called
      exact called ▸ ⟨present, .inr ⟨touchpad, classed, rfl⟩⟩

def constructed (mouse touchpadPointer : MirPointerConfig ρ) (touchpad : MirTouchpadConfig ρ) :
    MirInputConfiguration δ ρ where
  mousePointerConfig := mouse
  touchpadPointerConfig := touchpadPointer
  touchpadConfig := touchpad

variable (mouse touchpadPointer : MirPointerConfig ρ) (touchpad : MirTouchpadConfig ρ)

def reached (events : List (InputEvent δ)) : MirInputConfiguration δ ρ :=
  events.foldl (handle twoFingerScroll capabilities) (constructed mouse touchpadPointer touchpad)

theorem reached_concat (events : List (InputEvent δ)) (e : InputEvent δ) :
    reached capabilities twoFingerScroll mouse touchpadPointer touchpad (events ++ [e]) =
      (reached capabilities twoFingerScroll mouse touchpadPointer touchpad events).handle twoFingerScroll
        capabilities e := by
  simp [reached]

theorem reached_tracks (events : List (InputEvent δ)) :
    (reached capabilities twoFingerScroll mouse touchpadPointer touchpad events).Tracks capabilities events := by
  induction events using List.reverseRecOn with
  | nil => exact ⟨by simp [reached, constructed, InputEvent.Present, lastOf],
      by simp [reached, constructed, InputEvent.Present, lastOf]⟩
  | append_singleton events e ih =>
      rw [reached_concat]
      exact (handles capabilities twoFingerScroll ih e).tracks events ih

theorem reached_has (events : List (InputEvent δ)) (dev : δ) (present : InputEvent.Present events dev)
    (classed : ((capabilities dev).touchpad || (capabilities dev).pointer) = true) :
    (reached capabilities twoFingerScroll mouse touchpadPointer touchpad events).Has capabilities
      (reached capabilities twoFingerScroll mouse touchpadPointer touchpad events).calls dev := by
  induction events using List.reverseRecOn generalizing dev with
  | nil => cases present
  | append_singleton events e ih =>
      have tracks := reached_tracks capabilities twoFingerScroll mouse touchpadPointer touchpad events
      rw [reached_concat]
      exact has_handle capabilities twoFingerScroll tracks (handles capabilities twoFingerScroll tracks e) ih
        present classed

theorem reached_settings (events : List (InputEvent δ)) :
    (reached capabilities twoFingerScroll mouse touchpadPointer touchpad events).mousePointerConfig =
        mouse.after (events.filterMap InputEvent.mouseSetting) ∧
      (reached capabilities twoFingerScroll mouse touchpadPointer touchpad events).touchpadPointerConfig =
        touchpadPointer.after (events.filterMap InputEvent.touchpadPointerSetting) ∧
      (reached capabilities twoFingerScroll mouse touchpadPointer touchpad events).touchpadConfig =
        touchpad.after twoFingerScroll (events.filterMap InputEvent.touchpadSetting) := by
  induction events using List.reverseRecOn with
  | nil => exact ⟨rfl, rfl, rfl⟩
  | append_singleton events e ih =>
      have tracks := reached_tracks capabilities twoFingerScroll mouse touchpadPointer touchpad events
      have step := handles capabilities twoFingerScroll tracks e
      rw [reached_concat, step.mousePointerConfig, step.touchpadPointerConfig, step.touchpadConfig, ih.1, ih.2.1,
        ih.2.2, List.filterMap_append, List.filterMap_append, List.filterMap_append]
      refine ⟨?_, ?_, ?_⟩
      · cases setting : e.mouseSetting <;> simp [setting, MirPointerConfig.after_concat]
      · cases setting : e.touchpadPointerSetting <;> simp [setting, MirPointerConfig.after_concat]
      · cases setting : e.touchpadSetting <;> simp [setting, MirTouchpadConfig.after_concat]

/-- Every present device has the current settings, which are those of the last setters, and no other device
is ever called. -/
theorem devices_up_to_date (events : List (InputEvent δ)) :
    UpToDate capabilities twoFingerScroll (constructed mouse touchpadPointer touchpad) events
        (reached capabilities twoFingerScroll mouse touchpadPointer touchpad events) ∧
      ∀ past e, past ++ [e] <+: events → ∃ new,
        (reached capabilities twoFingerScroll mouse touchpadPointer touchpad (past ++ [e])).calls =
            (reached capabilities twoFingerScroll mouse touchpadPointer touchpad past).calls ++ new ∧
          ∀ call ∈ new, (reached capabilities twoFingerScroll mouse touchpadPointer touchpad
            (past ++ [e])).Rightful capabilities (past ++ [e]) call := by
  have has := reached_has capabilities twoFingerScroll mouse touchpadPointer touchpad events
  obtain ⟨mouseSettings, pointerSettings, touchpadSettings⟩ :=
    reached_settings capabilities twoFingerScroll mouse touchpadPointer touchpad events
  refine ⟨⟨?_, ?_, mouseSettings, pointerSettings, touchpadSettings⟩, ?_⟩
  · intro dev present own
    obtain ⟨pointer, touchpad⟩ := has dev present (by simp [own])
    rw [own, if_pos rfl] at pointer
    exact ⟨pointer, touchpad own⟩
  · intro dev present other own
    obtain ⟨pointer, -⟩ := has dev present (by simp [own])
    simpa [other] using pointer
  · intro past e _
    have tracks := reached_tracks capabilities twoFingerScroll mouse touchpadPointer touchpad past
    rw [reached_concat]
    exact ⟨_, (handles capabilities twoFingerScroll tracks e).calls, rightful_handle capabilities tracks _⟩

end MirInputConfiguration
end SystemCompositor
