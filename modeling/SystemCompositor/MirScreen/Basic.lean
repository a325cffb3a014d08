import Mathlib.Logic.Function.Basic
import SystemCompositor.Session

namespace SystemCompositor
open Std

/-- `DisplayConfigurationOutputType`; `other` are the types that `is_external` does not name. -/
inductive OutputType
  | vga
  | dvii
  | dvid
  | dvia
  | composite
  | svideo
  | component
  | ninepindin
  | displayport
  | hdmia
  | hdmib
  | tv
  | other (value : Nat)
deriving DecidableEq

inductive PowerMode
  | on
  | standby
  | suspend
  | off
deriving DecidableEq

structure Output where
  type : OutputType
  connected : Bool
  used : Bool
  powerMode : PowerMode
deriving DecidableEq

abbrev DisplayConfiguration := List Output

inductive OutputFilter
  | all
  | internal
  | external
deriving DecidableEq

def isExternal : OutputType → Bool
  | .vga | .dvii | .dvid | .dvia | .composite | .svideo | .component | .ninepindin | .displayport
  | .hdmia | .hdmib | .tv => true
  | .other _ => false

def countActiveOutputs (configuration : DisplayConfiguration) : ActiveOutputs :=
  configuration.foldl (fun active output =>
    if output.connected && output.used && output.powerMode = .on then
      if isExternal output.type then { active with external := active.external + 1 }
      else { active with internal := active.internal + 1 }
    else active) ⟨0, 0⟩

def hasActiveOutputs (configuration : DisplayConfiguration) : Bool :=
  let active := countActiveOutputs configuration
  active.internal + active.external > 0

def getPowerModeFilterForOutputFilter : OutputFilter → Output → Bool
  | .all, _ => true
  | .internal, output => !isExternal output.type
  | .external, output => isExternal output.type

def applyPowerMode (mode : PowerMode) (filter : Output → Bool) (configuration : DisplayConfiguration) :
    DisplayConfiguration :=
  configuration.map fun output =>
    if output.connected && output.used && filter output then { output with powerMode := mode } else output

/-- How a call on another component ends. One that throws may leave the component in any state. -/
inductive Outcome (σ : Type)
  | returns
  | throws (left : σ)
deriving DecidableEq

structure Outcomes where
  configuration : Outcome Unit := .returns
  stop : Outcome Bool := .returns
  configure : Outcome DisplayConfiguration := .returns
  start : Outcome Bool := .returns
  handler : Nat → Outcome (Option ActiveOutputs) := fun _ => .returns

/-- The screen with the components it drives. `activeOutputsHandlers` maps owner keys to handlers,
`known` a handler to the outputs it was last told. -/
structure MirScreen where
  compositorRunning : Bool
  displayConfiguration : DisplayConfiguration
  activeOutputsHandlers : TreeMap Nat Nat := {}
  activeOutputs : ActiveOutputs := ⟨0, 0⟩
  known : Nat → Option ActiveOutputs := fun _ => none

/-- Effects that were made before an exception stay. -/
abbrev ScreenM := ExceptT Unit (StateM MirScreen)

def Outcome.perform {σ : Type} (outcome : Outcome σ) (write : σ → MirScreen → MirScreen) (done : σ) :
    ScreenM Unit :=
  match outcome with
  | .returns => modify (write done)
  | .throws left => do
      modify (write left)
      throw ()

namespace MirScreen

def configuration (o : Outcomes) : ScreenM DisplayConfiguration := do
  o.configuration.perform (fun _ s => s) ()
  return (← get).displayConfiguration

def stop (o : Outcomes) : ScreenM Unit :=
  o.stop.perform (fun running s => { s with compositorRunning := running }) false

def configure (o : Outcomes) (displayConfig : DisplayConfiguration) : ScreenM Unit :=
  o.configure.perform (fun configuration s => { s with displayConfiguration := configuration }) displayConfig

def start (o : Outcomes) : ScreenM Unit :=
  o.start.perform (fun running s => { s with compositorRunning := running }) true

def callHandler (o : Outcomes) (entry : Nat × Nat) (activeOutputs : ActiveOutputs) : ScreenM Unit :=
  (o.handler entry.1).perform
    (fun outputs s => { s with known := Function.update s.known entry.2 outputs }) (some activeOutputs)

def configurationApplied (o : Outcomes) (displayConfiguration : DisplayConfiguration) : ScreenM Unit := do
  modify fun s => { s with activeOutputs := countActiveOutputs displayConfiguration }
  let s ← get
  s.activeOutputsHandlers.toList.forM fun entry => callHandler o entry s.activeOutputs

def setPowerModeBody (o : Outcomes) (mode : PowerMode) (filter : Output → Bool) : ScreenM Unit := do
  let displayConfig := applyPowerMode mode filter (← configuration o)
  stop o
  configure o displayConfig
  if hasActiveOutputs displayConfig then
    start o
  configurationApplied o displayConfig

def setPowerMode (o : Outcomes) (mode : PowerMode) (filter : Output → Bool) : StateM MirScreen Unit := do
  match ← (setPowerModeBody o mode filter).run with
  | .ok () => pure ()
  | .error () => pure ()

def turnOn (s : MirScreen) (o : Outcomes) (outputFilter : OutputFilter) : MirScreen :=
  ((setPowerMode o .on (getPowerModeFilterForOutputFilter outputFilter)).run s).2

def turnOff (s : MirScreen) (o : Outcomes) (outputFilter : OutputFilter) : MirScreen :=
  ((setPowerMode o .off (getPowerModeFilterForOutputFilter outputFilter)).run s).2

end MirScreen
end SystemCompositor
