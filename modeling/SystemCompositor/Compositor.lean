import SystemCompositor.AsioDMConnection.Duplex
import SystemCompositor.MirScreen.Handlers
import SystemCompositor.SessionSwitcher.Chronicle

namespace SystemCompositor
open Std Library

/-- `uscSessions` counts the wrappers that were made; each is an object of its own. -/
structure WindowManager where
  uscSessions : Nat := 0

namespace WindowManager

/-- `spinnerPid` is what `spinner_process->pid()` returns to the switcher. -/
def onSessionAdded (m : WindowManager) (session : SceneSession) (processId spinnerPid : Int) : WindowManager × Op :=
  (⟨m.uscSessions + 1⟩, .add ⟨m.uscSessions, session⟩ processId spinnerPid)

def onSessionReady (session : SceneSession) : Op := .markReady session.address

def onSessionRemoved (session : SceneSession) : Op := .remove session

end WindowManager

namespace MirScreen
open ScreenM

/-- A screen whose compositor does not start is not made, and one whose display has no configuration yet
counts no outputs. -/
def construct (displayConfiguration : DisplayConfiguration) (o : Outcomes) : Option MirScreen :=
  match o.start with
  | .throws _ => none
  | .returns => some {
      compositorRunning := true
      displayConfiguration
      activeOutputs := match o.configuration with
        | .returns => countActiveOutputs displayConfiguration
        | .throws _ => ⟨0, 0⟩ }

/-- `set_power_mode` up to its call of `configuration_applied`. -/
def changePowerMode (o : Outcomes) (mode : PowerMode) (filter : Output → Bool) : ScreenM DisplayConfiguration := do
  let displayConfig := applyPowerMode mode filter (← configuration o)
  stop o
  configure o displayConfig
  if hasActiveOutputs displayConfig then
    start o
  return displayConfig

end MirScreen

namespace SharedScreen
open ScreenM

def turn (s : SharedScreen) (o : Outcomes) (mode : PowerMode) (filter : Output → Bool) : SharedScreen :=
  match exec (MirScreen.changePowerMode o mode filter) s.screen with
  | (.ok displayConfig, screen) => { s with screen }.after (.configurationApplied o displayConfig)
  | (.error (), screen) => { s with screen }

end SharedScreen

/-- The reader of the display manager, the window manager, the switcher with the scene, and the screen once it
is made; `ops` are the calls that the switcher was given, oldest first. -/
structure Compositor where
  dm : AsioDMConnection
  windowManager : WindowManager := {}
  world : World := {}
  screen : Option MirScreen := none
  ops : List Op := []

/-- `registry` stands for Mir and for the owners of other handlers. The events come one after another: the
handler that the switcher registers takes no lock, so a configuration change may also overlap a call. -/
inductive CompositorEvent
  | dmRead
  | sessionAdded (session : SceneSession) (processId spinnerPid : Int)
  | sessionReady (session : SceneSession)
  | sessionRemoved (session : SceneSession)
  | theScreen (displayConfiguration : DisplayConfiguration) (o : Outcomes)
  | registry (call : RegistryCall)
  | turnOn (o : Outcomes) (outputFilter : OutputFilter)
  | turnOff (o : Outcomes) (outputFilter : OutputFilter)

def ReaderEvent.op : ReaderEvent → Option Op
  | .setActiveSession clientName => some (.setActiveSession clientName)
  | .setNextSession clientName => some (.setNextSession clientName)
  | .header _ | .dispatch _ | .write _ => none

/-- Whom the event gives the name of the spinner to. -/
def CompositorEvent.spinner : CompositorEvent → Option Name
  | .sessionAdded session processId spinnerPid => if processId = spinnerPid then some session.name else none
  | .dmRead | .sessionReady _ | .sessionRemoved _ | .theScreen .. | .registry _ | .turnOn .. | .turnOff .. => none

def CompositorEvent.isRead : CompositorEvent → Bool
  | .dmRead => true
  | .sessionAdded .. | .sessionReady _ | .sessionRemoved _ | .theScreen .. | .registry _ | .turnOn ..
  | .turnOff .. => false

namespace Compositor

def start (stream : List UInt8) (uninitialised : Vector UInt8 4) : Compositor :=
  { dm := (AsioDMConnection.connect stream uninitialised).start }

/-- The key and the handler that `set_screen` registers. -/
def switcherOwner : Nat := 0

def switcherHandler : Nat := 0

def onScreen (c : Compositor) (screen : MirScreen) (call : SharedScreen → SharedScreen) : Compositor × List Op :=
  let s := call ⟨screen, false, []⟩
  ({ c with screen := some s.screen }, (MirScreen.heard switcherOwner s.invocations).map .activeOutputs)

/-- What the event does outside the switcher, and what it asks of the switcher. -/
def requests (c : Compositor) : CompositorEvent → Compositor × List Op
  | .dmRead => ({ c with dm := c.dm.complete }, (c.dm.complete.log.drop c.dm.log.length).filterMap ReaderEvent.op)
  | .sessionAdded session processId spinnerPid =>
      let (windowManager, op) := c.windowManager.onSessionAdded session processId spinnerPid
      ({ c with windowManager }, [op])
  | .sessionReady session => (c, [WindowManager.onSessionReady session])
  | .sessionRemoved session => (c, [WindowManager.onSessionRemoved session])
  | .theScreen displayConfiguration o =>
      match c.screen, MirScreen.construct displayConfiguration o with
      | none, some screen =>
          c.onScreen screen fun s => s.after (.registerActiveOutputsHandler o switcherOwner switcherHandler)
      | _, _ => (c, [])
  | .registry call =>
      match c.screen with
      | some screen => c.onScreen screen fun s => s.after call
      | none => (c, [])
  | .turnOn o outputFilter =>
      match c.screen with
      | some screen => c.onScreen screen fun s => s.turn o .on (getPowerModeFilterForOutputFilter outputFilter)
      | none => (c, [])
  | .turnOff o outputFilter =>
      match c.screen with
      | some screen => c.onScreen screen fun s => s.turn o .off (getPowerModeFilterForOutputFilter outputFilter)
      | none => (c, [])

def step (c : Compositor) (e : CompositorEvent) : Except Fault Compositor := do
  let (d, ops) := c.requests e
  return { d with world := ← c.world.run ops, ops := c.ops ++ ops }

def run (c : Compositor) (es : List CompositorEvent) : Except Fault Compositor := es.foldlM step c

abbrev Step (c : Compositor) (e : CompositorEvent) (d : Compositor) : Prop := c.step e = .ok d

end Compositor

/-- No handler throws, and nobody else uses the switcher's key. -/
def CompositorEvent.Regular : CompositorEvent → Prop
  | .registry call => call.owner ≠ some Compositor.switcherOwner ∧ ∀ key, call.outcomes.handler key = .returns
  | .turnOn o _ | .turnOff o _ => ∀ key, o.handler key = .returns
  | .dmRead | .sessionAdded .. | .sessionReady _ | .sessionRemoved _ | .theScreen .. => True

theorem addedSessions_append (past ops : List Op) :
    addedSessions (past ++ ops) = addedSessions past ++ addedSessions ops :=
  List.filterMap_append

def ReaderEvent.activates (event : ReaderEvent) : Option Name := event.op.bind Op.activates

/-- The body of a message with this number. -/
def Message.named (id : UInt16) (m : Message) : Option Name := if m.id = id then some m.body else none

def ReaderEvent.announces (event : ReaderEvent) : Option Name := event.op.bind Op.announces

namespace MirScreen
open ScreenM

theorem setPowerModeBody_exec (o : Outcomes) (mode : PowerMode) (filter : Output → Bool) (s : MirScreen) :
    exec (setPowerModeBody o mode filter) s = match exec (changePowerMode o mode filter) s with
      | (.ok displayConfig, t) => exec (configurationApplied o displayConfig) t
      | (.error (), t) => (.error (), t) := by
  simp only [setPowerModeBody, changePowerMode, exec_bind]
  rcases exec (configuration o) s with ⟨_ | current, t⟩
  · rfl
  · dsimp only
    rcases exec (stop o) t with ⟨_ | _, t⟩
    · rfl
    · dsimp only
      rcases exec (configure o _) t with ⟨_ | _, t⟩
      · rfl
      · dsimp only
        split_ifs
        · rw [exec_bind, exec_bind]
          rcases exec (start o) t with ⟨_ | _, t⟩ <;> rfl
        · rfl

theorem changePowerMode_kept (o : Outcomes) (mode : PowerMode) (filter : Output → Bool) (s : MirScreen) :
    (exec (changePowerMode o mode filter) s).2.activeOutputsHandlers = s.activeOutputsHandlers ∧
      (exec (changePowerMode o mode filter) s).2.activeOutputs = s.activeOutputs := by
  simp only [changePowerMode, configuration, stop, configure, start, exec_bind, exec_perform, exec_get, exec_pure]
  cases o.configuration with
  | throws left => exact ⟨rfl, rfl⟩
  | returns =>
      cases o.stop with
      | throws left => exact ⟨rfl, rfl⟩
      | returns =>
          cases o.configure with
          | throws left => exact ⟨rfl, rfl⟩
          | returns =>
              dsimp only
              split_ifs
              · rw [exec_bind, exec_perform]
                cases o.start <;> exact ⟨rfl, rfl⟩
              · exact ⟨rfl, rfl⟩

end MirScreen

namespace SharedScreen
open ScreenM

/-- Without the record of the invocations this is `set_power_mode`. -/
theorem turn_screen (s : SharedScreen) (o : Outcomes) (mode : PowerMode) (filter : Output → Bool) :
    (s.turn o mode filter).screen = ((MirScreen.setPowerMode o mode filter).run s.screen).2 := by
  rw [MirScreen.setPowerMode_run, MirScreen.setPowerModeBody_exec, turn]
  rcases exec (MirScreen.changePowerMode o mode filter) s.screen with ⟨_ | displayConfig, screen⟩
  · rfl
  · exact after_configurationApplied _ o displayConfig

end SharedScreen

namespace Compositor
open ScreenM

/-- The switcher's handler stays registered, and the last outputs that it was told are those of the screen. -/
structure Follows (screen : MirScreen) (s : SharedScreen) : Prop where
  registered : s.screen.activeOutputsHandlers[switcherOwner]? = some switcherHandler
  told : s.screen.activeOutputs =
    (MirScreen.heard switcherOwner s.invocations).getLast?.getD screen.activeOutputs

theorem follows_call {screen : MirScreen} {call : RegistryCall} (other : call.owner ≠ some switcherOwner)
    (returns : ∀ key, call.outcomes.handler key = .returns)
    (registered : screen.activeOutputsHandlers[switcherOwner]? = some switcherHandler) :
    Follows screen (SharedScreen.after ⟨screen, false, []⟩ call) := by
  constructor
  · rw [SharedScreen.after_handlers, if_neg other, registered]
  · rw [SharedScreen.after_activeOutputs, MirScreen.heard_after other returns registered]
    cases call.configured <;> rfl

theorem follows_registered (screen : MirScreen) (o : Outcomes) : Follows screen
    (SharedScreen.after ⟨screen, false, []⟩ (.registerActiveOutputsHandler o switcherOwner switcherHandler)) := by
  constructor
  · simp [SharedScreen.after_handlers, RegistryCall.owner, RegistryCall.registers]
  · rw [SharedScreen.after_activeOutputs, MirScreen.heard_registered]
    rfl

theorem follows_turn {screen : MirScreen} {o : Outcomes} (mode : PowerMode) (filter : Output → Bool)
    (returns : ∀ key, o.handler key = .returns)
    (registered : screen.activeOutputsHandlers[switcherOwner]? = some switcherHandler) :
    Follows screen (SharedScreen.turn ⟨screen, false, []⟩ o mode filter) := by
  obtain ⟨handlers, outputs⟩ := MirScreen.changePowerMode_kept o mode filter screen
  rw [SharedScreen.turn]
  generalize exec (MirScreen.changePowerMode o mode filter) screen = ended at handlers outputs ⊢
  obtain ⟨result, changed⟩ := ended
  have registered' : changed.activeOutputsHandlers[switcherOwner]? = some switcherHandler := by
    rw [← registered, ← handlers]
  cases result with
  | error _ => exact ⟨registered', outputs⟩
  | ok displayConfig =>
      have other : (RegistryCall.configurationApplied o displayConfig).owner ≠ some switcherOwner := by
        simp [RegistryCall.owner]
      obtain ⟨kept, told⟩ := follows_call other returns registered'
      exact ⟨kept, told.trans (by rw [← outputs])⟩

theorem run_told {w v : World} (wf : w.switcher.WellFormed) {told : List ActiveOutputs}
    (ran : w.run (told.map .activeOutputs) = .ok v) :
    v.switcher.hasActiveOutputs = (told.getLast?.map anyActive).getD w.switcher.hasActiveOutputs := by
  rw [World.run_written (·.switcher.hasActiveOutputs) Op.tells World.after_outputs wf ran, lastOf, List.filterMap_map,
    ← List.getLast?_map, ← List.filterMap_eq_map]
  rfl

structure Consistent (c : Compositor) : Prop where
  ran : World.run {} c.ops = .ok c.world
  once : (addedSessions c.ops).Nodup
  made : ∀ x ∈ addedSessions c.ops, x.address < c.windowManager.uscSessions
  lit : c.screen = none → c.world.switcher.hasActiveOutputs = true
  agrees : ∀ screen, c.screen = some screen →
    screen.activeOutputsHandlers[switcherOwner]? = some switcherHandler ∧
      c.world.switcher.hasActiveOutputs = anyActive screen.activeOutputs

theorem start_consistent (stream : List UInt8) (uninitialised : Vector UInt8 4) :
    (start stream uninitialised).Consistent where
  ran := rfl
  once := by simp [start, addedSessions]
  made := by simp [start, addedSessions]
  lit _ := rfl
  agrees _ made := by cases made

theorem Consistent.reached {c : Compositor} (consistent : c.Consistent) : Run World.Step {} c.ops c.world :=
  World.run_iff.mp consistent.ran

theorem Consistent.wellFormed {c : Compositor} (consistent : c.Consistent) : c.world.switcher.WellFormed :=
  World.run_wellFormed World.initial_wellFormed consistent.reached

theorem step_inv {c d : Compositor} {e : CompositorEvent} (stepped : c.Step e d) :
    ∃ world, c.world.run (c.requests e).2 = .ok world ∧
      d = { (c.requests e).1 with world, ops := c.ops ++ (c.requests e).2 } := by
  simp only [Step, step, bind, Except.bind] at stepped
  split at stepped
  · cases stepped
  · rename_i world ran
    exact ⟨world, ran, (Except.ok.inj stepped).symm⟩

theorem step_total {c : Compositor} (wf : c.world.switcher.WellFormed) (e : CompositorEvent) : ∃ d, c.Step e d := by
  obtain ⟨world, ran⟩ := World.run_total wf (c.requests e).2
  exact ⟨_, by simp only [Step, step, ran]; rfl⟩

theorem log_prefix (c : AsioDMConnection) : c.log <+: c.complete.log := by
  unfold AsioDMConnection.complete
  cases c.pending with
  | none => exact List.prefix_refl _
  | some pending =>
      cases pending with
      | header =>
          dsimp only
          split_ifs
          · exact List.prefix_append _ _
          · exact List.prefix_refl _
      | payload length =>
          simp only [AsioDMConnection.onReadPayload, AsioDMConnection.readHeader]
          split_ifs
          · exact List.prefix_refl _
          · rw [AsioDMConnection.dispatch_eq, AsioDMConnection.record, List.append_assoc]
            exact List.prefix_append _ _

theorem run_quiet {w v : World} (wf : w.switcher.WellFormed) {ops : List Op}
    (quiet : ∀ op ∈ ops, ∀ outputs, op ≠ .activeOutputs outputs) (ran : w.run ops = .ok v) :
    v.switcher.hasActiveOutputs = w.switcher.hasActiveOutputs := by
  have silent : ops.filterMap Op.tells = [] := by
    refine List.filterMap_eq_nil_iff.mpr fun op member => ?_
    cases op with
    | activeOutputs outputs => exact absurd rfl (quiet _ member outputs)
    | add _ _ _ | remove _ | setActiveSession _ | setNextSession _ | markReady _ => rfl
  rw [World.run_written (·.switcher.hasActiveOutputs) Op.tells World.after_outputs wf ran, lastOf, silent]
  rfl

theorem addedSessions_told (told : List ActiveOutputs) : addedSessions (told.map .activeOutputs) = [] := by
  simp [addedSessions, List.filterMap_map]

namespace Consistent
variable {c : Compositor}

theorem append (consistent : c.Consistent) {ops : List Op} {world : World} (ran : c.world.run ops = .ok world) :
    World.run {} (c.ops ++ ops) = .ok world :=
  World.run_iff.mpr (Run.append_iff.mpr ⟨c.world, consistent.reached, World.run_iff.mp ran⟩)

/-- Calls that add no session, after which the switcher agrees with the screen. -/
theorem plain (consistent : c.Consistent) {ops : List Op} (silent : addedSessions ops = []) {world : World}
    (ran : c.world.run ops = .ok world) {screen : Option MirScreen}
    (lit : screen = none → world.switcher.hasActiveOutputs = true)
    (agrees : ∀ made, screen = some made →
      made.activeOutputsHandlers[switcherOwner]? = some switcherHandler ∧
        world.switcher.hasActiveOutputs = anyActive made.activeOutputs) :
    Consistent { c with screen, world, ops := c.ops ++ ops } := by
  have sessions : addedSessions (c.ops ++ ops) = addedSessions c.ops := by
    rw [addedSessions_append, silent, List.append_nil]
  refine ⟨consistent.append ran, ?_, ?_, lit, agrees⟩
  · rw [sessions]
    exact consistent.once
  · rw [sessions]
    exact consistent.made

theorem onScreen (consistent : c.Consistent) {screen : MirScreen} {call : SharedScreen → SharedScreen}
    (follows : Follows screen (call ⟨screen, false, []⟩))
    (before : (MirScreen.heard switcherOwner (call ⟨screen, false, []⟩).invocations).getLast? = none →
      c.world.switcher.hasActiveOutputs = anyActive screen.activeOutputs) {world : World}
    (ran : c.world.run (c.onScreen screen call).2 = .ok world) :
    Consistent { (c.onScreen screen call).1 with world, ops := c.ops ++ (c.onScreen screen call).2 } := by
  refine consistent.plain (addedSessions_told _) ran (fun none => by cases none) fun made same => ?_
  obtain rfl := Option.some.inj same
  refine ⟨follows.registered, ?_⟩
  rw [run_told consistent.wellFormed ran, follows.told]
  cases last : (MirScreen.heard switcherOwner (call ⟨screen, false, []⟩).invocations).getLast? with
  | none => exact before last
  | some outputs => rfl

theorem read (consistent : c.Consistent) {world : World} (ran : c.world.run (c.requests .dmRead).2 = .ok world) :
    Consistent { (c.requests .dmRead).1 with world, ops := c.ops ++ (c.requests .dmRead).2 } := by
  have named : ∀ op ∈ (c.requests .dmRead).2, addedSessions [op] = [] ∧ ∀ outputs, op ≠ .activeOutputs outputs := by
    intro op member
    obtain ⟨event, -, asked⟩ := List.mem_filterMap.mp member
    cases event with
    | setActiveSession name | setNextSession name =>
        obtain rfl := Option.some.inj asked
        exact ⟨rfl, by simp⟩
    | header _ | dispatch _ | write _ => cases asked
  have silent : addedSessions (c.requests .dmRead).2 = [] := by
    rw [addedSessions, List.filterMap_eq_nil_iff]
    intro op member
    simpa [addedSessions] using (named op member).1
  have flag := run_quiet consistent.wellFormed (fun op member => (named op member).2) ran
  obtain ⟨reached, once, made, lit, agrees⟩ := consistent.plain silent ran
    (flag ▸ consistent.lit) (flag ▸ consistent.agrees)
  exact ⟨reached, once, made, lit, agrees⟩

theorem added (consistent : c.Consistent) (session : SceneSession) (processId spinnerPid : Int) {world : World}
    (ran : c.world.run (c.requests (.sessionAdded session processId spinnerPid)).2 = .ok world) :
    Consistent { (c.requests (.sessionAdded session processId spinnerPid)).1 with
      world, ops := c.ops ++ (c.requests (.sessionAdded session processId spinnerPid)).2 } := by
  have flag := run_quiet consistent.wellFormed (by simp [requests, WindowManager.onSessionAdded]) ran
  refine ⟨consistent.append ran, ?_, ?_, ?_, ?_⟩
  · simp only [requests, WindowManager.onSessionAdded, addedSessions_concat, List.nodup_append]
    refine ⟨consistent.once, by simp [addedSessions], ?_⟩
    rintro x member y new rfl
    have fresh := consistent.made x member
    simp only [addedSessions, List.filterMap_cons, List.filterMap_nil, List.mem_singleton] at new
    rw [new] at fresh
    exact lt_irrefl _ fresh
  · simp only [requests, WindowManager.onSessionAdded, addedSessions_concat, List.mem_append]
    rintro x (old | new)
    · exact Nat.lt_succ_of_lt (consistent.made x old)
    · simp only [addedSessions, List.filterMap_cons, List.filterMap_nil, List.mem_singleton] at new
      rw [new]
      exact Nat.lt_succ_self _
  · rw [flag]
    exact consistent.lit
  · rw [flag]
    exact consistent.agrees

/-- A call that adds no session and says nothing of the outputs. -/
theorem quiet (consistent : c.Consistent) {op : Op} (silent : addedSessions [op] = [])
    (quiet : ∀ outputs, op ≠ .activeOutputs outputs) {world : World} (ran : c.world.run [op] = .ok world) :
    Consistent { c with world, ops := c.ops ++ [op] } := by
  have flag := run_quiet consistent.wellFormed (by simpa using quiet) ran
  refine consistent.plain silent ran ?_ ?_
  · rw [flag]
    exact consistent.lit
  · rw [flag]
    exact consistent.agrees

theorem step (consistent : c.Consistent) {e : CompositorEvent} (regular : e.Regular) {d : Compositor}
    (stepped : c.Step e d) : d.Consistent := by
  obtain ⟨world, ran, rfl⟩ := step_inv stepped
  have idle {world : World} (ran : c.world.run [] = .ok world) : Consistent { c with world, ops := c.ops ++ [] } := by
    obtain rfl := Except.ok.inj ran
    rw [List.append_nil]
    exact consistent
  cases e with
  | dmRead => exact consistent.read ran
  | sessionAdded session processId spinnerPid => exact consistent.added session processId spinnerPid ran
  | sessionReady session => exact consistent.quiet rfl (by simp [WindowManager.onSessionReady]) ran
  | sessionRemoved session => exact consistent.quiet rfl (by simp [WindowManager.onSessionRemoved]) ran
  | theScreen displayConfiguration o =>
      cases made : c.screen with
      | some screen =>
          simp only [requests, made] at ran ⊢
          exact made ▸ idle ran
      | none =>
          cases constructed : MirScreen.construct displayConfiguration o with
          | none =>
              simp only [requests, made, constructed] at ran ⊢
              exact made ▸ idle ran
          | some screen =>
              simp only [requests, made, constructed] at ran ⊢
              exact consistent.onScreen (follows_registered screen o)
                (fun none => by simp [MirScreen.heard_registered] at none) ran
  | registry call =>
      cases made : c.screen with
      | none =>
          simp only [requests, made] at ran ⊢
          exact made ▸ idle ran
      | some screen =>
          obtain ⟨registered, agrees⟩ := consistent.agrees screen made
          simp only [requests, made] at ran ⊢
          exact consistent.onScreen (follows_call regular.1 regular.2 registered) (fun _ => agrees) ran
  | turnOn o outputFilter | turnOff o outputFilter =>
      cases made : c.screen with
      | none =>
          simp only [requests, made] at ran ⊢
          exact made ▸ idle ran
      | some screen =>
          obtain ⟨registered, agrees⟩ := consistent.agrees screen made
          simp only [requests, made] at ran ⊢
          exact consistent.onScreen (follows_turn _ _ regular registered) (fun _ => agrees) ran

theorem run (consistent : c.Consistent) {es : List CompositorEvent} (regular : ∀ e ∈ es, e.Regular) :
    ∃ d, Run Step c es d ∧ d.Consistent := by
  induction es generalizing c with
  | nil => exact ⟨c, .nil c, consistent⟩
  | cons e es ih =>
      obtain ⟨m, stepped⟩ := step_total consistent.wellFormed e
      obtain ⟨d, run, reached⟩ := ih (consistent.step (regular e (by simp)) stepped) fun later member =>
        regular later (by simp [member])
      exact ⟨d, .cons stepped run, reached⟩

end Consistent

theorem requests_spinner (c : Compositor) (e : CompositorEvent) {op : Op} (member : op ∈ (c.requests e).2)
    {name : Name} (own : op.spinner = some name) : e.spinner = some name := by
  have told (screen : MirScreen) (call : SharedScreen → SharedScreen) (member : op ∈ (c.onScreen screen call).2) :
      e.spinner = some name := by
    obtain ⟨outputs, -, rfl⟩ := List.mem_map.mp member
    cases own
  cases e with
  | sessionAdded session processId spinnerPid =>
      obtain rfl := List.mem_singleton.mp member
      exact own
  | sessionReady session | sessionRemoved session =>
      obtain rfl := List.mem_singleton.mp member
      cases own
  | dmRead =>
      obtain ⟨event, -, asked⟩ := List.mem_filterMap.mp member
      cases event with
      | setActiveSession name | setNextSession name =>
          obtain rfl := Option.some.inj asked
          cases own
      | header _ | dispatch _ | write _ => cases asked
  | theScreen displayConfiguration o =>
      simp only [requests] at member
      split at member
      · exact told _ _ member
      · cases member
  | registry call | turnOn o outputFilter | turnOff o outputFilter =>
      simp only [requests] at member
      split at member
      · exact told _ _ member
      · cases member

theorem spinner_of_run {stream : List UInt8} {uninitialised : Vector UInt8 4} {es : List CompositorEvent}
    {c : Compositor} (run : Run Step (start stream uninitialised) es c) {name : Name}
    (other : ∀ e ∈ es, e.spinner ≠ some name) : ∀ op ∈ c.ops, op.spinner ≠ some name := by
  refine Run.invariant (fun es c => (∀ e ∈ es, e.spinner ≠ some name) → ∀ op ∈ c.ops, op.spinner ≠ some name)
    ?_ ?_ run other
  · simp [start]
  · rintro past m e d - before stepped other op member own
    obtain ⟨world, -, rfl⟩ := step_inv stepped
    rcases List.mem_append.mp member with old | new
    · exact before (fun earlier member => other earlier (by simp [member])) op old own
    · exact other e (by simp) (m.requests_spinner e new own)

theorem requests_dm (c : Compositor) (e : CompositorEvent) :
    (c.requests e).1.dm = if e.isRead then c.dm.complete else c.dm := by
  cases e with
  | dmRead | sessionAdded session processId spinnerPid | sessionReady session | sessionRemoved session => rfl
  | theScreen displayConfiguration o => rw [requests]; split <;> rfl
  | registry call | turnOn o outputFilter | turnOff o outputFilter => rw [requests]; split <;> rfl

theorem dm_of_run {stream : List UInt8} {uninitialised : Vector UInt8 4} {es : List CompositorEvent}
    {c : Compositor} (run : Run Step (start stream uninitialised) es c) :
    c.dm = AsioDMConnection.complete^[es.countP (·.isRead)]
      (AsioDMConnection.connect stream uninitialised).start := by
  refine Run.invariant (fun es c => c.dm = AsioDMConnection.complete^[es.countP (·.isRead)]
    (AsioDMConnection.connect stream uninitialised).start) rfl ?_ run
  rintro past m e d - before stepped
  obtain ⟨world, -, rfl⟩ := step_inv stepped
  rw [requests_dm, List.countP_append, List.countP_singleton, before]
  cases e.isRead with
  | false => rfl
  | true => rw [if_pos rfl, if_pos rfl, Function.iterate_succ_apply']

/-- What the switcher should take the outputs for: before there is a screen it shows sessions. -/
def outputsOn (c : Compositor) : Bool := (c.screen.map fun screen => anyActive screen.activeOutputs).getD true

/-- The session that the display manager activated last. -/
def activated (c : Compositor) : Name := (lastOf ReaderEvent.activates c.dm.log).getD []

def announced (c : Compositor) : Name := (lastOf ReaderEvent.announces c.dm.log).getD []

structure Presents (es : List CompositorEvent) (c : Compositor) : Prop where
  active : c.world.switcher.activeName = c.activated
  next : c.world.switcher.nextName = c.announced
  outputs : c.world.switcher.hasActiveOutputs = c.outputsOn
  shown : ∀ x, c.world.switcher.Tracks x → x.name ≠ [] → (∀ e ∈ es, e.spinner ≠ some x.name) →
    (c.world.scene.visible x = true ↔ c.outputsOn = true ∧ c.world.switcher.booting = false ∧
      c.world.switcher.isSessionReadyForDisplay c.activated = true ∧
      c.world.switcher.isSessionReadyForDisplay x.name = true ∧ (x.name = c.activated ∨ x.name = c.announced))
  dark : c.outputsOn = false → ∀ x, c.world.switcher.Tracks x → c.world.scene.visible x = false

theorem Consistent.outputs {c : Compositor} (consistent : c.Consistent) :
    c.world.switcher.hasActiveOutputs = c.outputsOn := by
  cases made : c.screen with
  | none => rw [outputsOn, made, consistent.lit made]; rfl
  | some screen => rw [outputsOn, made, (consistent.agrees screen made).2]; rfl

/-- What the switcher was asked by name is what the reader has called for. -/
theorem requests_asked {asks : Op → Option Name}
    (own : ∀ op name, asks op = some name → op = .setActiveSession name ∨ op = .setNextSession name)
    (c : Compositor) (e : CompositorEvent) : ∃ new, (c.requests e).1.dm.log = c.dm.log ++ new ∧
      (c.requests e).2.filterMap asks = new.filterMap fun event => event.op.bind asks := by
  have silent {op : Op} (other : ∀ name, op ≠ .setActiveSession name ∧ op ≠ .setNextSession name) :
      asks op = none := by
    refine Option.eq_none_iff_forall_ne_some.mpr fun name asked => ?_
    rcases own op name asked with same | same
    · exact (other name).1 same
    · exact (other name).2 same
  have told (screen : MirScreen) (call : SharedScreen → SharedScreen) :
      (c.onScreen screen call).2.filterMap asks = [] := by
    refine List.filterMap_eq_nil_iff.mpr fun op member => silent ?_
    obtain ⟨outputs, -, rfl⟩ := List.mem_map.mp member
    simp
  have nothing : c.dm.log = c.dm.log ++ [] := (List.append_nil _).symm
  cases e with
  | dmRead =>
      obtain ⟨new, log⟩ := log_prefix c.dm
      refine ⟨new, log.symm, ?_⟩
      simp only [requests, ← log, List.drop_left, List.filterMap_filterMap]
  | sessionAdded session processId spinnerPid =>
      refine ⟨[], nothing, List.filterMap_eq_nil_iff.mpr fun op member => silent ?_⟩
      obtain rfl := List.mem_singleton.mp member
      simp
  | sessionReady session | sessionRemoved session =>
      refine ⟨[], nothing, List.filterMap_eq_nil_iff.mpr fun op member => silent ?_⟩
      obtain rfl := List.mem_singleton.mp member
      simp [WindowManager.onSessionReady, WindowManager.onSessionRemoved]
  | theScreen displayConfiguration o =>
      refine ⟨[], by rw [requests_dm]; exact nothing, ?_⟩
      simp only [requests]
      split
      · exact told _ _
      · rfl
  | registry call | turnOn o outputFilter | turnOff o outputFilter =>
      refine ⟨[], by rw [requests_dm]; exact nothing, ?_⟩
      simp only [requests]
      split
      · exact told _ _
      · rfl

theorem asked_of_run {stream : List UInt8} {uninitialised : Vector UInt8 4} {es : List CompositorEvent}
    {c : Compositor} (run : Run Step (start stream uninitialised) es c) (asks : Op → Option Name)
    (own : ∀ op name, asks op = some name → op = .setActiveSession name ∨ op = .setNextSession name) :
    c.ops.filterMap asks = c.dm.log.filterMap fun event => event.op.bind asks := by
  refine Run.invariant (fun _ c => c.ops.filterMap asks = c.dm.log.filterMap fun event => event.op.bind asks)
    rfl ?_ run
  rintro past m e d - before stepped
  obtain ⟨world, -, rfl⟩ := step_inv stepped
  obtain ⟨new, log, asked⟩ := requests_asked own m e
  simp only [log, List.filterMap_append, before, asked]

theorem ran_of_run {stream : List UInt8} {uninitialised : Vector UInt8 4} {es : List CompositorEvent}
    {c : Compositor} (run : Run Step (start stream uninitialised) es c) : Run World.Step {} c.ops c.world := by
  refine Run.invariant (fun _ c => Run World.Step {} c.ops c.world) (.nil _) ?_ run
  rintro past m e d - before stepped
  obtain ⟨world, ran, rfl⟩ := step_inv stepped
  exact Run.append_iff.mpr ⟨m.world, before, World.run_iff.mp ran⟩

theorem run_total (stream : List UInt8) (uninitialised : Vector UInt8 4) (es : List CompositorEvent) :
    ∃ c, Run Step (start stream uninitialised) es c := by
  induction es using List.reverseRecOn with
  | nil => exact ⟨_, .nil _⟩
  | append_singleton past e ih =>
      obtain ⟨m, before⟩ := ih
      obtain ⟨d, stepped⟩ := step_total (World.run_wellFormed World.initial_wellFormed (ran_of_run before)) e
      exact ⟨d, Run.concat_iff.mpr ⟨m, before, stepped⟩⟩

/-- Whatever happens, the names are those that the display manager gave last. -/
theorem names_of_run {stream : List UInt8} {uninitialised : Vector UInt8 4} {es : List CompositorEvent}
    {c : Compositor} (run : Run Step (start stream uninitialised) es c) :
    c.world.switcher.activeName = c.activated ∧ c.world.switcher.nextName = c.announced := by
  obtain ⟨active, next⟩ := World.names_of_run (ran_of_run run)
  have activates := asked_of_run run Op.activates fun op name asked => by cases op <;> simp_all [Op.activates]
  have announces := asked_of_run run Op.announces fun op name asked => by cases op <;> simp_all [Op.announces]
  rw [active, next, Chronicle.active, Chronicle.next, lastOf, lastOf, activates, announces]
  exact ⟨rfl, rfl⟩

theorem presents (stream : List UInt8) (uninitialised : Vector UInt8 4) (es : List CompositorEvent)
    (regular : ∀ e ∈ es, e.Regular) : ∃ c, Run Step (start stream uninitialised) es c ∧ c.Presents es := by
  obtain ⟨c, run, consistent⟩ := (start_consistent stream uninitialised).run regular
  obtain ⟨active, next⟩ := names_of_run run
  refine ⟨c, run, active, next, consistent.outputs, ?_, ?_⟩
  · intro x tracks named other
    have never := World.neverSpinner_of_pids named (spinner_of_run run other)
    rw [World.visible_iff_calledFor consistent.once consistent.reached tracks never, World.CalledFor,
      consistent.outputs, active, next]
  · intro off x tracks
    rw [← World.displays_visible consistent.reached tracks, SessionSwitcher.displays, consistent.outputs, off]
    simp

def evening : List CompositorEvent :=
  [.sessionAdded ⟨1, [103]⟩ 1000 7, .dmRead, .sessionReady ⟨1, [103]⟩, .theScreen [⟨.hdmia, true, true, .on⟩] {},
    .dmRead, .turnOff {} .all, .turnOn {} .all]

theorem presents_evening : ∃ c, Run Step (start [0, 4, 0, 1, 103] (.replicate 4 0)) evening c ∧
    c.world.scene.visible ⟨0, ⟨1, [103]⟩⟩ = true := by
  obtain ⟨c, run, presents⟩ := presents [0, 4, 0, 1, 103] (.replicate 4 0) evening
    (by simp [evening, CompositorEvent.Regular])
  have evaluated : ((start [0, 4, 0, 1, 103] (.replicate 4 0)).run evening).map (fun c =>
      (c.world.switcher.tracked [103], c.outputsOn, c.world.switcher.booting, c.activated,
        c.world.switcher.isSessionReadyForDisplay [103])) =
      .ok (some ⟨0, ⟨1, [103]⟩⟩, true, false, [103], true) := by
    decide +kernel
  rw [Compositor.run, run_of_foldlM.mpr run, Except.map, Except.ok.injEq] at evaluated
  simp only [Prod.mk.injEq] at evaluated
  obtain ⟨stored, on, booted, active, ready⟩ := evaluated
  refine ⟨c, run, (presents.shown ⟨0, ⟨1, [103]⟩⟩ stored (by decide) (by decide)).mpr
    ⟨on, booted, ?_, ready, .inl active.symm⟩⟩
  rw [active]
  exact ready

theorem asked_calls (asks : Op → Option Name) (events : List ReaderEvent) :
    (events.filter AsioDMConnection.isCall).filterMap (fun event => event.op.bind asks) =
      events.filterMap fun event => event.op.bind asks := by
  rw [List.filterMap_filter]
  refine List.filterMap_congr fun event _ => ?_
  cases event <;> rfl

theorem asked_messages {asks : Op → Option Name} {id : UInt16}
    (own : ∀ m : Message, (m.calls.filterMap fun event => event.op.bind asks) = (m.named id).toList)
    (msgs : List Message) :
    ((msgs.flatMap Message.calls).filterMap fun event => event.op.bind asks) = msgs.filterMap (·.named id) := by
  rw [List.filterMap_flatMap, List.filterMap_eq_flatMap_toList]
  exact List.flatMap_congr fun m _ => own m

theorem activates_calls (m : Message) : m.calls.filterMap ReaderEvent.activates = (m.named 4).toList := by
  unfold Message.calls Message.named
  split_ifs <;> rfl

theorem announces_calls (m : Message) : m.calls.filterMap ReaderEvent.announces = (m.named 5).toList := by
  unfold Message.calls Message.named
  split_ifs with four five
  · rw [four] at five
    exact absurd five (by decide)
  all_goals rfl

/-- Among whatever else happens, the names are those of the messages that have been read so far. -/
theorem names_of_messages (msgs : List Message) (uninitialised : Vector UInt8 4)
    (ordered : msgs.Pairwise fun m m' => m'.SetsSession → m.SetsSession ∨ m.body = []) {es : List CompositorEvent}
    {c : Compositor} (run : Run Step (start (msgs.flatMap Message.bytes) uninitialised) es c) :
    c.world.switcher.activeName = (lastOf (Message.named 4) (msgs.take (es.countP (·.isRead) / 2))).getD [] ∧
      c.world.switcher.nextName = (lastOf (Message.named 5) (msgs.take (es.countP (·.isRead) / 2))).getD [] := by
  have frames : dmFraming.parse (msgs.flatMap Message.bytes) = (msgs.map Message.toFrame, []) := by
    rw [← dmFraming.parse_frames, List.flatMap_map]
    rfl
  have calls := AsioDMConnection.calls_so_far (msgs.flatMap Message.bytes) uninitialised (es.countP (·.isRead))
  rw [frames, ← List.map_take, (AsioDMConnection.transcript_calls _ 0 []).mpr
    ⟨.inl rfl, ordered.sublist (List.take_sublist _ _)⟩, ← dm_of_run run] at calls
  have logged {asks : Op → Option Name} {id : UInt16}
      (own : ∀ m : Message, (m.calls.filterMap fun event => event.op.bind asks) = (m.named id).toList) :
      (c.dm.log.filterMap fun event => event.op.bind asks) =
        (msgs.take (es.countP (·.isRead) / 2)).filterMap (Message.named id) := by
    rw [← asked_calls, calls, List.filterMap_cons, asked_messages own]
    rfl
  obtain ⟨active, next⟩ := names_of_run run
  rw [active, next]
  exact ⟨congrArg (·.getLast?.getD []) (logged activates_calls),
    congrArg (·.getLast?.getD []) (logged announces_calls)⟩

def activeThenNext : List Message := [⟨4, [97], by decide⟩, ⟨2, [], by decide⟩, ⟨5, [98], by decide⟩]

/-- The second read comes after a configuration change of which a handler threw. -/
theorem names_of_messages_reads : ∃ c,
    Run Step (start (activeThenNext.flatMap Message.bytes) (.replicate 4 0))
      [.theScreen [⟨.hdmia, true, true, .on⟩] {}, .dmRead,
        .registry (.configurationApplied { handler := fun _ => .throws none } [⟨.hdmia, true, true, .off⟩]),
        .dmRead, .sessionAdded ⟨1, [97]⟩ 1000 7, .dmRead, .dmRead, .dmRead] c ∧
      c.world.switcher.activeName = [97] ∧ c.world.switcher.nextName = [] := by
  obtain ⟨c, run⟩ := run_total (activeThenNext.flatMap Message.bytes) (.replicate 4 0)
    [.theScreen [⟨.hdmia, true, true, .on⟩] {}, .dmRead,
      .registry (.configurationApplied { handler := fun _ => .throws none } [⟨.hdmia, true, true, .off⟩]),
      .dmRead, .sessionAdded ⟨1, [97]⟩ 1000 7, .dmRead, .dmRead, .dmRead]
  exact ⟨c, run, names_of_messages activeThenNext (.replicate 4 0) (by decide) run⟩

end Compositor

end SystemCompositor
