import Mathlib.Algebra.Order.Group.Int
import SystemCompositor.Library.Throttle

namespace SystemCompositor

/-- Nanoseconds. -/
abbrev Timestamp := Int

/-- The readings that `now` returns, in order. -/
abbrev Clock := Nat → Timestamp

inductive MirKeyboardAction
  | up
  | down
  | other (action : Nat)
deriving DecidableEq

inductive MirInputEvent
  | key (scanCode : Int) (action : MirKeyboardAction)
  | touch
  | pointer
  | other
deriving DecidableEq

inductive MirEvent
  | input (event : MirInputEvent)
  | other
deriving DecidableEq

inductive Activity
  | changingPowerState
  | extendingPowerState
deriving DecidableEq

inductive SinkCall
  | notifyPress
  | notifyRelease
  | notifyActivity (activity : Activity)
deriving DecidableEq

def SinkCall.ofPowerButton : SinkCall → Bool
  | .notifyPress | .notifyRelease => true
  | .notifyActivity _ => false

/-- A call made to a sink when the clock had been read `reads` times. -/
structure Sent where
  call : SinkCall
  reads : Nat
deriving DecidableEq

namespace ScreenEventHandler

def eventPeriod : Timestamp := 500000000

def keyVolumeDown : Int := 114

def keyVolumeUp : Int := 115

def keyPower : Int := 116

end ScreenEventHandler

open ScreenEventHandler in
structure ScreenEventHandler where
  lastActivityChangingPowerStateEventTime : Timestamp := -eventPeriod
  lastActivityExtendingPowerStateEventTime : Timestamp := -eventPeriod
deriving DecidableEq

namespace ScreenEventHandler
open Library

structure Handling where
  handler : ScreenEventHandler := {}
  reads : Nat := 0
  sent : List Sent := []
deriving DecidableEq

abbrev HandlerM := ReaderT Clock (StateM Handling)

namespace HandlerM

def handler : HandlerM ScreenEventHandler := return (← get).handler

def update (change : ScreenEventHandler → ScreenEventHandler) : HandlerM Unit :=
  modify fun h => { h with handler := change h.handler }

def now : HandlerM Timestamp := do
  let reads := (← get).reads
  modify fun h => { h with reads := reads + 1 }
  return (← read) reads

def send (call : SinkCall) : HandlerM Unit :=
  modify fun h => { h with sent := h.sent ++ [⟨call, h.reads⟩] }

end HandlerM

open HandlerM

def lastEventTime (handler : ScreenEventHandler) : Activity → Timestamp
  | .changingPowerState => handler.lastActivityChangingPowerStateEventTime
  | .extendingPowerState => handler.lastActivityExtendingPowerStateEventTime

def setLastEventTime (handler : ScreenEventHandler) (time : Timestamp) : Activity → ScreenEventHandler
  | .changingPowerState => { handler with lastActivityChangingPowerStateEventTime := time }
  | .extendingPowerState => { handler with lastActivityExtendingPowerStateEventTime := time }

def notifyActivity (activity : Activity) : HandlerM Unit := do
  if (← now) ≥ (← handler).lastEventTime activity + eventPeriod then
    send (.notifyActivity activity)
    let time ← now
    update fun handler => handler.setLastEventTime time activity

def notifyActivityChangingPowerState : HandlerM Unit := notifyActivity .changingPowerState

def notifyActivityExtendingPowerState : HandlerM Unit := notifyActivity .extendingPowerState

def handle : MirEvent → HandlerM Bool
  | .other => return false
  | .input event => do
      match event with
      | .key scanCode action =>
          if scanCode = keyPower then
            if action = .down then send .notifyPress
            else if action = .up then send .notifyRelease
          else if scanCode = keyVolumeDown ∨ scanCode = keyVolumeUp then
            pure ()
          else if action = .down then notifyActivityChangingPowerState
          else notifyActivityExtendingPowerState
      | .touch => notifyActivityExtendingPowerState
      | .pointer => notifyActivityChangingPowerState
      | .other => pure ()
      return false

def run (clock : Clock) (events : List MirEvent) : List Bool × Handling :=
  ((events.mapM handle).run clock).run {}

end ScreenEventHandler

namespace MirEvent
open ScreenEventHandler

def activity : MirEvent → Option Activity
  | .input (.key scanCode action) =>
      if scanCode = keyPower ∨ scanCode = keyVolumeDown ∨ scanCode = keyVolumeUp then none
      else if action = .down then some .changingPowerState
      else some .extendingPowerState
  | .input .pointer => some .changingPowerState
  | .input .touch => some .extendingPowerState
  | .input .other | .other => none

def power : MirEvent → Option SinkCall
  | .input (.key scanCode action) =>
      if scanCode ≠ keyPower then none
      else if action = .down then some .notifyPress
      else if action = .up then some .notifyRelease
      else none
  | .input .touch | .input .pointer | .input .other | .other => none

end MirEvent

namespace ScreenEventHandler
open HandlerM Library

def Handling.attempt (clock : Clock) (h : Handling) (activity : Activity) : Handling :=
  if h.handler.lastEventTime activity + eventPeriod ≤ clock h.reads then
    { handler := h.handler.setLastEventTime (clock (h.reads + 1)) activity
      reads := h.reads + 2
      sent := h.sent ++ [⟨.notifyActivity activity, h.reads + 1⟩] }
  else { h with reads := h.reads + 1 }

def Handling.after (clock : Clock) (h : Handling) (event : MirEvent) : Handling :=
  match event.activity with
  | some activity => h.attempt clock activity
  | none => { h with sent := h.sent ++ event.power.toList.map (⟨·, h.reads⟩) }

theorem bind_run {α β : Type} (x : HandlerM α) (f : α → HandlerM β) (clock : Clock) (h : Handling) :
    ((x >>= f).run clock).run h =
      ((f ((x.run clock).run h).1).run clock).run ((x.run clock).run h).2 := rfl

theorem pure_run {α : Type} (a : α) (clock : Clock) (h : Handling) :
    ((pure a : HandlerM α).run clock).run h = (a, h) := rfl

theorem handler_run (clock : Clock) (h : Handling) :
    (handler.run clock).run h = (h.handler, h) := rfl

theorem update_run (change : ScreenEventHandler → ScreenEventHandler) (clock : Clock) (h : Handling) :
    ((update change).run clock).run h = ((), { h with handler := change h.handler }) := rfl

theorem now_run (clock : Clock) (h : Handling) :
    (now.run clock).run h = (clock h.reads, { h with reads := h.reads + 1 }) := rfl

theorem send_run (call : SinkCall) (clock : Clock) (h : Handling) :
    ((send call).run clock).run h = ((), { h with sent := h.sent ++ [⟨call, h.reads⟩] }) := rfl

theorem notifyActivity_run (activity : Activity) (clock : Clock) (h : Handling) :
    ((notifyActivity activity).run clock).run h = ((), h.attempt clock activity) := by
  rw [notifyActivity, bind_run, now_run, bind_run, handler_run, Handling.attempt]
  dsimp only
  split_ifs
  · rw [bind_run, send_run, bind_run, now_run, update_run]
  · exact pure_run ..

theorem handle_run (event : MirEvent) (clock : Clock) (h : Handling) :
    ((handle event).run clock).run h = (false, h.after clock event) := by
  have quiet : ({ h with sent := h.sent ++ [] } : Handling) = h := by simp
  have named (name : Activity) : ((do notifyActivity name; return false : HandlerM Bool).run clock).run h =
      (false, h.attempt clock name) := by
    rw [bind_run, notifyActivity_run, pure_run]
  cases event with
  | other => exact congrArg (Prod.mk false) quiet.symm
  | input event =>
      cases event with
      | key scanCode action =>
          by_cases isPower : scanCode = keyPower
          · simp only [handle, Handling.after, MirEvent.activity, MirEvent.power, isPower, true_or,
              ↓reduceIte, ne_eq, not_true_eq_false]
            cases action with
            | down => rfl
            | up => rfl
            | other action => exact congrArg (Prod.mk false) quiet.symm
          · simp only [handle, Handling.after, MirEvent.activity, MirEvent.power, isPower, false_or,
              ↓reduceIte, ne_eq, not_false_eq_true]
            split_ifs
            · exact congrArg (Prod.mk false) quiet.symm
            · exact named .changingPowerState
            · exact named .extendingPowerState
      | touch | pointer => exact named _
      | other => exact congrArg (Prod.mk false) quiet.symm

theorem mapM_run (clock : Clock) (h : Handling) (events : List MirEvent) :
    ((events.mapM handle).run clock).run h =
      (events.map fun _ => false, events.foldl (Handling.after clock) h) := by
  induction events generalizing h with
  | nil => rfl
  | cons event events ih =>
      rw [List.mapM_cons, bind_run, handle_run, bind_run, ih, pure_run]
      rfl

theorem run_eq (clock : Clock) (events : List MirEvent) :
    run clock events = (events.map fun _ => false, events.foldl (Handling.after clock) {}) :=
  mapM_run clock {} events

theorem run_concat (clock : Clock) (past : List MirEvent) (event : MirEvent) :
    (run clock (past ++ [event])).2 = (run clock past).2.after clock event := by
  simp [run_eq]

def reads (clock : Clock) (events : List MirEvent) : Nat := (run clock events).2.reads

def calls (clock : Clock) (events : List MirEvent) : List SinkCall :=
  (run clock events).2.sent.map Sent.call

/-- A notification of an activity lies between the reading before it and the one after it. -/
def notification (clock : Clock) (name : Activity) (sent : Sent) : Option (Attempt Timestamp) :=
  if sent.call = .notifyActivity name then some ⟨clock (sent.reads - 1), clock sent.reads⟩ else none

def Handling.notified (clock : Clock) (h : Handling) (name : Activity) : List (Attempt Timestamp) :=
  h.sent.filterMap (notification clock name)

def notifications (clock : Clock) (name : Activity) (events : List MirEvent) :
    List (Attempt Timestamp) :=
  (run clock events).2.notified clock name

def attemptsFrom (clock : Clock) (name : Activity) :
    Handling → List MirEvent → List (Attempt Timestamp)
  | _, [] => []
  | h, event :: events =>
      (if event.activity = some name then [⟨clock h.reads, clock (h.reads + 1)⟩] else []) ++
        attemptsFrom clock name (((handle event).run clock).run h).2 events

def attempts (clock : Clock) (name : Activity) (events : List MirEvent) : List (Attempt Timestamp) :=
  attemptsFrom clock name {} events

structure Handling.Sound (clock : Clock) (h : Handling) : Prop where
  last : ∀ name, h.handler.lastEventTime name =
    ((h.notified clock name).getLast?.map Attempt.taken).getD (-eventPeriod)

theorem lastEventTime_set (handler : ScreenEventHandler) (time : Timestamp) (name other : Activity) :
    (handler.setLastEventTime time name).lastEventTime other =
      if name = other then time else handler.lastEventTime other := by
  cases name <;> cases other <;> rfl

theorem Handling.Sound.opens_iff {clock : Clock} {h : Handling} (sound : h.Sound clock)
    (name : Activity) {checked : Timestamp} (start : 0 ≤ checked) :
    Opens eventPeriod (h.notified clock name) checked ↔
      h.handler.lastEventTime name + eventPeriod ≤ checked := by
  rw [sound.last, Opens]
  cases (h.notified clock name).getLast? with
  | none =>
      have began : -eventPeriod + eventPeriod = 0 := Int.add_left_neg eventPeriod
      simpa [began] using start
  | some previous => simp

theorem notified_append (clock : Clock) (h : Handling) (handler : ScreenEventHandler) (reads : Nat)
    (later : List Sent) (name : Activity) :
    ({ handler, reads, sent := h.sent ++ later } : Handling).notified clock name =
      h.notified clock name ++ later.filterMap (notification clock name) :=
  List.filterMap_append

theorem notified_attempt {clock : Clock} {h : Handling} (sound : h.Sound clock)
    (start : 0 ≤ clock h.reads) (tried name : Activity) :
    (h.attempt clock tried).notified clock name =
      if tried = name then offer eventPeriod (h.notified clock name) ⟨clock h.reads, clock (h.reads + 1)⟩
      else h.notified clock name := by
  have opens := sound.opens_iff name start
  unfold Handling.attempt
  split_ifs with due same same
  · rw [notified_append, offer, if_pos (opens.mpr (same ▸ due))]
    simp [notification, same]
  · rw [notified_append]
    simp [notification, same]
  · rw [offer, if_neg (mt opens.mp (same ▸ due))]
    rfl
  · rfl

theorem lastEventTime_attempt (clock : Clock) (h : Handling) (tried name : Activity) :
    (h.attempt clock tried).handler.lastEventTime name =
      if tried = name ∧ h.handler.lastEventTime tried + eventPeriod ≤ clock h.reads then clock (h.reads + 1)
      else h.handler.lastEventTime name := by
  unfold Handling.attempt
  by_cases due : h.handler.lastEventTime tried + eventPeriod ≤ clock h.reads <;>
    simp [due, lastEventTime_set]

theorem power_notification (clock : Clock) (name : Activity) (event : MirEvent) (reads : Nat) :
    (event.power.toList.map fun call => (⟨call, reads⟩ : Sent)).filterMap (notification clock name) = [] := by
  unfold MirEvent.power
  split
  · split_ifs <;> simp [notification]
  all_goals rfl

theorem notified_after {clock : Clock} {h : Handling} (sound : h.Sound clock)
    (start : 0 ≤ clock h.reads) (event : MirEvent) (name : Activity) :
    (h.after clock event).notified clock name =
      if event.activity = some name then
        offer eventPeriod (h.notified clock name) ⟨clock h.reads, clock (h.reads + 1)⟩
      else h.notified clock name := by
  unfold Handling.after
  cases event.activity with
  | none =>
      rw [notified_append, power_notification]
      exact List.append_nil _
  | some tried => simp [notified_attempt sound start]

theorem Handling.Sound.after {clock : Clock} {h : Handling} (sound : h.Sound clock)
    (start : 0 ≤ clock h.reads) (event : MirEvent) : (h.after clock event).Sound clock := by
  constructor
  intro name
  rw [notified_after sound start]
  unfold Handling.after
  cases event.activity with
  | none => simpa using sound.last name
  | some tried =>
      have opens := sound.opens_iff name start
      rw [lastEventTime_attempt]
      -- Only the time of the activity that was tried can change.
      by_cases same : tried = name
      · subst same
        by_cases due : h.handler.lastEventTime tried + eventPeriod ≤ clock h.reads
        · simp [getLast?_offer, due, opens.mpr due]
        · simp [getLast?_offer, due, mt opens.mp due, ← sound.last]
      · simpa [same] using sound.last name

theorem initial_sound (clock : Clock) : ({} : Handling).Sound clock :=
  ⟨fun name => by cases name <;> rfl⟩

theorem foldl_sound {clock : Clock} (start : ∀ n, 0 ≤ clock n) {h : Handling} (sound : h.Sound clock)
    (events : List MirEvent) :
    (events.foldl (Handling.after clock) h).Sound clock := by
  induction events generalizing h with
  | nil => exact sound
  | cons event events ih => exact ih (sound.after (start _) event)

theorem foldl_notified {clock : Clock} (start : ∀ n, 0 ≤ clock n) {h : Handling}
    (sound : h.Sound clock) (events : List MirEvent) (name : Activity) :
    (events.foldl (Handling.after clock) h).notified clock name =
      (attemptsFrom clock name h events).foldl (offer eventPeriod) (h.notified clock name) := by
  induction events generalizing h with
  | nil => rfl
  | cons event events ih =>
      rw [List.foldl_cons, ih (sound.after (start _) event), notified_after sound (start _), attemptsFrom,
        handle_run, List.foldl_append]
      split_ifs <;> rfl

theorem attempts_forward {clock : Clock} (monotone : ∀ m n, m ≤ n → clock m ≤ clock n) (name : Activity)
    (h : Handling) (events : List MirEvent) :
    ∀ attempt ∈ attemptsFrom clock name h events, attempt.checked ≤ attempt.taken := by
  induction events generalizing h with
  | nil => simp [attemptsFrom]
  | cons event events ih =>
      intro attempt member
      rw [attemptsFrom, List.mem_append] at member
      rcases member with here | later
      · split_ifs at here with own
        · rw [List.mem_singleton.mp here]
          exact monotone _ _ (Nat.le_succ _)
        · cases here
      · exact ih _ attempt later

theorem calls_after (clock : Clock) (h : Handling) (event : MirEvent) :
    (h.after clock event).sent.map Sent.call = h.sent.map Sent.call ++
      match event.activity with
      | some name =>
          if h.handler.lastEventTime name + eventPeriod ≤ clock h.reads then [.notifyActivity name] else []
      | none => event.power.toList := by
  unfold Handling.after
  cases event.activity with
  | none => simp [Function.comp_def]
  | some name =>
      dsimp only [Handling.attempt]
      split_ifs <;> simp

theorem power_of_activity {event : MirEvent} {name : Activity} (named : event.activity = some name) :
    event.power = none := by
  unfold MirEvent.activity at named
  split at named
  · have ordinary := (Option.ite_none_left_eq_some.mp named).1
    simp_all [MirEvent.power]
  all_goals rfl

theorem ofPowerButton_power (event : MirEvent) :
    event.power.toList.filter SinkCall.ofPowerButton = event.power.toList := by
  unfold MirEvent.power
  split
  · split_ifs <;> rfl
  all_goals rfl

theorem foldl_power (clock : Clock) (h : Handling) (events : List MirEvent) :
    ((events.foldl (Handling.after clock) h).sent.map Sent.call).filter SinkCall.ofPowerButton =
      (h.sent.map Sent.call).filter SinkCall.ofPowerButton ++ events.filterMap MirEvent.power := by
  induction events generalizing h with
  | nil => simp
  | cons event events ih =>
      rw [List.foldl_cons, ih, calls_after, List.filter_append, List.append_assoc]
      congr 1
      cases named : event.activity with
      | none =>
          rw [ofPowerButton_power]
          cases sent : event.power <;> simp [sent]
      | some name =>
          rw [List.filterMap_cons, power_of_activity named]
          dsimp only
          split_ifs <;> rfl

structure Throttled (clock : Clock) (events : List MirEvent) : Prop where
  throttles : ∀ past event name, past ++ [event] <+: events → event.activity = some name →
    calls clock (past ++ [event]) = calls clock past ++
      if Opens eventPeriod (notifications clock name past) (clock (reads clock past)) then
        [.notifyActivity name]
      else []
  forwards : ∀ past event, past ++ [event] <+: events → event.activity = none →
    calls clock (past ++ [event]) = calls clock past ++ event.power.toList
  apart : ∀ name, (notifications clock name events).Pairwise (Apart eventPeriod)
  own : ∀ name, notifications clock name events = throttle eventPeriod (attempts clock name events)
  power : (calls clock events).filter SinkCall.ofPowerButton = events.filterMap MirEvent.power
  unhandled : (run clock events).1 = events.map fun _ => false

theorem throttled (clock : Clock) (monotone : ∀ m n, m ≤ n → clock m ≤ clock n) (start : 0 ≤ clock 0)
    (events : List MirEvent) : Throttled clock events := by
  have positive (n : Nat) : 0 ≤ clock n := start.trans (monotone 0 n (Nat.zero_le n))
  have sound (past : List MirEvent) : (run clock past).2.Sound clock := by
    rw [run_eq]
    exact foldl_sound positive (initial_sound clock) past
  have own (name : Activity) :
      notifications clock name events = throttle eventPeriod (attempts clock name events) := by
    rw [notifications, run_eq]
    exact foldl_notified positive (initial_sound clock) events name
  constructor
  case throttles =>
    intro past event name _ named
    have opens := (sound past).opens_iff name (positive (reads clock past))
    rw [calls, run_concat, calls_after, named, notifications]
    simp only [opens]
    rfl
  case forwards =>
    intro past event _ unnamed
    rw [calls, run_concat, calls_after, unnamed]
    rfl
  case apart =>
    intro name
    rw [own]
    exact throttle_apart (by decide) (attempts_forward monotone name {} events)
  case own => exact own
  case power =>
    rw [calls, run_eq, foldl_power]
    rfl
  case unhandled => rw [run_eq]

def typing : List MirEvent :=
  [.input (.key 30 .down), .input (.key 30 .up), .input (.key keyPower .down), .input (.key 30 .down),
    .input .touch, .input (.key keyVolumeUp .down), .input .pointer]

theorem throttled_typing : Throttled (fun n => 100000000 * n) typing ∧
    calls (fun n => 100000000 * n) typing = [.notifyActivity .changingPowerState,
      .notifyActivity .extendingPowerState, .notifyPress, .notifyActivity .changingPowerState] := by
  have monotone (m n : Nat) (le : m ≤ n) : (100000000 * m : Int) ≤ 100000000 * n :=
    Int.mul_le_mul_of_nonneg_left (Int.ofNat_le.mpr le) (by decide)
  exact ⟨throttled _ monotone le_rfl typing, by decide⟩

end ScreenEventHandler
end SystemCompositor
