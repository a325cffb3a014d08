import SystemCompositor.DBusEventLoop.Progress
import SystemCompositor.UnityDisplayService.Publication

namespace SystemCompositor

namespace DisplayEvent

/-- A step that needs nothing from outside, over a display that has a configuration. -/
def unprompted : DisplayEvent → Bool
  | .loop e => e.unprompted
  | .callHandler | .unlock | .reply | .handled => true
  | .turn configuration => configuration.isSome
  | .register _ | .notify _ _ | .dispatch _ => false

def aside : DisplayEvent → Bool
  | .loop e => e.aside
  | .register _ | .notify _ _ | .callHandler | .unlock => true
  | .dispatch _ | .turn _ | .reply | .handled => false

end DisplayEvent

namespace DisplaySystem
open UnityDisplayService

section
variable (capacity : Nat) (bus : LibDBus) (introspection : String)

def pipeStep (s : DisplaySystem) : DisplayEvent → Option DisplaySystem
  | .loop (.write t) => if s.loop.unread < capacity then s.stepLoop (.write t) else none
  | e => s.step bus introspection e

abbrev PipeRun (s : DisplaySystem) (es : List DisplayEvent) (t : DisplaySystem) : Prop :=
  Library.Run (fun s e t => s.pipeStep capacity bus introspection e = some t) s es t

def Stops (s : DisplaySystem) : Prop :=
  ∀ e t, DisplayEvent.unprompted e = true → s.pipeStep capacity bus introspection e ≠ some t

end

structure AtRest (s : DisplaySystem) : Prop where
  calls : ∀ t, s.loop.calls t = none
  unlocked : s.notifying = none
  answered : s.dispatching = none
  asleep : s.loop.point = .waiting ∧ s.loop.unread = 0 ∨ s.loop.point = .returned

/-- The message at hand is a `TurnOn` or a `TurnOff`, and the screen has still to be turned. -/
def TurnsNext (s : DisplaySystem) : Prop :=
  ∃ message effect rest, s.dispatching = some (message, effect :: rest) ∧ effect.reply = none

def HolderAtWrite (s : DisplaySystem) : Prop :=
  ∃ t phase caller, s.notifying = some (t, phase) ∧ s.loop.calls t = some (.write caller)

/-- The pipe is full, and the thread that should empty it writes to it, comes to wait for the mutex of a thread
that writes to it, or has returned from `run` while another thread writes to it. -/
structure Deadlocked (capacity : Nat) (s : DisplaySystem) : Prop where
  full : capacity ≤ s.loop.unread
  stuck : s.loop.AtWrite ∨ s.TurnsNext ∧ s.HolderAtWrite ∨
    s.loop.point = .returned ∧ ∃ t caller, s.loop.calls t = some (.write caller)

/-- The loop thread is in a call or holds the mutex only inside a callback. -/
structure Placed (s : DisplaySystem) : Prop where
  calls : s.loop.calls .loop ≠ none → s.loop.point.inCallback = true
  holds : ∀ phase, s.notifying = some (.loop, phase) → s.loop.point.inCallback = true

variable {capacity : Nat} {bus : LibDBus} {introspection : String} {s t : DisplaySystem}

theorem pipeStep_step {e : DisplayEvent} (h : s.pipeStep capacity bus introspection e = some t) :
    s.step bus introspection e = some t := by
  cases e with
  | loop e =>
      cases e with
      | write thread =>
          rw [pipeStep] at h
          split_ifs at h
          exact h
      | _ => exact h
  | _ => exact h

theorem pipeStep_of_step {e : DisplayEvent} (h : s.step bus introspection e = some t)
    (other : ∀ thread, e ≠ .loop (.write thread)) : s.pipeStep capacity bus introspection e = some t := by
  cases e with
  | loop e =>
      cases e with
      | write thread => exact absurd rfl (other thread)
      | _ => exact h
  | _ => exact h

theorem run_of_pipeRun {es : List DisplayEvent} (run : PipeRun capacity bus introspection s es t) :
    Run bus introspection s es t := by
  have simulated : ∃ t', Run bus introspection s es t' ∧ t = t' :=
    run.simulation Eq (fun _ _ s _ t same step => ⟨t, same ▸ pipeStep_step step, rfl⟩) rfl
  obtain ⟨t', run', rfl⟩ := simulated
  exact run'

theorem free_iff : s.free = true ↔ s.loop.calls .loop = none ∧ ∀ phase, s.notifying ≠ some (.loop, phase) := by
  rw [free, Bool.and_eq_true, Option.isNone_iff_eq_none]
  refine and_congr_right fun _ => ?_
  cases s.notifying with
  | none => simp
  | some holder =>
      obtain ⟨t, phase⟩ := holder
      simp

theorem afterRun_frame (s : DisplaySystem) (l : DBusEventLoop ActiveOutputs) : (s.afterRun l).loop = l ∧
    (s.afterRun l).notifying = s.notifying ∧ (s.afterRun l).dispatching = s.dispatching := by
  rw [afterRun]
  split <;> exact ⟨rfl, rfl, rfl⟩

theorem assign_may {thread : Thread} {activeOutputs : ActiveOutputs} (h : s.assign thread activeOutputs = some t) :
    thread ≠ .loop ∨ s.loop.point.inCallback = true := by
  by_cases may : (s.notifying.isNone && s.loop.mayCall thread) = true
  · rw [Bool.and_eq_true] at may
    exact (DBusEventLoop.mayCall_iff.mp may.2).2
  · rw [assign, if_neg may] at h
    cases h

theorem register_may {thread : Thread} (h : s.register thread = some t) :
    thread ≠ .loop ∨ s.loop.point.inCallback = true := by
  rw [register] at h
  split_ifs at h with may
  rw [Bool.and_eq_true, Bool.and_eq_true] at may
  exact (DBusEventLoop.mayCall_iff.mp may.1.2).2

theorem Placed.awake (placed : Placed s)
    (busy : s.loop.calls .loop ≠ none ∨ ∃ phase, s.notifying = some (.loop, phase)) :
    s.loop.point ≠ .waiting ∧ s.loop.point ≠ .reading := by
  have inside : s.loop.point.inCallback = true := busy.elim placed.calls fun ⟨phase, held⟩ => placed.holds phase held
  constructor <;> intro point <;> rw [point] at inside <;> cases inside

theorem placed_hold {thread : Thread} {phase : NotifyPhase} {screenOutputs : ActiveOutputs} {registered : Bool}
    {assigned : List ActiveOutputs} (placed : Placed s) (may : thread ≠ .loop ∨ s.loop.point.inCallback = true) :
    Placed { s with notifying := some (thread, phase), screenOutputs, registered, assigned } := by
  refine ⟨placed.calls, fun phase' at_ => ?_⟩
  obtain ⟨rfl, -⟩ := Prod.mk.inj (Option.some.inj at_)
  exact may.resolve_left (fun other => other rfl)

theorem placed_stepLoop {e : LoopEvent ActiveOutputs} (placed : Placed s) (h : s.stepLoop e = some t) : Placed t := by
  rcases stepLoop_cases h with ⟨l, -, -, free, ran, rfl⟩ | ⟨l, notRun, -, stepped, rfl⟩
  · obtain ⟨idle, unheld⟩ := free_iff.mp free
    have calls := (DBusEventLoop.run_frame ran).2.1
    obtain ⟨loop, notifying, -⟩ := afterRun_frame s l
    refine ⟨fun calling => ?_, fun phase held => ?_⟩
    · rw [loop, calls] at calling
      exact absurd idle calling
    · rw [notifying] at held
      exact absurd held (unheld phase)
  · refine ⟨DBusEventLoop.inCallback_step placed.calls stepped, fun phase held => ?_⟩
    obtain ⟨notWaiting, notReading⟩ := placed.awake (.inr ⟨phase, held⟩)
    obtain ⟨-, same | ⟨waiting | reading, -⟩⟩ := DBusEventLoop.executed_step stepped notRun
    · rw [same]
      exact placed.holds phase held
    · exact absurd waiting notWaiting
    · exact absurd reading notReading

theorem placed_step {e : DisplayEvent} (placed : Placed s) (h : s.step bus introspection e = some t) : Placed t := by
  cases e with
  | loop e => exact placed_stepLoop placed h
  | register thread =>
      obtain ⟨-, rfl⟩ := register_cases h
      exact placed_hold placed (register_may h)
  | notify thread configuration =>
      obtain ⟨-, -, rfl⟩ := assign_cases h
      exact placed_hold placed (assign_may h)
  | callHandler =>
      obtain ⟨thread, l, notifying, entered, rfl⟩ := callHandler_cases h
      have calls := DBusEventLoop.inCallback_enter placed.calls entered
      obtain ⟨-, may, rfl⟩ := DBusEventLoop.enter_iff.mp entered
      refine ⟨calls, fun phase at_ => ?_⟩
      obtain ⟨rfl, -⟩ := Prod.mk.inj (Option.some.inj at_)
      exact placed.holds _ notifying
  | unlock =>
      obtain ⟨thread, -, -, rfl⟩ := unlock_cases h
      exact ⟨placed.calls, by simp⟩
  | dispatch message =>
      obtain ⟨-, -, -, rfl⟩ := dispatch_cases h
      exact ⟨placed.calls, placed.holds⟩
  | turn configuration =>
      obtain ⟨message, rest, mode, filter, -, ⟨-, rfl⟩ | ⟨old, -, assigned⟩⟩ := turn_cases h
      · exact ⟨placed.calls, placed.holds⟩
      · have consumed : Placed { s with dispatching := some (message, rest) } := ⟨placed.calls, placed.holds⟩
        have may := assign_may assigned
        obtain ⟨-, -, rfl⟩ := assign_cases assigned
        exact placed_hold consumed may
  | reply =>
      obtain ⟨message, reply, rest, -, rfl⟩ := reply_cases h
      exact ⟨placed.calls, placed.holds⟩
  | handled =>
      obtain rfl := handled_cases h
      exact ⟨placed.calls, placed.holds⟩

theorem turn_possible (turns : s.TurnsNext) (unlocked : s.notifying = none)
    (may : s.loop.mayCall .loop = true) : ∃ t, s.turn (some []) = some t := by
  obtain ⟨message, effect, rest, at_, isTurn⟩ := turns
  cases effect with
  | send reply => cases isTurn
  | turnOn filter | turnOff filter => simp [turn, at_, assign, unlocked, may]

theorem callHandler_possible {thread : Thread} (placed : Placed s) (held : s.notifying = some (thread, .calling))
    (idle : s.loop.calls thread = none) : ∃ t, s.callHandler = some t := by
  have may : s.loop.mayCall thread = true := by
    refine DBusEventLoop.mayCall_iff.mpr ⟨idle, ?_⟩
    by_cases same : thread = .loop
    · exact .inr (placed.holds .calling (same ▸ held))
    · exact .inl same
  simp [callHandler, held, DBusEventLoop.step, DBusEventLoop.enter, may]

theorem Stops.not_possible {e : DisplayEvent} (stops : s.Stops capacity bus introspection)
    (alone : e.unprompted = true) (other : ∀ thread, e ≠ .loop (.write thread)) :
    ¬∃ t, s.step bus introspection e = some t :=
  fun ⟨t, h⟩ => stops e t alone (pipeStep_of_step h other)

/-- A thread in a call goes on unless it writes to a full pipe. -/
theorem Stops.at_write {thread : Thread} (stops : s.Stops capacity bus introspection)
    (calling : s.loop.calls thread ≠ none) :
    (∃ caller, s.loop.calls thread = some (.write caller)) ∧ capacity ≤ s.loop.unread := by
  obtain ⟨call, at_⟩ := Option.ne_none_iff_exists'.mp calling
  cases call with
  | push action | halt =>
      refine absurd ?_ (stops.not_possible (e := .loop (.store thread)) rfl (by simp))
      simp [step, stepLoop, DBusEventLoop.step, DBusEventLoop.store, at_]
  | write caller =>
      refine ⟨⟨caller, at_⟩, not_lt.mp fun fits => ?_⟩
      have written : ∃ t, s.pipeStep capacity bus introspection (.loop (.write thread)) = some t := by
        simp [pipeStep, fits, stepLoop, DBusEventLoop.step, DBusEventLoop.write, at_]
      obtain ⟨t, h⟩ := written
      exact stops _ t rfl h

theorem Stops.holder_calls {thread : Thread} {phase : NotifyPhase} (stops : s.Stops capacity bus introspection)
    (placed : Placed s) (held : s.notifying = some (thread, phase)) : s.loop.calls thread ≠ none := by
  intro idle
  cases phase with
  | calling => exact stops.not_possible (e := .callHandler) rfl (by simp) (callHandler_possible placed held idle)
  | called => exact stops.not_possible (e := .unlock) rfl (by simp) (by simp [step, unlock, held, idle])

theorem Stops.free (stops : s.Stops capacity bus introspection) (placed : Placed s)
    (idle : s.loop.calls .loop = none) : s.free = true :=
  free_iff.mpr ⟨idle, fun _ held => stops.holder_calls placed held idle⟩

theorem Stops.answered (stops : s.Stops capacity bus introspection) (inv : Published bus s) (placed : Placed s)
    (alive : ¬s.Deadlocked capacity) (idle : s.loop.calls .loop = none) : s.dispatching = none := by
  have free := stops.free placed idle
  by_contra busy
  obtain ⟨⟨message, effects⟩, at_⟩ := Option.ne_none_iff_exists'.mp busy
  have point := (inv.answering message effects at_).1
  match effects with
  | [] => exact stops.not_possible (e := .handled) rfl (by simp) (by simp [step, handled, at_, free])
  | .send reply :: rest =>
      exact stops.not_possible (e := .reply) rfl (by simp) (by simp [step, DisplaySystem.reply, at_, free])
  | .turnOn filter :: rest | .turnOff filter :: rest =>
      have turns : s.TurnsNext := ⟨message, _, rest, at_, rfl⟩
      cases held : s.notifying with
      | none =>
          have may : s.loop.mayCall .loop = true :=
            DBusEventLoop.mayCall_iff.mpr ⟨idle, .inr (by rw [point]; rfl)⟩
          exact stops.not_possible (e := .turn (some [])) rfl (by simp) (turn_possible turns held may)
      | some owner =>
          obtain ⟨⟨caller, write⟩, full⟩ := stops.at_write (stops.holder_calls placed held)
          exact alive ⟨full, .inr (.inl ⟨turns, owner.1, owner.2, caller, held, write⟩)⟩

/-- Where the threads can do nothing by themselves, all is at rest or deadlocked. -/
theorem Stops.atRest (stops : s.Stops capacity bus introspection) (room : 0 < capacity) (inv : Published bus s)
    (placed : Placed s) (alive : ¬s.Deadlocked capacity) : s.AtRest := by
  have idle : s.loop.calls .loop = none := by
    by_contra calling
    obtain ⟨write, full⟩ := stops.at_write calling
    exact alive ⟨full, .inl write⟩
  have answered := stops.answered inv placed alive idle
  have rests (quiet : ∀ t, s.loop.calls t = none)
      (asleep : s.loop.point = .waiting ∧ s.loop.unread = 0 ∨ s.loop.point = .returned) : s.AtRest := by
    refine ⟨quiet, ?_, answered, asleep⟩
    by_contra held
    obtain ⟨owner, at_⟩ := Option.ne_none_iff_exists'.mp held
    exact stops.holder_calls placed at_ (quiet owner.1)
  have ran : s.loop.run = none := by
    by_contra goesOn
    obtain ⟨l, h⟩ := Option.ne_none_iff_exists'.mp goesOn
    refine stops.not_possible (e := .loop .run) rfl (by simp) ?_
    simp [step, stepLoop, answered, stops.free placed idle, DBusEventLoop.step, idle, h]
  cases point : s.loop.point with
  | waiting =>
      have empty : s.loop.unread = 0 := by
        by_contra unread
        refine stops.not_possible (e := .loop .wake) rfl (by simp) ?_
        simp [step, stepLoop, DBusEventLoop.step, DBusEventLoop.leaveWait, point, Nat.pos_of_ne_zero unread]
      refine rests (fun t => ?_) (.inl ⟨point, empty⟩)
      by_contra calling
      have full := (stops.at_write calling).2
      omega
  | returned =>
      refine rests (fun t => ?_) (.inr point)
      by_contra calling
      obtain ⟨⟨caller, write⟩, full⟩ := stops.at_write calling
      exact alive ⟨full, .inr (.inr ⟨point, t, caller, write⟩)⟩
  | reading =>
      refine absurd ?_ (stops.not_possible (e := .loop .read) rfl (by simp))
      simp [step, stepLoop, DBusEventLoop.step, DBusEventLoop.read, point]
  | executing rest => cases rest <;> simp [DBusEventLoop.run, point] at ran
  | before | starting | testing | handling | swapping | acting action rest | dispatching | flushing =>
      simp [DBusEventLoop.run, point] at ran

theorem AtRest.stops (rest : s.AtRest) : s.Stops capacity bus introspection := by
  intro e t alone h
  have h := pipeStep_step h
  cases e with
  | register | notify | dispatch => cases alone
  | loop e =>
      rcases stepLoop_cases h with ⟨l, -, -, -, ran, -⟩ | ⟨l, notRun, -, stepped, -⟩
      · rcases rest.asleep with ⟨point, -⟩ | point <;> simp [DBusEventLoop.run, point] at ran
      · cases e with
        | enqueue | stop | wakeUp | ready | interrupted => cases alone
        | run => exact notRun rfl
        | store thread => simp [DBusEventLoop.step, DBusEventLoop.store, rest.calls] at stepped
        | write thread => simp [DBusEventLoop.step, DBusEventLoop.write, rest.calls] at stepped
        | read =>
            have point := (DBusEventLoop.read_iff.mp stepped).1
            rcases rest.asleep with ⟨waiting, -⟩ | returned <;> simp_all
        | wake =>
            obtain ⟨unread, point, -⟩ := DBusEventLoop.step_wake stepped
            rcases rest.asleep with ⟨-, empty⟩ | returned
            · omega
            · simp [returned] at point
  | callHandler => simp [step, callHandler, rest.unlocked] at h
  | unlock => simp [step, unlock, rest.unlocked] at h
  | turn configuration => simp [step, turn, rest.answered] at h
  | reply => simp [step, DisplaySystem.reply, rest.answered] at h
  | handled => simp [step, handled, rest.answered] at h

theorem not_holder {thread u : Thread} {phase phase' : NotifyPhase} {caller : WakeUpCaller}
    (held : s.notifying = some (thread, phase)) (idle : s.loop.calls thread = none)
    (write : s.loop.calls u = some (.write caller)) : s.notifying ≠ some (u, phase') := by
  intro held'
  rw [held, Option.some.injEq, Prod.mk.injEq] at held'
  rw [← held'.1, idle] at write
  cases write

/-- The threads that a deadlock holds up stay where they are while others come to it. -/
theorem aside_step {e : DisplayEvent} (aside : e.aside = true) (h : s.step bus introspection e = some t) :
    t.loop.point = s.loop.point ∧ t.loop.unread = s.loop.unread ∧ t.loop.executed = s.loop.executed ∧
      t.outgoing = s.outgoing ∧ t.dispatching = s.dispatching ∧
      ∀ u caller, s.loop.calls u = some (.write caller) → t.loop.calls u = some (.write caller) ∧
        ∀ phase, s.notifying = some (u, phase) → t.notifying = some (u, phase) := by
  cases e with
  | loop e =>
      rcases stepLoop_cases h with ⟨l, rfl, -⟩ | ⟨l, -, -, stepped, rfl⟩
      · cases aside
      · obtain ⟨point, unread, executed, writes⟩ := DBusEventLoop.aside_step aside stepped
        exact ⟨point, unread, executed, rfl, rfl, fun u caller write => ⟨writes u caller write, fun _ held => held⟩⟩
  | register thread =>
      obtain ⟨unlocked, rfl⟩ := register_cases h
      exact ⟨rfl, rfl, rfl, rfl, rfl, fun u caller write => ⟨write, by simp [unlocked]⟩⟩
  | notify thread configuration =>
      obtain ⟨unlocked, -, rfl⟩ := assign_cases h
      exact ⟨rfl, rfl, rfl, rfl, rfl, fun u caller write => ⟨write, by simp [unlocked]⟩⟩
  | callHandler =>
      obtain ⟨thread, l, held, enters, rfl⟩ := callHandler_cases h
      have enqueued : s.loop.step (.enqueue thread s.screenOutputs) = some l := enters
      obtain ⟨point, unread, executed, writes⟩ := DBusEventLoop.aside_step rfl enqueued
      have idle := (DBusEventLoop.enter_iff.mp enters).1
      refine ⟨point, unread, executed, rfl, rfl, fun u caller write => ⟨writes u caller write, fun phase held' => ?_⟩⟩
      exact absurd held' (not_holder held idle write)
  | unlock =>
      obtain ⟨thread, held, idle, rfl⟩ := unlock_cases h
      refine ⟨rfl, rfl, rfl, rfl, rfl, fun u caller write => ⟨write, fun phase held' => ?_⟩⟩
      exact absurd held' (not_holder held idle write)
  | dispatch | turn | reply | handled => cases aside

theorem reply_free (h : s.reply = some t) : s.free = true := by
  rw [DisplaySystem.reply] at h
  split at h
  case h_1 =>
    split_ifs at h with free
    exact free
  case h_2 => cases h

theorem handled_free (h : s.handled = some t) : s.dispatching.map Prod.snd = some [] ∧ s.free = true := by
  rw [handled] at h
  split at h
  case h_1 message at_ =>
    split_ifs at h with free
    exact ⟨by simp [at_], free⟩
  case h_2 => cases h

/-- The loop thread is in none of its waits for the pipe, and takes no message, action or reply further. -/
theorem Deadlocked.held_up (dead : s.Deadlocked capacity) (inv : Published bus s) (placed : Placed s) :
    s.loop.point ≠ .waiting ∧ s.loop.point ≠ .reading ∧
      (s.free = true → s.TurnsNext ∧ s.notifying ≠ none ∨ s.loop.point = .returned ∧ s.dispatching = none) := by
  rcases dead.stuck with ⟨caller, write⟩ | ⟨turns, u, phase, caller, held, -⟩ | ⟨returned, -⟩
  · have calling : s.loop.calls .loop ≠ none := by simp [write]
    obtain ⟨notWaiting, notReading⟩ := placed.awake (.inl calling)
    exact ⟨notWaiting, notReading, fun free => absurd (free_iff.mp free).1 calling⟩
  · obtain ⟨message, effect, rest, at_, -⟩ := id turns
    have point := (inv.answering message _ at_).1
    exact ⟨by simp [point], by simp [point], fun _ => .inl ⟨turns, by simp [held]⟩⟩
  · have idle := inv.idle_of_returned returned
    exact ⟨by simp [returned], by simp [returned], fun _ => .inr ⟨returned, idle⟩⟩

/-- In a deadlock the loop thread does not go on and no byte is written, unless the display has lost its
configuration. -/
theorem Deadlocked.aside {e : DisplayEvent} (dead : s.Deadlocked capacity) (inv : Published bus s) (placed : Placed s)
    (kept : e ≠ .turn none) (h : s.pipeStep capacity bus introspection e = some t) : e.aside = true := by
  obtain ⟨notWaiting, notReading, heldUp⟩ := dead.held_up inv placed
  have stepped := pipeStep_step h
  cases e with
  | register | notify | callHandler | unlock => rfl
  | loop e =>
      rcases stepLoop_cases stepped with ⟨l, rfl, idle, free, ran, -⟩ | ⟨l, notRun, -, moved, -⟩
      · rcases heldUp free with ⟨⟨message, effect, rest, at_, -⟩, -⟩ | ⟨returned, -⟩
        · simp [idle] at at_
        · simp [DBusEventLoop.run, returned] at ran
      · cases e with
        | enqueue | stop | wakeUp | store => rfl
        | write thread =>
            rw [pipeStep, if_neg (not_lt.mpr dead.full)] at h
            cases h
        | run => exact absurd rfl notRun
        | read => exact absurd (DBusEventLoop.read_iff.mp moved).1 notReading
        | wake => exact absurd (DBusEventLoop.step_wake moved).2.1 notWaiting
        | ready | interrupted => exact absurd (DBusEventLoop.leaveWait_iff.mp moved).1 notWaiting
  | dispatch message =>
      obtain ⟨point, idle, free, -⟩ := dispatch_cases stepped
      rcases heldUp free with ⟨⟨message, effect, rest, at_, -⟩, -⟩ | ⟨returned, -⟩
      · simp [idle] at at_
      · simp [returned] at point
  | turn configuration =>
      cases configuration with
      | none => exact absurd rfl kept
      | some old =>
          have turned : s.turn (some old) = some t := stepped
          obtain ⟨message, rest, mode, filter, at_, ⟨thrown, -⟩ | ⟨old', -, assigned⟩⟩ := turn_cases turned
          · cases thrown
          · obtain ⟨unlocked, idle, -⟩ := assign_cases assigned
            change s.notifying = none at unlocked
            change s.loop.calls .loop = none at idle
            rcases heldUp (free_iff.mpr ⟨idle, by simp [unlocked]⟩) with ⟨-, held⟩ | ⟨-, none⟩
            · exact absurd unlocked held
            · rcases at_ with ⟨at_, -⟩ | ⟨at_, -⟩ <;> simp [none] at at_
  | reply =>
      obtain ⟨message, reply, rest, at_, -⟩ := reply_cases stepped
      rcases heldUp (reply_free stepped) with ⟨⟨message', effect, rest', at_', turn⟩, -⟩ | ⟨-, none⟩
      · rw [at_] at at_'
        obtain ⟨rfl, rfl, rfl⟩ : message = message' ∧ .send reply = effect ∧ rest = rest' := by simpa using at_'
        cases turn
      · simp [none] at at_
  | handled =>
      obtain ⟨empty, free⟩ := handled_free stepped
      rcases heldUp free with ⟨⟨message, effect, rest, at_, -⟩, -⟩ | ⟨-, none⟩
      · simp [at_] at empty
      · simp [none] at empty

theorem deadlocked_step {e : DisplayEvent} (dead : s.Deadlocked capacity) (inv : Published bus s) (placed : Placed s)
    (kept : e ≠ .turn none) (h : s.pipeStep capacity bus introspection e = some t) :
    t.Deadlocked capacity ∧ t.outgoing = s.outgoing ∧ t.loop.executed = s.loop.executed := by
  obtain ⟨point, unread, executed, outgoing, dispatching, writes⟩ :=
    aside_step (dead.aside inv placed kept h) (pipeStep_step h)
  refine ⟨⟨unread ▸ dead.full, ?_⟩, outgoing, executed⟩
  rcases dead.stuck with ⟨caller, write⟩ | ⟨turns, u, phase, caller, held, write⟩ | ⟨returned, u, caller, write⟩
  · exact .inl ⟨caller, (writes .loop caller write).1⟩
  · obtain ⟨write', holds⟩ := writes u caller write
    refine .inr (.inl ⟨?_, u, phase, caller, holds phase held, write'⟩)
    rwa [TurnsNext, dispatching]
  · exact .inr (.inr ⟨point.trans returned, u, caller, (writes u caller write).1⟩)

theorem deadlocked_run {later : List DisplayEvent} (dead : s.Deadlocked capacity) (inv : Published bus s)
    (placed : Placed s) (kept : .turn none ∉ later) (run : PipeRun capacity bus introspection s later t) :
    t.Deadlocked capacity ∧ t.outgoing = s.outgoing ∧ t.loop.executed = s.loop.executed := by
  induction run with
  | nil s => exact ⟨dead, rfl, rfl⟩
  | @cons s m t e later first rest ih =>
      rw [List.mem_cons, not_or] at kept
      obtain ⟨notThis, notLater⟩ := kept
      obtain ⟨dead', outgoing, executed⟩ := deadlocked_step dead inv placed (Ne.symm notThis) first
      have step := pipeStep_step first
      obtain ⟨dead'', outgoing', executed'⟩ := ih dead' (published_step inv step) (placed_step placed step) notLater
      exact ⟨dead'', outgoing'.trans outgoing, executed'.trans executed⟩

theorem placed_of_run {screenOutputs : ActiveOutputs} {es : List DisplayEvent}
    (run : Run bus introspection (start screenOutputs) es s) : Placed s :=
  run.invariant (fun _ s => Placed s) ⟨by simp [start], by simp [start]⟩
    fun _ _ _ _ _ placed step => placed_step placed step

/-- Threads that can do nothing by themselves are at rest or in a deadlock; and while the display has a
configuration a deadlock is for good, and no further signal or reply is sent. -/
theorem rests_or_deadlocked {screenOutputs : ActiveOutputs} {es : List DisplayEvent} (room : 0 < capacity)
    (run : PipeRun capacity bus introspection (start screenOutputs) es s) :
    (s.AtRest ∨ s.Deadlocked capacity ∨
      ∃ e t, DisplayEvent.unprompted e = true ∧ s.pipeStep capacity bus introspection e = some t) ∧
    (s.Deadlocked capacity → ∀ later t, .turn none ∉ later → PipeRun capacity bus introspection s later t →
      t.Deadlocked capacity ∧ t.outgoing = s.outgoing ∧ t.loop.executed = s.loop.executed) := by
  have inv := published_of_run (run_of_pipeRun run)
  have placed := placed_of_run (run_of_pipeRun run)
  constructor
  · by_cases goesOn : ∃ e t, DisplayEvent.unprompted e = true ∧ s.pipeStep capacity bus introspection e = some t
    · exact .inr (.inr goesOn)
    · have stops : s.Stops capacity bus introspection := fun e t alone h => goesOn ⟨e, t, alone, h⟩
      by_cases dead : s.Deadlocked capacity
      · exact .inr (.inl dead)
      · exact .inl (stops.atRest room inv placed dead)
  · exact fun dead later t kept run' => deadlocked_run dead inv placed kept run'

def turnOffAll : DBusMessage := ⟨.methodCall, some dbusDisplayInterface, some "TurnOff", [.string "all"]⟩

/-- The loop thread fills the pipe before it turns the screen off, and the notification of the registration holds
the mutex over its write. -/
def jam : List DisplayEvent :=
  [.register (.other 0), .callHandler] ++
    ([.run, .run, .run, .ready, .run, .run, .run] : List (LoopEvent ActiveOutputs)).map .loop ++
    [.dispatch turnOffAll] ++
    ([.wakeUp .loop, .write .loop, .wakeUp .loop, .write .loop, .store (.other 0)] :
      List (LoopEvent ActiveOutputs)).map .loop

theorem rests_or_deadlocked_jam : ∃ s, PipeRun 2 .reference "" (start ⟨1, 0⟩) jam s ∧ s.Deadlocked 2 ∧
    ∀ later t, .turn none ∉ later → PipeRun 2 .reference "" s later t → t.Deadlocked 2 ∧ t.outgoing = [] := by
  obtain ⟨s, ran, full, at_, held, write, silent⟩ : ∃ s,
      jam.foldlM (pipeStep 2 .reference "") (start ⟨1, 0⟩) = some s ∧ s.loop.unread = 2 ∧
      s.dispatching = some (turnOffAll, [.turnOff .all, .send (.methodReturn [])]) ∧
      s.notifying = some (.other 0, .called) ∧ s.loop.calls (.other 0) = some (.write .enqueue) ∧ s.outgoing = [] :=
    ⟨_, rfl, rfl, rfl, rfl, rfl, rfl⟩
  have run : PipeRun 2 .reference "" (start ⟨1, 0⟩) jam s := Library.run_of_foldlM_option.mp ran
  have dead : s.Deadlocked 2 := ⟨full.ge, .inr (.inl ⟨⟨_, _, _, at_, rfl⟩, _, _, _, held, write⟩)⟩
  refine ⟨s, run, dead, fun later t kept run' => ?_⟩
  obtain ⟨dead', outgoing, -⟩ := (rests_or_deadlocked (by decide) run).2 dead later t kept run'
  exact ⟨dead', outgoing.trans silent⟩

end DisplaySystem
end SystemCompositor
