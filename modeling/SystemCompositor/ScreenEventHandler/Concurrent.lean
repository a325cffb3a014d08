import SystemCompositor.Library.Monitor
import SystemCompositor.ScreenEventHandler

namespace SystemCompositor
open Library

structure SharedHandler where
  handling : ScreenEventHandler.Handling := {}
  mutexHeld : Bool := false

abbrev HandlerProgram := Program SharedHandler

/-! The notifications of activity step by step, under `event_mutex`; what `now` returns depends on how often
the clock has been read by all threads. -/

namespace HandlerProgram
open ScreenEventHandler

def update (change : Handling → Handling) : HandlerProgram Unit :=
  Program.change fun s => { s with handling := change s.handling }

def lock : HandlerProgram Unit := Program.await (fun s => !s.mutexHeld) fun s => { s with mutexHeld := true }

def unlock : HandlerProgram Unit := Program.change fun s => { s with mutexHeld := false }

def now (clock : Clock) : HandlerProgram Timestamp :=
  .step (fun _ => true) (fun s => { s with handling.reads := s.handling.reads + 1 })
    fun s => .done (clock s.handling.reads)

def send (call : SinkCall) : HandlerProgram Unit :=
  update fun h => { h with sent := h.sent ++ [⟨call, h.reads⟩] }

def notifyActivity (clock : Clock) (activity : Activity) : HandlerProgram Unit := do
  lock
  let time ← now clock
  if time ≥ (← Program.read (·.handling.handler)).lastEventTime activity + eventPeriod then
    send (.notifyActivity activity)
    let time ← now clock
    update fun h => { h with handler := h.handler.setLastEventTime time activity }
    unlock
  else
    unlock

end HandlerProgram

namespace ScreenEventHandler
open Program HandlerProgram

theorem quiet_now (clock : Clock) : Quiet SharedHandler.mutexHeld (HandlerProgram.now clock) :=
  .step (fun _ => rfl) (fun _ => rfl) fun _ => .done _

theorem quiet_changed (change : Handling → Handling) :
    Quiet SharedHandler.mutexHeld (HandlerProgram.update change) := quiet_change fun _ => rfl

theorem guarded_notifyActivity (clock : Clock) (activity : Activity) :
    Guarded SharedHandler.mutexHeld (HandlerProgram.notifyActivity clock activity) := by
  have unlocked : Inside SharedHandler.mutexHeld unlock := inside_change fun _ => rfl
  refine guarded_await (fun _ => rfl) (fun _ => rfl) ((quiet_now clock).inside fun time => ?_)
  refine (quiet_read _).inside fun handler => ?_
  split_ifs
  · exact (quiet_changed _).inside fun _ => (quiet_now clock).inside fun _ =>
      (quiet_changed _).inside fun _ => unlocked
  · exact unlocked

/-- The two notifications of activity, called by any number of threads. -/
def monitor (clock : Clock) : Monitor SharedHandler Activity where
  held := SharedHandler.mutexHeld
  program := HandlerProgram.notifyActivity clock
  guarded := guarded_notifyActivity clock

theorem alone_now (clock : Clock) (s : SharedHandler) : (HandlerProgram.now clock).alone s =
    some (clock s.handling.reads, { s with handling.reads := s.handling.reads + 1 }) := rfl

theorem alone_notifyActivity (clock : Clock) (h : Handling) (activity : Activity) :
    (HandlerProgram.notifyActivity clock activity).alone ⟨h, false⟩ =
      some ((), ⟨h.attempt clock activity, false⟩) := by
  have locked : lock.alone ⟨h, false⟩ = some ((), ⟨h, true⟩) := rfl
  simp only [HandlerProgram.notifyActivity, alone_bind, locked, alone_now, Option.bind_some, alone_read, alone_ite,
    ge_iff_le, Handling.attempt]
  split_ifs <;> rfl

def SpacedOut (clock : Clock) (h : Handling) : Prop :=
  ∀ name, (h.notified clock name).Pairwise (Apart eventPeriod)

structure ThrottledState (clock : Clock) (h : Handling) : Prop where
  sound : h.Sound clock
  throttled : ∀ name, ∃ attempts : List (Attempt Timestamp), (∀ attempt ∈ attempts, attempt.checked ≤ attempt.taken) ∧
    h.notified clock name = throttle eventPeriod attempts

namespace ThrottledState
variable {clock : Clock} {h : Handling}

theorem initial (clock : Clock) : ThrottledState clock {} := ⟨initial_sound clock, fun _ => ⟨[], by simp, rfl⟩⟩

theorem spacedOut (state : ThrottledState clock h) : SpacedOut clock h := by
  intro name
  obtain ⟨attempts, forward, passed⟩ := state.throttled name
  rw [passed]
  exact throttle_apart (by decide) forward

theorem attempt (monotone : ∀ m n, m ≤ n → clock m ≤ clock n) (start : 0 ≤ clock 0) (state : ThrottledState clock h)
    (activity : Activity) : ThrottledState clock (h.attempt clock activity) := by
  have positive : 0 ≤ clock h.reads := start.trans (monotone 0 _ (Nat.zero_le _))
  obtain ⟨event, named⟩ : ∃ event : MirEvent, event.activity = some activity := by
    cases activity with
    | changingPowerState => exact ⟨.input .pointer, rfl⟩
    | extendingPowerState => exact ⟨.input .touch, rfl⟩
  have after : h.after clock event = h.attempt clock activity := by simp [Handling.after, named]
  refine ⟨after ▸ state.sound.after positive event, fun name => ?_⟩
  obtain ⟨attempts, forward, passed⟩ := state.throttled name
  rw [notified_attempt state.sound positive, passed]
  split_ifs
  · refine ⟨attempts ++ [⟨clock h.reads, clock (h.reads + 1)⟩], fun a member => ?_, (throttle_concat _ _ _).symm⟩
    rcases List.mem_append.mp member with earlier | last
    · exact forward a earlier
    · rw [List.mem_singleton.mp last]
      exact monotone _ _ (Nat.le_succ _)
  · exact ⟨attempts, forward, rfl⟩

end ThrottledState

theorem monitor_performs {clock : Clock} (monotone : ∀ m n, m ≤ n → clock m ≤ clock n) (start : 0 ≤ clock 0) :
    (monitor clock).Performs (fun s => ThrottledState clock s.handling)
      fun s activity => ⟨s.handling.attempt clock activity, false⟩ := by
  rintro activity ⟨h, held⟩ free state
  obtain rfl : held = false := free
  exact ⟨alone_notifyActivity clock h activity, rfl, state.attempt monotone start activity⟩

theorem always_spacedOut {clock : Clock} (monotone : ∀ m n, m ≤ n → clock m ≤ clock n) (start : 0 ≤ clock 0)
    {h : Handling} (state : ThrottledState clock h) (activity : Activity) :
    (HandlerProgram.notifyActivity clock activity).Always (fun s => SpacedOut clock s.handling) ⟨h, false⟩ := by
  have before := state.spacedOut
  have after := (state.attempt monotone start activity).spacedOut
  refine ⟨before, fun _ => ⟨before, fun _ => ⟨before, fun _ => ?_⟩⟩⟩
  dsimp only [Program.bind]
  split_ifs with due
  · rw [Handling.attempt, if_pos due] at after
    exact ⟨before, fun _ => ⟨after, fun _ => ⟨after, fun _ => ⟨after, fun _ => after⟩⟩⟩⟩
  · exact ⟨before, fun _ => before⟩

/-- On a clock that does not run backwards, two notifications of one activity are a period apart whatever the
threads that make them, and the calls have the effect that they have one after the other. -/
theorem throttled_concurrently {clock : Clock} (monotone : ∀ m n, m ≤ n → clock m ≤ clock n) (start : 0 ≤ clock 0)
    {es : List (Pool.Event Activity)} {c : Pool SharedHandler Activity}
    (run : Run (monitor clock).Step ⟨{}, []⟩ es c) :
    SpacedOut clock c.shared.handling ∧ ∃ order, (monitor clock).Linearizes {} es c order ∧
      (c.shared.mutexHeld = false →
        c.shared.handling = order.foldl (fun h entry => h.attempt clock entry.2) {}) := by
  have performs := monitor_performs monotone start
  obtain ⟨order, linearizes⟩ := Monitor.linearize (m := monitor clock) rfl run
  refine ⟨?_, order, linearizes, fun free => ?_⟩
  · refine performs.always (P := fun s => SpacedOut clock s.handling) (fun s state => state.spacedOut) ?_ rfl
      (ThrottledState.initial clock) run
    rintro activity ⟨h, held⟩ unheld state
    obtain rfl : held = false := unheld
    exact always_spacedOut monotone start state activity
  · have serial := (performs.serial (s := {}) rfl (ThrottledState.initial clock) order).1
    rw [(linearizes.settled free).1, Option.some.injEq] at serial
    rw [serial]
    exact (List.foldl_hom SharedHandler.handling fun _ _ => rfl).symm

def twoTouches : List (Pool.Event Activity) :=
  [.call .extendingPowerState, .call .extendingPowerState] ++ List.replicate 7 (.step 1) ++ List.replicate 4 (.step 0)

theorem throttled_concurrently_twoTouches : ∃ c order, (monitor fun n => 200000000 * n).Linearizes {} twoTouches c
      order ∧ SpacedOut (fun n => 200000000 * n) c.shared.handling ∧
    c.shared.handling.sent = [⟨.notifyActivity .extendingPowerState, 1⟩] := by
  have monotone (m n : Nat) (le : m ≤ n) : (200000000 * m : Int) ≤ 200000000 * n :=
    Int.mul_le_mul_of_nonneg_left (Int.ofNat_le.mpr le) (by decide)
  obtain ⟨c, ran, sent⟩ : ∃ c, twoTouches.foldlM (monitor fun n => 200000000 * n).next ⟨{}, []⟩ = some c ∧
    c.shared.handling.sent = [⟨.notifyActivity .extendingPowerState, 1⟩] := ⟨_, rfl, rfl⟩
  obtain ⟨spaced, order, linearizes, -⟩ := throttled_concurrently monotone le_rfl (run_of_foldlM_option.mp ran)
  exact ⟨c, order, linearizes, spaced, sent⟩

end ScreenEventHandler
end SystemCompositor
