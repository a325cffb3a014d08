import SystemCompositor.DBusEventLoop.Progress
import SystemCompositor.UnityDisplayService.Deadlock

namespace SystemCompositor

def NotifyPhase.work : NotifyPhase → Nat
  | .calling => 12
  | .called => 1

def DisplayEffect.work : DisplayEffect → Nat
  | .turnOn _ | .turnOff _ => 13
  | .send _ => 1

def effectsWork : List DisplayEffect → Nat
  | [] => 0
  | effect :: rest => effect.work + effectsWork rest

def DisplayEvent.thread : DisplayEvent → Thread
  | .loop e => e.thread
  | .register t | .notify t _ => t
  | .callHandler | .unlock | .dispatch _ | .turn _ | .reply | .handled => .loop

namespace DisplaySystem

structure Within (threads : Finset Thread) (s : DisplaySystem) : Prop where
  loop : Thread.loop ∈ threads
  calls : DBusEventLoop.CallsWithin threads s.loop.calls
  holder : ∀ t phase, s.notifying = some (t, phase) → t ∈ threads

def work (threads : Finset Thread) (s : DisplaySystem) : Nat :=
  s.loop.work threads + s.notifying.elim 0 (·.2.work) +
    s.dispatching.elim 0 fun at_ => 1 + effectsWork at_.2

variable {capacity : Nat} {bus : LibDBus} {introspection : String} {s t : DisplaySystem} {threads : Finset Thread}

theorem Within.hold {thread : Thread} {phase : NotifyPhase} {screenOutputs : ActiveOutputs} {registered : Bool}
    {assigned : List ActiveOutputs} (within : Within threads s) :
    Within (insert thread threads)
      { s with notifying := some (thread, phase), screenOutputs, registered, assigned } := by
  refine ⟨Finset.mem_insert_of_mem within.loop, fun t calling => Finset.mem_insert_of_mem (within.calls t calling),
    fun t phase' at_ => ?_⟩
  obtain ⟨rfl, -⟩ := Prod.mk.inj (Option.some.inj at_)
  exact Finset.mem_insert_self ..

theorem within_step {e : DisplayEvent} (within : Within threads s) (h : s.step bus introspection e = some t) :
    Within (insert e.thread threads) t := by
  have widened : Within (insert e.thread threads) s :=
    ⟨Finset.mem_insert_of_mem within.loop, fun t calling => Finset.mem_insert_of_mem (within.calls t calling),
      fun t phase held => Finset.mem_insert_of_mem (within.holder t phase held)⟩
  cases e with
  | loop e =>
      rcases stepLoop_cases h with ⟨l, rfl, -, -, ran, rfl⟩ | ⟨l, -, -, stepped, rfl⟩
      · obtain ⟨loop, notifying, -⟩ := afterRun_frame s l
        refine ⟨widened.loop, ?_, by rw [notifying]; exact widened.holder⟩
        rw [loop, (DBusEventLoop.run_frame ran).2.1]
        exact widened.calls
      · exact ⟨widened.loop, DBusEventLoop.callsWithin_step within.calls stepped, widened.holder⟩
  | register thread =>
      obtain ⟨-, rfl⟩ := register_cases h
      exact within.hold
  | notify thread configuration =>
      obtain ⟨-, -, rfl⟩ := assign_cases h
      exact within.hold
  | callHandler =>
      obtain ⟨thread, l, held, entered, rfl⟩ := callHandler_cases h
      obtain ⟨-, -, rfl⟩ := DBusEventLoop.enter_iff.mp entered
      have member := widened.holder thread _ held
      refine ⟨widened.loop, ?_, fun t phase at_ => ?_⟩
      · simpa [Finset.insert_eq_of_mem member] using widened.calls.update thread (some (.push s.screenOutputs))
      · obtain ⟨rfl, -⟩ := Prod.mk.inj (Option.some.inj at_)
        exact member
  | unlock =>
      obtain ⟨thread, -, -, rfl⟩ := unlock_cases h
      exact ⟨widened.loop, widened.calls, by simp⟩
  | dispatch message =>
      obtain ⟨-, -, -, rfl⟩ := dispatch_cases h
      exact ⟨widened.loop, widened.calls, widened.holder⟩
  | turn configuration =>
      obtain ⟨message, rest, mode, filter, -, ⟨-, rfl⟩ | ⟨old, -, assigned⟩⟩ := turn_cases h
      · exact ⟨widened.loop, widened.calls, widened.holder⟩
      · have consumed : Within threads { s with dispatching := some (message, rest) } :=
          ⟨within.loop, within.calls, within.holder⟩
        obtain ⟨-, -, rfl⟩ := assign_cases assigned
        exact consumed.hold
  | reply =>
      obtain ⟨message, reply, rest, -, rfl⟩ := reply_cases h
      exact ⟨widened.loop, widened.calls, widened.holder⟩
  | handled =>
      obtain rfl := handled_cases h
      exact ⟨widened.loop, widened.calls, widened.holder⟩

theorem within_unprompted {e : DisplayEvent} (within : Within threads s) (alone : e.unprompted = true)
    (h : s.step bus introspection e = some t) : Within threads t := by
  have member : e.thread ∈ threads := by
    cases e with
    | loop e =>
        rcases stepLoop_cases h with ⟨l, rfl, -⟩ | ⟨l, -, -, stepped, -⟩
        · exact within.loop
        · exact DBusEventLoop.thread_unprompted within.loop within.calls alone stepped
    | register | notify | dispatch => cases alone
    | callHandler | unlock | turn | reply | handled => exact within.loop
  rw [← Finset.insert_eq_of_mem member]
  exact within_step within h

theorem work_unprompted {e : DisplayEvent} (inv : Published bus s) (within : Within threads s)
    (alone : e.unprompted = true) (h : s.step bus introspection e = some t) : t.work threads < s.work threads := by
  cases e with
  | register | notify | dispatch => cases alone
  | loop e =>
      rcases stepLoop_cases h with ⟨l, rfl, -, -, ran, rfl⟩ | ⟨l, -, -, stepped, rfl⟩
      · obtain ⟨loop, notifying, dispatching⟩ := afterRun_frame s l
        have less : l.work threads < s.loop.work threads := DBusEventLoop.work_run ran
        rw [work, work, loop, notifying, dispatching]
        omega
      · have less := DBusEventLoop.work_step inv.loop within.calls alone stepped
        simp only [work]
        omega
  | callHandler =>
      obtain ⟨thread, l, held, entered, rfl⟩ := callHandler_cases h
      have more := DBusEventLoop.work_enter (within.holder thread _ held) entered
      simp only [LoopCall.work] at more
      simp only [work, held, Option.elim, NotifyPhase.work]
      omega
  | unlock =>
      obtain ⟨thread, held, -, rfl⟩ := unlock_cases h
      simp [work, held, NotifyPhase.work]
  | turn configuration =>
      obtain ⟨message, rest, mode, filter, at_, ⟨rfl, -⟩ | ⟨old, -, assigned⟩⟩ := turn_cases h
      · cases alone
      · obtain ⟨unlocked, -, rfl⟩ := assign_cases assigned
        change s.notifying = none at unlocked
        have effects : s.dispatching.elim 0 (fun at_ => 1 + effectsWork at_.2) = 13 + (1 + effectsWork rest) := by
          rcases at_ with ⟨at_, -⟩ | ⟨at_, -⟩ <;> simp [at_, effectsWork, DisplayEffect.work] <;> omega
        simp only [work, effects, unlocked]
        cases s.registered <;> simp [NotifyPhase.work] <;> omega
  | reply =>
      obtain ⟨message, reply, rest, at_, rfl⟩ := reply_cases h
      simp [work, at_, effectsWork, DisplayEffect.work]
  | handled =>
      obtain ⟨empty, -⟩ := handled_free h
      obtain rfl := handled_cases h
      obtain ⟨at_, same, none⟩ := Option.map_eq_some_iff.mp empty
      simp [work, same]

theorem within_of_run {screenOutputs : ActiveOutputs} {es : List DisplayEvent}
    (run : Run bus introspection (start screenOutputs) es s) : ∃ threads, Within threads s := by
  refine run.invariant (fun _ s => ∃ threads, Within threads s) ⟨{.loop}, ?_⟩ ?_
  · exact ⟨Finset.mem_singleton_self _, by simp [start, DBusEventLoop.CallsWithin], by simp [start]⟩
  · rintro - m e t - ⟨threads, within⟩ step
    exact ⟨_, within_step within step⟩

theorem AtRest.all_sent (rest : s.AtRest) (inv : Published bus s) : s.loop.point = .returned ∨
    signals s.outgoing = s.assigned ∧ (s.registered = true → s.activeOutputs = s.screenOutputs) := by
  rcases rest.asleep with ⟨waiting, empty⟩ | returned
  · have silent : ¬s.loop.WillWake .enqueue := by
      rintro (unread | ⟨t, owes⟩)
      · omega
      · simp [rest.calls] at owes
    have actions : s.loop.actions = [] := by
      by_contra queued
      exact silent (inv.loop.queued (by simp [waiting]) queued)
    have quiet : s.Quiet := ⟨rest.unlocked, actions, by rw [waiting]; rfl, by rw [waiting]; rfl⟩
    have executed := inv.executed_of_quiet quiet
    refine .inr ⟨?_, fun registered => ?_⟩
    · rw [← executed, ← inv.sent, quiet.2.2.2, List.append_nil]
    · rw [inv.copy, executed, inv.latest registered]
      rfl
  · exact .inl returned

/-- Between two events from outside the threads make a bounded number of steps; and where they stop, the service
has sent every value that the screen has assigned, unless there is a deadlock or `run` has returned. -/
theorem settles {screenOutputs : ActiveOutputs} {es : List DisplayEvent} (room : 0 < capacity)
    (run : PipeRun capacity bus introspection (start screenOutputs) es s) :
    ∃ bound, ∀ later t, (∀ e ∈ later, DisplayEvent.unprompted e = true) →
      PipeRun capacity bus introspection s later t → later.length ≤ bound ∧ (t.Stops capacity bus introspection →
        t.Deadlocked capacity ∨ t.loop.point = .returned ∨
          signals t.outgoing = t.assigned ∧ (t.registered = true → t.activeOutputs = t.screenOutputs)) := by
  have inv := published_of_run (run_of_pipeRun run)
  obtain ⟨threads, within⟩ := within_of_run (run_of_pipeRun run)
  refine ⟨s.work threads, fun later t alone run' => ⟨?_, fun stops => ?_⟩⟩
  · have bound : later.length + t.work threads ≤ s.work threads := by
      refine run'.length_le (fun s => Published bus s ∧ Within threads s) (work threads) ?_ ⟨inv, within⟩ alone
      rintro s e t ⟨inv, within⟩ alone step
      have step := pipeStep_step step
      exact ⟨⟨published_step inv step, within_unprompted within alone step⟩, work_unprompted inv within alone step⟩
    omega
  · have whole := run_of_pipeRun (Library.Run.append_iff.mpr ⟨s, run, run'⟩)
    have inv' := published_of_run whole
    by_cases dead : t.Deadlocked capacity
    · exact .inl dead
    · exact .inr ((stops.atRest room inv' (placed_of_run whole) dead).all_sent inv')

def registration : List DisplayEvent := [.register (.other 0)]

def untilRest : List DisplayEvent := refreshed.tail ++ [.loop .run, .loop .run]

theorem settles_registration : ∃ s t, PipeRun 2 .reference "" (start ⟨1, 0⟩) registration s ∧
    PipeRun 2 .reference "" s untilRest t ∧ t.loop.point = .waiting ∧ signals t.outgoing = t.assigned ∧
      t.activeOutputs = t.screenOutputs := by
  obtain ⟨s, t, before, after, calls, unlocked, answered, waiting, empty, registered⟩ : ∃ s t,
      registration.foldlM (pipeStep 2 .reference "") (start ⟨1, 0⟩) = some s ∧
      untilRest.foldlM (pipeStep 2 .reference "") s = some t ∧
      t.loop.calls = Function.update (Function.update (Function.update (fun _ => none)
        (.other 0) (some (.push ⟨1, 0⟩))) (.other 0) (some (.write .enqueue))) (.other 0) none ∧
      t.notifying = none ∧ t.dispatching = none ∧ t.loop.point = .waiting ∧ t.loop.unread = 0 ∧
      t.registered = true := ⟨_, _, rfl, rfl, rfl, rfl, rfl, rfl, rfl, rfl⟩
  have run : PipeRun 2 .reference "" (start ⟨1, 0⟩) registration s := Library.run_of_foldlM_option.mp before
  have run' : PipeRun 2 .reference "" s untilRest t := Library.run_of_foldlM_option.mp after
  have quiet (u : Thread) : t.loop.calls u = none := by
    rw [calls]
    by_cases h : u = .other 0 <;> simp [h]
  have rest : t.AtRest := ⟨quiet, unlocked, answered, .inl ⟨waiting, empty⟩⟩
  obtain ⟨bound, settled⟩ := settles (by decide) run
  have alone : ∀ e ∈ untilRest, DisplayEvent.unprompted e = true := by decide
  refine ⟨s, t, run, run', waiting, ?_⟩
  rcases (settled untilRest t alone run').2 rest.stops with dead | returned | sent
  · have full := dead.full
    omega
  · simp [waiting] at returned
  · exact ⟨sent.1, sent.2 registered⟩

end DisplaySystem
end SystemCompositor
