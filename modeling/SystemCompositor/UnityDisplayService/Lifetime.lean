import SystemCompositor.UnityDisplayService.Publication

namespace SystemCompositor

/-- How far the main thread has come with the members of `SystemCompositor`, the last of which goes first. -/
inductive TeardownPhase
  | running
  | stopping
  | joined
  | destroyed
deriving DecidableEq

structure ServiceLifetime where
  system : DisplaySystem
  phase : TeardownPhase := .running

inductive LifetimeEvent
  | system (e : DisplayEvent)
  | stop
  | join
  | destroyService

namespace ServiceLifetime
variable (bus : LibDBus) (introspection : String)

def mainThread : Thread := .other 0

/-- `~DBusConnectionThread` stops the loop and joins its thread, and `~UnityDisplayService` takes the mutex of the
handlers; the handler is registered only while the service is constructed. -/
def step (s : ServiceLifetime) : LifetimeEvent → Option ServiceLifetime
  | .system (.register thread) =>
      if s.phase = .running then (s.system.register thread).map fun system => { s with system } else none
  | .system e => (s.system.step bus introspection e).map fun system => { s with system }
  | .stop =>
      if s.phase = .running then
        (s.system.stepLoop (.stop mainThread)).map fun system => { system, phase := .stopping }
      else none
  | .join =>
      if s.phase = .stopping ∧ s.system.loop.calls mainThread = none ∧ s.system.loop.point = .returned then
        some { s with phase := .joined }
      else none
  | .destroyService =>
      if s.phase = .joined ∧ s.system.notifying = none then
        some { system := { s.system with registered := false }, phase := .destroyed }
      else none

abbrev Run (s : ServiceLifetime) (es : List LifetimeEvent) (t : ServiceLifetime) : Prop :=
  Library.Run (fun s e t => s.step bus introspection e = some t) s es t

end ServiceLifetime

/-- Something of the service runs, or the loop that runs its actions and dispatches its messages. -/
def LifetimeEvent.touchesService : LifetimeEvent → Bool
  | .system .callHandler | .system (.dispatch _) | .system (.turn _) | .system .reply | .system .handled
  | .system (.register _) | .system (.loop .run) => true
  | .system (.loop _) | .system (.notify ..) | .system .unlock | .stop | .join | .destroyService => false

namespace ServiceLifetime
open DisplaySystem
variable {bus : LibDBus} {introspection : String} {s t : ServiceLifetime}

structure Safe (bus : LibDBus) (s : ServiceLifetime) : Prop where
  published : Published bus s.system
  returned : s.phase = .joined ∨ s.phase = .destroyed → s.system.loop.point = .returned
  silent : s.phase = .destroyed → s.system.registered = false ∧ ∀ t, s.system.notifying ≠ some (t, .calling)

theorem safe_start (screenOutputs : ActiveOutputs) : Safe bus ⟨start screenOutputs, .running⟩ :=
  ⟨published_start screenOutputs, by simp, by simp⟩

/-- A thread that has returned from `run` stays there. -/
theorem returned_step {α : Type} {l m : DBusEventLoop α} {e : LoopEvent α} (h : l.step e = some m)
    (returned : l.point = .returned) : m.point = .returned ∧ m.executed = l.executed ∧ e ≠ .run := by
  have notRun : e ≠ .run := by
    rintro rfl
    have ran := (DBusEventLoop.step_run h).2
    simp [DBusEventLoop.run, returned] at ran
  obtain ⟨executed, same | ⟨waiting | reading, -⟩⟩ := DBusEventLoop.executed_step h notRun
  · exact ⟨same.trans returned, executed, notRun⟩
  · rw [returned] at waiting
    cases waiting
  · rw [returned] at reading
    cases reading

/-- The steps of the loop thread are over. -/
theorem notLoop_of_returned {m n : DisplaySystem} {e : DisplayEvent} (published : Published bus m)
    (returned : m.loop.point = .returned) (h : m.step bus introspection e = some n) :
    e ≠ .loop .run ∧ (∀ message, e ≠ .dispatch message) ∧ (∀ configuration, e ≠ .turn configuration) ∧
      e ≠ .reply ∧ e ≠ .handled := by
  have idle := published.idle_of_returned returned
  refine ⟨?_, ?_, ?_, ?_, ?_⟩
  · rintro rfl
    have h : m.stepLoop .run = some n := h
    rcases stepLoop_cases h with ⟨l, -, -, -, ran, -⟩ | ⟨l, notRun, -⟩
    · simp [DBusEventLoop.run, returned] at ran
    · exact notRun rfl
  · rintro message rfl
    have point := (dispatch_cases h).1
    rw [returned] at point
    cases point
  · rintro configuration rfl
    obtain ⟨message, rest, mode, filter, ⟨at_, -⟩ | ⟨at_, -⟩, -⟩ := turn_cases h <;> simp [idle] at at_
  · rintro rfl
    obtain ⟨message, reply, rest, at_, -⟩ := reply_cases h
    simp [idle] at at_
  · rintro rfl
    simp [DisplaySystem.step, DisplaySystem.handled, idle] at h

/-- After the loop thread has returned the service neither learns of outputs nor sends anything. -/
theorem returned_system {m n : DisplaySystem} {e : DisplayEvent} (published : Published bus m)
    (returned : m.loop.point = .returned) (h : m.step bus introspection e = some n) :
    n.loop.point = .returned ∧ n.loop.executed = m.loop.executed ∧ n.outgoing = m.outgoing ∧
      n.activeOutputs = m.activeOutputs := by
  obtain ⟨notRun, notDispatch, notTurn, notReply, notHandled⟩ := notLoop_of_returned published returned h
  cases e with
  | loop e =>
      rcases stepLoop_cases h with ⟨l, rfl, -⟩ | ⟨l, -, -, stepped, rfl⟩
      · exact absurd rfl notRun
      · obtain ⟨point, executed, -⟩ := returned_step stepped returned
        exact ⟨point, executed, rfl, rfl⟩
  | register thread =>
      obtain ⟨-, rfl⟩ := register_cases h
      exact ⟨returned, rfl, rfl, rfl⟩
  | notify thread configuration =>
      obtain ⟨-, -, rfl⟩ := assign_cases h
      exact ⟨returned, rfl, rfl, rfl⟩
  | callHandler =>
      obtain ⟨thread, l, -, entered, rfl⟩ := callHandler_cases h
      obtain ⟨-, -, rfl⟩ := DBusEventLoop.enter_iff.mp entered
      exact ⟨returned, rfl, rfl, rfl⟩
  | unlock =>
      obtain ⟨thread, -, -, rfl⟩ := unlock_cases h
      exact ⟨returned, rfl, rfl, rfl⟩
  | dispatch message => exact absurd rfl (notDispatch message)
  | turn configuration => exact absurd rfl (notTurn configuration)
  | reply => exact absurd rfl notReply
  | handled => exact absurd rfl notHandled

/-- Without a registered handler none is called, and none comes to be called. -/
theorem silent_system {m n : DisplaySystem} {e : DisplayEvent} (published : Published bus m)
    (returned : m.loop.point = .returned) (registered : m.registered = false)
    (silent : ∀ t, m.notifying ≠ some (t, .calling)) (other : ∀ thread, e ≠ .register thread)
    (h : m.step bus introspection e = some n) :
    n.registered = false ∧ (∀ t, n.notifying ≠ some (t, .calling)) ∧
      (LifetimeEvent.system e).touchesService = false := by
  obtain ⟨notRun, notDispatch, notTurn, notReply, notHandled⟩ := notLoop_of_returned published returned h
  cases e with
  | loop e =>
      rcases stepLoop_cases h with ⟨l, rfl, -⟩ | ⟨l, other, -, -, rfl⟩
      · exact absurd rfl notRun
      · refine ⟨registered, silent, ?_⟩
        cases e <;> first | rfl | exact absurd rfl other
  | register thread => exact absurd rfl (other thread)
  | notify thread configuration =>
      obtain ⟨-, -, rfl⟩ := assign_cases h
      exact ⟨registered, by simp [registered], rfl⟩
  | callHandler =>
      obtain ⟨thread, l, calling, -⟩ := callHandler_cases h
      exact absurd calling (silent thread)
  | unlock =>
      obtain ⟨thread, -, -, rfl⟩ := unlock_cases h
      exact ⟨registered, by simp, rfl⟩
  | dispatch message => exact absurd rfl (notDispatch message)
  | turn configuration => exact absurd rfl (notTurn configuration)
  | reply => exact absurd rfl notReply
  | handled => exact absurd rfl notHandled

theorem step_cases {e : LifetimeEvent} (h : s.step bus introspection e = some t) :
    (∃ d, e = .system d ∧ (∀ thread, d = .register thread → s.phase = .running) ∧
      s.system.step bus introspection d = some t.system ∧ t.phase = s.phase) ∨
    (e = .stop ∧ s.phase = .running ∧ s.system.step bus introspection (.loop (.stop mainThread)) = some t.system ∧
      t.phase = .stopping) ∨
    (e = .join ∧ s.phase = .stopping ∧ s.system.loop.point = .returned ∧ t = { s with phase := .joined }) ∨
    (e = .destroyService ∧ s.phase = .joined ∧ s.system.notifying = none ∧
      t = ⟨{ s.system with registered := false }, .destroyed⟩) := by
  have advanced {o : Option DisplaySystem} (h : o.map (fun system => { s with system }) = some t) :
      o = some t.system ∧ t.phase = s.phase := by
    obtain ⟨system, stepped, rfl⟩ := Option.map_eq_some_iff.mp h
    exact ⟨stepped, rfl⟩
  cases e with
  | system d =>
      cases d with
      | register thread =>
          simp only [step] at h
          split_ifs at h with running
          exact .inl ⟨_, rfl, fun _ _ => running, advanced h⟩
      | _ => exact .inl ⟨_, rfl, by simp, advanced h⟩
  | stop =>
      simp only [step] at h
      split_ifs at h with running
      obtain ⟨system, stepped, rfl⟩ := Option.map_eq_some_iff.mp h
      exact .inr (.inl ⟨rfl, running, stepped, rfl⟩)
  | join =>
      simp only [step] at h
      split_ifs at h with ready
      exact .inr (.inr (.inl ⟨rfl, ready.1, ready.2.2, (Option.some.inj h).symm⟩))
  | destroyService =>
      simp only [step] at h
      split_ifs at h with ready
      exact .inr (.inr (.inr ⟨rfl, ready.1, ready.2, (Option.some.inj h).symm⟩))

theorem safe_step {e : LifetimeEvent} (safe : Safe bus s) (h : s.step bus introspection e = some t) : Safe bus t := by
  rcases step_cases h with ⟨d, rfl, running, stepped, phase⟩ | ⟨rfl, -, stepped, phase⟩ | ⟨rfl, -, returned, rfl⟩ |
    ⟨rfl, joined, free, rfl⟩
  · refine ⟨published_step safe.published stepped, fun late => ?_, fun destroyed => ?_⟩
    · rw [phase] at late
      exact (returned_system safe.published (safe.returned late) stepped).1
    · rw [phase] at destroyed
      obtain ⟨registered, silent⟩ := safe.silent destroyed
      have other (thread : Thread) : d ≠ .register thread := fun same => by
        rw [running thread same] at destroyed
        cases destroyed
      have quiet := silent_system safe.published (safe.returned (.inr destroyed)) registered silent other stepped
      exact ⟨quiet.1, quiet.2.1⟩
  · exact ⟨published_step safe.published stepped, by simp [phase], by simp [phase]⟩
  · exact ⟨safe.published, fun _ => returned, by simp⟩
  · have published := safe.published
    exact ⟨⟨published.loop, published.sent, published.copy, published.assigned, by simp, published.pushing,
      published.answering, published.answered⟩, fun _ => safe.returned (.inl joined), fun _ => ⟨rfl, by simp [free]⟩⟩

theorem safe_of_run {screenOutputs : ActiveOutputs} {es : List LifetimeEvent}
    (run : Run bus introspection ⟨start screenOutputs, .running⟩ es s) : Safe bus s :=
  run.invariant (fun _ s => Safe bus s) (safe_start screenOutputs) fun _ _ _ _ _ safe step => safe_step safe step

theorem destroyed_step {e : LifetimeEvent} (safe : Safe bus s) (destroyed : s.phase = .destroyed)
    (h : s.step bus introspection e = some t) :
    t.phase = .destroyed ∧ e.touchesService = false ∧ t.system.outgoing = s.system.outgoing ∧
      t.system.activeOutputs = s.system.activeOutputs ∧ t.system.loop.executed = s.system.loop.executed := by
  rcases step_cases h with ⟨d, rfl, running, stepped, phase⟩ | ⟨rfl, running, -⟩ | ⟨rfl, stopping, -⟩ |
    ⟨rfl, joined, -⟩
  · have other (thread : Thread) : d ≠ .register thread := fun same => by
      rw [running thread same] at destroyed
      cases destroyed
    have returned := safe.returned (.inr destroyed)
    obtain ⟨registered, silent⟩ := safe.silent destroyed
    obtain ⟨-, executed, outgoing, activeOutputs⟩ := returned_system safe.published returned stepped
    exact ⟨phase.trans destroyed, (silent_system safe.published returned registered silent other stepped).2.2,
      outgoing, activeOutputs, executed⟩
  · rw [destroyed] at running
    cases running
  · rw [destroyed] at stopping
    cases stopping
  · rw [destroyed] at joined
    cases joined

/-- Whatever other threads do, a destroyed service is not touched again. -/
theorem destroyed_untouched {screenOutputs : ActiveOutputs} {es later : List LifetimeEvent}
    (run : Run bus introspection ⟨start screenOutputs, .running⟩ es s) (destroyed : s.phase = .destroyed)
    (run' : Run bus introspection s later t) :
    (∀ e ∈ later, e.touchesService = false) ∧ t.system.outgoing = s.system.outgoing ∧
      t.system.activeOutputs = s.system.activeOutputs ∧ t.system.loop.executed = s.system.loop.executed := by
  have safe := safe_of_run run
  clear run
  induction run' with
  | nil s => exact ⟨by simp, rfl, rfl, rfl⟩
  | cons first rest ih =>
      obtain ⟨phase, untouched, outgoing, activeOutputs, executed⟩ := destroyed_step safe destroyed first
      obtain ⟨later, outgoing', activeOutputs', executed'⟩ := ih phase (safe_step safe first)
      exact ⟨List.forall_mem_cons.mpr ⟨untouched, later⟩, outgoing'.trans outgoing,
        activeOutputs'.trans activeOutputs, executed'.trans executed⟩

def tornDown : List LifetimeEvent :=
  .system (.register (.other 0)) :: List.map (.system <| .loop ·) [.run, .run, .run] ++
    [.system .callHandler, .system (.loop (.store (.other 0))), .system (.loop (.write (.other 0))), .system .unlock,
      .stop] ++
    List.map (.system <| .loop ·)
      [.store mainThread, .write mainThread, .wake, .read, .run, .run, .run, .run, .run, .run, .run] ++
    [.join, .destroyService]

/-- A configuration that Mir applies late. -/
def lateNotification : List LifetimeEvent := [.system (.notify (.other 1) []), .system .unlock]

theorem destroyed_untouched_late : ∃ s t, Run .reference "" ⟨start ⟨1, 0⟩, .running⟩ tornDown s ∧
    s.phase = .destroyed ∧ Run .reference "" s lateNotification t ∧ t.system.screenOutputs = ⟨0, 0⟩ ∧
    t.system.outgoing = s.system.outgoing := by
  obtain ⟨s, ran, destroyed, t, ran', outputs⟩ : ∃ s,
      tornDown.foldlM (step .reference "") ⟨start ⟨1, 0⟩, .running⟩ = some s ∧ s.phase = .destroyed ∧
      ∃ t, lateNotification.foldlM (step .reference "") s = some t ∧ t.system.screenOutputs = ⟨0, 0⟩ :=
    ⟨_, rfl, rfl, _, rfl, rfl⟩
  have run := Library.run_of_foldlM_option.mp ran
  have run' := Library.run_of_foldlM_option.mp ran'
  exact ⟨s, t, run, destroyed, run', outputs, (destroyed_untouched run destroyed run').2.1⟩

end ServiceLifetime
end SystemCompositor
