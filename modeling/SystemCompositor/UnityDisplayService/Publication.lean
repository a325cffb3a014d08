import SystemCompositor.DBusEventLoop.WakeUp
import SystemCompositor.UnityDisplayService.Basic

namespace SystemCompositor

def RunPoint.current {α : Type} : RunPoint α → List α
  | .acting action _ => [action]
  | _ => []

namespace DisplaySystem
open UnityDisplayService

/-- The value assigned under the mutex whose action has not been pushed. -/
def unpushed (notifying : Option (Thread × NotifyPhase)) (screenOutputs : ActiveOutputs)
    (calls : Thread → Option (LoopCall ActiveOutputs)) : List ActiveOutputs :=
  match notifying with
  | none => []
  | some (_, .calling) => [screenOutputs]
  | some (t, .called) =>
      match calls t with
      | some (.push activeOutputs) => [activeOutputs]
      | _ => []

/-- The reply, if `message` asks for the active outputs, has them as its value. -/
def Carries (bus : LibDBus) (message : DBusMessage) (reply : DBusReply) (activeOutputs : ActiveOutputs) : Prop :=
  (bus.isMethodCall message dbusPropertiesInterface "Get" = true → AsksGet bus message →
    reply = .methodReturn [activeOutputsVariant activeOutputs]) ∧
  (bus.isMethodCall message dbusPropertiesInterface "GetAll" = true → AsksGetAll bus message →
    reply = .methodReturn [activeOutputsDict activeOutputs])

structure Published (bus : LibDBus) (s : DisplaySystem) : Prop where
  loop : s.loop.Inv
  sent : signals s.outgoing ++ s.loop.point.current = s.loop.executed.map Prod.snd
  copy : s.activeOutputs = (s.loop.executed.map Prod.snd).getLast?.getD ⟨0, 0⟩
  assigned : s.assigned = s.loop.pushed ++ unpushed s.notifying s.screenOutputs s.loop.calls
  latest : s.registered = true → s.assigned.getLast? = some s.screenOutputs
  pushing : ∀ t activeOutputs, s.loop.calls t = some (.push activeOutputs) → s.notifying = some (t, .called)
  answering : ∀ message effects, s.dispatching = some (message, effects) → s.loop.point = .dispatching ∧
    ∀ reply ∈ effects.filterMap DisplayEffect.reply, Carries bus message reply s.activeOutputs
  answered : ∀ before message reply, before ++ [.reply message reply] <+: s.outgoing →
    Carries bus message reply (lastSent before)

variable {bus : LibDBus} {introspection : String} {s t : DisplaySystem}

theorem published_start (screenOutputs : ActiveOutputs) : Published bus (start screenOutputs) where
  loop := DBusEventLoop.inv_initial
  sent := rfl
  copy := rfl
  assigned := rfl
  latest := by simp [start]
  pushing := by simp [start]
  answering := by simp [start]
  answered := by simp [start]

theorem carries_of_mem {message : DBusMessage} {activeOutputs : ActiveOutputs} {reply : DBusReply}
    (member : reply ∈ replies bus introspection activeOutputs message) :
    Carries bus message reply activeOutputs := by
  constructor
  · intro call asks
    rw [(replies_get call).1 asks] at member
    exact List.mem_singleton.mp member
  · intro call asks
    rw [(replies_getAll call).1 asks] at member
    exact List.mem_singleton.mp member

/-- Without the loop thread no message is at hand. -/
theorem Published.idle_of_returned (inv : Published bus s) (returned : s.loop.point = .returned) :
    s.dispatching = none := by
  cases at_ : s.dispatching with
  | none => rfl
  | some pair =>
      have point := (inv.answering pair.1 pair.2 at_).1
      rw [returned] at point
      cases point

theorem assign_cases {thread : Thread} {activeOutputs : ActiveOutputs}
    (h : s.assign thread activeOutputs = some t) :
    s.notifying = none ∧ s.loop.calls thread = none ∧
      t = { s with
        screenOutputs := activeOutputs
        notifying := some (thread, if s.registered then .calling else .called)
        assigned := if s.registered then s.assigned ++ [activeOutputs] else s.assigned } := by
  by_cases may : (s.notifying.isNone && s.loop.mayCall thread) = true
  · rw [assign, if_pos may] at h
    simp only [Bool.and_eq_true, Option.isNone_iff_eq_none] at may
    exact ⟨may.1, (DBusEventLoop.mayCall_iff.mp may.2).1, (Option.some.inj h).symm⟩
  · rw [assign, if_neg may] at h
    cases h

theorem register_cases {thread : Thread} (h : s.register thread = some t) :
    s.notifying = none ∧ t = { s with
      registered := true, notifying := some (thread, .calling), assigned := s.assigned ++ [s.screenOutputs] } := by
  rw [register] at h
  split_ifs at h with may
  simp only [Bool.and_eq_true, Option.isNone_iff_eq_none] at may
  exact ⟨may.1.1, (Option.some.inj h).symm⟩

theorem callHandler_cases (h : s.callHandler = some t) : ∃ thread l, s.notifying = some (thread, .calling) ∧
    s.loop.enter thread (.push s.screenOutputs) = some l ∧
      t = { s with loop := l, notifying := some (thread, .called) } := by
  rw [callHandler] at h
  split at h
  case h_1 thread notifying =>
    obtain ⟨l, entered, rfl⟩ := Option.map_eq_some_iff.mp h
    exact ⟨thread, l, notifying, entered, rfl⟩
  case h_2 => cases h

theorem unlock_cases (h : s.unlock = some t) : ∃ thread, s.notifying = some (thread, .called) ∧
    s.loop.calls thread = none ∧ t = { s with notifying := none } := by
  rw [unlock] at h
  split at h
  case h_1 thread notifying =>
    split_ifs at h with free
    exact ⟨thread, notifying, Option.isNone_iff_eq_none.mp free, (Option.some.inj h).symm⟩
  case h_2 => cases h

theorem Published.not_pushing (inv : Published bus s) (thread : Thread)
    (other : s.notifying ≠ some (thread, .called)) (activeOutputs : ActiveOutputs) :
    s.loop.calls thread ≠ some (.push activeOutputs) :=
  fun call => other (inv.pushing thread activeOutputs call)

theorem Published.assigned_of_idle (inv : Published bus s) (idle : s.notifying = none) :
    s.assigned = s.loop.pushed := by
  simpa [idle, unpushed] using inv.assigned

theorem published_assign {thread : Thread} {activeOutputs : ActiveOutputs} (inv : Published bus s)
    (h : s.assign thread activeOutputs = some t) : Published bus t := by
  obtain ⟨idle, free, rfl⟩ := assign_cases h
  have pushed := inv.assigned_of_idle idle
  have pushing (u : Thread) (outputs : ActiveOutputs) := inv.not_pushing u (by simp [idle]) outputs
  refine ⟨inv.loop, inv.sent, inv.copy, ?_, fun registered => ?_,
    fun u outputs call => absurd call (pushing u outputs),
    inv.answering, inv.answered⟩
  · cases s.registered <;> simp [unpushed, pushed, free]
  · change s.registered = true at registered
    simp [registered]

theorem published_register {thread : Thread} (inv : Published bus s) (h : s.register thread = some t) :
    Published bus t := by
  obtain ⟨idle, rfl⟩ := register_cases h
  have pushed := inv.assigned_of_idle idle
  have pushing (u : Thread) (outputs : ActiveOutputs) := inv.not_pushing u (by simp [idle]) outputs
  refine ⟨inv.loop, inv.sent, inv.copy, ?_, fun _ => ?_, fun u outputs call => absurd call (pushing u outputs),
    inv.answering, inv.answered⟩
  · simp [unpushed, pushed]
  · simp

theorem published_callHandler (inv : Published bus s) (h : s.callHandler = some t) : Published bus t := by
  obtain ⟨thread, l, notifying, entered, rfl⟩ := callHandler_cases h
  have loop := DBusEventLoop.inv_enter inv.loop entered
  obtain ⟨-, -, rfl⟩ := DBusEventLoop.enter_iff.mp entered
  refine ⟨loop, inv.sent, inv.copy, ?_, inv.latest, fun u outputs call => ?_, inv.answering, inv.answered⟩
  · simpa [unpushed, notifying] using inv.assigned
  · by_cases same : u = thread
    · rw [same]
    · change Function.update s.loop.calls thread _ u = _ at call
      rw [Function.update_of_ne same] at call
      exact absurd call (inv.not_pushing _ (by simp [notifying]) outputs)

theorem published_unlock (inv : Published bus s) (h : s.unlock = some t) : Published bus t := by
  obtain ⟨thread, notifying, free, rfl⟩ := unlock_cases h
  refine ⟨inv.loop, inv.sent, inv.copy, ?_, inv.latest, fun u outputs call => ?_, inv.answering, inv.answered⟩
  · simpa [unpushed, notifying, free] using inv.assigned
  · have busy := inv.pushing u outputs call
    rw [notifying, Option.some.injEq, Prod.mk.injEq] at busy
    change s.loop.calls u = _ at call
    rw [← busy.1, free] at call
    cases call

theorem Published.consume (inv : Published bus s) {message : DBusMessage} {effect : DisplayEffect}
    {rest : List DisplayEffect} (at_ : s.dispatching = some (message, effect :: rest)) :
    Published bus { s with dispatching := some (message, rest) } := by
  obtain ⟨point, carries⟩ := inv.answering _ _ at_
  refine ⟨inv.loop, inv.sent, inv.copy, inv.assigned, inv.latest, inv.pushing, ?_, inv.answered⟩
  intro message' rest' same
  obtain ⟨rfl, rfl⟩ := Prod.mk.inj (Option.some.inj same)
  refine ⟨point, fun reply member => carries reply ?_⟩
  obtain ⟨effect', member', is⟩ := List.mem_filterMap.mp member
  exact List.mem_filterMap.mpr ⟨effect', List.mem_cons_of_mem _ member', is⟩

theorem turn_cases {configuration : Option DisplayConfiguration} (h : s.turn configuration = some t) :
    ∃ message rest mode filter,
      (s.dispatching = some (message, .turnOn filter :: rest) ∧ mode = .on ∨
        s.dispatching = some (message, .turnOff filter :: rest) ∧ mode = .off) ∧
      (configuration = none ∧ t = { s with dispatching := some (message, rest) } ∨
        ∃ old, configuration = some old ∧
          { s with dispatching := some (message, rest) }.assign .loop (countActiveOutputs
            (applyPowerMode mode (getPowerModeFilterForOutputFilter filter) old)) = some t) := by
  rw [turn] at h
  split at h
  case h_1 message filter rest at_ =>
    refine ⟨message, rest, .on, filter, .inl ⟨at_, rfl⟩, ?_⟩
    cases configuration with
    | none =>
        dsimp only at h
        split_ifs at h
        exact .inl ⟨rfl, (Option.some.inj h).symm⟩
    | some old => exact .inr ⟨old, rfl, h⟩
  case h_2 message filter rest at_ =>
    refine ⟨message, rest, .off, filter, .inr ⟨at_, rfl⟩, ?_⟩
    cases configuration with
    | none =>
        dsimp only at h
        split_ifs at h
        exact .inl ⟨rfl, (Option.some.inj h).symm⟩
    | some old => exact .inr ⟨old, rfl, h⟩
  case h_3 => cases h

theorem published_turn {configuration : Option DisplayConfiguration} (inv : Published bus s)
    (h : s.turn configuration = some t) : Published bus t := by
  obtain ⟨message, rest, mode, filter, at_, thrown | ⟨old, -, assigned⟩⟩ := turn_cases h
  · obtain ⟨-, rfl⟩ := thrown
    rcases at_ with ⟨at_, -⟩ | ⟨at_, -⟩ <;> exact inv.consume at_
  · refine published_assign ?_ assigned
    rcases at_ with ⟨at_, -⟩ | ⟨at_, -⟩ <;> exact inv.consume at_

theorem dispatch_cases {message : DBusMessage} (h : s.dispatch bus introspection message = some t) :
    s.loop.point = .dispatching ∧ s.dispatching = none ∧ s.free = true ∧ t = { s with
      dispatching := some (message, handleDBusMessage bus introspection s.activeOutputs message) } := by
  rw [dispatch] at h
  split at h
  case h_1 point idle =>
    split_ifs at h with free
    exact ⟨point, idle, free, (Option.some.inj h).symm⟩
  case h_2 => cases h

theorem published_dispatch {message : DBusMessage} (inv : Published bus s)
    (h : s.dispatch bus introspection message = some t) : Published bus t := by
  obtain ⟨point, -, -, rfl⟩ := dispatch_cases h
  refine ⟨inv.loop, inv.sent, inv.copy, inv.assigned, inv.latest, inv.pushing, ?_, inv.answered⟩
  intro message' effects same
  obtain ⟨rfl, rfl⟩ := Prod.mk.inj (Option.some.inj same)
  exact ⟨point, fun reply member => carries_of_mem member⟩

theorem reply_cases (h : s.reply = some t) : ∃ message reply rest,
    s.dispatching = some (message, .send reply :: rest) ∧ t = { s with
      dispatching := some (message, rest), outgoing := s.outgoing ++ [.reply message reply] } := by
  rw [reply] at h
  split at h
  case h_1 message reply rest at_ =>
    split_ifs at h
    exact ⟨message, reply, rest, at_, (Option.some.inj h).symm⟩
  case h_2 => cases h

/-- While the loop thread dispatches messages the copy is what it sent last. -/
theorem Published.copy_of_dispatching (inv : Published bus s) (point : s.loop.point = .dispatching) :
    s.activeOutputs = lastSent s.outgoing := by
  have sent : signals s.outgoing = s.loop.executed.map Prod.snd := by
    simpa [point, RunPoint.current] using inv.sent
  rw [inv.copy, lastSent, sent]

theorem published_reply (inv : Published bus s) (h : s.reply = some t) : Published bus t := by
  obtain ⟨message, reply, rest, at_, rfl⟩ := reply_cases h
  obtain ⟨point, carries⟩ := inv.answering _ _ at_
  have consumed := inv.consume at_
  refine ⟨inv.loop, ?_, inv.copy, inv.assigned, inv.latest, inv.pushing, consumed.answering, ?_⟩
  · simpa using inv.sent
  · intro before message' reply' le
    rcases List.prefix_concat_iff.mp le with last | earlier
    · obtain ⟨rfl, same⟩ := List.append_inj' last rfl
      obtain ⟨rfl, rfl⟩ := ServiceMessage.reply.inj (List.singleton_inj.mp same)
      rw [← inv.copy_of_dispatching point]
      exact carries reply' (by simp [DisplayEffect.reply])
    · exact inv.answered before message' reply' earlier

theorem handled_cases (h : s.handled = some t) : t = { s with dispatching := none } := by
  rw [handled] at h
  split at h
  case h_1 message at_ =>
    split_ifs at h
    exact (Option.some.inj h).symm
  case h_2 => cases h

theorem published_handled (inv : Published bus s) (h : s.handled = some t) : Published bus t := by
  obtain rfl := handled_cases h
  exact ⟨inv.loop, inv.sent, inv.copy, inv.assigned, inv.latest, inv.pushing, by simp, inv.answered⟩

theorem current_eq_nil {α : Type} {point : RunPoint α} (other : ∀ action rest, point ≠ .acting action rest) :
    point.current = [] := by
  cases point with
  | acting action rest => exact absurd rfl (other action rest)
  | _ => rfl

theorem published_run (inv : Published bus s) (idle : s.dispatching = none) {l : DBusEventLoop ActiveOutputs}
    (h : s.loop.run = some l) : Published bus (s.afterRun l) := by
  have loop := DBusEventLoop.inv_run inv.loop h
  obtain ⟨-, calls, pushed⟩ := DBusEventLoop.run_frame h
  have assigned : s.assigned = l.pushed ++ unpushed s.notifying s.screenOutputs l.calls := by
    rw [calls, pushed]
    exact inv.assigned
  have pushing : ∀ t activeOutputs, l.calls t = some (.push activeOutputs) → s.notifying = some (t, .called) := by
    rw [calls]
    exact inv.pushing
  have answering : ∀ activeOutputs message effects, s.dispatching = some (message, effects) →
      l.point = .dispatching ∧
        ∀ reply ∈ effects.filterMap DisplayEffect.reply, Carries bus message reply activeOutputs := by
    simp [idle]
  have sent := inv.sent
  rcases DBusEventLoop.run_cases h with
    ⟨action, rest, point, point', executed⟩ | ⟨action, rest, point, point', executed⟩ |
    ⟨noAction, noActing, noActing', executed⟩
  · -- An action begins: it sets the copy.
    simp only [afterRun, point]
    refine ⟨loop, ?_, ?_, assigned, inv.latest, pushing, answering _, inv.answered⟩
    · simpa [point, point', RunPoint.current, executed] using sent
    · simp [executed]
  · -- The action ends: it sends the signal, with the value it has set.
    simp only [afterRun, point]
    have last : s.activeOutputs = action := by
      rw [inv.copy, ← sent, point]
      simp [RunPoint.current]
    refine ⟨loop, ?_, ?_, assigned, inv.latest, pushing, answering _, ?_⟩
    · simpa [point, point', RunPoint.current, executed, last] using sent
    · rw [executed]
      exact inv.copy
    · intro before message reply le
      rcases List.prefix_concat_iff.mp le with same | earlier
      · cases List.singleton_inj.mp (List.append_inj' same rfl).2
      · exact inv.answered before message reply earlier
  · have unchanged : s.afterRun l = { s with loop := l } := by
      rw [afterRun]
      split
      · next activeOutputs rest point => exact absurd point (noAction activeOutputs rest)
      · next activeOutputs rest point => exact absurd point (noActing activeOutputs rest)
      · rfl
    rw [unchanged]
    refine ⟨loop, ?_, ?_, assigned, inv.latest, pushing, answering _, inv.answered⟩
    · simpa [current_eq_nil noActing, current_eq_nil noActing', executed] using sent
    · rw [executed]
      exact inv.copy

theorem unpushed_congr {notifying : Option (Thread × NotifyPhase)} {screenOutputs : ActiveOutputs}
    {calls calls' : Thread → Option (LoopCall ActiveOutputs)}
    (same : ∀ t action, calls' t = some (.push action) ↔ calls t = some (.push action)) :
    unpushed notifying screenOutputs calls' = unpushed notifying screenOutputs calls := by
  match notifying with
  | none | some (_, .calling) => rfl
  | some (t, .called) =>
      simp only [unpushed]
      split
      · next action call => rw [(same t action).mp call]
      · next other =>
        split
        · next action call => exact absurd ((same t action).mpr call) (other action)
        · rfl

theorem published_other {e : LoopEvent ActiveOutputs} (inv : Published bus s) {l : DBusEventLoop ActiveOutputs}
    (h : s.loop.step e = some l) (notRun : e ≠ .run) (notEnqueue : ∀ t action, e ≠ .enqueue t action) :
    Published bus { s with loop := l } := by
  obtain ⟨executed, moved⟩ := DBusEventLoop.executed_step h notRun
  have current : l.point.current = s.loop.point.current := by
    rcases moved with same | ⟨before, after⟩
    · rw [same]
    · rcases before with before | before <;> rcases after with after | after | after | after <;>
        simp [before, after, RunPoint.current]
  have dispatching (at_ : s.loop.point = .dispatching) : l.point = .dispatching := by
    rcases moved with same | ⟨before, -⟩
    · rw [same, at_]
    · simp [at_] at before
  have sent : signals s.outgoing ++ l.point.current = l.executed.map Prod.snd := by
    rw [current, executed]
    exact inv.sent
  have copy : s.activeOutputs = (l.executed.map Prod.snd).getLast?.getD ⟨0, 0⟩ := by
    rw [executed]
    exact inv.copy
  have answering : ∀ message effects, s.dispatching = some (message, effects) → l.point = .dispatching ∧
      ∀ reply ∈ effects.filterMap DisplayEffect.reply, Carries bus message reply s.activeOutputs :=
    fun message effects at_ => (inv.answering message effects at_).imp_left dispatching
  refine ⟨DBusEventLoop.inv_step inv.loop h, sent, copy, ?_, inv.latest, ?_, answering, inv.answered⟩
  · rcases DBusEventLoop.pushes_step h notEnqueue with ⟨pushed, same⟩ | ⟨thread, action, call, pushed, calls⟩
    · rw [pushed, unpushed_congr same]
      exact inv.assigned
    · -- The push of the value that the notification assigned under the mutex.
      have notifying := inv.pushing thread action call
      have assigned := inv.assigned
      simp only [notifying, unpushed, call] at assigned
      simp [pushed, calls, notifying, unpushed, assigned]
  · intro thread outputs call
    rcases DBusEventLoop.pushes_step h notEnqueue with ⟨-, same⟩ | ⟨thread', action, call', -, calls⟩
    · exact inv.pushing thread outputs ((same thread outputs).mp call)
    · change l.calls thread = _ at call
      by_cases same : thread = thread'
      · simp [calls, same] at call
      · rw [calls, Function.update_of_ne same] at call
        exact inv.pushing thread outputs call

theorem stepLoop_cases {e : LoopEvent ActiveOutputs} (h : s.stepLoop e = some t) :
    (∃ l, e = .run ∧ s.dispatching = none ∧ s.free = true ∧ s.loop.run = some l ∧ t = s.afterRun l) ∨
    (∃ l, e ≠ .run ∧ (∀ thread action, e ≠ .enqueue thread action) ∧ s.loop.step e = some l ∧
      t = { s with loop := l }) := by
  cases e with
  | enqueue thread action => cases h
  | run =>
      rw [stepLoop] at h
      split_ifs at h with may
      obtain ⟨l, stepped, rfl⟩ := Option.map_eq_some_iff.mp h
      rw [Bool.and_eq_true, Option.isNone_iff_eq_none] at may
      exact .inl ⟨l, rfl, may.1, may.2, (DBusEventLoop.step_run stepped).2, rfl⟩
  | stop thread | wakeUp thread | store thread | write thread | read | wake | ready | interrupted =>
      obtain ⟨l, stepped, rfl⟩ := Option.map_eq_some_iff.mp h
      exact .inr ⟨l, by simp, by simp, stepped, rfl⟩

theorem published_stepLoop {e : LoopEvent ActiveOutputs} (inv : Published bus s) (h : s.stepLoop e = some t) :
    Published bus t := by
  rcases stepLoop_cases h with ⟨l, -, idle, -, ran, rfl⟩ | ⟨l, notRun, notEnqueue, stepped, rfl⟩
  · exact published_run inv idle ran
  · exact published_other inv stepped notRun notEnqueue

theorem published_step {e : DisplayEvent} (inv : Published bus s) (h : s.step bus introspection e = some t) :
    Published bus t := by
  cases e with
  | loop e => exact published_stepLoop inv h
  | register thread => exact published_register inv h
  | notify thread configuration => exact published_assign inv h
  | callHandler => exact published_callHandler inv h
  | unlock => exact published_unlock inv h
  | dispatch message => exact published_dispatch inv h
  | turn configuration => exact published_turn inv h
  | reply => exact published_reply inv h
  | handled => exact published_handled inv h

theorem published_of_run {screenOutputs : ActiveOutputs} {es : List DisplayEvent}
    (run : Run bus introspection (start screenOutputs) es s) : Published bus s :=
  run.invariant (fun _ s => Published bus s) (published_start screenOutputs)
    fun _ _ _ _ _ inv step => published_step inv step

def Quiet (s : DisplaySystem) : Prop :=
  s.notifying = none ∧ s.loop.actions = [] ∧ s.loop.point.batch = [] ∧ s.loop.point.current = []

theorem Published.executed_of_quiet (inv : Published bus s) (quiet : s.Quiet) :
    s.loop.executed.map Prod.snd = s.assigned := by
  obtain ⟨idle, actions, batch, -⟩ := quiet
  have order := inv.loop.order
  rw [actions, batch, List.append_nil, List.append_nil] at order
  rw [order, inv.assigned_of_idle idle]

/-- The signals sent are the first values assigned, in order; a reply has the last value sent before it;
and a quiet service has the outputs of the screen. -/
theorem published {screenOutputs : ActiveOutputs} {es : List DisplayEvent}
    (run : Run bus introspection (start screenOutputs) es s) :
    signals s.outgoing <+: s.assigned ∧
    (∀ before message reply, before ++ [.reply message reply] <+: s.outgoing →
      Carries bus message reply (lastSent before)) ∧
    (s.registered = true → s.Quiet → s.activeOutputs = s.screenOutputs) := by
  have inv := published_of_run run
  refine ⟨?_, inv.answered, fun registered quiet => ?_⟩
  · have executed : s.loop.executed.map Prod.snd <+: s.loop.pushed := by
      rw [← inv.loop.order, List.append_assoc]
      exact List.prefix_append ..
    rw [inv.assigned]
    refine List.IsPrefix.trans ?_ (executed.trans (List.prefix_append ..))
    rw [← inv.sent]
    exact List.prefix_append ..
  · rw [inv.copy, inv.executed_of_quiet quiet, inv.latest registered]
    rfl

def getActiveOutputs : DBusMessage :=
  ⟨.methodCall, some dbusPropertiesInterface, some "Get", [.string dbusDisplayInterface, .string "ActiveOutputs"]⟩

def refreshed : List DisplayEvent :=
  [.register (.other 0), .callHandler, .loop (.store (.other 0)), .loop (.write (.other 0)), .unlock] ++
    ([.run, .run, .run, .wake, .read, .run, .run, .run, .run] : List (LoopEvent ActiveOutputs)).map .loop

def firstReply : List DisplayEvent := refreshed ++ [.dispatch getActiveOutputs, .reply, .handled]

theorem published_firstReply : ∃ s, Run .reference "" (start ⟨1, 0⟩) firstReply s ∧
    signals s.outgoing = [⟨1, 0⟩] ∧ signals s.outgoing <+: s.assigned ∧ s.activeOutputs = s.screenOutputs := by
  obtain ⟨s, ran, sent, registered, quiet⟩ : ∃ s, firstReply.foldlM (step .reference "") (start ⟨1, 0⟩) = some s ∧
      signals s.outgoing = [⟨1, 0⟩] ∧ s.registered = true ∧ s.Quiet := ⟨_, rfl, rfl, rfl, rfl, rfl, rfl, rfl⟩
  have run : Run .reference "" (start ⟨1, 0⟩) firstReply s := Library.run_of_foldlM_option.mp ran
  exact ⟨s, run, sent, (published run).1, (published run).2.2 registered quiet⟩

end DisplaySystem
end SystemCompositor
