import SystemCompositor.UnityDisplayService.Publication

namespace SystemCompositor

def RunPoint.pastSwap {α : Type} : RunPoint α → Bool
  | .executing _ | .acting _ _ | .dispatching => true
  | _ => false

def DisplayEvent.changes : DisplayEvent → Bool
  | .register _ | .notify _ _ | .turn (some _) => true
  | _ => false

namespace DisplaySystem
open UnityDisplayService
variable {bus : LibDBus} {introspection : String} {s t m n : DisplaySystem}

/-- After a change made by the loop thread that left the copy at `old`: until `run` goes on, and after that. -/
structure Settling (outputs old : ActiveOutputs) (left : Prop) (m : DisplaySystem) : Prop where
  registered : m.registered = true
  screen : m.screenOutputs = outputs
  still : ¬left → m.loop.point = .dispatching ∧ m.activeOutputs = old ∧
    ∀ u phase, m.notifying = some (u, phase) → u = .loop
  gone : left → m.notifying = none ∧ (m.loop.point.pastSwap = true → m.loop.actions = [])

theorem actions_run {l l' : DBusEventLoop ActiveOutputs} (h : l.run = some l') (past : l'.point.pastSwap = true) :
    l'.actions = [] ∨ l.point.pastSwap = true ∧ l.point ≠ .dispatching ∧ l'.actions = l.actions := by
  cases point : l.point with
  | swapping =>
      obtain rfl : _ = l' := by simpa [DBusEventLoop.run, point] using h
      exact .inl rfl
  | executing rest =>
      refine .inr ⟨rfl, by simp, ?_⟩
      cases rest with
      | nil =>
          obtain rfl : _ = l' := by simpa [DBusEventLoop.run, point] using h
          rfl
      | cons action rest =>
          obtain rfl : _ = l' := by simpa [DBusEventLoop.run, point] using h
          rfl
  | acting action rest =>
      obtain rfl : _ = l' := by simpa [DBusEventLoop.run, point] using h
      exact .inr ⟨rfl, by simp, rfl⟩
  | testing =>
      obtain rfl : _ = l' := by simpa [DBusEventLoop.run, point] using h
      cases running : l.running <;> simp [running, RunPoint.pastSwap] at past
  | waiting | reading | returned => simp [DBusEventLoop.run, point] at h
  | before | starting | handling | dispatching | flushing =>
      obtain rfl : _ = l' := by simpa [DBusEventLoop.run, point] using h
      cases past

theorem afterRun_fields (m : DisplaySystem) (l : DBusEventLoop ActiveOutputs) :
    (m.afterRun l).loop = l ∧ (m.afterRun l).registered = m.registered ∧
      (m.afterRun l).screenOutputs = m.screenOutputs ∧ (m.afterRun l).notifying = m.notifying := by
  rw [afterRun]
  split <;> simp

theorem settling_run {outputs old : ActiveOutputs} {left : Prop} {l : DBusEventLoop ActiveOutputs}
    (settling : Settling outputs old left m) (free : m.free = true) (h : m.loop.run = some l) :
    Settling outputs old True (m.afterRun l) := by
  obtain ⟨loop, registered, screen, notifying⟩ := afterRun_fields m l
  have idle : m.notifying = none := by
    by_cases gone : left
    · exact (settling.gone gone).1
    · cases at_ : m.notifying with
      | none => rfl
      | some holder =>
          obtain ⟨u, phase⟩ := holder
          have isLoop := (settling.still gone).2.2 u phase at_
          simp [DisplaySystem.free, at_, isLoop] at free
  refine ⟨registered.trans settling.registered, screen.trans settling.screen, by simp, fun _ => ?_⟩
  refine ⟨notifying.trans idle, fun past => ?_⟩
  rw [loop] at past ⊢
  rcases actions_run h past with empty | ⟨past', notDispatching, same⟩
  · exact empty
  · by_cases gone : left
    · rw [same]
      exact (settling.gone gone).2 past'
    · exact absurd (settling.still gone).1 notDispatching

theorem settling_other {outputs old : ActiveOutputs} {left : Prop} {e : LoopEvent ActiveOutputs}
    {l : DBusEventLoop ActiveOutputs} (inv : Published bus m) (settling : Settling outputs old left m)
    (notRun : e ≠ .run) (notEnqueue : ∀ t action, e ≠ .enqueue t action) (h : m.loop.step e = some l) :
    Settling outputs old left { m with loop := l } := by
  obtain ⟨executed, moved⟩ := DBusEventLoop.executed_step h notRun
  refine ⟨settling.registered, settling.screen, fun stays => ?_, fun gone => ?_⟩
  · obtain ⟨point, copy, holder⟩ := settling.still stays
    rcases moved with same | ⟨before, -⟩
    · exact ⟨same.trans point, copy, holder⟩
    · simp [point] at before
  · obtain ⟨idle, empty⟩ := settling.gone gone
    refine ⟨idle, fun past => ?_⟩
    change l.point.pastSwap = true at past
    rcases moved with same | ⟨-, after⟩
    · have pushed : l.pushed = m.loop.pushed := by
        rcases DBusEventLoop.pushes_step h notEnqueue with ⟨pushed, -⟩ | ⟨thread, action, call, -⟩
        · exact pushed
        · -- A push would belong to a notification, and none is in progress.
          have busy := inv.pushing thread action call
          simp [idle] at busy
      have order := (DBusEventLoop.inv_step inv.loop h).order
      rw [executed, same, pushed, ← inv.loop.order, List.append_cancel_left_eq] at order
      rw [same] at past
      exact order.trans (empty past)
    · rcases after with after | after | after | after <;> simp [after, RunPoint.pastSwap] at past

theorem settling_step {outputs old : ActiveOutputs} {left : Prop} {e : DisplayEvent} (inv : Published bus m)
    (settling : Settling outputs old left m) (same : e.changes = false) (other : e ≠ .loop .run)
    (h : m.step bus introspection e = some n) : Settling outputs old left n := by
  cases e with
  | loop e =>
      rcases stepLoop_cases h with ⟨l, rfl, -⟩ | ⟨l, notRun, notEnqueue, stepped, rfl⟩
      · exact absurd rfl other
      · exact settling_other inv settling notRun notEnqueue stepped
  | register thread | notify thread configuration => cases same
  | callHandler =>
      obtain ⟨thread, l, notifying, entered, rfl⟩ := callHandler_cases h
      obtain ⟨-, -, rfl⟩ := DBusEventLoop.enter_iff.mp entered
      refine ⟨settling.registered, settling.screen, fun stays => ?_, fun gone => ?_⟩
      · obtain ⟨point, copy, holder⟩ := settling.still stays
        refine ⟨point, copy, fun u phase at_ => ?_⟩
        obtain ⟨rfl, -⟩ := Prod.mk.inj (Option.some.inj at_)
        exact holder _ _ notifying
      · have idle := (settling.gone gone).1
        simp [notifying] at idle
  | unlock =>
      obtain ⟨thread, notifying, -, rfl⟩ := unlock_cases h
      refine ⟨settling.registered, settling.screen, fun stays => ?_, fun gone => ⟨rfl, (settling.gone gone).2⟩⟩
      obtain ⟨point, copy, -⟩ := settling.still stays
      exact ⟨point, copy, by simp⟩
  | dispatch message =>
      obtain ⟨-, -, -, rfl⟩ := dispatch_cases h
      exact ⟨settling.registered, settling.screen, settling.still, settling.gone⟩
  | turn configuration =>
      obtain ⟨message, rest, mode, filter, -, ⟨-, rfl⟩ | ⟨old, rfl, -⟩⟩ := turn_cases h
      · exact ⟨settling.registered, settling.screen, settling.still, settling.gone⟩
      · cases same
  | reply =>
      obtain ⟨message, reply, rest, -, rfl⟩ := reply_cases h
      exact ⟨settling.registered, settling.screen, settling.still, settling.gone⟩
  | handled =>
      obtain rfl := handled_cases h
      exact ⟨settling.registered, settling.screen, settling.still, settling.gone⟩

theorem settling_of_run {outputs old : ActiveOutputs} {es : List DisplayEvent} (inv : Published bus t)
    (start : Settling outputs old False t) (same : ∀ e ∈ es, e.changes = false)
    (run : Run bus introspection t es m) :
    Published bus m ∧ Settling outputs old (.loop .run ∈ es) m := by
  have kept := run.invariant
    (fun past m => (∀ e ∈ past, e.changes = false) → Published bus m ∧ Settling outputs old (.loop .run ∈ past) m)
    (fun _ => ⟨inv, by simpa using start⟩) ?_
  · exact kept same
  · intro past m e n _ before step same
    obtain ⟨inv, settling⟩ := before fun e member => same e (by simp [member])
    refine ⟨published_step inv step, ?_⟩
    -- The first pass of `run` ends the phase before it; every other step keeps the phase.
    by_cases run : e = .loop .run
    · have stepped : m.stepLoop .run = some n := by rwa [run] at step
      rcases stepLoop_cases stepped with ⟨l, -, -, free, ran, rfl⟩ | ⟨l, notRun, -⟩
      · simpa [run] using settling_run settling free ran
      · exact absurd rfl notRun
    · have settled := settling_step inv settling (same e (by simp)) run step
      simpa [eq_comm, run] using settled

def Turns (s : DisplaySystem) (mode : PowerMode) (filter : OutputFilter) : Prop :=
  ∃ message rest, s.dispatching = some (message, .turnOn filter :: rest) ∧ mode = .on ∨
    s.dispatching = some (message, .turnOff filter :: rest) ∧ mode = .off

def resulting (mode : PowerMode) (filter : OutputFilter) (old : DisplayConfiguration) : ActiveOutputs :=
  countActiveOutputs (applyPowerMode mode (getPowerModeFilterForOutputFilter filter) old)

theorem settling_of_turn {mode : PowerMode} {filter : OutputFilter} {old : DisplayConfiguration}
    (inv : Published bus s) (registered : s.registered = true) (turns : s.Turns mode filter)
    (h : s.turn (some old) = some t) : Settling (resulting mode filter old) s.activeOutputs False t := by
  obtain ⟨message, rest, at_⟩ := turns
  obtain ⟨message', rest', mode', filter', at', thrown | ⟨old', same, assigned⟩⟩ := turn_cases h
  · cases thrown.1
  · obtain rfl := Option.some.inj same
    have agree : mode' = mode ∧ filter' = filter := by
      rcases at_ with ⟨at_, rfl⟩ | ⟨at_, rfl⟩ <;> rcases at' with ⟨at', rfl⟩ | ⟨at', rfl⟩ <;> simp_all
    obtain ⟨rfl, rfl⟩ := agree
    have point : s.loop.point = .dispatching := by
      rcases at_ with ⟨at_, -⟩ | ⟨at_, -⟩ <;> exact (inv.answering _ _ at_).1
    obtain ⟨-, -, rfl⟩ := assign_cases assigned
    refine ⟨registered, rfl, fun _ => ⟨point, rfl, fun u phase holder => ?_⟩, False.elim⟩
    exact (Prod.mk.inj (Option.some.inj holder)).1.symm

/-- A request for the outputs after a successful turn, with no other change in between, is answered with the
outputs that resulted if the loop went on in between, and with the copy from before the turn otherwise. -/
theorem read_your_writes {screenOutputs : ActiveOutputs} {past between : List DisplayEvent} {mode : PowerMode}
    {filter : OutputFilter} {old : DisplayConfiguration} {message : DBusMessage}
    (before : Run bus introspection (start screenOutputs) past s) (registered : s.registered = true)
    (turns : s.Turns mode filter) (turned : s.step bus introspection (.turn (some old)) = some t)
    (run : Run bus introspection t between m) (same : ∀ e ∈ between, e.changes = false)
    (dispatched : m.step bus introspection (.dispatch message) = some n) :
    ∃ effects outputs, n.dispatching = some (message, effects) ∧
      (.loop .run ∈ between → outputs = resulting mode filter old) ∧
      (.loop .run ∉ between → outputs = s.activeOutputs) ∧
      (bus.isMethodCall message dbusPropertiesInterface "Get" = true → AsksGet bus message →
        effects.filterMap DisplayEffect.reply = [.methodReturn [activeOutputsVariant outputs]]) ∧
      (bus.isMethodCall message dbusPropertiesInterface "GetAll" = true → AsksGetAll bus message →
        effects.filterMap DisplayEffect.reply = [.methodReturn [activeOutputsDict outputs]]) := by
  have inv := published_of_run before
  obtain ⟨inv', settling⟩ := settling_of_run (published_step inv turned)
    (settling_of_turn inv registered turns turned) same run
  obtain ⟨point, -, -, rfl⟩ := dispatch_cases dispatched
  refine ⟨_, m.activeOutputs, rfl, fun left => ?_, fun stays => (settling.still stays).2.1,
    fun call asks => (replies_get call).1 asks, fun call asks => (replies_getAll call).1 asks⟩
  obtain ⟨idle, empty⟩ := settling.gone left
  have quiet : m.Quiet := ⟨idle, empty (by simp [point, RunPoint.pastSwap]), by simp [point, RunPoint.batch],
    by simp [point, RunPoint.current]⟩
  rw [inv'.copy, inv'.executed_of_quiet quiet, inv'.latest settling.registered, Option.getD_some, settling.screen]

def turnOnAll : DBusMessage := ⟨.methodCall, some dbusDisplayInterface, some "TurnOn", [.string "all"]⟩

def oneOff : DisplayConfiguration := [⟨.other 0, true, true, .off⟩]

def turnOnReceived : List DisplayEvent := refreshed ++ [.dispatch turnOnAll]

def finishTurn : List DisplayEvent :=
  [.callHandler, .loop (.store .loop), .loop (.write .loop), .unlock, .reply, .handled]

def nextIteration : List DisplayEvent :=
  ([.run, .run, .wake, .read, .run, .run, .run, .run] : List (LoopEvent ActiveOutputs)).map .loop

/-- The two calls are dispatched in one iteration. -/
theorem read_your_writes_fails : ∃ s t m n,
    Run .reference "" (start ⟨0, 0⟩) turnOnReceived s ∧ s.Turns .on .all ∧
      s.step .reference "" (.turn (some oneOff)) = some t ∧ Run .reference "" t finishTurn m ∧
      m.step .reference "" (.dispatch getActiveOutputs) = some n ∧ resulting .on .all oneOff = ⟨1, 0⟩ ∧
      n.dispatching = some (getActiveOutputs, [.send (.methodReturn [activeOutputsVariant ⟨0, 0⟩])]) := by
  have ran {s : DisplaySystem} {es : List DisplayEvent} {t : DisplaySystem} :
      es.foldlM (step .reference "") s = some t → Run .reference "" s es t := Library.run_of_foldlM_option.mp
  exact ⟨_, _, _, _, ran rfl, ⟨_, _, .inl ⟨rfl, rfl⟩⟩, rfl, ran rfl, rfl, rfl, rfl⟩

theorem read_your_writes_next : ∃ effects : List DisplayEffect, ∃ outputs, outputs = ⟨1, 0⟩ ∧
    effects.filterMap DisplayEffect.reply = [.methodReturn [activeOutputsVariant outputs]] := by
  obtain ⟨s, t, m, n, ran, registered, turns, turned, finished, dispatched⟩ : ∃ s t m n,
      turnOnReceived.foldlM (step .reference "") (start ⟨0, 0⟩) = some s ∧
      s.registered = true ∧ s.Turns .on .all ∧ s.step .reference "" (.turn (some oneOff)) = some t ∧
      (finishTurn ++ nextIteration).foldlM (step .reference "") t = some m ∧
      m.step .reference "" (.dispatch getActiveOutputs) = some n :=
    ⟨_, _, _, _, rfl, rfl, ⟨_, _, .inl ⟨rfl, rfl⟩⟩, rfl, rfl, rfl⟩
  obtain ⟨effects, outputs, -, fresh, -, answer, -⟩ :=
    read_your_writes (Library.run_of_foldlM_option.mp ran) registered turns turned
      (Library.run_of_foldlM_option.mp finished) (by decide) dispatched
  exact ⟨effects, outputs, fresh (by simp [nextIteration]), answer (by decide) rfl⟩

end DisplaySystem
end SystemCompositor
