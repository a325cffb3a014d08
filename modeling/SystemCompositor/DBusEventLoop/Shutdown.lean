import SystemCompositor.DBusEventLoop.Pipe

namespace SystemCompositor

namespace LoopEvent
variable {α : Type}

/-- A step that `run` itself takes on the loop thread. -/
def isRun : LoopEvent α → Bool
  | .run | .read | .wake | .ready | .interrupted => true
  | .enqueue .. | .stop _ | .wakeUp _ | .store _ | .write _ => false

/-- A step that needs no new call, no event on a watch or a timer and no signal. -/
def unprompted : LoopEvent α → Bool
  | .run | .read | .wake | .store _ | .write _ => true
  | .enqueue .. | .stop _ | .wakeUp _ | .ready | .interrupted => false

end LoopEvent

namespace RunPoint
variable {α : Type}

/-- The queue will not be swapped again before the next test of `running`. -/
def swapped : RunPoint α → Bool
  | .executing _ | .acting _ _ | .dispatching | .testing | .flushing | .returned => true
  | .before | .starting | .waiting | .reading | .handling | .swapping => false

end RunPoint

namespace DBusEventLoop
variable {α : Type}

/-- The steps to the return of a halted `run`, if nothing more is pushed before it swaps the queue. -/
def stepsLeft (l : DBusEventLoop α) : Nat :=
  match l.point with
  | .before | .starting => 0
  | .waiting => 2 * l.actions.length + 7
  | .reading | .handling => 2 * l.actions.length + 6
  | .swapping => 2 * l.actions.length + 5
  | .acting _ rest => 2 * rest.length + 5
  | .executing rest => 2 * rest.length + 4
  | .dispatching => 3
  | .testing => 2
  | .flushing => 1
  | .returned => 0

structure Halted (l : DBusEventLoop α) : Prop where
  stopped : l.running = false
  entered : l.point ≠ .before ∧ l.point ≠ .starting

theorem entered_step {l m : DBusEventLoop α} {e : LoopEvent α} (h : l.step e = some m)
    (entered : l.started = true → l.point ≠ .before ∧ l.point ≠ .starting) (started : m.started = true) :
    m.point ≠ .before ∧ m.point ≠ .starting := by
  cases e with
  | enqueue t action =>
      obtain ⟨-, -, rfl⟩ := enter_iff.mp h
      exact entered started
  | stop t =>
      obtain ⟨-, -, rfl⟩ := enter_iff.mp (step_stop h).2
      exact entered started
  | wakeUp t =>
      obtain ⟨-, -, rfl⟩ := enter_iff.mp h
      exact entered started
  | store t => rcases store_cases h with ⟨action, -, rfl⟩ | ⟨-, rfl⟩ <;> exact entered started
  | write t =>
      obtain ⟨caller, -, rfl⟩ := write_iff.mp h
      exact entered started
  | read =>
      obtain ⟨-, rfl⟩ := read_iff.mp h
      simp
  | wake =>
      obtain ⟨-, -, rfl⟩ := step_wake h
      simp
  | ready | interrupted =>
      obtain ⟨-, rfl⟩ := leaveWait_iff.mp h
      simp
  | run =>
      have moved := (step_run h).2
      rw [DBusEventLoop.run] at moved
      split at moved <;> simp only [Option.some.injEq, reduceCtorEq] at moved <;> subst moved
      case h_1 point => exact absurd point (entered started).1
      case h_3 => cases l.running <;> simp
      all_goals simp

theorem entered_of_run {capacity : Nat} {es : List (LoopEvent α)} {l : DBusEventLoop α}
    (run : PipeRun capacity {} es l) :
    l.started = true → l.point ≠ .before ∧ l.point ≠ .starting :=
  run.invariant (fun _ l => l.started = true → l.point ≠ .before ∧ l.point ≠ .starting) (by simp)
    fun _ _ _ _ _ entered step => entered_step (pipeStep_step step) entered

/-- What a step does to a halted loop: it stays halted, a step of `run` brings it nearer to its return, and only
an action that is pushed before the swap takes it further away. -/
structure Nearer (l : DBusEventLoop α) (e : LoopEvent α) (m : DBusEventLoop α) : Prop where
  halted : m.Halted
  swapped : l.point.swapped = true → m.point.swapped = true
  left : m.stepsLeft + (if e.isRun then 1 else 0) + 2 * l.pushed.length ≤ l.stepsLeft + 2 * m.pushed.length
  leftSwapped : l.point.swapped = true → m.stepsLeft + (if e.isRun then 1 else 0) ≤ l.stepsLeft

theorem Halted.moves {l : DBusEventLoop α} (halted : l.Halted) {e : LoopEvent α} (own : e.isRun = true)
    {m : DBusEventLoop α} (stopped : m.running = l.running) (entered : m.point ≠ .before ∧ m.point ≠ .starting)
    (pushed : m.pushed = l.pushed) (swapped : l.point.swapped = true → m.point.swapped = true)
    (left : m.stepsLeft + 1 ≤ l.stepsLeft) : l.Nearer e m where
  halted := ⟨stopped.trans halted.stopped, entered⟩
  swapped := swapped
  left := by rw [if_pos own, pushed]; omega
  leftSwapped _ := by rwa [if_pos own]

theorem Halted.calls {l : DBusEventLoop α} (halted : l.Halted) {e : LoopEvent α} (other : e.isRun = false)
    {m : DBusEventLoop α} (stopped : m.running = false) (point : m.point = l.point) (actions : m.actions = l.actions)
    (pushed : m.pushed = l.pushed) : l.Nearer e m := by
  have same : m.stepsLeft = l.stepsLeft := by simp only [stepsLeft, point, actions]
  exact ⟨⟨stopped, by rw [point]; exact halted.entered⟩, by rw [point]; exact id, by simp [other, same, pushed],
    fun _ => by simp [other, same]⟩

theorem Halted.push {l : DBusEventLoop α} (halted : l.Halted) (t : Thread) (action : α) : l.Nearer (.store t)
    { l with
      actions := l.actions ++ [action], pushed := l.pushed ++ [action]
      calls := Function.update l.calls t (some (.write .enqueue)) } := by
  refine ⟨⟨halted.stopped, halted.entered⟩, id, ?_, fun swapped => ?_⟩
  · cases point : l.point <;> simp [stepsLeft, point, LoopEvent.isRun] <;> omega
  · cases point : l.point <;> simp [point, RunPoint.swapped] at swapped <;> simp [stepsLeft, point, LoopEvent.isRun]

theorem Halted.step {l m : DBusEventLoop α} {e : LoopEvent α} (halted : l.Halted) (h : l.step e = some m) :
    l.Nearer e m := by
  cases e with
  | enqueue t action =>
      obtain ⟨-, -, rfl⟩ := enter_iff.mp h
      exact halted.calls rfl halted.stopped rfl rfl rfl
  | stop t =>
      obtain ⟨-, -, rfl⟩ := enter_iff.mp (step_stop h).2
      exact halted.calls rfl halted.stopped rfl rfl rfl
  | wakeUp t =>
      obtain ⟨-, -, rfl⟩ := enter_iff.mp h
      exact halted.calls rfl halted.stopped rfl rfl rfl
  | store t =>
      rcases store_cases h with ⟨action, -, rfl⟩ | ⟨-, rfl⟩
      · exact halted.push t action
      · exact halted.calls rfl rfl rfl rfl rfl
  | write t =>
      obtain ⟨caller, -, rfl⟩ := write_iff.mp h
      exact halted.calls rfl halted.stopped rfl rfl rfl
  | read =>
      obtain ⟨point, rfl⟩ := read_iff.mp h
      exact halted.moves rfl rfl (by simp) rfl (by simp [point, RunPoint.swapped]) (by simp [stepsLeft, point])
  | wake =>
      obtain ⟨-, point, rfl⟩ := step_wake h
      exact halted.moves rfl rfl (by simp) rfl (by simp [point, RunPoint.swapped]) (by simp [stepsLeft, point])
  | ready | interrupted =>
      obtain ⟨point, rfl⟩ := leaveWait_iff.mp h
      exact halted.moves rfl rfl (by simp) rfl (by simp [point, RunPoint.swapped]) (by simp [stepsLeft, point])
  | run =>
      have moved := (step_run h).2
      have stopped := halted.stopped
      rw [DBusEventLoop.run] at moved
      split at moved <;> simp only [Option.some.injEq, reduceCtorEq] at moved <;> subst moved <;> rename_i point
      · exact absurd point halted.entered.1
      · exact absurd point halted.entered.2
      all_goals
        refine halted.moves rfl rfl ?_ rfl ?_ ?_
        · simp [stopped]
        · simp [point, stopped, RunPoint.swapped]
        · simp [stepsLeft, point, stopped] <;> omega

theorem Halted.run {capacity : Nat} {es : List (LoopEvent α)} {l m : DBusEventLoop α} (halted : l.Halted)
    (run : PipeRun capacity l es m) : m.Halted ∧ (l.point.swapped = true → m.point.swapped = true) ∧
      m.stepsLeft + es.countP LoopEvent.isRun + 2 * l.pushed.length ≤ l.stepsLeft + 2 * m.pushed.length ∧
      (l.point.swapped = true → m.stepsLeft + es.countP LoopEvent.isRun ≤ l.stepsLeft) := by
  induction run with
  | nil l => exact ⟨halted, id, by simp, by simp⟩
  | @cons l m n e es first rest ih =>
      have nearer := halted.step (pipeStep_step first)
      obtain ⟨halted', swapped, left, leftSwapped⟩ := ih nearer.halted
      have left' := nearer.left
      refine ⟨halted', swapped ∘ nearer.swapped, ?_, fun at_ => ?_⟩
      · rw [List.countP_cons]
        omega
      · have leftSwapped' := nearer.leftSwapped at_
        have leftSwapped := leftSwapped (nearer.swapped at_)
        rw [List.countP_cons]
        omega

theorem Halted.progress {capacity : Nat} (room : 0 < capacity) {l : DBusEventLoop α} (halted : l.Halted) (inv : Inv l)
    (unblocked : ¬l.Blocked capacity) (under : l.point ≠ .returned) :
    ∃ e : LoopEvent α, e.unprompted = true ∧ (l.pipeStep capacity e).isSome = true := by
  cases call : l.calls .loop with
  | some call' =>
      cases call' with
      | push action | halt => exact ⟨.store .loop, rfl, by simp [pipeStep, DBusEventLoop.step, store, call]⟩
      | write caller =>
          have fits : l.unread < capacity := by
            by_contra full
            exact unblocked ⟨⟨caller, call⟩, not_lt.mp full⟩
          exact ⟨.write .loop, rfl, by simp [pipeStep, fits, write, call]⟩
  | none =>
      cases point : l.point with
      | before => exact absurd point halted.entered.1
      | starting => exact absurd point halted.entered.2
      | returned => exact absurd point under
      | reading => exact ⟨.read, rfl, by simp [pipeStep, DBusEventLoop.step, DBusEventLoop.read, point]⟩
      | waiting =>
          by_cases unread : 0 < l.unread
          · exact ⟨.wake, rfl, by simp [pipeStep, DBusEventLoop.step, unread, leaveWait, point]⟩
          · -- The byte of the `stop` that halted the loop is still to be written, and there is room for it.
            obtain ⟨t, owes⟩ := (inv.halted (.inl point) halted.stopped).resolve_left unread
            have fits : l.unread < capacity := by omega
            exact ⟨.write t, rfl, by simp [pipeStep, fits, write, owes]⟩
      | executing rest =>
          cases rest <;> exact ⟨.run, rfl, by simp [pipeStep, DBusEventLoop.step, call, DBusEventLoop.run, point]⟩
      | testing | handling | swapping | acting action rest | dispatching | flushing =>
          exact ⟨.run, rfl, by simp [pipeStep, DBusEventLoop.step, call, DBusEventLoop.run, point]⟩

/-- Once `stop` has cleared `running`, `run` comes to its return in a bounded number of its own steps, and until
then some step is possible unless the loop thread itself is blocked at the pipe. -/
theorem stop_returns {capacity : Nat} (room : 0 < capacity) {es later : List (LoopEvent α)} {l m : DBusEventLoop α}
    (run : PipeRun capacity {} es l) (started : l.started = true) (stopped : l.running = false)
    (run' : PipeRun capacity l later m) :
    m.running = false ∧
      later.countP LoopEvent.isRun + 2 * l.pushed.length ≤ l.stepsLeft + 2 * m.pushed.length ∧
      (l.point.swapped = true → later.countP LoopEvent.isRun ≤ l.stepsLeft) ∧
      (m.point ≠ .returned → ¬m.Blocked capacity →
        ∃ e : LoopEvent α, e.unprompted = true ∧ (m.pipeStep capacity e).isSome = true) ∧
      (m.point = .returned → m.executed.map Prod.snd ++ m.actions = m.pushed) := by
  have halted : l.Halted := ⟨stopped, entered_of_run run started⟩
  obtain ⟨halted', -, left, leftSwapped⟩ := halted.run run'
  have inv := (reached (Library.Run.append_iff.mpr ⟨l, run, run'⟩)).1
  refine ⟨halted'.stopped, by omega, fun swapped => ?_, fun under unblocked => ?_, fun returned => ?_⟩
  · have leftSwapped := leftSwapped swapped
    omega
  · exact halted'.progress room inv unblocked under
  · simpa [returned, RunPoint.batch] using inv.order

def stopped : List (LoopEvent Nat) :=
  [.run, .run, .run, .ready, .enqueue (.other 0) 7, .store (.other 0), .stop (.other 1), .store (.other 1)]

theorem stop_returns_stopped : ∃ l m : DBusEventLoop Nat, PipeRun 65536 {} stopped l ∧ l.stepsLeft = 8 ∧
    PipeRun 65536 l (List.replicate 8 .run) m ∧ m.point = .returned ∧
    m.executed.map Prod.snd ++ m.actions = m.pushed := by
  obtain ⟨l, ran, left, started, halted, m, ran', returned⟩ : ∃ l : DBusEventLoop Nat,
      stopped.foldlM (pipeStep 65536) {} = some l ∧ l.stepsLeft = 8 ∧ l.started = true ∧ l.running = false ∧
      ∃ m, (List.replicate 8 LoopEvent.run).foldlM (pipeStep 65536) l = some m ∧ m.point = .returned :=
    ⟨_, rfl, rfl, rfl, rfl, _, rfl, rfl⟩
  have run : PipeRun 65536 {} stopped l := Library.run_of_foldlM_option.mp ran
  have run' : PipeRun 65536 l (List.replicate 8 .run) m := Library.run_of_foldlM_option.mp ran'
  obtain ⟨-, -, -, -, lost⟩ := stop_returns (by decide) run started halted run'
  exact ⟨l, m, run, left, run', returned, lost returned⟩

end DBusEventLoop
end SystemCompositor
