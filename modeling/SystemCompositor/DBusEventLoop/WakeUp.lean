import SystemCompositor.DBusEventLoop.Steps

namespace SystemCompositor
namespace DBusEventLoop
variable {α : Type}

def Owes (l : DBusEventLoop α) (caller : WakeUpCaller) : Prop := ∃ t, l.calls t = some (.write caller)

theorem owes_update {calls : Thread → Option (LoopCall α)} {t : Thread} {caller : WakeUpCaller}
    {call : Option (LoopCall α)}
    (other : calls t ≠ some (.write caller)) (owes : ∃ u, calls u = some (.write caller)) :
    ∃ u, Function.update calls t call u = some (.write caller) := by
  obtain ⟨u, h⟩ := owes
  refine ⟨u, ?_⟩
  rw [Function.update_of_ne, h]
  rintro rfl
  exact other h

theorem owes_update_self {calls : Thread → Option (LoopCall α)} {t : Thread} {caller : WakeUpCaller} :
    ∃ u, Function.update calls t (some (LoopCall.write caller)) u = some (.write caller) :=
  ⟨t, Function.update_self ..⟩

def WillWake (l : DBusEventLoop α) (caller : WakeUpCaller) : Prop := 0 < l.unread ∨ l.Owes caller

structure Inv (l : DBusEventLoop α) : Prop where
  order : l.executed.map Prod.snd ++ l.point.batch ++ l.actions = l.pushed
  loopOnly : ∀ entry ∈ l.executed, entry.1 = .loop
  reading : l.point = .reading → 0 < l.unread
  queued : l.point ≠ .swapping → l.actions ≠ [] → l.WillWake .enqueue
  halted : l.point = .waiting ∨ l.point = .reading → l.running = false → l.WillWake .stop

theorem inv_initial : Inv ({} : DBusEventLoop α) := by
  constructor <;> simp [RunPoint.batch]

theorem inv_enter {l m : DBusEventLoop α} {t : Thread} {call : LoopCall α} (inv : Inv l)
    (h : l.enter t call = some m) : Inv m := by
  obtain ⟨free, -, rfl⟩ := enter_iff.mp h
  have stays {caller : WakeUpCaller} (will : l.WillWake caller) :
      WillWake { l with calls := Function.update l.calls t (some call) } caller :=
    will.imp_right (owes_update (by simp [free]))
  exact ⟨inv.order, inv.loopOnly, inv.reading, fun h h' => stays (inv.queued h h'),
    fun h h' => stays (inv.halted h h')⟩

theorem inv_store {l m : DBusEventLoop α} {t : Thread} (inv : Inv l) (h : l.store t = some m) : Inv m := by
  rcases store_cases h with ⟨action, call, rfl⟩ | ⟨call, rfl⟩
  · refine ⟨?_, inv.loopOnly, inv.reading, fun _ _ => .inr owes_update_self, fun at_ halted => ?_⟩
    · simp only [← inv.order, List.append_assoc]
    · exact (inv.halted at_ halted).imp_right (owes_update (by simp [call]))
  · refine ⟨inv.order, inv.loopOnly, inv.reading, fun at_ queued => ?_, fun _ _ => .inr owes_update_self⟩
    exact (inv.queued at_ queued).imp_right (owes_update (by simp [call]))

theorem inv_write {l m : DBusEventLoop α} {t : Thread} (inv : Inv l) (h : l.write t = some m) : Inv m := by
  obtain ⟨caller, call, rfl⟩ := write_iff.mp h
  have written : 0 < l.unread + 1 := Nat.succ_pos _
  exact ⟨inv.order, inv.loopOnly, fun _ => written, fun _ _ => .inl written, fun _ _ => .inl written⟩

/-- Moving on without a change of the queue keeps the invariant, unless it enters `epoll_wait` or the read. -/
theorem Inv.moveTo {l : DBusEventLoop α} (inv : Inv l) (next : RunPoint α) (batch : next.batch = l.point.batch)
    (swapped : l.point ≠ .swapping) (reading : next ≠ .reading) (awake : next = .waiting → l.running = true) :
    Inv { l with point := next } where
  order := by
    rw [batch]
    exact inv.order
  loopOnly := inv.loopOnly
  reading := fun at_ => absurd at_ reading
  queued := fun _ queued => inv.queued swapped queued
  halted := by
    rintro (waiting | at_) halted
    · simp [awake waiting] at halted
    · exact absurd at_ reading

theorem Inv.start {l : DBusEventLoop α} (inv : Inv l) (point : l.point = .before) :
    Inv { l with running := true, point := .starting } :=
  have moved := inv.moveTo .starting (by simp [point, RunPoint.batch]) (by simp [point]) (by simp) (by simp)
  ⟨moved.order, moved.loopOnly, moved.reading, moved.queued, by simp⟩

theorem inv_read {l m : DBusEventLoop α} (inv : Inv l) (h : l.read = some m) : Inv m := by
  obtain ⟨point, rfl⟩ := read_iff.mp h
  have order := inv.order
  rw [point] at order
  -- The byte may have been the last, but the swap comes next, before any wait.
  exact ⟨order, inv.loopOnly, by simp, fun ne => absurd rfl ne, by simp⟩

theorem Inv.swap {l : DBusEventLoop α} (inv : Inv l) (point : l.point = .swapping) :
    Inv { l with actions := [], point := .executing l.actions } := by
  have order := inv.order
  rw [point] at order
  refine ⟨?_, inv.loopOnly, by simp, fun _ ne => absurd rfl ne, by simp⟩
  simpa [RunPoint.batch] using order

theorem Inv.execute {l : DBusEventLoop α} (inv : Inv l) {action : α} {rest : List α}
    (point : l.point = .executing (action :: rest)) :
    Inv { l with point := .acting action rest, executed := l.executed ++ [(.loop, action)] } := by
  have order := inv.order
  rw [point] at order
  refine ⟨?_, ?_, by simp, fun _ ne => inv.queued (by simp [point]) ne, by simp⟩
  · simpa [RunPoint.batch] using order
  · intro entry member
    rcases List.mem_append.mp member with earlier | last
    · exact inv.loopOnly entry earlier
    · rw [List.mem_singleton.mp last]

theorem inv_run {l m : DBusEventLoop α} (inv : Inv l) (h : l.run = some m) : Inv m := by
  cases point : l.point with
  | before =>
      obtain rfl : _ = m := by simpa [run, point] using h
      exact inv.start point
  | starting =>
      obtain rfl : _ = m := by simpa [run, point] using h
      have moved : Inv { l with point := .testing } :=
        inv.moveTo .testing (by simp [point, RunPoint.batch]) (by simp [point]) (by simp) (by simp)
      exact ⟨moved.order, moved.loopOnly, moved.reading, moved.queued, moved.halted⟩
  | testing =>
      obtain rfl : _ = m := by simpa [run, point] using h
      refine inv.moveTo _ ?_ (by simp [point]) ?_ ?_
      · cases l.running <;> simp [point, RunPoint.batch]
      · cases l.running <;> simp
      · cases l.running <;> simp
  | waiting | reading | returned => simp [run, point] at h
  | handling | dispatching | flushing | acting action rest =>
      obtain rfl : _ = m := by simpa [run, point] using h
      exact inv.moveTo _ (by simp [point, RunPoint.batch]) (by simp [point]) (by simp) (by simp)
  | swapping =>
      obtain rfl : _ = m := by simpa [run, point] using h
      exact inv.swap point
  | executing rest =>
      cases rest with
      | nil =>
          obtain rfl : _ = m := by simpa [run, point] using h
          exact inv.moveTo _ (by simp [point, RunPoint.batch]) (by simp [point]) (by simp) (by simp)
      | cons action rest =>
          obtain rfl : _ = m := by simpa [run, point] using h
          exact inv.execute point

theorem inv_step {l m : DBusEventLoop α} {e : LoopEvent α} (inv : Inv l) (h : l.step e = some m) : Inv m := by
  cases e with
  | enqueue t action => exact inv_enter inv h
  | stop t => exact inv_enter inv (step_stop h).2
  | wakeUp t => exact inv_enter inv h
  | store t => exact inv_store inv h
  | write t => exact inv_write inv h
  | read => exact inv_read inv h
  | run => exact inv_run inv (step_run h).2
  | wake =>
      obtain ⟨unread, waiting, rfl⟩ := step_wake h
      have order := inv.order
      rw [waiting] at order
      exact ⟨order, inv.loopOnly, fun _ => unread, fun _ _ => .inl unread, fun _ _ => .inl unread⟩
  | ready =>
      obtain ⟨waiting, rfl⟩ := leaveWait_iff.mp h
      exact inv.moveTo _ (by simp [waiting, RunPoint.batch]) (by simp [waiting]) (by simp) (by simp)
  | interrupted =>
      obtain ⟨waiting, rfl⟩ := leaveWait_iff.mp h
      exact inv.moveTo _ (by simp [waiting, RunPoint.batch]) (by simp [waiting]) (by simp) (by simp)

theorem inv_of_run {es : List (LoopEvent α)} {l : DBusEventLoop α} (run : Run {} es l) : Inv l :=
  run.invariant (fun _ l => Inv l) inv_initial fun _ _ _ _ _ inv step => inv_step inv step

def CallsDone (l : DBusEventLoop α) : Prop :=
  ∀ t, l.calls t = none ∨ l.calls t = some (.write .wakeUp)

/-- A loop thread that sleeps with no call under way has nothing to do. -/
theorem no_lost_wake_up {es : List (LoopEvent α)} {l : DBusEventLoop α} (run : Run {} es l) :
    (∀ entry ∈ l.executed, entry.1 = .loop) ∧ l.executed.map Prod.snd <+: l.pushed ∧
      (l.point = .waiting → l.unread = 0 → l.CallsDone → l.actions = [] ∧ l.running = true) := by
  have inv := inv_of_run run
  refine ⟨inv.loopOnly, ⟨l.point.batch ++ l.actions, ?_⟩, fun waiting empty done => ?_⟩
  · rw [← List.append_assoc]
    exact inv.order
  · -- No byte is in the pipe and no call owes one, so nothing would wake the loop.
    have asleep (caller : WakeUpCaller) (other : caller ≠ .wakeUp) : ¬ l.WillWake caller := by
      rintro (unread | ⟨t, owes⟩)
      · omega
      · rcases done t with h | h <;> simp_all
    constructor
    · by_contra queued
      exact asleep .enqueue (by simp) (inv.queued (by simp [waiting]) queued)
    · by_contra halted
      exact asleep .stop (by simp) (inv.halted (.inl waiting) (by simpa using halted))

def oneAction : List (LoopEvent Nat) :=
  [.run, .run, .run, .enqueue (.other 0) 7, .store (.other 0), .interrupted, .run, .write (.other 0), .wake, .read,
    .run, .run, .run, .run, .run, .run]

theorem no_lost_wake_up_oneAction : ∃ l, Run {} oneAction l ∧ l.point = .waiting ∧ l.executed = [(.loop, 7)] ∧
    l.executed.map Prod.snd <+: l.pushed ∧ l.actions = [] ∧ l.running = true := by
  have reached : ∃ l, oneAction.foldlM step {} = some l ∧ l.point = .waiting ∧ l.unread = 0 ∧
      l.executed = [(.loop, 7)] ∧ l.calls = Function.update (Function.update (Function.update (fun _ => none)
        (.other 0) (some (.push 7))) (.other 0) (some (.write .enqueue))) (.other 0) none :=
    ⟨_, rfl, rfl, rfl, rfl, rfl⟩
  obtain ⟨l, ran, waiting, empty, executed, calls⟩ := reached
  have run : Run {} oneAction l := Library.run_of_foldlM_option.mp ran
  have done : l.CallsDone := fun t => by
    rw [calls]
    by_cases h : t = .other 0 <;> simp [h]
  exact ⟨l, run, waiting, executed, (no_lost_wake_up run).2.1, (no_lost_wake_up run).2.2 waiting empty done⟩

end DBusEventLoop
end SystemCompositor
