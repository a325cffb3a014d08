import SystemCompositor.DBusEventLoop.Basic

namespace SystemCompositor
namespace DBusEventLoop
variable {α : Type}

theorem mayCall_iff {l : DBusEventLoop α} {t : Thread} :
    l.mayCall t = true ↔ l.calls t = none ∧ (t ≠ .loop ∨ l.point.inCallback = true) := by
  simp [mayCall]

theorem enter_iff {l m : DBusEventLoop α} {t : Thread} {call : LoopCall α} :
    l.enter t call = some m ↔
      l.calls t = none ∧ (t ≠ .loop ∨ l.point.inCallback) ∧
        m = { l with calls := Function.update l.calls t (some call) } := by
  rw [enter, ← and_assoc, ← mayCall_iff]
  split_ifs with h <;> simp [h, eq_comm]

theorem leaveWait_iff {l m : DBusEventLoop α} {next : RunPoint α} :
    l.leaveWait next = some m ↔ l.point = .waiting ∧ m = { l with point := next } := by
  rw [leaveWait]
  split <;> simp_all [eq_comm]

theorem store_cases {l m : DBusEventLoop α} {t : Thread} (h : l.store t = some m) :
    (∃ action, l.calls t = some (.push action) ∧
      m = { l with
        actions := l.actions ++ [action], pushed := l.pushed ++ [action]
        calls := Function.update l.calls t (some (.write .enqueue)) }) ∨
    (l.calls t = some .halt ∧
      m = { l with running := false, calls := Function.update l.calls t (some (.write .stop)) }) := by
  rw [store] at h
  split at h
  case h_1 action call => exact .inl ⟨action, call, (Option.some.inj h).symm⟩
  case h_2 call => exact .inr ⟨call, (Option.some.inj h).symm⟩
  case h_3 => cases h

theorem write_iff {l m : DBusEventLoop α} {t : Thread} :
    l.write t = some m ↔ ∃ caller, l.calls t = some (.write caller) ∧
      m = { l with unread := l.unread + 1, calls := Function.update l.calls t none } := by
  constructor
  · intro h
    rw [write] at h
    split at h
    case h_1 caller call => exact ⟨caller, call, (Option.some.inj h).symm⟩
    case h_2 => cases h
  · rintro ⟨caller, call, rfl⟩
    simp [write, call]

theorem read_iff {l m : DBusEventLoop α} :
    l.read = some m ↔ l.point = .reading ∧ m = { l with unread := l.unread - 1, point := .swapping } := by
  rw [read]
  split <;> simp_all [eq_comm]

theorem run_frame {l m : DBusEventLoop α} (h : l.run = some m) :
    m.unread = l.unread ∧ m.calls = l.calls ∧ m.pushed = l.pushed := by
  rw [run] at h
  split at h <;> simp only [Option.some.injEq, reduceCtorEq] at h <;> subst h <;> exact ⟨rfl, rfl, rfl⟩

theorem step_stop {l m : DBusEventLoop α} {t : Thread} (h : l.step (.stop t) = some m) :
    l.started = true ∧ l.enter t .halt = some m := by
  rw [step] at h
  split_ifs at h with started
  exact ⟨started, h⟩

theorem step_run {l m : DBusEventLoop α} (h : l.step .run = some m) : l.calls .loop = none ∧ l.run = some m := by
  rw [step] at h
  split_ifs at h with free
  exact ⟨Option.isNone_iff_eq_none.mp free, h⟩

theorem step_wake {l m : DBusEventLoop α} (h : l.step .wake = some m) :
    0 < l.unread ∧ l.point = .waiting ∧ m = { l with point := .reading } := by
  rw [step] at h
  split_ifs at h with unread
  exact ⟨unread, leaveWait_iff.mp h⟩

/-- A step of `run` begins an action, ends one, or leaves the actions executed as they are. -/
theorem run_cases {l m : DBusEventLoop α} (h : l.run = some m) :
    (∃ action rest, l.point = .executing (action :: rest) ∧ m.point = .acting action rest ∧
      m.executed = l.executed ++ [(.loop, action)]) ∨
    (∃ action rest, l.point = .acting action rest ∧ m.point = .executing rest ∧ m.executed = l.executed) ∨
    ((∀ action rest, l.point ≠ .executing (action :: rest)) ∧ (∀ action rest, l.point ≠ .acting action rest) ∧
      (∀ action rest, m.point ≠ .acting action rest) ∧ m.executed = l.executed) := by
  cases point : l.point with
  | executing rest =>
      cases rest with
      | nil =>
          obtain rfl : _ = m := by simpa [run, point] using h
          simp
      | cons action rest =>
          obtain rfl : _ = m := by simpa [run, point] using h
          exact .inl ⟨action, rest, rfl, rfl, rfl⟩
  | acting action rest =>
      obtain rfl : _ = m := by simpa [run, point] using h
      exact .inr (.inl ⟨action, rest, rfl, rfl, rfl⟩)
  | testing =>
      obtain rfl : _ = m := by simpa [run, point] using h
      cases l.running <;> simp
  | waiting | reading | returned => simp [run, point] at h
  | before | starting | handling | swapping | dispatching | flushing =>
      obtain rfl : _ = m := by simpa [run, point] using h
      simp

theorem pushes_step {l m : DBusEventLoop α} {e : LoopEvent α} (h : l.step e = some m)
    (other : ∀ t action, e ≠ .enqueue t action) :
    (m.pushed = l.pushed ∧ ∀ t action, m.calls t = some (.push action) ↔ l.calls t = some (.push action)) ∨
    ∃ t action, l.calls t = some (.push action) ∧ m.pushed = l.pushed ++ [action] ∧
      m.calls = Function.update l.calls t (some (.write .enqueue)) := by
  have entered {t : Thread} {call : LoopCall α} (h : l.enter t call = some m)
      (quiet : ∀ action, call ≠ .push action) :
      m.pushed = l.pushed ∧ ∀ t action, m.calls t = some (.push action) ↔ l.calls t = some (.push action) := by
    obtain ⟨free, -, rfl⟩ := enter_iff.mp h
    refine ⟨rfl, fun u action => ?_⟩
    by_cases same : u = t
    · simp [same, free, quiet]
    · simp [same]
  have replaced {t : Thread} {call : LoopCall α} {after : Option (LoopCall α)} (call_eq : l.calls t = some call)
      (quiet : ∀ action, call ≠ .push action) (quiet' : ∀ action, after ≠ some (.push action)) (u : Thread)
      (action : α) :
      Function.update l.calls t after u = some (.push action) ↔ l.calls u = some (.push action) := by
    by_cases same : u = t
    · simp [same, call_eq, quiet, quiet']
    · simp [same]
  cases e with
  | enqueue t action => exact absurd rfl (other t action)
  | stop t => exact .inl (entered (step_stop h).2 (by simp))
  | wakeUp t => exact .inl (entered h (by simp))
  | store t =>
      rcases store_cases h with ⟨action, call, rfl⟩ | ⟨call, rfl⟩
      · exact .inr ⟨t, action, call, rfl, rfl⟩
      · exact .inl ⟨rfl, replaced call (by simp) (by simp)⟩
  | write t =>
      obtain ⟨caller, call, rfl⟩ := write_iff.mp h
      exact .inl ⟨rfl, replaced call (by simp) (by simp)⟩
  | run =>
      obtain ⟨-, calls, pushed⟩ := run_frame (step_run h).2
      exact .inl ⟨pushed, by simp [calls]⟩
  | read =>
      obtain ⟨-, rfl⟩ := read_iff.mp h
      exact .inl ⟨rfl, fun _ _ => Iff.rfl⟩
  | wake =>
      obtain ⟨-, -, rfl⟩ := step_wake h
      exact .inl ⟨rfl, fun _ _ => Iff.rfl⟩
  | ready | interrupted =>
      obtain ⟨-, rfl⟩ := leaveWait_iff.mp h
      exact .inl ⟨rfl, fun _ _ => Iff.rfl⟩

theorem executed_step {l m : DBusEventLoop α} {e : LoopEvent α} (h : l.step e = some m) (other : e ≠ .run) :
    m.executed = l.executed ∧
      (m.point = l.point ∨ (l.point = .waiting ∨ l.point = .reading) ∧
        (m.point = .reading ∨ m.point = .handling ∨ m.point = .testing ∨ m.point = .swapping)) := by
  cases e with
  | enqueue t action =>
      obtain ⟨-, -, rfl⟩ := enter_iff.mp h
      exact ⟨rfl, .inl rfl⟩
  | stop t =>
      obtain ⟨-, -, rfl⟩ := enter_iff.mp (step_stop h).2
      exact ⟨rfl, .inl rfl⟩
  | wakeUp t =>
      obtain ⟨-, -, rfl⟩ := enter_iff.mp h
      exact ⟨rfl, .inl rfl⟩
  | store t => rcases store_cases h with ⟨action, -, rfl⟩ | ⟨-, rfl⟩ <;> exact ⟨rfl, .inl rfl⟩
  | write t =>
      obtain ⟨caller, -, rfl⟩ := write_iff.mp h
      exact ⟨rfl, .inl rfl⟩
  | run => exact absurd rfl other
  | read =>
      obtain ⟨point, rfl⟩ := read_iff.mp h
      exact ⟨rfl, .inr ⟨.inr point, by simp⟩⟩
  | wake =>
      obtain ⟨-, point, rfl⟩ := step_wake h
      exact ⟨rfl, .inr ⟨.inl point, by simp⟩⟩
  | ready | interrupted =>
      obtain ⟨point, rfl⟩ := leaveWait_iff.mp h
      exact ⟨rfl, .inr ⟨.inl point, by simp⟩⟩

theorem inCallback_enter {l m : DBusEventLoop α} {t : Thread} {call : LoopCall α}
    (inside : l.calls .loop ≠ none → l.point.inCallback = true) (h : l.enter t call = some m) :
    m.calls .loop ≠ none → m.point.inCallback = true := by
  obtain ⟨-, may, rfl⟩ := enter_iff.mp h
  cases t with
  | loop => exact fun _ => may.resolve_left (fun other => other rfl)
  | other id => simpa using inside

/-- The loop thread makes its calls inside a callback, and stays there until they return. -/
theorem inCallback_step {l m : DBusEventLoop α} {e : LoopEvent α}
    (inside : l.calls .loop ≠ none → l.point.inCallback = true)
    (h : l.step e = some m) : m.calls .loop ≠ none → m.point.inCallback = true := by
  have outsideCall {next : RunPoint α} {calls : Thread → Option (LoopCall α)} (same : calls = l.calls)
      (outside : l.point.inCallback = false) : calls .loop ≠ none → next.inCallback = true := by
    intro calling
    rw [inside (same ▸ calling)] at outside
    cases outside
  cases e with
  | enqueue t action => exact inCallback_enter inside h
  | stop t => exact inCallback_enter inside (step_stop h).2
  | wakeUp t => exact inCallback_enter inside h
  | store t =>
      rcases store_cases h with ⟨action, call, rfl⟩ | ⟨call, rfl⟩ <;> cases t with
      | loop => exact fun _ => inside (by simp [call])
      | other id => simpa using inside
  | write t =>
      obtain ⟨caller, call, rfl⟩ := write_iff.mp h
      cases t with
      | loop => simp
      | other id => simpa using inside
  | run =>
      obtain ⟨idle, ran⟩ := step_run h
      intro calling
      rw [(run_frame ran).2.1] at calling
      exact absurd idle calling
  | read =>
      obtain ⟨point, rfl⟩ := read_iff.mp h
      exact outsideCall rfl (by rw [point]; rfl)
  | wake =>
      obtain ⟨-, point, rfl⟩ := step_wake h
      exact outsideCall rfl (by rw [point]; rfl)
  | ready | interrupted =>
      obtain ⟨point, rfl⟩ := leaveWait_iff.mp h
      exact outsideCall rfl (by rw [point]; rfl)

end DBusEventLoop
end SystemCompositor
