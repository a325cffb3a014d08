import Mathlib.Algebra.Order.BigOperators.Group.Finset
import SystemCompositor.DBusEventLoop.Shutdown

namespace SystemCompositor

section
variable {α : Type}

/-- The steps that a call still gives rise to, with those of the loop thread for its action and its byte. -/
def LoopCall.work : LoopCall α → Nat
  | .push _ => 10
  | .halt => 8
  | .write _ => 7

/-- What is left to do at a place of `run`, where a byte in the pipe pays for the iteration that it brings. -/
def RunPoint.work : RunPoint α → Nat
  | .before => 4
  | .starting => 3
  | .testing => 2
  | .waiting | .flushing => 1
  | .reading | .returned => 0
  | .handling => 6
  | .swapping => 5
  | .executing rest => 4 + 2 * rest.length
  | .acting _ rest => 5 + 2 * rest.length
  | .dispatching => 3

namespace LoopEvent

/-- The loop thread does not go on, and no byte is written. -/
def aside : LoopEvent α → Bool
  | .enqueue _ _ | .stop _ | .wakeUp _ | .store _ => true
  | .write _ | .run | .read | .wake | .ready | .interrupted => false

def thread : LoopEvent α → Thread
  | .enqueue t _ | .stop t | .wakeUp t | .store t | .write t => t
  | .run | .read | .wake | .ready | .interrupted => .loop

end LoopEvent
end

namespace DBusEventLoop
variable {α : Type} {threads : Finset Thread} {l m : DBusEventLoop α}

theorem aside_step {e : LoopEvent α} (aside : e.aside = true) (h : l.step e = some m) :
    m.point = l.point ∧ m.unread = l.unread ∧ m.executed = l.executed ∧
      ∀ t caller, l.calls t = some (.write caller) → m.calls t = some (.write caller) := by
  have stays {t : Thread} (call : Option (LoopCall α)) (other : ∀ caller, l.calls t ≠ some (.write caller))
      (u : Thread) (caller : WakeUpCaller) (write : l.calls u = some (.write caller)) :
      Function.update l.calls t call u = some (.write caller) := by
    rw [Function.update_of_ne, write]
    rintro rfl
    exact other caller write
  cases e with
  | enqueue t action =>
      obtain ⟨idle, -, rfl⟩ := enter_iff.mp h
      exact ⟨rfl, rfl, rfl, stays _ (by simp [idle])⟩
  | stop t =>
      obtain ⟨idle, -, rfl⟩ := enter_iff.mp (step_stop h).2
      exact ⟨rfl, rfl, rfl, stays _ (by simp [idle])⟩
  | wakeUp t =>
      obtain ⟨idle, -, rfl⟩ := enter_iff.mp h
      exact ⟨rfl, rfl, rfl, stays _ (by simp [idle])⟩
  | store t =>
      rcases store_cases h with ⟨action, call, rfl⟩ | ⟨call, rfl⟩ <;> exact ⟨rfl, rfl, rfl, stays _ (by simp [call])⟩
  | write | run | read | wake | ready | interrupted => cases aside

def callsWork (threads : Finset Thread) (calls : Thread → Option (LoopCall α)) : Nat :=
  ∑ t ∈ threads, (calls t).elim 0 LoopCall.work

def work (threads : Finset Thread) (l : DBusEventLoop α) : Nat :=
  l.point.work + 2 * l.actions.length + 6 * l.unread + callsWork threads l.calls

def CallsWithin (threads : Finset Thread) (calls : Thread → Option (LoopCall α)) : Prop :=
  ∀ t, calls t ≠ none → t ∈ threads

theorem CallsWithin.update {calls : Thread → Option (LoopCall α)} (within : CallsWithin threads calls) (t : Thread)
    (call : Option (LoopCall α)) : CallsWithin (insert t threads) (Function.update calls t call) := by
  intro u calling
  by_cases same : u = t
  · simp [same]
  · rw [Function.update_of_ne same] at calling
    exact Finset.mem_insert_of_mem (within u calling)

theorem callsWork_update {t : Thread} (member : t ∈ threads) (calls : Thread → Option (LoopCall α))
    (call : Option (LoopCall α)) :
    callsWork threads (Function.update calls t call) + (calls t).elim 0 LoopCall.work =
      callsWork threads calls + call.elim 0 LoopCall.work := by
  have after := Finset.add_sum_erase threads (fun u => (Function.update calls t call u).elim 0 LoopCall.work) member
  have before := Finset.add_sum_erase threads (fun u => (calls u).elim 0 LoopCall.work) member
  have others : ∑ u ∈ threads.erase t, (Function.update calls t call u).elim 0 LoopCall.work =
      ∑ u ∈ threads.erase t, (calls u).elim 0 LoopCall.work :=
    Finset.sum_congr rfl fun u other => by rw [Function.update_of_ne (Finset.ne_of_mem_erase other)]
  simp only [Function.update_self] at after
  simp only [callsWork]
  omega

theorem work_enter {t : Thread} {call : LoopCall α} (member : t ∈ threads) (h : l.enter t call = some m) :
    m.work threads = l.work threads + call.work := by
  obtain ⟨free, -, rfl⟩ := enter_iff.mp h
  have calls := callsWork_update member l.calls (some call)
  simp only [free, Option.elim] at calls
  simp only [work]
  omega

theorem work_store {t : Thread} (within : CallsWithin threads l.calls) (h : l.store t = some m) :
    m.work threads < l.work threads := by
  rcases store_cases h with ⟨action, call, rfl⟩ | ⟨call, rfl⟩
  · have calls := callsWork_update (within t (by simp [call])) l.calls (some (.write .enqueue))
    simp only [call, Option.elim, LoopCall.work] at calls
    simp only [work, List.length_append, List.length_singleton]
    omega
  · have calls := callsWork_update (within t (by simp [call])) l.calls (some (.write .stop))
    simp only [call, Option.elim, LoopCall.work] at calls
    simp only [work]
    omega

theorem work_write {t : Thread} (within : CallsWithin threads l.calls) (h : l.write t = some m) :
    m.work threads < l.work threads := by
  obtain ⟨caller, call, rfl⟩ := write_iff.mp h
  have calls := callsWork_update (within t (by simp [call])) l.calls none
  simp only [call, Option.elim, LoopCall.work] at calls
  simp only [work]
  omega

theorem work_run (h : l.run = some m) : m.work threads < l.work threads := by
  cases point : l.point with
  | testing =>
      obtain rfl : _ = m := by simpa [run, point] using h
      cases l.running <;> simp [work, point, RunPoint.work]
  | executing rest =>
      cases rest with
      | nil =>
          obtain rfl : _ = m := by simpa [run, point] using h
          simp [work, point, RunPoint.work]
      | cons action rest =>
          obtain rfl : _ = m := by simpa [run, point] using h
          simp only [work, point, RunPoint.work, List.length_cons]
          omega
  | waiting | reading | returned => simp [run, point] at h
  | swapping =>
      obtain rfl : _ = m := by simpa [run, point] using h
      simp only [work, point, RunPoint.work, List.length_nil]
      omega
  | before | starting | handling | acting action rest | dispatching | flushing =>
      obtain rfl : _ = m := by simpa [run, point] using h
      simp [work, point, RunPoint.work]

theorem work_read (inv : Inv l) (h : l.read = some m) : m.work threads < l.work threads := by
  obtain ⟨point, rfl⟩ := read_iff.mp h
  have unread := inv.reading point
  simp only [work, point, RunPoint.work]
  omega

theorem work_step {e : LoopEvent α} (inv : Inv l) (within : CallsWithin threads l.calls)
    (alone : e.unprompted = true) (h : l.step e = some m) : m.work threads < l.work threads := by
  cases e with
  | enqueue | stop | wakeUp | ready | interrupted => cases alone
  | store t => exact work_store within h
  | write t => exact work_write within h
  | run => exact work_run (step_run h).2
  | read => exact work_read inv h
  | wake =>
      obtain ⟨-, point, rfl⟩ := step_wake h
      simp [work, point, RunPoint.work]

theorem callsWithin_step {e : LoopEvent α} (within : CallsWithin threads l.calls) (h : l.step e = some m) :
    CallsWithin (insert e.thread threads) m.calls := by
  have widened : CallsWithin (insert e.thread threads) l.calls :=
    fun t calling => Finset.mem_insert_of_mem (within t calling)
  cases e with
  | enqueue t action =>
      obtain ⟨-, -, rfl⟩ := enter_iff.mp h
      exact within.update t _
  | stop t =>
      obtain ⟨-, -, rfl⟩ := enter_iff.mp (step_stop h).2
      exact within.update t _
  | wakeUp t =>
      obtain ⟨-, -, rfl⟩ := enter_iff.mp h
      exact within.update t _
  | store t => rcases store_cases h with ⟨action, -, rfl⟩ | ⟨-, rfl⟩ <;> exact within.update t _
  | write t =>
      obtain ⟨caller, -, rfl⟩ := write_iff.mp h
      exact within.update t _
  | run =>
      rw [(run_frame (step_run h).2).2.1]
      exact widened
  | read =>
      obtain ⟨-, rfl⟩ := read_iff.mp h
      exact widened
  | wake =>
      obtain ⟨-, -, rfl⟩ := step_wake h
      exact widened
  | ready | interrupted =>
      obtain ⟨-, rfl⟩ := leaveWait_iff.mp h
      exact widened

theorem thread_unprompted {e : LoopEvent α} (loop : Thread.loop ∈ threads) (within : CallsWithin threads l.calls)
    (alone : e.unprompted = true) (h : l.step e = some m) : e.thread ∈ threads := by
  cases e with
  | enqueue | stop | wakeUp | ready | interrupted => cases alone
  | run | read | wake => exact loop
  | store t => rcases store_cases h with ⟨action, call, -⟩ | ⟨call, -⟩ <;> exact within t (by simp [call])
  | write t =>
      obtain ⟨caller, call, -⟩ := write_iff.mp h
      exact within t (by simp [call])

end DBusEventLoop
end SystemCompositor
