import Mathlib.Data.List.DropRight
import SystemCompositor.DBusEventLoop.WakeUp

namespace SystemCompositor

namespace LoopEvent
variable {α : Type}

def isWrite : LoopEvent α → Bool
  | .write _ => true
  | _ => false

def isRead : LoopEvent α → Bool
  | .read => true
  | _ => false

def isOwnWrite : LoopEvent α → Bool
  | .write .loop => true
  | _ => false

def isOtherWrite : LoopEvent α → Bool
  | .write (.other _) => true
  | _ => false

/-- The loop thread comes to its write. -/
def isWakeUp : LoopEvent α → Bool
  | .store .loop | .wakeUp .loop => true
  | _ => false

/-- The pipe begins an iteration. -/
def isWake : LoopEvent α → Bool
  | .wake => true
  | _ => false

/-- `epoll_wait` returns. -/
def leavesWait : LoopEvent α → Bool
  | .wake | .ready | .interrupted => true
  | _ => false

end LoopEvent

namespace DBusEventLoop
variable {α : Type}

/-- The step over a blocking pipe: a write to it waits while it holds `capacity` bytes. -/
def pipeStep (capacity : Nat) (l : DBusEventLoop α) : LoopEvent α → Option (DBusEventLoop α)
  | .write t => if l.unread < capacity then l.write t else none
  | e => l.step e

abbrev PipeStep (capacity : Nat) (l : DBusEventLoop α) (e : LoopEvent α) (m : DBusEventLoop α) : Prop :=
  l.pipeStep capacity e = some m

abbrev PipeRun (capacity : Nat) (l : DBusEventLoop α) (es : List (LoopEvent α)) (m : DBusEventLoop α) : Prop :=
  Library.Run (PipeStep capacity) l es m

def AtWrite (l : DBusEventLoop α) : Prop := ∃ caller, l.calls .loop = some (.write caller)

/-- The loop thread waits for a read that only it could make. -/
def Blocked (capacity : Nat) (l : DBusEventLoop α) : Prop := l.AtWrite ∧ capacity ≤ l.unread

def writes (es : List (LoopEvent α)) : Nat := es.countP LoopEvent.isWrite

def reads (es : List (LoopEvent α)) : Nat := es.countP LoopEvent.isRead

def ownWrites (es : List (LoopEvent α)) : Nat := es.countP LoopEvent.isOwnWrite

def otherWrites (es : List (LoopEvent α)) : Nat := es.countP LoopEvent.isOtherWrite

def wakeUps (es : List (LoopEvent α)) : Nat := es.countP LoopEvent.isWakeUp

def woken (es : List (LoopEvent α)) : Nat := es.countP LoopEvent.isWake

/-- Up to the next return of `epoll_wait`. -/
def iteration : List (LoopEvent α) → List (LoopEvent α)
  | [] => []
  | e :: es => e :: es.takeWhile fun e => !e.leavesWait

/-- An iteration as far as the last wake-up of the loop thread in it is through. -/
def untilThrough (es : List (LoopEvent α)) : List (LoopEvent α) :=
  if ownWrites es = wakeUps es then es.rdropWhile fun e => !e.isOwnWrite else es

/-- An iteration begins with the return of its `epoll_wait`; what comes before the first counts as one, too. -/
def begins (past rest : List (LoopEvent α)) : Bool := past.isEmpty || rest.head?.any (·.leavesWait)

/-- In every iteration in which the loop thread wakes itself up, its wake-ups so far and the bytes of other
threads until the last of them is through are no more than the capacity and the iterations that the pipe began,
each of which reads one byte. -/
def LeavesRoom (capacity : Nat) (es : List (LoopEvent α)) : Prop :=
  ∀ past rest, past ++ rest = es → begins past rest = true → 0 < wakeUps (iteration rest) →
    wakeUps (past ++ iteration rest) + otherWrites (past ++ untilThrough (iteration rest)) ≤
      capacity + woken (past ++ iteration rest)

instance (capacity : Nat) (es : List (LoopEvent α)) : Decidable (LeavesRoom capacity es) :=
  decidable_of_iff (∀ k ≤ es.length, begins (es.take k) (es.drop k) = true → 0 < wakeUps (iteration (es.drop k)) →
      wakeUps (es.take k ++ iteration (es.drop k)) +
          otherWrites (es.take k ++ untilThrough (iteration (es.drop k))) ≤
        capacity + woken (es.take k ++ iteration (es.drop k))) <| by
    constructor
    · rintro room past rest rfl
      simpa using room past.length (by simp)
    · intro room k _
      exact room _ _ (List.take_append_drop k es)

theorem pipeStep_step {capacity : Nat} {l m : DBusEventLoop α} {e : LoopEvent α}
    (h : l.pipeStep capacity e = some m) : l.step e = some m := by
  cases e with
  | write t =>
      rw [pipeStep] at h
      split_ifs at h
      exact h
  | _ => exact h

theorem unread_step {l m : DBusEventLoop α} {e : LoopEvent α} (inv : Inv l) (h : l.step e = some m) :
    m.unread + reads [e] = l.unread + writes [e] := by
  cases e with
  | enqueue t action =>
      obtain ⟨-, -, rfl⟩ := enter_iff.mp h
      rfl
  | stop t =>
      obtain ⟨-, -, rfl⟩ := enter_iff.mp (step_stop h).2
      rfl
  | wakeUp t =>
      obtain ⟨-, -, rfl⟩ := enter_iff.mp h
      rfl
  | store t => rcases store_cases h with ⟨action, -, rfl⟩ | ⟨-, rfl⟩ <;> rfl
  | write t =>
      obtain ⟨caller, -, rfl⟩ := write_iff.mp h
      rfl
  | run => exact congrArg (· + 0) (run_frame (step_run h).2).1
  | read =>
      obtain ⟨point, rfl⟩ := read_iff.mp h
      have unread := inv.reading point
      change l.unread - 1 + 1 = l.unread
      omega
  | wake =>
      obtain ⟨-, -, rfl⟩ := step_wake h
      rfl
  | ready | interrupted =>
      obtain ⟨-, rfl⟩ := leaveWait_iff.mp h
      rfl

theorem reached {capacity : Nat} {es : List (LoopEvent α)} {l : DBusEventLoop α}
    (run : PipeRun capacity {} es l) :
    Inv l ∧ l.unread + reads es = writes es := by
  refine run.invariant (fun past l => Inv l ∧ l.unread + reads past = writes past) ⟨inv_initial, rfl⟩ ?_
  rintro past l e m - ⟨inv, balance⟩ step
  have step := pipeStep_step step
  have change := unread_step inv step
  refine ⟨inv_step inv step, ?_⟩
  rw [reads, writes, List.countP_append, List.countP_append, ← reads, ← writes, ← reads, ← writes]
  omega

theorem wakeUps_append (es later : List (LoopEvent α)) : wakeUps (es ++ later) = wakeUps es + wakeUps later :=
  List.countP_append ..

theorem ownWrites_append (es later : List (LoopEvent α)) :
    ownWrites (es ++ later) = ownWrites es + ownWrites later :=
  List.countP_append ..

theorem otherWrites_append (es later : List (LoopEvent α)) :
    otherWrites (es ++ later) = otherWrites es + otherWrites later :=
  List.countP_append ..

theorem woken_append (es later : List (LoopEvent α)) : woken (es ++ later) = woken es + woken later :=
  List.countP_append ..

theorem reads_append (es later : List (LoopEvent α)) : reads (es ++ later) = reads es + reads later :=
  List.countP_append ..

theorem writes_eq (es : List (LoopEvent α)) : writes es = ownWrites es + otherWrites es := by
  induction es with
  | nil => rfl
  | cons e es ih =>
      have split : writes [e] = ownWrites [e] + otherWrites [e] := by
        cases e with
        | write t => cases t <;> rfl
        | _ => rfl
      simp only [writes, ownWrites, otherWrites, List.countP_cons, List.countP_nil] at ih split ⊢
      omega

/-- The loop thread is at its write once more than it has written. -/
def pending (l : DBusEventLoop α) : Nat :=
  match l.calls .loop with
  | some (.write _) => 1
  | _ => 0

/-- The byte for which the pipe began the iteration is still to be read. -/
def toRead (l : DBusEventLoop α) : Nat :=
  match l.point with
  | .reading => 1
  | _ => 0

theorem pending_of_atWrite {l : DBusEventLoop α} (at_ : l.AtWrite) : l.pending = 1 := by
  obtain ⟨caller, call⟩ := at_
  rw [pending, call]

theorem pending_of_not_atWrite {l : DBusEventLoop α} (away : ¬ l.AtWrite) : l.pending = 0 := by
  rw [pending]
  split
  case h_1 caller call => exact absurd ⟨caller, call⟩ away
  case h_2 => rfl

theorem pending_of_calls {l m : DBusEventLoop α} (same : m.calls .loop = l.calls .loop) : m.pending = l.pending := by
  rw [pending, pending, same]

theorem pending_enter {l m : DBusEventLoop α} {t : Thread} {call : LoopCall α} (h : l.enter t call = some m)
    (other : ∀ caller, call ≠ .write caller) : m.pending = l.pending := by
  obtain ⟨free, -, rfl⟩ := enter_iff.mp h
  cases t with
  | loop => cases call <;> simp_all [pending]
  | other id => simp [pending]

theorem wakeUps_step {l m : DBusEventLoop α} {e : LoopEvent α} (h : l.step e = some m) :
    wakeUps [e] + l.pending = ownWrites [e] + m.pending := by
  cases e with
  | enqueue t action => rw [pending_enter h (by simp)]; rfl
  | stop t => rw [pending_enter (step_stop h).2 (by simp)]; rfl
  | wakeUp t =>
      obtain ⟨free, -, rfl⟩ := enter_iff.mp h
      cases t <;> simp [pending, free, wakeUps, ownWrites, LoopEvent.isWakeUp, LoopEvent.isOwnWrite]
  | store t =>
      rcases store_cases h with ⟨action, call, rfl⟩ | ⟨call, rfl⟩ <;> cases t <;>
        simp [pending, call, wakeUps, ownWrites, LoopEvent.isWakeUp, LoopEvent.isOwnWrite]
  | write t =>
      obtain ⟨caller, call, rfl⟩ := write_iff.mp h
      cases t <;> simp [pending, call, wakeUps, ownWrites, LoopEvent.isWakeUp, LoopEvent.isOwnWrite]
  | run =>
      rw [pending_of_calls (congrFun (run_frame (step_run h).2).2.1 _)]
      rfl
  | read =>
      obtain ⟨-, rfl⟩ := read_iff.mp h
      rfl
  | wake =>
      obtain ⟨-, -, rfl⟩ := step_wake h
      rfl
  | ready | interrupted =>
      obtain ⟨-, rfl⟩ := leaveWait_iff.mp h
      rfl

theorem toRead_run {l m : DBusEventLoop α} (h : l.run = some m) : l.toRead = 0 ∧ m.toRead = 0 := by
  rw [run] at h
  split at h <;> simp only [Option.some.injEq, reduceCtorEq] at h <;> subst h <;> simp [toRead, *]
  cases l.running <;> rfl

theorem woken_step {l m : DBusEventLoop α} {e : LoopEvent α} (h : l.step e = some m) :
    woken [e] + l.toRead = reads [e] + m.toRead := by
  cases e with
  | enqueue t action =>
      obtain ⟨-, -, rfl⟩ := enter_iff.mp h
      rfl
  | stop t =>
      obtain ⟨-, -, rfl⟩ := enter_iff.mp (step_stop h).2
      rfl
  | wakeUp t =>
      obtain ⟨-, -, rfl⟩ := enter_iff.mp h
      rfl
  | store t => rcases store_cases h with ⟨action, -, rfl⟩ | ⟨-, rfl⟩ <;> rfl
  | write t =>
      obtain ⟨caller, -, rfl⟩ := write_iff.mp h
      rfl
  | run => rw [(toRead_run (step_run h).2).1, (toRead_run (step_run h).2).2]; rfl
  | read =>
      obtain ⟨point, rfl⟩ := read_iff.mp h
      simp [toRead, point, woken, reads, LoopEvent.isWake, LoopEvent.isRead]
  | wake =>
      obtain ⟨-, point, rfl⟩ := step_wake h
      simp [toRead, point, woken, reads, LoopEvent.isWake, LoopEvent.isRead]
  | ready | interrupted =>
      obtain ⟨point, rfl⟩ := leaveWait_iff.mp h
      simp [toRead, point, woken, reads, LoopEvent.isWake, LoopEvent.isRead]

theorem pipeStep_unique {capacity : Nat} (l : DBusEventLoop α) (e : LoopEvent α) (m n : DBusEventLoop α)
    (h : PipeStep capacity l e m) (h' : PipeStep capacity l e n) : m = n :=
  Option.some.inj (h.symm.trans h')

section
variable {capacity : Nat} {es : List (LoopEvent α)} {l : DBusEventLoop α}

theorem inCallback_of_run (run : PipeRun capacity {} es l) : l.calls .loop ≠ none → l.point.inCallback = true := by
  refine run.invariant (fun _ l => l.calls .loop ≠ none → l.point.inCallback = true) (by simp) ?_
  intro past m e n _ inside step
  exact inCallback_step inside (pipeStep_step step)

theorem wakeUps_of_run (run : PipeRun capacity {} es l) : wakeUps es = ownWrites es + l.pending := by
  refine run.invariant (fun past l => wakeUps past = ownWrites past + l.pending) rfl ?_
  intro past m e n _ owed step
  have change := wakeUps_step (pipeStep_step step)
  rw [wakeUps_append, ownWrites_append]
  omega

theorem woken_of_run (run : PipeRun capacity {} es l) : woken es = reads es + l.toRead := by
  refine run.invariant (fun past l => woken past = reads past + l.toRead) rfl ?_
  intro past m e n _ owed step
  have change := woken_step (pipeStep_step step)
  rw [woken_append, reads_append]
  omega

/-- When the loop thread is at its write, the iteration's own byte has been read. -/
theorem blocked_iff (run : PipeRun capacity {} es l) (at_ : l.AtWrite) :
    l.Blocked capacity ↔ capacity + woken es < wakeUps es + otherWrites es := by
  obtain ⟨-, balance⟩ := reached run
  have owed := wakeUps_of_run run
  have woke := woken_of_run run
  have inside := inCallback_of_run run fun free => by
    obtain ⟨caller, call⟩ := at_
    cases free.symm.trans call
  have read : l.toRead = 0 := by
    rw [toRead]
    split
    case h_1 reading =>
      rw [reading] at inside
      cases inside
    case h_2 => rfl
  rw [pending_of_atWrite at_] at owed
  rw [writes_eq] at balance
  simp only [Blocked, at_, true_and]
  omega

theorem away_of_begins {past rest : List (LoopEvent α)} (begins : begins past rest = true)
    (run : PipeRun capacity {} (past ++ rest) l) {m : DBusEventLoop α} (before : PipeRun capacity {} past m) :
    ¬ m.AtWrite := by
  rintro ⟨caller, call⟩
  have inside := inCallback_of_run before (by simp [call])
  cases past with
  | nil =>
      obtain rfl := Library.Run.nil_iff.mp before
      cases call
  | cons first past =>
      cases rest with
      | nil => cases begins
      | cons e rest =>
          obtain ⟨n, before', after⟩ := Library.Run.append_iff.mp run
          obtain rfl := Library.Run.unique pipeStep_unique before before'
          obtain ⟨next, step, -⟩ := Library.Run.cons_iff.mp after
          have waiting : m.point = .waiting := by
            cases e with
            | wake => exact (step_wake (pipeStep_step step)).2.1
            | ready | interrupted => exact (leaveWait_iff.mp (pipeStep_step step)).1
            | _ => cases begins
          rw [waiting] at inside
          cases inside

end

/-! Iterations. -/

theorem iteration_le (rest : List (LoopEvent α)) : iteration rest <+: rest := by
  cases rest with
  | nil => exact List.prefix_rfl
  | cons e rest => exact List.cons_prefix_cons.mpr ⟨rfl, List.takeWhile_prefix _⟩

theorem iteration_tail {rest : List (LoopEvent α)} {e : LoopEvent α} (member : e ∈ (iteration rest).tail) :
    e.leavesWait = false := by
  cases rest with
  | nil => cases member
  | cons first rest => simpa using List.mem_takeWhile_imp member

theorem iteration_append {part rest : List (LoopEvent α)} (nonempty : part ≠ [])
    (within : ∀ e ∈ part.tail, e.leavesWait = false) : part <+: iteration (part ++ rest) := by
  cases part with
  | nil => exact absurd rfl nonempty
  | cons e part =>
      refine List.cons_prefix_cons.mpr ⟨rfl, ?_⟩
      rw [List.append_eq, List.takeWhile_append_of_pos fun e member => by simpa using within e member]
      exact List.prefix_append ..

/-- Every list of events ends inside an iteration. -/
theorem exists_iteration (es : List (LoopEvent α)) : ∃ past part, past ++ part = es ∧
    (part = [] → past = []) ∧ (∀ e ∈ part.tail, e.leavesWait = false) ∧
      ∀ rest, begins past (part ++ rest) = true := by
  induction es using List.reverseRecOn with
  | nil => exact ⟨[], [], rfl, fun _ => rfl, by simp, fun _ => rfl⟩
  | append_singleton es e ih =>
      cases leaves : e.leavesWait with
      | true => exact ⟨es, [e], rfl, by simp, by simp, fun rest => by simp [begins, leaves]⟩
      | false =>
          obtain ⟨past, part, rfl, empty, within, begins⟩ := ih
          refine ⟨past, part ++ [e], by simp, by simp, ?_, fun rest => by simpa using begins (e :: rest)⟩
          intro other member
          cases part with
          | nil => simp at member
          | cons first part =>
              rcases List.mem_append.mp member with inside | last
              · exact within other inside
              · rw [List.mem_singleton.mp last, leaves]

theorem woken_iteration {part rest : List (LoopEvent α)} (nonempty : part ≠ []) (le : part <+: iteration rest) :
    woken (iteration rest) = woken part := by
  obtain ⟨later, split⟩ := le
  have none : woken later = 0 := by
    refine List.countP_eq_zero.mpr fun e member => ?_
    have tail : e ∈ (iteration rest).tail := by
      rw [← split, List.tail_append_of_ne_nil nonempty]
      exact List.mem_append_right _ member
    have stays := iteration_tail tail
    cases e <;> simp_all [LoopEvent.isWake, LoopEvent.leavesWait]
  rw [← split, woken_append, none, Nat.add_zero]

theorem eq_ownWrite {e : LoopEvent α} (own : e.isOwnWrite = true) : e = .write .loop := by
  cases e with
  | write t => cases t with
    | loop => rfl
    | other id => cases own
  | _ => cases own

/-- What is still to be written belongs to the wake-ups that are to go through. -/
theorem le_untilThrough {part es : List (LoopEvent α)} (le : part <+: es)
    (pending : wakeUps part = ownWrites part + 1) : part <+: untilThrough es := by
  obtain ⟨later, rfl⟩ := le
  rw [untilThrough]
  split_ifs with through
  · rw [wakeUps_append, ownWrites_append] at through
    have written : 0 < ownWrites later := by omega
    obtain ⟨e, member, own⟩ := List.countP_pos_iff.mp written
    have stops : later.reverse.dropWhile (fun e => !e.isOwnWrite) ≠ [] := by
      intro all
      have none := List.dropWhile_eq_nil_iff.mp all e (List.mem_reverse.mpr member)
      simp [own] at none
    rw [List.rdropWhile, List.reverse_append, List.dropWhile_append, if_neg (by simpa using stops),
      List.reverse_append, List.reverse_reverse]
    exact List.prefix_append ..
  · exact List.prefix_append ..

theorem rdropWhile_ownWrite {es : List (LoopEvent α)} (written : 0 < ownWrites es) :
    ∃ part later, es = part ++ .write .loop :: later ∧ ownWrites later = 0 ∧
      es.rdropWhile (fun e => !e.isOwnWrite) = part ++ [.write .loop] := by
  induction es using List.reverseRecOn with
  | nil => cases written
  | append_singleton es e ih =>
      rw [List.rdropWhile_concat]
      cases own : e.isOwnWrite with
      | true =>
          obtain rfl := eq_ownWrite own
          exact ⟨es, [], rfl, rfl, rfl⟩
      | false =>
          have none : ownWrites [e] = 0 := by simp [ownWrites, own]
          rw [ownWrites_append, none] at written
          obtain ⟨part, later, rfl, left, dropped⟩ := ih written
          refine ⟨part, later ++ [e], by simp, by rw [ownWrites_append, left, none], ?_⟩
          simpa using dropped

section
variable {capacity : Nat} {es past : List (LoopEvent α)} {l : DBusEventLoop α}

/-- Until its last wake-up is through, the loop thread comes to a write once more. -/
theorem last_wakeUp (start : wakeUps past = ownWrites past) (run : PipeRun capacity {} (past ++ es) l)
    (positive : 0 < wakeUps es) : ∃ part m, part <+: es ∧ PipeRun capacity {} (past ++ part) m ∧ m.AtWrite ∧
      otherWrites part = otherWrites (untilThrough es) ∧ wakeUps part = wakeUps es := by
  by_cases through : ownWrites es = wakeUps es
  · rw [untilThrough, if_pos through]
    obtain ⟨part, later, rfl, none, dropped⟩ := rdropWhile_ownWrite (through ▸ positive)
    rw [← List.append_assoc] at run
    obtain ⟨m, before, after⟩ := Library.Run.append_iff.mp run
    obtain ⟨n, step, -⟩ := Library.Run.cons_iff.mp after
    obtain ⟨caller, call, -⟩ := write_iff.mp (pipeStep_step step)
    have at_ : m.AtWrite := ⟨caller, call⟩
    refine ⟨part, m, List.prefix_append .., before, at_, by rw [dropped, otherWrites_append]; rfl, ?_⟩
    have owed := wakeUps_of_run before
    have written : ownWrites (part ++ .write .loop :: later) = ownWrites part + (ownWrites later + 1) := by
      rw [ownWrites_append, ownWrites, ownWrites, List.countP_cons]
      rfl
    rw [pending_of_atWrite at_, wakeUps_append, ownWrites_append] at owed
    omega
  · rw [untilThrough, if_neg through]
    refine ⟨es, l, List.prefix_rfl, run, ?_, rfl, rfl⟩
    by_contra away
    have owed := wakeUps_of_run run
    rw [pending_of_not_atWrite away, wakeUps_append, ownWrites_append] at owed
    omega

theorem wakeUps_of_begins {rest : List (LoopEvent α)} (begins : begins past rest = true)
    (run : PipeRun capacity {} (past ++ rest) l) : wakeUps past = ownWrites past := by
  obtain ⟨m, before, -⟩ := Library.Run.append_iff.mp run
  rw [wakeUps_of_run before, pending_of_not_atWrite (away_of_begins begins run before), Nat.add_zero]

theorem leavesRoom_of_never_blocked (run : PipeRun capacity {} es l)
    (kept : Library.Throughout (PipeStep capacity) (fun _ m => ¬ m.Blocked capacity) {} es) :
    LeavesRoom capacity es := by
  rintro past rest rfl begins positive
  have start := wakeUps_of_begins begins run
  obtain ⟨later, whole⟩ := iteration_le rest
  obtain ⟨m, during, -⟩ := Library.Run.append_iff.mp (by rw [List.append_assoc, whole]; exact run :
    PipeRun capacity {} (past ++ iteration rest ++ later) l)
  obtain ⟨part, n, le, reached, at_, others, wakes⟩ := last_wakeUp start during positive
  have nonempty : part ≠ [] := by
    rintro rfl
    exact absurd positive (by rw [← wakes]; simp [wakeUps])
  have inside : past ++ part <+: past ++ rest :=
    (List.prefix_append_right_inj past).mpr (le.trans (iteration_le rest))
  have free : ¬ n.Blocked capacity := kept (past ++ part) inside n reached
  rw [blocked_iff reached at_, woken_append, wakeUps_append, otherWrites_append] at free
  rw [wakeUps_append, otherWrites_append, woken_append, woken_iteration nonempty le]
  omega

theorem never_blocked_of_leavesRoom (run : PipeRun capacity {} es l) (room : LeavesRoom capacity es) :
    Library.Throughout (PipeStep capacity) (fun _ m => ¬ m.Blocked capacity) {} es := by
  rintro before ⟨later, rfl⟩ m reached blocked
  obtain ⟨past, part, rfl, empty, within, begins⟩ := exists_iteration before
  have nonempty : part ≠ [] := by
    rintro rfl
    obtain rfl := empty rfl
    obtain rfl := Library.Run.nil_iff.mp reached
    obtain ⟨⟨caller, call⟩, -⟩ := blocked
    cases call
  rw [List.append_assoc] at run
  have start := wakeUps_of_begins (begins later) run
  have owed := wakeUps_of_run reached
  rw [pending_of_atWrite blocked.1, wakeUps_append, ownWrites_append] at owed
  have le : part <+: iteration (part ++ later) := iteration_append nonempty within
  have wakes : wakeUps part ≤ wakeUps (iteration (part ++ later)) := le.sublist.countP_le
  have others : otherWrites part ≤ otherWrites (untilThrough (iteration (part ++ later))) :=
    (le_untilThrough le (by omega)).sublist.countP_le
  have bound := room past (part ++ later) (List.append_assoc ..).symm (begins later) (by omega)
  rw [blocked_iff reached blocked.1, woken_append, wakeUps_append, otherWrites_append] at blocked
  rw [wakeUps_append, otherWrites_append, woken_append, woken_iteration nonempty le] at bound
  omega

end

/-- The loop thread never comes to a write with the pipe full exactly if its wake-ups in each iteration leave it
room. -/
theorem never_blocked_iff (capacity : Nat) {es : List (LoopEvent α)} {l : DBusEventLoop α}
    (run : PipeRun capacity {} es l) :
    Library.Throughout (PipeStep capacity) (fun _ m => ¬ m.Blocked capacity) {} es ↔ LeavesRoom capacity es :=
  ⟨leavesRoom_of_never_blocked run, never_blocked_of_leavesRoom run⟩

/-- The loop thread wakes itself up twice in the handling of a watch, another thread once, and the iteration
that the pipe begins wakes the loop up again. -/
def served : List (LoopEvent Unit) :=
  [.run, .run, .run, .ready, .wakeUp .loop, .enqueue (.other 0) (), .store (.other 0), .write (.other 0),
    .write .loop, .enqueue .loop (), .store .loop, .write .loop, .run, .run, .run, .run, .run, .run, .run, .run,
    .run, .wake, .read, .run, .run, .wakeUp .loop, .write .loop]

theorem never_blocked_served :
    Library.Throughout (PipeStep 3) (fun _ m => ¬ m.Blocked 3) ({} : DBusEventLoop Unit) served := by
  obtain ⟨l, ran⟩ : ∃ l : DBusEventLoop Unit, served.foldlM (pipeStep 3) {} = some l := ⟨_, rfl⟩
  exact (never_blocked_iff 3 (Library.run_of_foldlM_option.mp ran)).mpr (by decide)

def burst (n : Nat) : List (LoopEvent α) := (List.replicate n [.wakeUp .loop, .write .loop]).flatten

def overflow (n : Nat) : List (LoopEvent α) := [.run, .run, .run, .ready] ++ burst n ++ [.wakeUp .loop]

theorem run_burst {capacity : Nat} {l : DBusEventLoop α} (n : Nat) (point : l.point = .handling)
    (free : l.calls .loop = none) (fits : l.unread + n ≤ capacity) :
    PipeRun capacity l (burst n) { l with unread := l.unread + n } := by
  induction n generalizing l with
  | zero => exact .nil l
  | succ n ih =>
      have idle : Function.update (Function.update l.calls .loop (some (LoopCall.write .wakeUp))) .loop none
          = l.calls := by
        rw [Function.update_idem, ← free, Function.update_eq_self]
      have entered : l.pipeStep capacity (.wakeUp .loop) =
          some { l with calls := Function.update l.calls .loop (some (.write .wakeUp)) } :=
        enter_iff.mpr ⟨free, .inr (by rw [point]; rfl), rfl⟩
      have written : pipeStep capacity { l with calls := Function.update l.calls .loop (some (.write .wakeUp)) }
          (.write .loop) = some { l with unread := l.unread + 1 } := by
        rw [pipeStep, if_pos (by show l.unread < capacity; omega), write_iff]
        exact ⟨.wakeUp, by simp, by rw [idle]⟩
      have rest := ih (l := { l with unread := l.unread + 1 }) point free
        (by show l.unread + 1 + n ≤ capacity; omega)
      have sum : l.unread + 1 + n = l.unread + (n + 1) := by omega
      rw [sum] at rest
      exact .cons entered (.cons written rest)

theorem run_overflow (capacity : Nat) : ∃ l : DBusEventLoop α, PipeRun capacity {} (overflow capacity) l ∧
    l.calls .loop = some (.write .wakeUp) ∧ l.unread = capacity := by
  let handling : DBusEventLoop α := { running := true, started := true, point := .handling }
  have start : PipeRun capacity {} [.run, .run, .run, .ready] handling :=
    .cons rfl (.cons rfl (.cons rfl (.cons rfl (.nil handling))))
  have full := run_burst capacity (l := handling) rfl rfl (Nat.zero_add capacity).le
  refine ⟨_, Library.Run.append_iff.mpr ⟨_, Library.Run.append_iff.mpr ⟨_, start, full⟩, .cons rfl (.nil _)⟩,
    ?_, ?_⟩
  · rfl
  · exact Nat.zero_add capacity

theorem never_blocked_fails :
    ∃ l : DBusEventLoop Unit, PipeRun 65536 {} (overflow 65536) l ∧ l.Blocked 65536 := by
  obtain ⟨l, run, call, unread⟩ : ∃ l : DBusEventLoop Unit, PipeRun 65536 {} (overflow 65536) l ∧
      l.calls .loop = some (.write .wakeUp) ∧ l.unread = 65536 := run_overflow 65536
  exact ⟨l, run, ⟨.wakeUp, call⟩, unread.ge⟩

end DBusEventLoop
end SystemCompositor
