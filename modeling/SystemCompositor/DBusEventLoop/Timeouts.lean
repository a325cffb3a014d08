import SystemCompositor.DBusEventLoop.Watches

namespace SystemCompositor

structure Timespec where
  sec : Int := 0
  nsec : Int := 0
deriving DecidableEq

structure Itimerspec where
  interval : Timespec := {}
  value : Timespec := {}
deriving DecidableEq

def msecToTimespec (msec : Int) : Timespec :=
  -- In C both operations truncate.
  ⟨msec.tdiv 1000, msec.tmod 1000 * 1000000⟩

def Timespec.valid (t : Timespec) : Bool := 0 ≤ t.sec && 0 ≤ t.nsec && t.nsec < 1000000000

def Timespec.ns (t : Timespec) : Nat := (t.sec * 1000000000 + t.nsec).toNat

structure Timeout where
  interval : Int
  enabled : Bool
deriving DecidableEq

/-- A timerfd in the kernel. Nothing reads it: `reportedAt` is when `epoll_wait` last gave it to `run` since it
was set. -/
structure TimerFd where
  spec : Itimerspec := {}
  setAt : Nat := 0
  reportedAt : Option Nat := none

namespace TimerFd

def armed (timer : TimerFd) : Bool := timer.spec.value ≠ {}

def expirations (timer : TimerFd) (now : Nat) : Nat :=
  if timer.armed && timer.setAt + timer.spec.value.ns ≤ now then
    1 + (now - (timer.setAt + timer.spec.value.ns)) / timer.spec.interval.ns
  else 0

def readable (timer : TimerFd) (now : Nat) : Bool := 0 < timer.expirations now

end TimerFd

/-- The loop's watches and timeouts, what libdbus keeps in each of them, and the kernel's side: `epoll` is
the whole set, `now` is in ns. `handled` counts the calls of `dbus_timeout_handle` since the timeout's
timer was last set. -/
structure EventSources extends WatchTable where
  timeouts : List (Nat × Int) := []
  timeout : Nat → Timeout
  timers : Int → Option TimerFd := fun _ => none
  wakeUpFdR : Int
  now : Nat := 0
  handled : Nat → Nat := fun _ => 0

inductive SourceEvent
  | watch (callback : WatchCallback)
  | addTimeout (t : Nat) (timeout : Timeout) (created : Option Int) (ctl : EpollCtl) (settime : Bool)
  | removeTimeout (t : Nat) (ctl : EpollCtl)
  | toggleTimeout (t : Nat) (timeout : Timeout) (settime : Bool)
  | advance (ns : Nat)
  | report (fd : Int)
deriving DecidableEq

namespace EventSources

def timerFdFor (s : EventSources) (t : Nat) : Int :=
  ((s.timeouts.find? fun p => p.1 = t).map Prod.snd).getD (-1)

def enabledTimeoutFor (s : EventSources) (fd : Int) : Option Nat :=
  (s.timeouts.find? fun p => p.2 = fd && (s.timeout p.1).enabled).map Prod.fst

def setEpoll (s : EventSources) (fd : Int) (events : Option EpollEvents) : EventSources :=
  { s with toWatchTable := s.toWatchTable.setEpoll fd events }

def setTimer (s : EventSources) (fd : Int) (timer : TimerFd) : EventSources :=
  { s with timers := Function.update s.timers fd (some timer) }

/-- The kernel drops a closed descriptor from the epoll set. -/
def close (s : EventSources) (fds : List Int) : EventSources :=
  { s with
    timers := fun fd => if fd ∈ fds then none else s.timers fd
    epoll := fun fd => if fd ∈ fds then none else s.epoll fd }

def specFor (s : EventSources) (t : Nat) : Itimerspec :=
  if (s.timeout t).enabled then
    ⟨msecToTimespec (s.timeout t).interval, msecToTimespec (s.timeout t).interval⟩
  else {}

/-- `timerfd_settime` fails on a descriptor that is no timerfd and on a negative time. -/
def settimeSucceeds (s : EventSources) (settime : Bool) (t : Nat) : Bool :=
  settime && (s.timers (s.timerFdFor t)).isSome && (s.specFor t).value.valid && (s.specFor t).interval.valid

def setTimerFor (s : EventSources) (t : Nat) : EventSources :=
  { s.setTimer (s.timerFdFor t) ⟨s.specFor t, s.now, none⟩ with handled := Function.update s.handled t 0 }

def updateTimerFdFor (s : EventSources) (settime : Bool) (t : Nat) : Bool × EventSources :=
  if s.settimeSucceeds settime t then (true, s.setTimerFor t) else (false, s)

def pushTimeout (s : EventSources) (t : Nat) (tfd : Int) : EventSources :=
  { s with timeouts := s.timeouts ++ [(t, tfd)] }

def emplaceTimeout (s : EventSources) (t : Nat) (tfd : Int) : EventSources :=
  ((s.setTimer tfd {}).setEpoll tfd (some { input := true })).pushTimeout t tfd

def addTimeout (s : EventSources) (created : Option Int) (ctl : EpollCtl) (settime : Bool) (t : Nat) :
    Bool × EventSources :=
  match created with
  | none => (false, s) -- `epoll_ctl` refuses the descriptor -1.
  | some tfd =>
      let opened := s.setTimer tfd {}
      if ctl.add && (opened.epoll tfd).isNone then
        (s.emplaceTimeout t tfd).updateTimerFdFor settime t
      else (false, opened.close [tfd])

def removeTimeout (s : EventSources) (ctl : EpollCtl) (t : Nat) : EventSources :=
  let deleted := if ctl.delete then s.setEpoll (s.timerFdFor t) none else s
  let gone := (s.timeouts.filter fun p => p.1 = t).map Prod.snd
  { deleted with timeouts := s.timeouts.filter fun p => p.1 ≠ t }.close gone

def setTimeout (s : EventSources) (t : Nat) (timeout : Timeout) : EventSources :=
  { s with timeout := Function.update s.timeout t timeout }

def toggleTimeout (s : EventSources) (settime : Bool) (t : Nat) : EventSources :=
  (s.updateTimerFdFor settime t).2

/-- The timeout that `run` hands to `dbus_timeout_handle` when `epoll_wait` gives it `fd`. -/
def timeoutToHandle (s : EventSources) (fd : Int) : Option Nat :=
  if fd = s.wakeUpFdR then none
  else if (s.enabledWatchesFor fd).isEmpty then s.enabledTimeoutFor fd
  else none

def reportTimer (s : EventSources) (fd : Int) : EventSources :=
  { s with timers :=
      Function.update s.timers fd ((s.timers fd).map fun timer => { timer with reportedAt := some s.now }) }

def report (s : EventSources) (fd : Int) : EventSources :=
  match s.timeoutToHandle fd with
  | none => s.reportTimer fd
  | some t => { s.reportTimer fd with handled := Function.update s.handled t (s.handled t + 1) }

/-- A watch is never on a descriptor of the loop's own, a descriptor that is created is in no use, and
`epoll_wait` gives a timerfd whenever it is readable. -/
def allows (s : EventSources) : SourceEvent → Bool
  | .watch callback => (s.timers (s.watchFd callback)).isNone && s.watchFd callback ≠ s.wakeUpFdR
  | .addTimeout _ _ created _ _ => created.all fun fd =>
      0 ≤ fd && (s.epoll fd).isNone && (s.timers fd).isNone
  | .report fd => (s.epoll fd).isSome && (s.timers fd).all fun timer => timer.readable s.now
  | .removeTimeout _ _ | .toggleTimeout _ _ _ | .advance _ => true

def handle (s : EventSources) : SourceEvent → EventSources
  | .watch callback => { s with toWatchTable := s.toWatchTable.callback callback }
  | .addTimeout t timeout created ctl settime => ((s.setTimeout t timeout).addTimeout created ctl settime t).2
  | .removeTimeout t ctl => s.removeTimeout ctl t
  | .toggleTimeout t timeout settime => (s.setTimeout t timeout).toggleTimeout settime t
  | .advance ns => { s with now := s.now + ns }
  | .report fd => s.report fd

def step (s : EventSources) (e : SourceEvent) : Option EventSources :=
  if s.allows e then some (s.handle e) else none

def Step (s : EventSources) (e : SourceEvent) (t : EventSources) : Prop := s.step e = some t

def created (watch : Nat → Watch) (timeout : Nat → Timeout) (wakeUpFdR : Int) : EventSources where
  watch
  timeout
  wakeUpFdR
  epoll := Function.update (fun _ => none) wakeUpFdR (some { input := true })
  made := fun _ member => absurd member List.not_mem_nil

/-! What a report, removing and refusing a timeout do to the kernel's side. -/

theorem report_frame (s : EventSources) (fd : Int) : (s.report fd).timeouts = s.timeouts ∧
    (s.report fd).timeout = s.timeout ∧ (s.report fd).now = s.now ∧
      (s.report fd).toWatchTable = s.toWatchTable := by
  rw [report]
  cases s.timeoutToHandle fd <;> exact ⟨rfl, rfl, rfl, rfl⟩

theorem report_timers (s : EventSources) (fd other : Int) : (s.report fd).timers other =
    if other = fd then (s.timers fd).map fun timer => { timer with reportedAt := some s.now }
    else s.timers other := by
  have same : (s.report fd).timers = (s.reportTimer fd).timers := by
    rw [report]
    cases s.timeoutToHandle fd <;> rfl
  rw [same]
  exact Function.update_apply ..

theorem report_handled (s : EventSources) (fd : Int) (t : Nat) : (s.report fd).handled t =
    if s.timeoutToHandle fd = some t then s.handled t + 1 else s.handled t := by
  rw [report]
  cases s.timeoutToHandle fd with
  | none => rfl
  | some u =>
      by_cases same : t = u
      · subst same
        simp
      · simp [same, Ne.symm same]

theorem removeTimeout_timeouts (s : EventSources) (ctl : EpollCtl) (t : Nat) :
    (s.removeTimeout ctl t).timeouts = s.timeouts.filter fun p => p.1 ≠ t := rfl

theorem removeTimeout_timeout (s : EventSources) (ctl : EpollCtl) (t : Nat) :
    (s.removeTimeout ctl t).timeout = s.timeout := by
  cases deletes : ctl.delete <;> simp [removeTimeout, close, setEpoll, deletes]

theorem removeTimeout_now (s : EventSources) (ctl : EpollCtl) (t : Nat) :
    (s.removeTimeout ctl t).now = s.now := by
  cases deletes : ctl.delete <;> simp [removeTimeout, close, setEpoll, deletes]

theorem removeTimeout_handled (s : EventSources) (ctl : EpollCtl) (t : Nat) :
    (s.removeTimeout ctl t).handled = s.handled := by
  cases deletes : ctl.delete <;> simp [removeTimeout, close, setEpoll, deletes]

theorem removeTimeout_timers (s : EventSources) (ctl : EpollCtl) (t : Nat) (fd : Int) :
    (s.removeTimeout ctl t).timers fd = if (t, fd) ∈ s.timeouts then none else s.timers fd := by
  cases deletes : ctl.delete <;> simp [removeTimeout, close, setEpoll, deletes]

theorem removeTimeout_epoll (s : EventSources) (ctl : EpollCtl) (t : Nat) (fd : Int) :
    (s.removeTimeout ctl t).epoll fd = if (t, fd) ∈ s.timeouts then none
      else if ctl.delete ∧ fd = s.timerFdFor t then none else s.epoll fd := by
  cases deletes : ctl.delete <;>
    simp [removeTimeout, close, setEpoll, WatchTable.setEpoll, deletes, Function.update_apply]

theorem close_setTimer (s : EventSources) {tfd : Int} {timer : TimerFd} (fresh : s.timers tfd = none)
    (unwatched : s.epoll tfd = none) : (s.setTimer tfd timer).close [tfd] = s := by
  have timers : (fun fd => if fd ∈ [tfd] then none else (s.setTimer tfd timer).timers fd) = s.timers := by
    funext fd
    by_cases same : fd = tfd
    · simp [same, fresh]
    · simp [setTimer, same]
  have epoll : (fun fd => if fd ∈ [tfd] then none else (s.setTimer tfd timer).epoll fd) = s.epoll := by
    funext fd
    by_cases same : fd = tfd
    · simp [same, unwatched]
    · simp [setTimer, same]
  rw [close, timers, epoll]
  rfl

theorem allows_addTimeout {s : EventSources} {t : Nat} {timeout : Timeout} {tfd : Int} {ctl : EpollCtl}
    {settime : Bool} : s.allows (.addTimeout t timeout (some tfd) ctl settime) = true ↔
      0 ≤ tfd ∧ s.epoll tfd = none ∧ s.timers tfd = none := by
  simp [allows, and_assoc]

theorem addTimeout_of_add {s : EventSources} {tfd : Int} (unwatched : s.epoll tfd = none) {ctl : EpollCtl}
    (adds : ctl.add = true) (settime : Bool) (t : Nat) :
    s.addTimeout (some tfd) ctl settime t = (s.emplaceTimeout t tfd).updateTimerFdFor settime t := by
  have same : (s.setTimer tfd {}).epoll tfd = none := unwatched
  simp [addTimeout, adds, same]

theorem addTimeout_of_not_add {s : EventSources} {tfd : Int} (unwatched : s.epoll tfd = none)
    (fresh : s.timers tfd = none) {ctl : EpollCtl} (fails : ctl.add = false) (settime : Bool) (t : Nat) :
    s.addTimeout (some tfd) ctl settime t = (false, s) := by
  simp [addTimeout, fails, s.close_setTimer fresh unwatched]

/-- A timeout is turned down with nothing done to the kernel, or it is in `timeouts` when its timer is set. -/
theorem addTimeout_cases {s : EventSources} {t : Nat} {timeout : Timeout} {created : Option Int} {ctl : EpollCtl}
    {settime : Bool} (allowed : s.allows (.addTimeout t timeout created ctl settime) = true) :
    s.handle (.addTimeout t timeout created ctl settime) = s.setTimeout t timeout ∨
      ∃ tfd, 0 ≤ tfd ∧ s.timers tfd = none ∧ s.handle (.addTimeout t timeout created ctl settime) =
        (((s.setTimeout t timeout).emplaceTimeout t tfd).updateTimerFdFor settime t).2 := by
  cases created with
  | none => exact .inl rfl
  | some tfd =>
      obtain ⟨natural, unwatched, fresh⟩ := allows_addTimeout.mp allowed
      rw [handle]
      cases adds : ctl.add with
      | false => exact .inl (by rw [addTimeout_of_not_add (s := s.setTimeout t timeout) unwatched fresh adds])
      | true =>
          exact .inr ⟨tfd, natural, fresh, by rw [addTimeout_of_add (s := s.setTimeout t timeout) unwatched adds]⟩

/-! Which timerfd a timeout has. -/

theorem timerFdFor_mem {s : EventSources} {t : Nat} (registered : t ∈ s.timeouts.map Prod.fst) :
    (t, s.timerFdFor t) ∈ s.timeouts := by
  obtain ⟨q, member, own⟩ := List.mem_map.mp registered
  cases found : s.timeouts.find? fun p => p.1 = t with
  | none => exact absurd own (by simpa using List.find?_eq_none.mp found q member)
  | some p =>
      have same : p.1 = t := by simpa using List.find?_some found
      rw [timerFdFor, found, ← same]
      exact List.mem_of_find?_eq_some found

theorem timerFdFor_of_notMem {s : EventSources} {t : Nat} (absent : t ∉ s.timeouts.map Prod.fst) :
    s.timerFdFor t = -1 := by
  have none : (s.timeouts.find? fun p => p.1 = t) = none := by
    apply List.find?_eq_none.mpr
    intro p member own
    exact absent (List.mem_map.mpr ⟨p, member, by simpa using own⟩)
  rw [timerFdFor, none]
  rfl

theorem timerFdFor_emplaceTimeout (s : EventSources) (t u : Nat) (tfd : Int) :
    (s.emplaceTimeout t tfd).timerFdFor u =
      if u = t ∧ t ∉ s.timeouts.map Prod.fst then tfd else s.timerFdFor u := by
  have pushed : (s.emplaceTimeout t tfd).timeouts = s.timeouts ++ [(t, tfd)] := rfl
  simp only [timerFdFor, pushed, List.find?_append]
  cases found : s.timeouts.find? fun p => p.1 = u with
  | some p =>
      have same : p.1 = u := by simpa using List.find?_some found
      rw [if_neg]
      · rfl
      · rintro ⟨rfl, absent⟩
        exact absent (List.mem_map.mpr ⟨p, List.mem_of_find?_eq_some found, same⟩)
  | none =>
      have absent : u ∉ s.timeouts.map Prod.fst := by
        intro registered
        obtain ⟨p, member, own⟩ := List.mem_map.mp registered
        exact absurd own (by simpa using List.find?_eq_none.mp found p member)
      by_cases same : u = t
      · subst same
        simp [absent]
      · simp [same, Ne.symm same]

theorem timerFdFor_removeTimeout (s : EventSources) (ctl : EpollCtl) (t u : Nat) :
    (s.removeTimeout ctl t).timerFdFor u = if u = t then -1 else s.timerFdFor u := by
  have left : (s.removeTimeout ctl t).timeouts = s.timeouts.filter fun p => p.1 ≠ t := rfl
  by_cases same : u = t
  · rw [if_pos same, timerFdFor_of_notMem]
    simp [left, same]
  · rw [if_neg same, timerFdFor, timerFdFor, left, List.find?_filter]
    congr 3
    funext p
    by_cases own : p.1 = u <;> simp [own, same]

end EventSources
end SystemCompositor
