import SystemCompositor.Library.Run

namespace SystemCompositor

structure EpollEvents where
  input : Bool := false
  output : Bool := false
  hup : Bool := false
  err : Bool := false
deriving DecidableEq

def EpollEvents.union (a b : EpollEvents) : EpollEvents :=
  ⟨a.input || b.input, a.output || b.output, a.hup || b.hup, a.err || b.err⟩

structure WatchFlags where
  readable : Bool := false
  writable : Bool := false
  hangup : Bool := false
  error : Bool := false
deriving DecidableEq

structure Watch where
  unixFd : Int
  flags : WatchFlags
  enabled : Bool
deriving DecidableEq

def dbusFlagsToEpollEvents (watch : Watch) : EpollEvents :=
  if watch.enabled then ⟨watch.flags.readable, watch.flags.writable, true, true⟩ else {}

def epollEventsToDbusFlags (events : EpollEvents) : WatchFlags :=
  ⟨events.input, events.output, events.hup, events.err⟩

/-- How the calls of `epoll_ctl` that one callback may make end. -/
structure EpollCtl where
  add : Bool := true
  modify : Bool := true
  delete : Bool := true
deriving DecidableEq

/-- The watches that the loop holds, what libdbus keeps in each watch it has made, and the epoll set.
`next` is the next watch that libdbus makes: a freed one does not come back. -/
structure WatchTable where
  watches : List Nat := []
  watch : Nat → Watch
  next : Nat := 0
  epoll : Int → Option EpollEvents := fun _ => none
  made : ∀ w ∈ watches, w < next := by simp

inductive WatchCallback
  | add (watch : Watch) (ctl : EpollCtl)
  | remove (w : Nat) (ctl : EpollCtl)
  | toggle (w : Nat) (enabled : Bool) (ctl : EpollCtl)
deriving DecidableEq

namespace WatchTable

def enabledWatchesFor (t : WatchTable) (fd : Int) : List Nat :=
  t.watches.filter fun w => (t.watch w).unixFd = fd && (t.watch w).enabled

def isWatched (t : WatchTable) (fd : Int) : Bool := t.watches.any fun w => (t.watch w).unixFd = fd

def epollEventsForWatchFd (t : WatchTable) (fd : Int) : EpollEvents :=
  t.watches.foldl (fun events w =>
    if (t.watch w).unixFd = fd then events.union (dbusFlagsToEpollEvents (t.watch w)) else events) {}

def setEpoll (t : WatchTable) (fd : Int) (events : Option EpollEvents) : WatchTable :=
  { t with epoll := Function.update t.epoll fd events }

/-- `EPOLL_CTL_MOD` does nothing for a descriptor that is not in the set. -/
def updateEventsForWatchFd (t : WatchTable) (ctl : EpollCtl) (fd : Int) : WatchTable :=
  if ctl.modify && (t.epoll fd).isSome then t.setEpoll fd (some (t.epollEventsForWatchFd fd)) else t

def pushBack (t : WatchTable) (w : Nat) (made : w < t.next) : WatchTable :=
  { t with
    watches := t.watches ++ [w]
    made := by
      intro v member
      rcases List.mem_append.mp member with old | new
      · exact t.made v old
      · rwa [List.mem_singleton.mp new] }

def erase (t : WatchTable) (w : Nat) : WatchTable :=
  { t with
    watches := t.watches.filter (· ≠ w)
    made := fun v member => t.made v (List.mem_of_mem_filter member) }

/-- `EPOLL_CTL_ADD` fails for a descriptor that is in the set. -/
def addWatch (t : WatchTable) (ctl : EpollCtl) (w : Nat) (made : w < t.next) : Bool × WatchTable :=
  let watchFd := (t.watch w).unixFd
  if t.isWatched watchFd then (true, (t.pushBack w made).updateEventsForWatchFd ctl watchFd)
  else if ctl.add && (t.epoll watchFd).isNone then
    (true, ((t.setEpoll watchFd (some {})).pushBack w made).updateEventsForWatchFd ctl watchFd)
  else (false, t)

def removeWatch (t : WatchTable) (ctl : EpollCtl) (w : Nat) : WatchTable :=
  let erased := t.erase w
  let watchFd := (t.watch w).unixFd
  if !erased.isWatched watchFd then
    if ctl.delete then erased.setEpoll watchFd none else erased
  else erased.updateEventsForWatchFd ctl watchFd

def toggleWatch (t : WatchTable) (ctl : EpollCtl) (w : Nat) : WatchTable :=
  t.updateEventsForWatchFd ctl (t.watch w).unixFd

def make (t : WatchTable) (watch : Watch) : WatchTable :=
  { t with
    watch := Function.update t.watch t.next watch
    next := t.next + 1
    made := fun w member => (t.made w member).trans (Nat.lt_succ_self _) }

theorem next_lt_make (t : WatchTable) (watch : Watch) : t.next < (t.make watch).next := Nat.lt_succ_self _

def setEnabled (t : WatchTable) (w : Nat) (enabled : Bool) : WatchTable :=
  { t with watch := Function.update t.watch w { t.watch w with enabled } }

def callback (t : WatchTable) : WatchCallback → WatchTable
  | .add watch ctl => ((t.make watch).addWatch ctl t.next (t.next_lt_make watch)).2
  | .remove w ctl => t.removeWatch ctl w
  | .toggle w enabled ctl => (t.setEnabled w enabled).toggleWatch ctl w

def watchFd (t : WatchTable) : WatchCallback → Int
  | .add watch _ => watch.unixFd
  | .remove w _ | .toggle w _ _ => (t.watch w).unixFd

/-- The calls of `dbus_watch_handle`, each with the table at its time; `during i` are the callbacks
that libdbus makes in the `i`-th of them. -/
def handleWatches (t : WatchTable) (flags : WatchFlags) :
    List Nat → (Nat → List WatchCallback) → List (Nat × WatchFlags × WatchTable)
  | [], _ => []
  | w :: rest, during =>
      (w, flags, t) :: ((during 0).foldl callback t).handleWatches flags rest fun i => during (i + 1)

def handleEvent (t : WatchTable) (fd : Int) (events : EpollEvents) (during : Nat → List WatchCallback) :
    List (Nat × WatchFlags × WatchTable) :=
  t.handleWatches (epollEventsToDbusFlags events) (t.enabledWatchesFor fd) during

/-! What a callback does to one watch. -/

@[simp] theorem updateEventsForWatchFd_watches (t : WatchTable) (ctl : EpollCtl) (fd : Int) :
    (t.updateEventsForWatchFd ctl fd).watches = t.watches := by
  rw [updateEventsForWatchFd]
  split_ifs <;> rfl

@[simp] theorem updateEventsForWatchFd_watch (t : WatchTable) (ctl : EpollCtl) (fd : Int) :
    (t.updateEventsForWatchFd ctl fd).watch = t.watch := by
  rw [updateEventsForWatchFd]
  split_ifs <;> rfl

@[simp] theorem updateEventsForWatchFd_next (t : WatchTable) (ctl : EpollCtl) (fd : Int) :
    (t.updateEventsForWatchFd ctl fd).next = t.next := by
  rw [updateEventsForWatchFd]
  split_ifs <;> rfl

theorem addWatch_cases (t : WatchTable) (ctl : EpollCtl) (w : Nat) (made : w < t.next) :
    ((t.addWatch ctl w made).2.watches = t.watches ++ [w] ∨ (t.addWatch ctl w made).2.watches = t.watches) ∧
      (t.addWatch ctl w made).2.watch = t.watch ∧ (t.addWatch ctl w made).2.next = t.next := by
  rw [addWatch]
  split_ifs <;> simp [pushBack, setEpoll]

theorem removeWatch_fields (t : WatchTable) (ctl : EpollCtl) (w : Nat) :
    (t.removeWatch ctl w).watches = t.watches.filter (· ≠ w) ∧ (t.removeWatch ctl w).watch = t.watch ∧
      (t.removeWatch ctl w).next = t.next := by
  simp only [removeWatch]
  split_ifs <;> simp [erase, setEpoll]

theorem updateEventsForWatchFd_epoll_of_ne (t : WatchTable) (ctl : EpollCtl) {watchFd fd : Int}
    (other : fd ≠ watchFd) : (t.updateEventsForWatchFd ctl watchFd).epoll fd = t.epoll fd := by
  rw [updateEventsForWatchFd]
  split_ifs
  · exact Function.update_of_ne other ..
  · rfl

theorem callback_epoll_of_ne (t : WatchTable) (c : WatchCallback) {fd : Int} (other : fd ≠ t.watchFd c) :
    (t.callback c).epoll fd = t.epoll fd := by
  cases c with
  | add watch ctl =>
      have added : ((t.make watch).watch t.next).unixFd = watch.unixFd := by simp [make]
      simp only [watchFd] at other
      simp only [callback, addWatch, added]
      split_ifs
      · exact updateEventsForWatchFd_epoll_of_ne _ _ other
      · rw [updateEventsForWatchFd_epoll_of_ne _ _ other]
        exact Function.update_of_ne other ..
      · rfl
  | remove w ctl =>
      simp only [watchFd] at other
      simp only [callback, removeWatch]
      split_ifs
      · exact Function.update_of_ne other ..
      · rfl
      · exact updateEventsForWatchFd_epoll_of_ne _ _ other
  | toggle w enabled ctl =>
      have kept : ((t.setEnabled w enabled).watch w).unixFd = (t.watch w).unixFd := by simp [setEnabled]
      simp only [watchFd] at other
      rw [callback, toggleWatch, kept, updateEventsForWatchFd_epoll_of_ne _ _ other]
      rfl

end WatchTable
end SystemCompositor
