import Mathlib.Data.Finset.Dedup
import SystemCompositor.DBusEventLoop.Watches

namespace SystemCompositor

/-- What the epoll set should hold for `fd`: it depends on the registered watches as a set. -/
def interest (registered : Finset Watch) (fd : Int) : Option EpollEvents :=
  if ∃ x ∈ registered, x.unixFd = fd then
    some {
      input := ∃ x ∈ registered, x.unixFd = fd ∧ x.enabled ∧ x.flags.readable
      output := ∃ x ∈ registered, x.unixFd = fd ∧ x.enabled ∧ x.flags.writable
      hup := ∃ x ∈ registered, x.unixFd = fd ∧ x.enabled
      err := ∃ x ∈ registered, x.unixFd = fd ∧ x.enabled }
  else none

theorem interest_congr {registered registered' : Finset Watch} {fd : Int}
    (same : ∀ x : Watch, x.unixFd = fd → (x ∈ registered ↔ x ∈ registered')) :
    interest registered fd = interest registered' fd := by
  have exists_iff (p : Watch → Prop) :
      (∃ x ∈ registered, x.unixFd = fd ∧ p x) ↔ ∃ x ∈ registered', x.unixFd = fd ∧ p x := by
    constructor
    · rintro ⟨x, member, here, holds⟩
      exact ⟨x, (same x here).mp member, here, holds⟩
    · rintro ⟨x, member, here, holds⟩
      exact ⟨x, (same x here).mpr member, here, holds⟩
  have watched : (∃ x ∈ registered, x.unixFd = fd) ↔ ∃ x ∈ registered', x.unixFd = fd := by
    simpa using exists_iff fun _ => True
  simp only [interest, exists_iff, watched]

/-- Calls by libdbus, which sets `enabled` only together with a toggle. -/
inductive WatchCall
  | make (watch : Watch)
  | add (w : Nat)
  | remove (w : Nat)
  | toggle (w : Nat) (enabled : Bool)

namespace WatchTable

def registered (t : WatchTable) : Finset Watch := (t.watches.map t.watch).toFinset

/-- All calls of `epoll_ctl` succeed, and only a watch that libdbus has made can be added. -/
def call (t : WatchTable) : WatchCall → Option WatchTable
  | .make watch => some (t.make watch)
  | .add w => if made : w < t.next then some (t.addWatch {} w made).2 else none
  | .remove w => some (t.removeWatch {} w)
  | .toggle w enabled => some ((t.setEnabled w enabled).toggleWatch {} w)

@[simp] theorem mem_registered {t : WatchTable} {x : Watch} : x ∈ t.registered ↔ ∃ w ∈ t.watches, t.watch w = x := by
  simp [registered]

theorem foldl_union (t : WatchTable) (fd : Int) (watches : List Nat) (events : EpollEvents) :
    watches.foldl (fun events w =>
      if (t.watch w).unixFd = fd then events.union (dbusFlagsToEpollEvents (t.watch w)) else events) events =
    { input := events.input || watches.any fun w =>
        (t.watch w).unixFd = fd && ((t.watch w).enabled && (t.watch w).flags.readable)
      output := events.output || watches.any fun w =>
        (t.watch w).unixFd = fd && ((t.watch w).enabled && (t.watch w).flags.writable)
      hup := events.hup || watches.any fun w => (t.watch w).unixFd = fd && (t.watch w).enabled
      err := events.err || watches.any fun w => (t.watch w).unixFd = fd && (t.watch w).enabled } := by
  induction watches generalizing events with
  | nil => simp
  | cons w watches ih =>
      rw [List.foldl_cons, ih]
      by_cases here : (t.watch w).unixFd = fd
      · cases enabled : (t.watch w).enabled <;>
          simp [here, enabled, dbusFlagsToEpollEvents, EpollEvents.union, Bool.or_assoc]
      · simp [here]

theorem interest_registered (t : WatchTable) (fd : Int) :
    interest t.registered fd = if t.isWatched fd then some (t.epollEventsForWatchFd fd) else none := by
  have watched : t.isWatched fd = true ↔ ∃ x ∈ t.registered, x.unixFd = fd := by simp [isWatched]
  simp only [interest, watched]
  split_ifs
  · rw [epollEventsForWatchFd, foldl_union]
    rw [Option.some.injEq, EpollEvents.mk.injEq]
    refine ⟨?_, ?_, ?_, ?_⟩ <;>
      · rw [Bool.eq_iff_iff]
        simp
  · rfl

def Mirrors (t : WatchTable) : Prop := ∀ fd, t.epoll fd = interest t.registered fd

theorem Mirrors.isSome {t : WatchTable} (mirrors : t.Mirrors) (fd : Int) :
    (t.epoll fd).isSome = t.isWatched fd := by
  rw [mirrors, interest_registered]
  cases t.isWatched fd <;> rfl

theorem mirrors_update {t : WatchTable} {watchFd : Int}
    (others : ∀ fd, fd ≠ watchFd → t.epoll fd = interest t.registered fd)
    (there : (t.epoll watchFd).isSome = t.isWatched watchFd) :
    (t.updateEventsForWatchFd {} watchFd).Mirrors := by
  intro fd
  have same : (t.updateEventsForWatchFd {} watchFd).registered = t.registered := by simp [registered]
  rw [same]
  by_cases here : fd = watchFd
  · subst here
    rw [interest_registered, updateEventsForWatchFd]
    cases watched : t.isWatched fd with
    | true => simp [there, watched, setEpoll]
    | false =>
        have absent : t.epoll fd = none := by simpa [watched] using there
        simp [absent]
  · rw [updateEventsForWatchFd_epoll_of_ne _ _ here, others fd here]

theorem mirrors_make {t : WatchTable} (mirrors : t.Mirrors) (watch : Watch) : (t.make watch).Mirrors := by
  have old (w : Nat) (member : w ∈ t.watches) : (t.make watch).watch w = t.watch w :=
    Function.update_of_ne (Nat.ne_of_lt (t.made w member)) ..
  have same : (t.make watch).registered = t.registered := by
    ext x
    constructor
    · intro kept
      obtain ⟨w, member, rfl⟩ := mem_registered.mp kept
      exact mem_registered.mpr ⟨w, member, (old w member).symm⟩
    · intro kept
      obtain ⟨w, member, rfl⟩ := mem_registered.mp kept
      exact mem_registered.mpr ⟨w, member, old w member⟩
  intro fd
  rw [same]
  exact mirrors fd

theorem mirrors_add {t : WatchTable} (mirrors : t.Mirrors) {w : Nat} (made : w < t.next) :
    (t.addWatch {} w made).2.Mirrors := by
  have pushed (fd : Int) (other : fd ≠ (t.watch w).unixFd) :
      interest (t.pushBack w made).registered fd = interest t.registered fd := by
    apply interest_congr
    rintro x rfl
    simp only [mem_registered, pushBack, List.mem_append, List.mem_singleton]
    constructor
    · rintro ⟨v, member | rfl, rfl⟩
      · exact ⟨v, member, rfl⟩
      · exact absurd rfl other
    · rintro ⟨v, member, rfl⟩
      exact ⟨v, .inl member, rfl⟩
  have watched : (t.pushBack w made).isWatched (t.watch w).unixFd = true := by simp [isWatched, pushBack]
  simp only [addWatch]
  split_ifs with already absent
  · refine mirrors_update (fun fd other => (mirrors fd).trans (pushed fd other).symm) ?_
    rw [watched, ← already]
    exact mirrors.isSome _
  · refine mirrors_update (fun fd other => ?_) ?_
    · exact (Function.update_of_ne other ..).trans ((mirrors fd).trans (pushed fd other).symm)
    · exact watched.symm ▸ by simp [pushBack, setEpoll]
  · -- The kernel refuses no descriptor that no watch is on.
    have none : (t.epoll (t.watch w).unixFd).isNone = true := by
      rw [Option.isNone_iff_eq_none, mirrors, interest_registered, if_neg already]
    simp [none] at absent

theorem mirrors_remove {t : WatchTable} (mirrors : t.Mirrors) (w : Nat) : (t.removeWatch {} w).Mirrors := by
  have erased (fd : Int) (other : fd ≠ (t.watch w).unixFd) :
      interest (t.erase w).registered fd = interest t.registered fd := by
    apply interest_congr
    rintro x rfl
    simp only [mem_registered, erase, List.mem_filter]
    constructor
    · rintro ⟨v, ⟨member, -⟩, rfl⟩
      exact ⟨v, member, rfl⟩
    · rintro ⟨v, member, rfl⟩
      refine ⟨v, ⟨member, ?_⟩, rfl⟩
      simp only [ne_eq, decide_not, Bool.not_eq_true', decide_eq_false_iff_not]
      rintro rfl
      exact other rfl
  simp only [removeWatch]
  split_ifs with last
  · intro fd
    by_cases here : fd = (t.watch w).unixFd
    · subst here
      have gone : (t.erase w).isWatched (t.watch w).unixFd = false := by simpa using last
      have same : ((t.erase w).setEpoll (t.watch w).unixFd none).isWatched (t.watch w).unixFd = false := gone
      rw [interest_registered, same]
      exact Function.update_self ..
    · exact (Function.update_of_ne here ..).trans ((mirrors fd).trans (erased fd here).symm)
  · refine mirrors_update (fun fd other => (mirrors fd).trans (erased fd other).symm) ?_
    have still : (t.erase w).isWatched (t.watch w).unixFd = true := by simpa using last
    have before : t.isWatched (t.watch w).unixFd = true := by
      simp only [isWatched, erase, List.any_eq_true, List.mem_filter] at still ⊢
      obtain ⟨v, ⟨member, -⟩, here⟩ := still
      exact ⟨v, member, here⟩
    rw [still, ← before]
    exact mirrors.isSome _

theorem mirrors_toggle {t : WatchTable} (mirrors : t.Mirrors) (w : Nat) (enabled : Bool) :
    ((t.setEnabled w enabled).toggleWatch {} w).Mirrors := by
  have fd_same (v : Nat) : ((t.setEnabled w enabled).watch v).unixFd = (t.watch v).unixFd := by
    by_cases same : v = w
    · simp [setEnabled, same]
    · simp [setEnabled, same]
  rw [toggleWatch, fd_same]
  refine mirrors_update (fun fd other => ?_) ?_
  · refine (mirrors fd).trans (interest_congr ?_)
    rintro x rfl
    have others (v : Nat) (elsewhere : (t.watch v).unixFd ≠ (t.watch w).unixFd) :
        (t.setEnabled w enabled).watch v = t.watch v := by
      apply Function.update_of_ne
      rintro rfl
      exact elsewhere rfl
    simp only [mem_registered]
    constructor
    · rintro ⟨v, member, rfl⟩
      exact ⟨v, member, others v other⟩
    · rintro ⟨v, member, rfl⟩
      refine ⟨v, member, (others v ?_).symm⟩
      rwa [← fd_same]
  · have watched : (t.setEnabled w enabled).isWatched (t.watch w).unixFd = t.isWatched (t.watch w).unixFd := by
      simp only [isWatched, fd_same]
      rfl
    rw [watched]
    exact mirrors.isSome _

theorem mirrors_call {t u : WatchTable} (mirrors : t.Mirrors) {c : WatchCall} (step : t.call c = some u) :
    u.Mirrors := by
  cases c with
  | make watch =>
      obtain rfl := Option.some.inj step
      exact mirrors_make mirrors watch
  | add w =>
      rw [call] at step
      split_ifs at step with made
      obtain rfl := Option.some.inj step
      exact mirrors_add mirrors made
  | remove w =>
      obtain rfl := Option.some.inj step
      exact mirrors_remove mirrors w
  | toggle w enabled =>
      obtain rfl := Option.some.inj step
      exact mirrors_toggle mirrors w enabled

def initial (watch : Nat → Watch) : WatchTable where
  watch
  made := by simp

theorem epoll_mirrors {calls : List WatchCall} {watch : Nat → Watch} {t : WatchTable}
    (run : Library.Run (fun t c u => call t c = some u) (initial watch) calls t) (fd : Int) :
    t.epoll fd = interest t.registered fd := by
  have start : (initial watch).Mirrors := fun fd => by simp [initial, registered, interest]
  exact Library.Run.invariant (fun _ t => t.Mirrors) start
    (fun _ _ _ _ _ mirrors step => mirrors_call mirrors step) run fd

/-- Two watches share a descriptor, and the one that goes leaves the other's events. -/
def sharedFd : List WatchCall :=
  [.make ⟨5, { readable := true }, true⟩, .make ⟨5, { writable := true }, true⟩, .add 0, .add 1, .remove 0]

theorem epoll_mirrors_sharedFd : ∃ t, Library.Run (fun t c u => call t c = some u)
    (initial fun _ => ⟨-1, {}, false⟩) sharedFd t ∧ t.epoll 5 = interest t.registered 5 := by
  have possible : (sharedFd.foldlM call (initial fun _ => ⟨-1, {}, false⟩)).isSome = true := by decide
  obtain ⟨t, reached⟩ := Option.isSome_iff_exists.mp possible
  have run := Library.run_of_foldlM_option.mp reached
  exact ⟨t, run, epoll_mirrors run 5⟩

end WatchTable
end SystemCompositor
