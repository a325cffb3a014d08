import SystemCompositor.DBusEventLoop.LiveWatches
import SystemCompositor.DBusEventLoop.Timers

namespace SystemCompositor
namespace EventSources

/-- `add_watch` or `add_timeout` returns `FALSE`. -/
def refuses (s : EventSources) : SourceEvent → Bool
  | .watch (.add watch ctl) =>
      !((s.toWatchTable.make watch).addWatch ctl s.next (s.toWatchTable.next_lt_make watch)).1
  | .addTimeout t timeout created ctl settime =>
      !((s.setTimeout t timeout).addTimeout created ctl settime t).1
  | .watch (.remove _ _) | .watch (.toggle _ _ _) | .removeTimeout _ _ | .toggleTimeout _ _ _
  | .advance _ | .report _ => false

def addsTimeout (t : Nat) : SourceEvent → Bool
  | .addTimeout u _ _ _ _ => u = t
  | .watch _ | .removeTimeout _ _ | .toggleTimeout _ _ _ | .advance _ | .report _ => false

/-- In `later` states the object that `s` was given with `e` is not returned, unless libdbus adds it again. -/
def NotReturned (s : EventSources) (e : SourceEvent) (later : List SourceEvent) (u : EventSources) : Prop :=
  match e with
  | .watch (.add _ _) => ∀ fd, s.next ∉ u.enabledWatchesFor fd
  | .addTimeout t _ _ _ _ => t ∉ s.timeouts.map Prod.fst → (∀ f ∈ later, addsTimeout t f = false) →
      ∀ fd, u.enabledTimeoutFor fd ≠ some t
  | .watch (.remove _ _) | .watch (.toggle _ _ _) | .removeTimeout _ _ | .toggleTimeout _ _ _
  | .advance _ | .report _ => True

structure NoTrace (s : EventSources) (e : SourceEvent) : Prop where
  watches : (s.handle e).watches = s.watches
  timeouts : (s.handle e).timeouts = s.timeouts
  epoll : (s.handle e).epoll = s.epoll
  later : ∀ later u, Library.Run Step (s.handle e) later u → s.NotReturned e later u

/-- `timerfd_settime` fails after `timerfd_create` and `epoll_ctl` have succeeded. -/
def FailsAfterPush : SourceEvent → Prop
  | .addTimeout _ timeout created ctl settime => created.isSome = true ∧ ctl.add = true ∧
      (settime = false ∨ timeout.enabled = true ∧ timeout.interval < 0)
  | .watch _ | .removeTimeout _ _ | .toggleTimeout _ _ _ | .advance _ | .report _ => False

theorem registered_handle {s : EventSources} {t : Nat} (absent : t ∉ s.timeouts.map Prod.fst) {e : SourceEvent}
    (other : addsTimeout t e = false) : t ∉ (s.handle e).timeouts.map Prod.fst := by
  cases e with
  | addTimeout u timeout created ctl settime =>
      simp only [addsTimeout, decide_eq_false_iff_not] at other
      cases created with
      | none => exact absent
      | some tfd =>
          simp only [handle, addTimeout]
          split_ifs
          · rw [updateTimerFdFor_timeouts]
            simpa [emplaceTimeout, pushTimeout, setEpoll, setTimer, setTimeout, Ne.symm other] using absent
          · exact absent
  | removeTimeout u ctl =>
      intro registered
      exact absent ((List.filter_sublist.map Prod.fst).subset registered)
  | toggleTimeout u timeout settime =>
      rw [handle, toggleTimeout, updateTimerFdFor_timeouts]
      exact absent
  | report fd =>
      rw [handle, (s.report_frame fd).1]
      exact absent
  | watch callback => exact absent
  | advance ns => exact absent

theorem registered_run {s u : EventSources} {t : Nat} {later : List SourceEvent}
    (run : Library.Run Step s later u) (absent : t ∉ s.timeouts.map Prod.fst)
    (others : ∀ f ∈ later, addsTimeout t f = false) : t ∉ u.timeouts.map Prod.fst := by
  induction run with
  | nil s => exact absent
  | @cons s m u e later first rest ih =>
      obtain ⟨-, rfl⟩ := step_iff.mp first
      exact ih (registered_handle absent (others e (by simp))) (fun f member => others f (by simp [member]))

theorem updateTimerFdFor_watches (s : EventSources) (settime : Bool) (t : Nat) :
    (s.updateTimerFdFor settime t).2.watches = s.watches ∧ (s.updateTimerFdFor settime t).2.next = s.next := by
  rw [updateTimerFdFor]
  split_ifs <;> exact ⟨rfl, rfl⟩

theorem watches_handle (s : EventSources) {e : SourceEvent} (other : ∀ callback, e ≠ .watch callback) :
    (s.handle e).watches = s.watches ∧ (s.handle e).next = s.next := by
  cases e with
  | watch callback => exact absurd rfl (other callback)
  | addTimeout t timeout created ctl settime =>
      cases created with
      | none => exact ⟨rfl, rfl⟩
      | some tfd =>
          simp only [handle, addTimeout]
          split_ifs
          · exact updateTimerFdFor_watches ..
          · exact ⟨rfl, rfl⟩
  | removeTimeout t ctl =>
      cases deletes : ctl.delete <;>
        simp [handle, removeTimeout, close, setEpoll, WatchTable.setEpoll, deletes]
  | toggleTimeout t timeout settime => exact updateTimerFdFor_watches ..
  | advance ns => exact ⟨rfl, rfl⟩
  | report fd =>
      rw [handle, (s.report_frame fd).2.2.2]
      exact ⟨rfl, rfl⟩

theorem unwatched_run {s u : EventSources} {w : Nat} {later : List SourceEvent}
    (run : Library.Run Step s later u) (made : w < s.next) (absent : w ∉ s.watches) : w ∉ u.watches := by
  have kept : w < u.next ∧ w ∉ u.watches := by
    refine Library.Run.invariant (fun _ m => w < m.next ∧ w ∉ m.watches) ⟨made, absent⟩ ?_ run
    intro past m e v _ kept step
    obtain ⟨-, rfl⟩ := step_iff.mp step
    by_cases other : ∀ callback, e ≠ .watch callback
    · rwa [(watches_handle m other).1, (watches_handle m other).2]
    · push Not at other
      obtain ⟨callback, rfl⟩ := other
      refine ⟨kept.1.trans_le (WatchTable.next_callback _ _), fun member => ?_⟩
      exact kept.2 ((WatchTable.mem_callback kept.1 callback).mp member).1
  exact kept.2

theorem enabledTimeoutFor_registered {s : EventSources} {fd : Int} {t : Nat}
    (found : s.enabledTimeoutFor fd = some t) : t ∈ s.timeouts.map Prod.fst := by
  obtain ⟨p, first, rfl⟩ := Option.map_eq_some_iff.mp found
  exact List.mem_map_of_mem (List.mem_of_find?_eq_some first)

theorem noTrace_watch {s : EventSources} {watch : Watch} {ctl : EpollCtl}
    (refused : s.refuses (.watch (.add watch ctl)) = true) : s.NoTrace (.watch (.add watch ctl)) := by
  have same : (s.handle (.watch (.add watch ctl))).toWatchTable = s.toWatchTable.make watch := by
    simp only [refuses, Bool.not_eq_true'] at refused
    simp only [handle, WatchTable.callback, WatchTable.addWatch] at refused ⊢
    split_ifs at refused ⊢
    rfl
  refine ⟨?_, rfl, ?_, ?_⟩
  · rw [same]
    rfl
  · rw [same]
    rfl
  intro later u run fd returned
  refine unwatched_run run ?_ ?_ (List.mem_of_mem_filter returned)
  · rw [same]
    exact s.toWatchTable.next_lt_make watch
  · rw [same]
    intro member
    exact absurd (s.made _ member) (Nat.lt_irrefl _)

theorem noTrace_timeout {s : EventSources} {t : Nat} {timeout : Timeout} {created : Option Int} {ctl : EpollCtl}
    {settime : Bool} (same : s.handle (.addTimeout t timeout created ctl settime) = s.setTimeout t timeout) :
    s.NoTrace (.addTimeout t timeout created ctl settime) := by
  refine ⟨same ▸ rfl, same ▸ rfl, same ▸ rfl, ?_⟩
  intro later u run absent others fd returned
  rw [same] at run
  exact registered_run run absent others (enabledTimeoutFor_registered returned)

theorem addTimeout_refuses {s : EventSources} (sound : s.Sound) {t : Nat} {timeout : Timeout} {tfd : Int}
    {ctl : EpollCtl} {settime : Bool} (allowed : s.allows (.addTimeout t timeout (some tfd) ctl settime) = true)
    (adds : ctl.add = true) : s.refuses (.addTimeout t timeout (some tfd) ctl settime) = true ↔
      settime = false ∨ timeout.enabled = true ∧ timeout.interval < 0 := by
  obtain ⟨natural, unwatched, fresh⟩ := allows_addTimeout.mp allowed
  have emplaced := (sound.setTimeout t timeout).emplace natural fresh t
  have succeeds := emplaced.settimeSucceeds_iff settime (t := t) (by simp [emplaceTimeout, pushTimeout])
  have set : ((s.setTimeout t timeout).emplaceTimeout t tfd).timeout t = timeout := Function.update_self ..
  rw [set] at succeeds
  rw [refuses, addTimeout_of_add (s := s.setTimeout t timeout) unwatched adds, updateTimerFdFor]
  split_ifs with ok
  · obtain ⟨rfl, natural⟩ := succeeds.mp ok
    simpa using natural
  · rw [succeeds] at ok
    cases settime with
    | false => simp
    | true => simpa using ok

theorem noTrace_iff {watch : Nat → Watch} {timeout : Nat → Timeout} {wakeUpFdR : Int} {es : List SourceEvent}
    {s : EventSources} (run : Library.Run Step (created watch timeout wakeUpFdR) es s) {e : SourceEvent}
    (allowed : s.allows e = true) : (s.refuses e = true → s.NoTrace e) ↔ ¬FailsAfterPush e := by
  have sound := run_sound run
  cases e with
  | watch callback =>
      cases callback with
      | add watch ctl => simpa [FailsAfterPush] using noTrace_watch
      | remove w ctl | toggle w enabled ctl => simp [refuses, FailsAfterPush]
  | addTimeout t timeout made ctl settime =>
      cases made with
      | none => simpa [FailsAfterPush] using fun _ => noTrace_timeout rfl
      | some tfd =>
          obtain ⟨-, unwatched, fresh⟩ := allows_addTimeout.mp allowed
          cases adds : ctl.add with
          | false =>
              have unchanged : s.handle (.addTimeout t timeout (some tfd) ctl settime) = s.setTimeout t timeout := by
                rw [handle, addTimeout_of_not_add (s := s.setTimeout t timeout) unwatched fresh adds]
              simpa [FailsAfterPush, adds] using fun _ => noTrace_timeout unchanged
          | true =>
              rw [addTimeout_refuses sound allowed adds]
              simp only [FailsAfterPush, Option.isSome_some, adds, true_and]
              constructor
              · intro noTrace fails
                have kept := (noTrace fails).timeouts
                rw [handle, addTimeout_of_add (s := s.setTimeout t timeout) unwatched adds,
                  updateTimerFdFor_timeouts] at kept
                simp [emplaceTimeout, pushTimeout, setEpoll, setTimer, setTimeout] at kept
              · intro succeeds fails
                exact absurd fails succeeds
  | removeTimeout t ctl | toggleTimeout t timeout settime | advance ns | report fd =>
      simp [refuses, FailsAfterPush]

/-- Where two timeouts and a watch are registered, `epoll_ctl` refuses the timerfd of one more. -/
def unwatchable : SourceEvent := .addTimeout 3 ⟨100, true⟩ (some 6) { add := false } true

theorem noTrace_unwatchable : (retimed.foldl handle quiet).timeouts = [(0, 4), (2, 5)] ∧
    (retimed.foldl handle quiet).watches = [0] ∧ (retimed.foldl handle quiet).refuses unwatchable = true ∧
      (retimed.foldl handle quiet).NoTrace unwatchable := by
  have refused : (retimed.foldl handle quiet).refuses unwatchable = true := by decide
  refine ⟨by decide, by decide, refused, (noTrace_iff retimed_run (by decide)).mpr ?_ refused⟩
  rintro ⟨-, adds, -⟩
  cases adds

def unsettable : SourceEvent := .addTimeout 0 ⟨100, true⟩ (some 4) {} false

theorem trace_unsettable : quiet.allows unsettable = true ∧ quiet.refuses unsettable = true ∧
    ¬quiet.NoTrace unsettable ∧ (quiet.handle unsettable).enabledTimeoutFor 4 = some 0 := by
  refine ⟨by decide, by decide, fun noTrace => ?_, by decide⟩
  exact absurd noTrace.timeouts (by decide)

end EventSources
end SystemCompositor
