import SystemCompositor.DBusEventLoop.Timers

namespace SystemCompositor
namespace TimerFd

/-- How often the interval has passed since the timer was set. -/
def elapsed (timer : TimerFd) (now : Nat) : Nat := (now - timer.setAt) / timer.spec.interval.ns

structure Regular (timer : TimerFd) (now : Nat) : Prop where
  periodic : timer.spec.interval = timer.spec.value
  valid : timer.spec.value.valid = true
  past : timer.setAt ≤ now
  reported : ∀ last ∈ timer.reportedAt, timer.setAt ≤ last ∧ last ≤ now

theorem Regular.ns_pos {timer : TimerFd} {now : Nat} (regular : timer.Regular now) (armed : timer.armed = true) :
    0 < timer.spec.interval.ns := by
  have valid := regular.valid
  simp only [Timespec.valid, Bool.and_eq_true, decide_eq_true_eq] at valid
  have nonzero : ¬(timer.spec.value.sec = 0 ∧ timer.spec.value.nsec = 0) := by
    rintro ⟨sec, nsec⟩
    have zero : timer.spec.value = {} := by
      cases found : timer.spec.value
      simp_all
    simp [TimerFd.armed, zero] at armed
  rw [regular.periodic, Timespec.ns]
  omega

theorem Regular.expirations_eq {timer : TimerFd} {now : Nat} (regular : timer.Regular now)
    (armed : timer.armed = true) {at_ : Nat} (past : timer.setAt ≤ at_) :
    timer.expirations at_ = timer.elapsed at_ := by
  have positive := regular.ns_pos armed
  simp only [expirations, armed, Bool.true_and, decide_eq_true_eq, elapsed, ← regular.periodic]
  split_ifs with due
  · have split : at_ - timer.setAt =
        at_ - (timer.setAt + timer.spec.interval.ns) + timer.spec.interval.ns := by omega
    rw [split, Nat.add_div_right _ positive, Nat.add_comm]
  · exact (Nat.div_eq_of_lt (by omega)).symm

theorem elapsed_mono (timer : TimerFd) {now later : Nat} (le : now ≤ later) :
    timer.elapsed now ≤ timer.elapsed later :=
  Nat.div_le_div_right (Nat.sub_le_sub_right le _)

theorem armed_of_readable {timer : TimerFd} {now : Nat} (readable : timer.readable now = true) :
    timer.armed = true := by
  by_contra unarmed
  simp [TimerFd.readable, expirations, unarmed] at readable

end TimerFd

namespace EventSources

def timerOf (s : EventSources) (t : Nat) : Option TimerFd := s.timers (s.timerFdFor t)

theorem timerOf_emplaceTimeout {s : EventSources} (sound : s.Sound) {tfd : Int} (natural : 0 ≤ tfd)
    (fresh : s.timers tfd = none) (t u : Nat) : (s.emplaceTimeout t tfd).timerOf u =
      if u = t ∧ t ∉ s.timeouts.map Prod.fst then some {} else s.timerOf u := by
  have timers : (s.emplaceTimeout t tfd).timers = Function.update s.timers tfd (some {}) := rfl
  rw [timerOf, timerFdFor_emplaceTimeout, timers]
  split_ifs with first
  · exact Function.update_self ..
  · apply Function.update_of_ne
    rintro rfl
    by_cases registered : u ∈ s.timeouts.map Prod.fst
    · have opened := (sound.opened _).mpr ⟨u, timerFdFor_mem registered⟩
      rw [fresh] at opened
      cases opened
    · rw [timerFdFor_of_notMem registered] at natural
      omega

theorem timerOf_removeTimeout {s : EventSources} (sound : s.Sound) (ctl : EpollCtl) (t u : Nat) :
    (s.removeTimeout ctl t).timerOf u = if u = t then none else s.timerOf u := by
  rw [timerOf, timerFdFor_removeTimeout, removeTimeout_timers]
  split_ifs with same gone own
  · rfl
  · exact sound.timers_neg
  · by_cases registered : u ∈ s.timeouts.map Prod.fst
    · exact absurd (sound.owner (timerFdFor_mem registered) own) same
    · rw [timerOf, timerFdFor_of_notMem registered, sound.timers_neg]
  · rfl

theorem Sound.timerFdFor_ne {s : EventSources} (sound : s.Sound) {t u : Nat}
    (registered : t ∈ s.timeouts.map Prod.fst) (other : u ≠ t) : s.timerFdFor u ≠ s.timerFdFor t := by
  intro shared
  have own := timerFdFor_mem registered
  by_cases registered' : u ∈ s.timeouts.map Prod.fst
  · exact other (sound.owner (shared ▸ timerFdFor_mem registered') own)
  · have opened := (sound.opened (s.timerFdFor t)).mpr ⟨t, own⟩
    rw [← shared, timerFdFor_of_notMem registered', sound.timers_neg] at opened
    cases opened

theorem timerOf_setTimerFor {s : EventSources} (sound : s.Sound) {t : Nat}
    (registered : t ∈ s.timeouts.map Prod.fst) (u : Nat) :
    (s.setTimerFor t).timerOf u = if u = t then some ⟨s.specFor t, s.now, none⟩ else s.timerOf u := by
  have timers : (s.setTimerFor t).timers =
    Function.update s.timers (s.timerFdFor t) (some ⟨s.specFor t, s.now, none⟩) := rfl
  have fds : (s.setTimerFor t).timerFdFor u = s.timerFdFor u := rfl
  rw [timerOf, fds, timers]
  split_ifs with same
  · rw [same]
    exact Function.update_self ..
  · exact Function.update_of_ne (sound.timerFdFor_ne registered same) ..

theorem timeoutToHandle_mem {s : EventSources} {fd : Int} {t : Nat} (found : s.timeoutToHandle fd = some t) :
    (t, fd) ∈ s.timeouts := by
  simp only [timeoutToHandle] at found
  split_ifs at found
  obtain ⟨p, first, rfl⟩ := Option.map_eq_some_iff.mp found
  have here : p.2 = fd := by
    have both := List.find?_some first
    simp only [Bool.and_eq_true, decide_eq_true_eq] at both
    exact both.1
  exact here ▸ List.mem_of_find?_eq_some first

theorem timerOf_report (s : EventSources) (fd : Int) (t : Nat) : (s.report fd).timerOf t =
    if s.timerFdFor t = fd then (s.timerOf t).map fun timer => { timer with reportedAt := some s.now }
    else s.timerOf t := by
  have fds : (s.report fd).timerFdFor t = s.timerFdFor t := by
    rw [timerFdFor, timerFdFor, (s.report_frame fd).1]
  rw [timerOf, fds, report_timers]
  split_ifs with same
  · rw [timerOf, same]
  · rfl

structure Counted (s : EventSources) : Prop where
  sound : s.Sound
  regular : ∀ fd timer, s.timers fd = some timer → timer.Regular s.now
  first : ∀ t fd timer, (t, fd) ∈ s.timeouts → s.timers fd = some timer → timer.armed = true →
    s.timerFdFor t = fd
  unreported : ∀ t timer, s.timerOf t = some timer → timer.armed = true → timer.reportedAt = none →
    s.handled t = 0

namespace Counted
variable {s : EventSources}

theorem setTimeout (counted : s.Counted) (t : Nat) (timeout : Timeout) : (s.setTimeout t timeout).Counted :=
  ⟨counted.sound.setTimeout t timeout, counted.regular, counted.first, counted.unreported⟩

theorem emplace (counted : s.Counted) {tfd : Int} (natural : 0 ≤ tfd) (fresh : s.timers tfd = none) (t : Nat) :
    (s.emplaceTimeout t tfd).Counted where
  sound := counted.sound.emplace natural fresh t
  regular fd timer found := by
    by_cases same : fd = tfd
    · obtain rfl : ({} : TimerFd) = timer := by
        simpa [emplaceTimeout, pushTimeout, setEpoll, setTimer, same] using found
      exact ⟨rfl, rfl, Nat.zero_le _, by simp⟩
    · exact counted.regular fd timer (by simpa [emplaceTimeout, pushTimeout, setEpoll, setTimer, same] using found)
  first u fd timer member found armed := by
    by_cases same : fd = tfd
    · obtain rfl : ({} : TimerFd) = timer := by
        simpa [emplaceTimeout, pushTimeout, setEpoll, setTimer, same] using found
      cases armed
    · have old : (u, fd) ∈ s.timeouts := by
        simpa [emplaceTimeout, pushTimeout, setEpoll, setTimer, same] using member
      rw [timerFdFor_emplaceTimeout, if_neg]
      · exact counted.first u fd timer old
          (by simpa [emplaceTimeout, pushTimeout, setEpoll, setTimer, same] using found) armed
      · rintro ⟨rfl, absent⟩
        exact absent (List.mem_map_of_mem (f := Prod.fst) old)
  unreported u timer found armed := by
    rw [timerOf_emplaceTimeout counted.sound natural fresh] at found
    split_ifs at found
    · obtain rfl := Option.some.inj found
      cases armed
    · exact counted.unreported u timer found armed

theorem updateTimerFdFor (counted : s.Counted) (settime : Bool) (t : Nat) :
    (s.updateTimerFdFor settime t).2.Counted := by
  have sound' := counted.sound.updateTimerFdFor settime t
  rw [EventSources.updateTimerFdFor] at sound' ⊢
  split_ifs with succeeds
  · rw [if_pos succeeds] at sound'
    have registered := counted.sound.registered_of_settime succeeds
    have timers : (s.setTimerFor t).timers =
      Function.update s.timers (s.timerFdFor t) (some ⟨s.specFor t, s.now, none⟩) := rfl
    refine ⟨sound', ?_, ?_, ?_⟩
    · intro fd timer found
      rw [timers] at found
      by_cases same : fd = s.timerFdFor t
      · rw [same, Function.update_self] at found
        obtain rfl := Option.some.inj found
        have valid : (s.specFor t).value.valid = true := by
          simp only [settimeSucceeds, Bool.and_eq_true] at succeeds
          exact succeeds.1.2
        refine ⟨?_, valid, Nat.le_refl _, by simp⟩
        rw [specFor]
        split_ifs <;> rfl
      · rw [Function.update_of_ne same] at found
        exact counted.regular fd timer found
    · intro u fd timer member found armed
      rw [timers] at found
      by_cases same : fd = s.timerFdFor t
      · obtain rfl := counted.sound.owner (same ▸ member) (timerFdFor_mem registered)
        exact same.symm
      · rw [Function.update_of_ne same] at found
        exact counted.first u fd timer member found armed
    · intro u timer found armed unreported
      rw [timerOf_setTimerFor counted.sound registered] at found
      by_cases same : u = t
      · subst same
        exact Function.update_self ..
      · rw [if_neg same] at found
        exact (Function.update_of_ne same ..).trans (counted.unreported u timer found armed unreported)
  · exact counted

theorem removeTimeout (counted : s.Counted) (ctl : EpollCtl) (t : Nat) : (s.removeTimeout ctl t).Counted where
  sound := counted.sound.removeTimeout ctl t
  regular fd timer found := by
    rw [removeTimeout_timers] at found
    split_ifs at found
    rw [removeTimeout_now]
    exact counted.regular fd timer found
  first u fd timer member found armed := by
    rw [removeTimeout_timers] at found
    split_ifs at found
    obtain ⟨old, other⟩ := List.mem_filter.mp member
    rw [timerFdFor_removeTimeout, if_neg (by simpa using other)]
    exact counted.first u fd timer old found armed
  unreported u timer found armed := by
    rw [timerOf_removeTimeout counted.sound] at found
    split_ifs at found
    rw [removeTimeout_handled]
    exact counted.unreported u timer found armed

/-- The timeout that a report hands over is the one whose timer expired. -/
theorem handed_over (counted : s.Counted) {fd : Int} (allowed : s.allows (.report fd) = true) {t : Nat}
    (handles : s.timeoutToHandle fd = some t) : s.timerFdFor t = fd := by
  have own := timeoutToHandle_mem handles
  obtain ⟨timer, found⟩ := Option.isSome_iff_exists.mp ((counted.sound.opened fd).mpr ⟨t, own⟩)
  simp only [allows, found, Option.all_some, Bool.and_eq_true] at allowed
  exact counted.first t fd timer own found (TimerFd.armed_of_readable allowed.2)

theorem report (counted : s.Counted) {fd : Int} (allowed : s.allows (.report fd) = true) :
    (s.report fd).Counted := by
  have sound' := counted.sound.handle allowed
  rw [EventSources.handle] at sound'
  obtain ⟨timeouts, -, now, -⟩ := s.report_frame fd
  refine ⟨sound', ?_, ?_, ?_⟩
  · intro other timer found
    rw [report_timers] at found
    rw [now]
    split_ifs at found
    · obtain ⟨before, found', rfl⟩ := Option.map_eq_some_iff.mp found
      obtain ⟨periodic, valid, past, -⟩ := counted.regular fd before found'
      exact ⟨periodic, valid, past, by simpa using past⟩
    · exact counted.regular other timer found
  · intro t other timer member found armed
    rw [report_timers] at found
    rw [timerFdFor, timeouts]
    split_ifs at found with same
    · obtain ⟨before, found', rfl⟩ := Option.map_eq_some_iff.mp found
      exact counted.first t other before (timeouts ▸ member) (same ▸ found') armed
    · exact counted.first t other timer (timeouts ▸ member) found armed
  · intro t timer found armed unreported
    rw [timerOf_report] at found
    rw [report_handled]
    split_ifs at found with own
    · obtain ⟨before, -, rfl⟩ := Option.map_eq_some_iff.mp found
      cases unreported
    · rw [if_neg fun handles => own (counted.handed_over allowed handles)]
      exact counted.unreported t timer found armed unreported

theorem handle (counted : s.Counted) {e : SourceEvent} (allowed : s.allows e = true) : (s.handle e).Counted := by
  cases e with
  | watch callback =>
      exact ⟨counted.sound.handle allowed, counted.regular, counted.first, counted.unreported⟩
  | addTimeout t timeout created ctl settime =>
      have before := counted.setTimeout t timeout
      rcases addTimeout_cases allowed with same | ⟨tfd, natural, fresh, same⟩
      · rwa [same]
      · rw [same]
        exact (before.emplace natural fresh t).updateTimerFdFor settime t
  | removeTimeout t ctl => exact counted.removeTimeout ctl t
  | toggleTimeout t timeout settime => exact (counted.setTimeout t timeout).updateTimerFdFor settime t
  | advance ns =>
      refine ⟨counted.sound.handle allowed, fun fd timer found => ?_, counted.first, counted.unreported⟩
      obtain ⟨periodic, valid, past, reported⟩ := counted.regular fd timer found
      refine ⟨periodic, valid, past.trans (Nat.le_add_right _ _), fun last member => ?_⟩
      exact (reported last member).imp_right fun le => le.trans (Nat.le_add_right _ _)
  | report fd => exact counted.report allowed

end Counted

/-- Since its timer was armed a timeout was handled no more often than its interval has passed. -/
def HandledPerExpiry (s : EventSources) : Prop :=
  ∀ t timer, s.timerOf t = some timer → timer.armed = true → s.handled t ≤ timer.elapsed s.now

/-- The same, as of the last time its timer was reported. -/
def HandledBeforeReport (s : EventSources) : Prop :=
  ∀ t timer, s.timerOf t = some timer → timer.armed = true → ∀ last ∈ timer.reportedAt,
    s.handled t ≤ timer.elapsed last

/-- `epoll_wait` gives a timerfd again only once its timer was set anew or has expired once more. -/
def ReportsAnew (s : EventSources) : SourceEvent → Prop
  | .report fd => ∀ timer, s.timers fd = some timer → ∀ last ∈ timer.reportedAt,
      timer.expirations last < timer.expirations s.now
  | .watch _ | .addTimeout _ _ _ _ _ | .removeTimeout _ _ | .toggleTimeout _ _ _ | .advance _ => True

instance (s : EventSources) : (e : SourceEvent) → Decidable (s.ReportsAnew e)
  | .report fd =>
      decidable_of_iff ((s.timers fd).all fun timer => timer.reportedAt.all fun last =>
        timer.expirations last < timer.expirations s.now) (by
          simp [ReportsAnew, Option.all_eq_true])
  | .watch _ | .addTimeout _ _ _ _ _ | .removeTimeout _ _ | .toggleTimeout _ _ _ | .advance _ => isTrue trivial

theorem handledPerExpiry_of_report {s : EventSources} (counted : s.Counted) (kept : s.HandledBeforeReport) :
    s.HandledPerExpiry := by
  intro t timer found armed
  cases reported : timer.reportedAt with
  | none =>
      rw [counted.unreported t timer found armed reported]
      exact Nat.zero_le _
  | some last =>
      have before := (counted.regular _ timer found).reported last reported
      exact (kept t timer found armed last reported).trans (timer.elapsed_mono before.2)

theorem handledBeforeReport_updateTimerFdFor {s : EventSources} (sound : s.Sound) (kept : s.HandledBeforeReport)
    (settime : Bool) (t : Nat) : (s.updateTimerFdFor settime t).2.HandledBeforeReport := by
  rw [updateTimerFdFor]
  split_ifs with succeeds
  · have registered := sound.registered_of_settime succeeds
    intro u timer found armed
    rw [timerOf_setTimerFor sound registered] at found
    by_cases same : u = t
    · rw [if_pos same] at found
      obtain rfl := Option.some.inj found
      simp
    · rw [if_neg same] at found
      have unchanged : (s.setTimerFor t).handled u = s.handled u := Function.update_of_ne same ..
      rw [unchanged]
      exact kept u timer found armed
  · exact kept

/-- A report of a new expiration makes room for the handling that it brings. -/
theorem handledBeforeReport_report {s : EventSources} (counted : s.Counted) (kept : s.HandledBeforeReport) {fd : Int}
    (allowed : s.allows (.report fd) = true) (anew : s.ReportsAnew (.report fd)) :
    (s.report fd).HandledBeforeReport := by
  intro t timer found armed last reported
  rw [timerOf_report] at found
  rw [report_handled]
  split_ifs at found with own
  · obtain ⟨before, found', rfl⟩ := Option.map_eq_some_iff.mp found
    obtain rfl : s.now = last := by simpa using reported
    have here : s.timers fd = some before := own ▸ found'
    have regular := counted.regular fd before here
    have once := handledPerExpiry_of_report counted kept t before found' armed
    split_ifs
    · -- The timeout is handled: its timer has expired, and more often than at the report before.
      change s.handled t + 1 ≤ before.elapsed s.now
      rw [← regular.expirations_eq armed regular.past]
      cases earlier : before.reportedAt with
      | none =>
          have expired : 0 < before.expirations s.now := by
            simpa [allows, here, TimerFd.readable] using (Bool.and_eq_true_iff.mp allowed).2
          rw [counted.unreported t before found' armed earlier]
          exact expired
      | some last =>
          have less := anew before here last earlier
          rw [regular.expirations_eq armed (regular.reported last earlier).1] at less
          exact Nat.lt_of_le_of_lt (kept t before found' armed last earlier) less
    · exact once
  · rw [if_neg fun handles => own (counted.handed_over allowed handles)]
    exact kept t timer found armed last reported

theorem handledBeforeReport_handle {s : EventSources} (counted : s.Counted) (kept : s.HandledBeforeReport)
    {e : SourceEvent} (allowed : s.allows e = true) (anew : s.ReportsAnew e) :
    (s.handle e).HandledBeforeReport := by
  cases e with
  | report fd => exact handledBeforeReport_report counted kept allowed anew
  | watch callback => exact kept
  | addTimeout t timeout created ctl settime =>
      have before := counted.setTimeout t timeout
      rcases addTimeout_cases allowed with same | ⟨tfd, natural, fresh, same⟩
      · rw [same]
        exact kept
      · rw [same]
        refine handledBeforeReport_updateTimerFdFor (before.emplace natural fresh t).sound ?_ settime t
        intro u timer found armed
        rw [timerOf_emplaceTimeout before.sound natural fresh] at found
        split_ifs at found
        · obtain rfl := Option.some.inj found
          cases armed
        · exact kept u timer found armed
  | removeTimeout t ctl =>
      intro u timer found armed
      rw [handle, timerOf_removeTimeout counted.sound] at found
      split_ifs at found
      rw [handle, removeTimeout_handled]
      exact kept u timer found armed
  | toggleTimeout t timeout settime =>
      exact handledBeforeReport_updateTimerFdFor (counted.setTimeout t timeout).sound kept settime t
  | advance ns => exact kept

section
variable {watch : Nat → Watch} {timeout : Nat → Timeout} {wakeUpFdR : Int} {es : List SourceEvent}
  {s : EventSources}

theorem run_counted (run : Library.Run Step (created watch timeout wakeUpFdR) es s) : s.Counted := by
  refine Library.Run.invariant (fun _ s => s.Counted) ?_ ?_ run
  · exact ⟨created_sound .., by simp [created], by simp [created], by simp [created, timerOf]⟩
  · intro past m e t _ counted step
    obtain ⟨allowed, rfl⟩ := step_iff.mp step
    exact counted.handle allowed

/-- No timeout is handled more often than it expires in a run where no report repeats the one before it. -/
theorem handledPerExpiry_of_reportsAnew
    (anew : Library.Along Step (fun _ => ReportsAnew) (created watch timeout wakeUpFdR) es) :
    Library.Throughout Step (fun _ => HandledPerExpiry) (created watch timeout wakeUpFdR) es := by
  intro past le m run
  have kept : m.HandledBeforeReport := by
    refine Library.Along.invariant (fun _ s => s.HandledBeforeReport) ?_ ?_ (anew.restrict le) run
    · intro t timer found
      simp [created, timerOf] at found
    · intro earlier n e t before kept anew step
      obtain ⟨allowed, rfl⟩ := step_iff.mp step
      exact handledBeforeReport_handle (run_counted before) kept allowed anew
  exact handledPerExpiry_of_report (run_counted run) kept

end

/-- The second report of the first timeout comes after two more of its expirations, the third after it was set
anew; the second timeout is removed once it was handled. -/
def renewed : List SourceEvent :=
  [.addTimeout 0 ⟨100, true⟩ (some 4) {} true, .addTimeout 1 ⟨250, true⟩ (some 5) {} true, .advance 100000000,
    .report 4, .advance 200000000, .report 4, .report 5, .toggleTimeout 0 ⟨50, true⟩ true, .removeTimeout 1 {},
    .advance 50000000, .report 4]

theorem handledPerExpiry_renewed : (∃ s, Library.Run Step quiet renewed s ∧ s.handled 0 = 1) ∧
    Library.Throughout Step (fun _ => HandledPerExpiry) quiet renewed := by
  obtain ⟨s, ran, once⟩ : ∃ s, renewed.foldlM step quiet = some s ∧ s.handled 0 = 1 := ⟨_, rfl, rfl⟩
  exact ⟨⟨s, Library.run_of_foldlM_option.mp ran, once⟩, handledPerExpiry_of_reportsAnew (by decide)⟩

/-- Nothing reads the timerfd, and `epoll_wait` gives it again at once. -/
def expiryTwice : List SourceEvent := [oneTimeout 100, .advance 100000000, .report 4, .report 4]

theorem handledPerExpiry_fails : Library.Run Step quiet expiryTwice (expiryTwice.foldl handle quiet) ∧
    (expiryTwice.foldl handle quiet).timeouts = [(0, 4)] ∧ (expiryTwice.foldl handle quiet).handled 0 = 2 ∧
    ¬(expiryTwice.foldl handle quiet).HandledPerExpiry := by
  refine ⟨?_, by decide, by decide, fun kept => ?_⟩
  · exact .cons (step_iff.mpr ⟨by decide, rfl⟩) (.cons (step_iff.mpr ⟨by decide, rfl⟩)
      (.cons (step_iff.mpr ⟨by decide, rfl⟩) (.cons (step_iff.mpr ⟨by decide, rfl⟩) (.nil _))))
  · have once := kept 0 ⟨⟨⟨0, 100000000⟩, ⟨0, 100000000⟩⟩, 0, some 100000000⟩ rfl rfl
    exact absurd once (by decide)

end EventSources
end SystemCompositor
