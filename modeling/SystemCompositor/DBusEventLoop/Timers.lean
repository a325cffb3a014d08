import Mathlib.Data.List.Nodup
import SystemCompositor.DBusEventLoop.Timeouts

namespace SystemCompositor

def Timespec.Exactly (t : Timespec) (msec : Int) : Prop :=
  t.sec * 1000 + t.nsec / 1000000 = msec ∧ t.nsec % 1000000 = 0 ∧ 0 ≤ t.nsec ∧ t.nsec < 1000000000

theorem exactly_msecToTimespec {msec : Int} (natural : 0 ≤ msec) : (msecToTimespec msec).Exactly msec := by
  simp only [Timespec.Exactly, msecToTimespec, Int.tdiv_eq_ediv_of_nonneg natural,
    Int.tmod_eq_emod_of_nonneg natural]
  omega

theorem valid_msecToTimespec_iff (msec : Int) : (msecToTimespec msec).valid = true ↔ 0 ≤ msec := by
  simp only [Timespec.valid, Bool.and_eq_true, decide_eq_true_eq]
  simp only [msecToTimespec]
  by_cases natural : 0 ≤ msec
  · rw [Int.tdiv_eq_ediv_of_nonneg natural, Int.tmod_eq_emod_of_nonneg natural]
    omega
  · have split := Int.tmod_add_mul_tdiv msec 1000
    omega

theorem msecToTimespec_eq_zero {msec : Int} (natural : 0 ≤ msec) : msecToTimespec msec = {} ↔ msec = 0 := by
  simp only [msecToTimespec, Int.tdiv_eq_ediv_of_nonneg natural, Int.tmod_eq_emod_of_nonneg natural,
    Timespec.mk.injEq]
  omega

namespace TimerFd

def Follows (timer : TimerFd) (timeout : Timeout) : Prop :=
  (timer.armed = true ↔ timeout.enabled = true) ∧ (timer.armed = true →
    timer.spec.value.Exactly timeout.interval ∧ timer.spec.interval.Exactly timeout.interval)

theorem follows_iff {timer timer' : TimerFd} (same : timer'.spec = timer.spec) (timeout : Timeout) :
    timer'.Follows timeout ↔ timer.Follows timeout := by
  simp [Follows, armed, same]

end TimerFd

namespace EventSources

structure Sound (s : EventSources) : Prop where
  distinct : (s.timeouts.map Prod.snd).Nodup
  opened : ∀ fd, (s.timers fd).isSome ↔ ∃ t, (t, fd) ∈ s.timeouts
  natural : ∀ fd, (s.timers fd).isSome → 0 ≤ fd
  watched : ∀ fd, (s.timers fd).isSome → s.epoll fd = some { input := true }

namespace Sound
variable {s : EventSources}

theorem owner (sound : s.Sound) {t u : Nat} {fd : Int} (own : (t, fd) ∈ s.timeouts)
    (other : (u, fd) ∈ s.timeouts) : t = u :=
  (Prod.mk.inj (List.inj_on_of_nodup_map sound.distinct own other rfl)).1

theorem timers_neg (sound : s.Sound) : s.timers (-1) = none := by
  by_contra someTimer
  have natural := sound.natural (-1) (Option.isSome_iff_ne_none.mpr someTimer)
  omega

theorem settime_fails (sound : s.Sound) (settime : Bool) {t : Nat} (absent : t ∉ s.timeouts.map Prod.fst) :
    s.settimeSucceeds settime t = false := by
  simp [settimeSucceeds, timerFdFor_of_notMem absent, sound.timers_neg]

theorem registered_of_settime (sound : s.Sound) {settime : Bool} {t : Nat}
    (succeeds : s.settimeSucceeds settime t = true) : t ∈ s.timeouts.map Prod.fst := by
  by_contra absent
  rw [sound.settime_fails settime absent] at succeeds
  cases succeeds

theorem settimeSucceeds_iff (sound : s.Sound) (settime : Bool) {t : Nat}
    (registered : t ∈ s.timeouts.map Prod.fst) : s.settimeSucceeds settime t = true ↔
      settime = true ∧ ((s.timeout t).enabled = true → 0 ≤ (s.timeout t).interval) := by
  have opened := (sound.opened (s.timerFdFor t)).mpr ⟨t, timerFdFor_mem registered⟩
  cases enabled : (s.timeout t).enabled with
  | false => simp [settimeSucceeds, opened, specFor, enabled, Timespec.valid]
  | true => simp [settimeSucceeds, opened, specFor, enabled, valid_msecToTimespec_iff]

/-- Sound does not depend on what is in a timer. -/
theorem congr (sound : s.Sound) {s' : EventSources} (timeouts : s'.timeouts = s.timeouts)
    (timers : ∀ fd, (s'.timers fd).isSome = (s.timers fd).isSome)
    (epoll : ∀ fd, (s.timers fd).isSome → s'.epoll fd = s.epoll fd) : s'.Sound where
  distinct := timeouts ▸ sound.distinct
  opened fd := by rw [timers, timeouts, sound.opened]
  natural fd opened := sound.natural fd (timers fd ▸ opened)
  watched fd opened := by
    rw [timers] at opened
    rw [epoll fd opened, sound.watched fd opened]

theorem setTimeout (sound : s.Sound) (t : Nat) (timeout : Timeout) : (s.setTimeout t timeout).Sound :=
  sound.congr rfl (fun _ => rfl) (fun _ _ => rfl)

theorem updateTimerFdFor (sound : s.Sound) (settime : Bool) (t : Nat) :
    (s.updateTimerFdFor settime t).2.Sound := by
  rw [EventSources.updateTimerFdFor]
  split_ifs with succeeds
  · have opened : (s.timers (s.timerFdFor t)).isSome := by
      simp only [settimeSucceeds, Bool.and_eq_true] at succeeds
      exact succeeds.1.1.2
    refine sound.congr rfl (fun fd => ?_) (fun _ _ => rfl)
    by_cases same : fd = s.timerFdFor t
    · subst same
      simp [setTimerFor, setTimer, opened]
    · simp [setTimerFor, setTimer, same]
  · exact sound

theorem emplace (sound : s.Sound) {tfd : Int} (natural : 0 ≤ tfd) (fresh : s.timers tfd = none) (t : Nat) :
    (s.emplaceTimeout t tfd).Sound where
  distinct := by
    have unowned : ∀ u, (u, tfd) ∉ s.timeouts := by
      intro u member
      have opened := (sound.opened tfd).mpr ⟨u, member⟩
      simp [fresh] at opened
    have apart (fd : Int) (u : Nat) (member : (u, fd) ∈ s.timeouts) : ¬fd = tfd := by
      rintro rfl
      exact unowned u member
    simpa [emplaceTimeout, pushTimeout, setEpoll, setTimer, List.nodup_append, apart] using ⟨sound.distinct, apart⟩
  opened fd := by
    by_cases same : fd = tfd
    · subst same
      simp [emplaceTimeout, pushTimeout, setEpoll, setTimer]
    · simp [emplaceTimeout, pushTimeout, setEpoll, setTimer, same, sound.opened]
  natural fd opened := by
    by_cases same : fd = tfd
    · exact same ▸ natural
    · apply sound.natural
      simpa [emplaceTimeout, pushTimeout, setEpoll, setTimer, same] using opened
  watched fd opened := by
    by_cases same : fd = tfd
    · subst same
      simp [emplaceTimeout, pushTimeout, setEpoll, WatchTable.setEpoll]
    · have old : (s.timers fd).isSome := by simpa [emplaceTimeout, pushTimeout, setEpoll, setTimer, same] using opened
      simpa [emplaceTimeout, pushTimeout, setEpoll, setTimer, WatchTable.setEpoll, same] using sound.watched fd old

theorem removeTimeout (sound : s.Sound) (ctl : EpollCtl) (t : Nat) : (s.removeTimeout ctl t).Sound where
  distinct := sound.distinct.sublist (List.filter_sublist.map Prod.snd)
  opened fd := by
    rw [removeTimeout_timers]
    split_ifs with own
    · simp only [Option.isSome_none, Bool.false_eq_true, false_iff, removeTimeout_timeouts]
      rintro ⟨u, member⟩
      obtain ⟨old, other⟩ := List.mem_filter.mp member
      exact absurd (sound.owner old own) (by simpa using other)
    · rw [sound.opened, removeTimeout_timeouts]
      constructor
      · rintro ⟨u, member⟩
        refine ⟨u, List.mem_filter.mpr ⟨member, ?_⟩⟩
        simp only [ne_eq, decide_not, Bool.not_eq_true', decide_eq_false_iff_not]
        rintro rfl
        exact own member
      · rintro ⟨u, member⟩
        exact ⟨u, List.mem_of_mem_filter member⟩
  natural fd opened := by
    rw [removeTimeout_timers] at opened
    split_ifs at opened
    · cases opened
    · exact sound.natural fd opened
  watched fd opened := by
    rw [removeTimeout_timers] at opened
    split_ifs at opened with own
    · cases opened
    · have other : fd ≠ s.timerFdFor t := by
        rintro rfl
        by_cases registered : t ∈ s.timeouts.map Prod.fst
        · exact own (timerFdFor_mem registered)
        · rw [timerFdFor_of_notMem registered, sound.timers_neg] at opened
          cases opened
      rw [removeTimeout_epoll, if_neg own, if_neg (fun both => other both.2), sound.watched fd opened]

theorem handle (sound : s.Sound) {e : SourceEvent} (allowed : s.allows e = true) : (s.handle e).Sound := by
  cases e with
  | watch callback =>
      refine sound.congr rfl (fun _ => rfl) (fun fd opened => ?_)
      apply WatchTable.callback_epoll_of_ne
      rintro rfl
      simp only [allows, Bool.and_eq_true, Option.isNone_iff_eq_none] at allowed
      rw [allowed.1] at opened
      cases opened
  | addTimeout t timeout created ctl settime =>
      have before := sound.setTimeout t timeout
      rcases addTimeout_cases allowed with same | ⟨tfd, natural, fresh, same⟩
      · rwa [same]
      · rw [same]
        exact (before.emplace natural fresh t).updateTimerFdFor settime t
  | removeTimeout t ctl => exact sound.removeTimeout ctl t
  | toggleTimeout t timeout settime => exact (sound.setTimeout t timeout).updateTimerFdFor settime t
  | advance ns => exact sound.congr rfl (fun _ => rfl) (fun _ _ => rfl)
  | report fd =>
      obtain ⟨timeouts, -, -, table⟩ := s.report_frame fd
      refine sound.congr timeouts (fun other => ?_) (fun other _ => by rw [EventSources.handle, table])
      rw [EventSources.handle, report_timers]
      split_ifs with same
      · simp [same]
      · rfl

end Sound

theorem follows_specFor (s : EventSources) {t : Nat} (natural : 0 ≤ (s.timeout t).interval) (setAt : Nat)
    (reportedAt : Option Nat) : TimerFd.Follows ⟨s.specFor t, setAt, reportedAt⟩ (s.timeout t) ↔
      ((s.timeout t).enabled = true → (s.timeout t).interval ≠ 0) := by
  have zero := msecToTimespec_eq_zero natural
  cases enabled : (s.timeout t).enabled with
  | false => simp [TimerFd.Follows, TimerFd.armed, specFor, enabled]
  | true => simp [TimerFd.Follows, TimerFd.armed, specFor, enabled, zero, exactly_msecToTimespec natural]

def Single (s : EventSources) : Prop := (s.timeouts.map Prod.fst).Nodup

structure Mirrors (s : EventSources) : Prop where
  epoll : ∀ fd, (s.timers fd).isSome ∧ (s.epoll fd).isSome ↔ ∃ t, (t, fd) ∈ s.timeouts
  distinct : (s.timeouts.map Prod.snd).Nodup
  follows : ∀ t fd, (t, fd) ∈ s.timeouts →
    ∃ timer, s.timers fd = some timer ∧ timer.Follows (s.timeout t)

/-- The timeout is not registered yet, and every system call succeeds on its non-negative interval. -/
def Succeeds (s : EventSources) : SourceEvent → Prop
  | .addTimeout t timeout created ctl settime => t ∉ s.timeouts.map Prod.fst ∧
      created.isSome = true ∧ ctl.add = true ∧ settime = true ∧ 0 ≤ timeout.interval
  | .toggleTimeout _ timeout settime => settime = true ∧ 0 ≤ timeout.interval
  | .watch _ | .removeTimeout _ _ | .advance _ | .report _ => True

def EnablesNonzero (s : EventSources) : SourceEvent → Prop
  | .addTimeout _ timeout _ _ _ => timeout.enabled = true → timeout.interval ≠ 0
  | .toggleTimeout t timeout _ =>
      t ∈ s.timeouts.map Prod.fst → timeout.enabled = true → timeout.interval ≠ 0
  | .watch _ | .removeTimeout _ _ | .advance _ | .report _ => True

instance (s : EventSources) : (e : SourceEvent) → Decidable (s.Succeeds e)
  | .addTimeout .. => inferInstanceAs (Decidable (_ ∧ _))
  | .toggleTimeout .. => inferInstanceAs (Decidable (_ ∧ _))
  | .watch _ | .removeTimeout _ _ | .advance _ | .report _ => isTrue trivial

instance (s : EventSources) : (e : SourceEvent) → Decidable (s.EnablesNonzero e)
  | .addTimeout .. => inferInstanceAs (Decidable (_ → _))
  | .toggleTimeout .. => inferInstanceAs (Decidable (_ → _))
  | .watch _ | .removeTimeout _ _ | .advance _ | .report _ => isTrue trivial

instance {Allowed : List SourceEvent → EventSources → SourceEvent → Prop} [∀ past s e, Decidable (Allowed past s e)]
    (s : EventSources) (es : List SourceEvent) : Decidable (Library.Along Step Allowed s es) :=
  Library.decideAlong step (fun _ _ _ => Iff.rfl) Allowed s es

theorem Sound.mirrors_iff {s : EventSources} (sound : s.Sound) : s.Mirrors ↔ ∀ t fd, (t, fd) ∈ s.timeouts →
    ∃ timer, s.timers fd = some timer ∧ timer.Follows (s.timeout t) := by
  constructor
  · exact Mirrors.follows
  · intro follows
    refine ⟨fun fd => ?_, sound.distinct, follows⟩
    rw [← sound.opened]
    constructor
    · exact And.left
    · intro opened
      rw [sound.watched fd opened]
      exact ⟨opened, rfl⟩

theorem Single.entry {s : EventSources} (single : s.Single) {t : Nat} {fd : Int} (own : (t, fd) ∈ s.timeouts) :
    fd = s.timerFdFor t := by
  have first := timerFdFor_mem (List.mem_map_of_mem (f := Prod.fst) own)
  exact (Prod.mk.inj (List.inj_on_of_nodup_map single own first rfl)).2

theorem mirrors_updateTimerFdFor {s : EventSources} (sound : s.Sound) (single : s.Single) {t : Nat}
    (registered : t ∈ s.timeouts.map Prod.fst) {timeout : Timeout} (set : s.timeout t = timeout)
    (natural : 0 ≤ timeout.interval)
    (others : ∀ u fd, u ≠ t → (u, fd) ∈ s.timeouts →
      ∃ timer, s.timers fd = some timer ∧ timer.Follows (s.timeout u)) :
    (s.updateTimerFdFor true t).2.Mirrors ↔ (timeout.enabled = true → timeout.interval ≠ 0) := by
  subst set
  have own := timerFdFor_mem registered
  have succeeds := (sound.settimeSucceeds_iff true registered).mpr ⟨rfl, fun _ => natural⟩
  have sound' := sound.updateTimerFdFor true t
  rw [updateTimerFdFor, if_pos succeeds] at sound' ⊢
  rw [sound'.mirrors_iff, ← s.follows_specFor natural s.now none]
  constructor
  · intro follows
    obtain ⟨timer, found, follow⟩ := follows t (s.timerFdFor t) own
    have set : timer = ⟨s.specFor t, s.now, none⟩ := by simpa [setTimerFor, setTimer] using found.symm
    exact set ▸ follow
  · intro follow u fd member
    by_cases same : u = t
    · subst same
      rw [single.entry member]
      exact ⟨_, Function.update_self .., follow⟩
    · obtain ⟨timer, found, follow'⟩ := others u fd same member
      refine ⟨timer, ?_, follow'⟩
      have other : fd ≠ s.timerFdFor t := by
        rintro rfl
        exact same (sound.owner member own)
      exact (Function.update_of_ne other ..).trans found

theorem updateTimerFdFor_timeouts (s : EventSources) (settime : Bool) (t : Nat) :
    (s.updateTimerFdFor settime t).2.timeouts = s.timeouts := by
  rw [updateTimerFdFor]
  split_ifs <;> rfl

theorem Single.emplace {s : EventSources} (single : s.Single) {t : Nat} (absent : t ∉ s.timeouts.map Prod.fst)
    (tfd : Int) : (s.emplaceTimeout t tfd).Single := by
  have apart (u : Nat) (fd : Int) (member : (u, fd) ∈ s.timeouts) : ¬u = t := by
    rintro rfl
    exact absent (List.mem_map_of_mem (f := Prod.fst) member)
  simpa [Single, emplaceTimeout, pushTimeout, setEpoll, setTimer, List.nodup_append, apart] using ⟨single, apart⟩

theorem Single.handle {s : EventSources} (single : s.Single) {e : SourceEvent} (allowed : s.allows e = true)
    (succeeds : s.Succeeds e) : (s.handle e).Single := by
  cases e with
  | addTimeout t timeout created ctl settime =>
      obtain ⟨absent, made, adds, rfl, -⟩ := succeeds
      obtain ⟨tfd, rfl⟩ := Option.isSome_iff_exists.mp made
      have unwatched := (allows_addTimeout.mp allowed).2.1
      rw [Single, EventSources.handle, addTimeout_of_add (s := s.setTimeout t timeout) unwatched adds,
        updateTimerFdFor_timeouts]
      exact single.emplace absent tfd
  | removeTimeout t ctl => exact single.sublist (List.filter_sublist.map Prod.fst)
  | toggleTimeout t timeout settime =>
      rw [Single, EventSources.handle, toggleTimeout, updateTimerFdFor_timeouts]
      exact single
  | report fd =>
      rw [Single, EventSources.handle, (s.report_frame fd).1]
      exact single
  | watch callback => exact single
  | advance ns => exact single

theorem mirrors_addTimeout {s : EventSources} (sound : s.Sound) (single : s.Single) (mirrors : s.Mirrors) {t : Nat}
    {timeout : Timeout} {created : Option Int} {ctl : EpollCtl} {settime : Bool}
    (allowed : s.allows (.addTimeout t timeout created ctl settime) = true)
    (succeeds : s.Succeeds (.addTimeout t timeout created ctl settime)) :
    (s.handle (.addTimeout t timeout created ctl settime)).Mirrors ↔
      (timeout.enabled = true → timeout.interval ≠ 0) := by
  obtain ⟨absent, made, adds, rfl, natural⟩ := succeeds
  obtain ⟨tfd, rfl⟩ := Option.isSome_iff_exists.mp made
  obtain ⟨tfd_natural, unwatched, fresh⟩ := allows_addTimeout.mp allowed
  have pushed := (sound.setTimeout t timeout).emplace tfd_natural fresh t
  have single' := single.emplace (s := s.setTimeout t timeout) absent tfd
  have own : ((s.setTimeout t timeout).timeout t) = timeout := Function.update_self ..
  rw [handle, addTimeout_of_add (s := s.setTimeout t timeout) unwatched adds,
    mirrors_updateTimerFdFor pushed single' (by simp [emplaceTimeout, pushTimeout]) own natural]
  intro u fd other member
  have old : (u, fd) ∈ s.timeouts := by
    simpa [emplaceTimeout, pushTimeout, setEpoll, setTimer, setTimeout, other] using member
  have apart : fd ≠ tfd := by
    rintro rfl
    have opened := (sound.opened fd).mpr ⟨u, old⟩
    rw [fresh] at opened
    cases opened
  simpa [emplaceTimeout, pushTimeout, setEpoll, setTimer, setTimeout, other, apart]
    using mirrors.follows u fd old

theorem mirrors_toggleTimeout {s : EventSources} (sound : s.Sound) (single : s.Single) (mirrors : s.Mirrors)
    (t : Nat) {timeout : Timeout} (natural : 0 ≤ timeout.interval) :
    (s.handle (.toggleTimeout t timeout true)).Mirrors ↔
      (t ∈ s.timeouts.map Prod.fst → timeout.enabled = true → timeout.interval ≠ 0) := by
  have own : ((s.setTimeout t timeout).timeout t) = timeout := Function.update_self ..
  have others (u : Nat) (fd : Int) (other : u ≠ t) (member : (u, fd) ∈ s.timeouts) :
      ∃ timer, s.timers fd = some timer ∧ timer.Follows ((s.setTimeout t timeout).timeout u) := by
    have same : (s.setTimeout t timeout).timeout u = s.timeout u := Function.update_of_ne other ..
    rw [same]
    exact mirrors.follows u fd member
  rw [handle, toggleTimeout]
  by_cases registered : t ∈ s.timeouts.map Prod.fst
  · rw [mirrors_updateTimerFdFor (s := s.setTimeout t timeout)
      (sound.setTimeout t timeout) single registered own natural others]
    simp only [registered, true_imp_iff]
  · simp only [registered, false_imp_iff, iff_true]
    -- The descriptor of a timeout that is not registered is -1, which `timerfd_settime` rejects.
    have fails := (sound.setTimeout t timeout).settime_fails true registered
    rw [((sound.setTimeout t timeout).updateTimerFdFor true t).mirrors_iff]
    simp only [updateTimerFdFor, fails, Bool.false_eq_true, if_false]
    intro u fd member
    refine others u fd ?_ member
    rintro rfl
    exact registered (List.mem_map_of_mem (f := Prod.fst) member)

theorem mirrors_removeTimeout {s : EventSources} (sound : s.Sound) (mirrors : s.Mirrors) (t : Nat) (ctl : EpollCtl)
    (sound' : (s.handle (.removeTimeout t ctl)).Sound) : (s.handle (.removeTimeout t ctl)).Mirrors := by
  rw [sound'.mirrors_iff]
  intro u fd member
  obtain ⟨old, other⟩ := List.mem_filter.mp member
  obtain ⟨timer, found, follow⟩ := mirrors.follows u fd old
  refine ⟨timer, ?_, ?_⟩
  · rw [handle, removeTimeout_timers, if_neg, found]
    intro own
    exact absurd (sound.owner old own) (by simpa using other)
  · rwa [handle, removeTimeout_timeout]

theorem mirrors_report {s : EventSources} (mirrors : s.Mirrors) (fd : Int) (sound' : (s.report fd).Sound) :
    (s.report fd).Mirrors := by
  obtain ⟨timeouts, timeout, -, -⟩ := s.report_frame fd
  rw [sound'.mirrors_iff]
  intro u other member
  obtain ⟨timer, found, follow⟩ := mirrors.follows u other (timeouts ▸ member)
  rw [report_timers, timeout]
  split_ifs with same
  · subst same
    exact ⟨{ timer with reportedAt := some s.now }, by rw [found]; rfl, (TimerFd.follows_iff rfl _).mpr follow⟩
  · exact ⟨timer, found, follow⟩

theorem mirrors_handle {s : EventSources} (sound : s.Sound) (single : s.Single) (mirrors : s.Mirrors)
    {e : SourceEvent} (allowed : s.allows e = true) (succeeds : s.Succeeds e) :
    (s.handle e).Mirrors ↔ s.EnablesNonzero e := by
  have sound' := sound.handle allowed
  cases e with
  | addTimeout t timeout created ctl settime => exact mirrors_addTimeout sound single mirrors allowed succeeds
  | toggleTimeout t timeout settime =>
      obtain ⟨rfl, natural⟩ := succeeds
      exact mirrors_toggleTimeout sound single mirrors t natural
  | removeTimeout t ctl => exact iff_of_true (mirrors_removeTimeout sound mirrors t ctl sound') trivial
  | report fd => exact iff_of_true (mirrors_report mirrors fd sound') trivial
  | watch callback | advance ns => exact iff_of_true (sound'.mirrors_iff.mpr mirrors.follows) trivial

theorem created_sound (watch : Nat → Watch) (timeout : Nat → Timeout) (wakeUpFdR : Int) :
    (created watch timeout wakeUpFdR).Sound where
  distinct := List.nodup_nil
  opened fd := by simp [created]
  natural fd opened := by cases opened
  watched fd opened := by cases opened

theorem step_iff {s t : EventSources} {e : SourceEvent} : Step s e t ↔ s.allows e = true ∧ s.handle e = t := by
  simp [Step, step]

theorem step_deterministic (s : EventSources) (e : SourceEvent) (t t' : EventSources) (first : Step s e t)
    (second : Step s e t') : t = t' := by
  rw [step_iff] at first second
  exact first.2.symm.trans second.2

section
variable {watch : Nat → Watch} {timeout : Nat → Timeout} {wakeUpFdR : Int} {es : List SourceEvent}
  {s : EventSources}

theorem run_sound (run : Library.Run Step (created watch timeout wakeUpFdR) es s) : s.Sound := by
  refine Library.Run.invariant (fun _ s => s.Sound) (created_sound ..) ?_ run
  intro past m e t _ sound step
  obtain ⟨allowed, rfl⟩ := step_iff.mp step
  exact sound.handle allowed

theorem run_single (run : Library.Run Step (created watch timeout wakeUpFdR) es s)
    (succeeds : Library.Along Step (fun _ => Succeeds) (created watch timeout wakeUpFdR) es) : s.Single := by
  refine Library.Along.invariant (fun _ s => s.Single) List.nodup_nil ?_ succeeds run
  intro past m e t _ single ok step
  obtain ⟨allowed, rfl⟩ := step_iff.mp step
  exact single.handle allowed ok

/-- When the system calls succeed, the timers mirror the timeouts throughout a run exactly if no call
leaves a registered timeout enabled with the interval 0. -/
theorem mirrors_iff_nonzero (run : Library.Run Step (created watch timeout wakeUpFdR) es s)
    (succeeds : Library.Along Step (fun _ => Succeeds) (created watch timeout wakeUpFdR) es) :
    Library.Throughout Step (fun _ => Mirrors) (created watch timeout wakeUpFdR) es ↔
      Library.Along Step (fun _ => EnablesNonzero) (created watch timeout wakeUpFdR) es := by
  have possible : Library.Along Step (fun _ s e => s.Succeeds e ∧ s.Sound ∧ s.Single)
      (created watch timeout wakeUpFdR) es := by
    intro past e le m before
    have earlier := succeeds.restrict ((List.prefix_append past [e]).trans le)
    exact ⟨succeeds past e le m before, run_sound before, run_single before earlier⟩
  refine Library.throughout_iff_along_total (fun _ => Mirrors) (fun _ => EnablesNonzero) possible ?_
    (run.total step_deterministic) ?_
  · rw [(created_sound watch timeout wakeUpFdR).mirrors_iff]
    simp [created]
  · intro past m e t _ mirrors ok step
    obtain ⟨allowed, rfl⟩ := step_iff.mp step
    obtain ⟨success, sound, single⟩ := ok
    exact mirrors_handle sound single mirrors allowed success

end

def quiet : EventSources := created (fun _ => ⟨-1, {}, false⟩) (fun _ => ⟨0, false⟩) 3

def oneTimeout (interval : Int) : SourceEvent := .addTimeout 0 ⟨interval, true⟩ (some 4) {} true

theorem oneTimeout_run (interval : Int) :
    Library.Run Step quiet [oneTimeout interval] (quiet.handle (oneTimeout interval)) :=
  .cons (step_iff.mpr ⟨rfl, rfl⟩) (.nil _)

theorem oneTimeout_succeeds {interval : Int} (natural : 0 ≤ interval) :
    Library.Along Step (fun _ => Succeeds) quiet [oneTimeout interval] := by
  rw [Library.Along.cons_iff]
  exact ⟨⟨List.not_mem_nil, rfl, rfl, rfl, natural⟩, fun _ _ => .nil⟩

/-- Three timeouts and a watch: one timeout is disabled and enabled again with another interval, and the
descriptor of the one that is removed comes back. -/
def retimed : List SourceEvent :=
  [.addTimeout 0 ⟨100, true⟩ (some 4) {} true, .watch (.add ⟨7, { readable := true }, true⟩ {}),
    .addTimeout 1 ⟨2500, true⟩ (some 5) {} true, .toggleTimeout 0 ⟨100, false⟩ true, .advance 2500000000,
    .report 5, .removeTimeout 1 {}, .addTimeout 2 ⟨2147483647, true⟩ (some 5) {} true,
    .toggleTimeout 0 ⟨999, true⟩ true]

theorem retimed_run : Library.Run Step quiet retimed (retimed.foldl handle quiet) := by
  have ran : retimed.foldlM step quiet = some (retimed.foldl handle quiet) := rfl
  exact Library.run_of_foldlM_option.mp ran

theorem mirrors_retimed : Library.Throughout Step (fun _ => Mirrors) quiet retimed :=
  (mirrors_iff_nonzero retimed_run (by decide)).mpr (by decide)

theorem mirrors_fails_at_zero : Library.Run Step quiet [oneTimeout 0] (quiet.handle (oneTimeout 0)) ∧
    Library.Along Step (fun _ => Succeeds) quiet [oneTimeout 0] ∧
    ¬(quiet.handle (oneTimeout 0)).Mirrors := by
  refine ⟨oneTimeout_run 0, oneTimeout_succeeds (by decide), fun mirrors => ?_⟩
  obtain ⟨timer, found, armed, -⟩ := mirrors.follows 0 4 (by decide)
  obtain rfl : (⟨{}, 0, none⟩ : TimerFd) = timer := Option.some.inj found
  exact absurd (armed.mpr (by decide)) (by decide)

end EventSources
end SystemCompositor
