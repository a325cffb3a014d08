import SystemCompositor.ExternalSpinner.Host
import SystemCompositor.SessionSwitcher.World

namespace SystemCompositor
open Std

namespace SpinnerHost

def obey (forked : Int) (h : SpinnerHost) : Call → SpinnerHost
  | .session _ _ _ => h
  | .ensureRunning => h.ensureRunning forked
  | .kill => h.kill

def Watched (h : SpinnerHost) : Prop :=
  h.spinner.spinnerPid ≠ 0 → ∃ c ∈ h.processes.children,
    c.pid = h.spinner.spinnerPid ∧ c.exited = false ∧ c.signalled = false

def Owned (h : SpinnerHost) : Prop :=
  ∀ c ∈ h.processes.children, c.exited = false → c.signalled = false → c.pid = h.spinner.spinnerPid

theorem obey_sessions {calls : List Call} (sessions : ∀ c ∈ calls, ∃ caller request x, c = .session caller request x)
    (forked : Int) (h : SpinnerHost) : calls.foldl (obey forked) h = h := by
  induction calls with
  | nil => rfl
  | cons c calls ih =>
      obtain ⟨caller, request, x, rfl⟩ := sessions c (by simp)
      exact ih fun d member => sessions d (by simp [member])

@[simp] theorem obey_showCalls (caller : Caller) (mode : ShowMode) (x : Session) (forked : Int) (h : SpinnerHost) :
    (SessionSwitcher.showCalls caller mode x).foldl (obey forked) h = h := by
  cases mode <;> rfl

@[simp] theorem obey_hides (caller : Caller) (xs : List Session) (forked : Int) (h : SpinnerHost) :
    (xs.map (.session caller .toHide)).foldl (obey forked) h = h := by
  apply obey_sessions
  simp

theorem obey_activeCalls (s : SessionSwitcher) (forked : Int) (h : SpinnerHost) :
    s.activeCalls.foldl (obey forked) h = h := by
  unfold SessionSwitcher.activeCalls
  cases s.tracked s.activeName <;> split_ifs <;> simp

theorem obey_nextCalls (s : SessionSwitcher) (forked : Int) (h : SpinnerHost) :
    s.nextCalls.foldl (obey forked) h = h := by
  unfold SessionSwitcher.nextCalls
  cases s.tracked s.nextName <;> split_ifs <;> simp [obey]

theorem obey_displayCalls (s : SessionSwitcher) (forked : Int) (h : SpinnerHost) :
    s.displayCalls.foldl (obey forked) h =
      if s.hasActiveOutputs then
        match s.spinnerMode, s.tracked s.spinnerName with
        | none, _ => h.kill
        | some _, none => h.ensureRunning forked
        | some _, some _ => h
      else h := by
  unfold SessionSwitcher.displayCalls
  split_ifs
  · rw [List.foldl_append, List.foldl_append, List.foldl_append, obey_hides, obey_activeCalls,
      obey_nextCalls, SessionSwitcher.spinnerCalls]
    cases s.spinnerMode with
    | none => rfl
    | some mode =>
        cases s.tracked s.spinnerName with
        | none => rfl
        | some x => simp
  · simp

theorem kill_spinnerPid (h : SpinnerHost) : h.kill.spinner.spinnerPid = 0 := by
  rw [kill_eq]
  split_ifs with none
  · exact none
  · rfl

theorem Watched.ensureRunning {h : SpinnerHost} (watched : h.Watched) {forked : Int}
    (works : h.spinner.Forks → 0 < forked) : (h.ensureRunning forked).Watched := by
  by_cases forks : h.spinner.Forks
  · have child := works forks
    rw [ensureRunning_of_forks forks (by omega)]
    intro _
    exact ⟨{ pid := forked }, by simp [Processes.perform, child], rfl, rfl, rfl⟩
  · rwa [ensureRunning_of_not_forks forks]

theorem Watched.exit {h : SpinnerHost} (watched : h.Watched) {pid : Int}
    (told : ∀ c ∈ h.processes.children, c.pid = pid → c.signalled = true) :
    Watched { h with processes := h.processes.exit pid } := by
  intro some
  obtain ⟨c, member, named, running, untold⟩ := watched some
  have other : c.pid ≠ pid := by
    intro same
    rw [told c member same] at untold
    cases untold
  exact ⟨c, List.mem_map.mpr ⟨c, member, if_neg other⟩, named, running, untold⟩

theorem Watched.told {h : SpinnerHost} (owned : h.Owned) (proper : h.processes.Proper) {pid : Int}
    (running : ∃ c ∈ h.processes.children, c.pid = pid ∧ c.exited = false)
    (watched : Watched { h with processes := h.processes.exit pid }) :
    ∀ c ∈ h.processes.children, c.pid = pid → c.signalled = true := by
  rintro c member rfl
  obtain ⟨d, member', same, running⟩ := running
  obtain rfl := List.inj_on_of_nodup_map proper.distinct member' member same
  rw [← Bool.not_eq_false]
  intro untold
  have spinner := owned d member' running untold
  have positive := proper.positive d member'
  have some : h.spinner.spinnerPid ≠ 0 := by omega
  obtain ⟨e, left, named, alive, -⟩ := watched some
  obtain ⟨f, -, rfl⟩ := List.mem_map.mp left
  split_ifs at named alive with gone
  exact gone (named.trans spinner.symm)

theorem Watched.waitForChild {h : SpinnerHost} (watched : h.Watched) (proper : h.processes.Proper) :
    Watched { h with processes := h.processes.waitForChild } := by
  intro some
  obtain ⟨c, member, named, running, untold⟩ := watched some
  refine ⟨c, ?_, named, running, untold⟩
  rw [Processes.waitForChild_eq proper.positive]
  exact List.mem_filter.mpr ⟨member, by simp [running]⟩

theorem Owned.kill {h : SpinnerHost} (owned : h.Owned) : h.kill.Owned := by
  rw [kill_eq]
  split_ifs with none
  · exact owned
  · intro c member running untold
    obtain ⟨d, old, rfl⟩ := List.mem_map.mp member
    split_ifs at running untold with told
    exact absurd (.inr (owned d old running untold)) told

theorem Owned.ensureRunning {h : SpinnerHost} (owned : h.Owned) (proper : h.processes.Proper) {forked : Int}
    (works : h.spinner.Forks → 0 < forked) : (h.ensureRunning forked).Owned := by
  by_cases forks : h.spinner.Forks
  · have child := works forks
    rw [ensureRunning_of_forks forks (by omega)]
    intro c member running untold
    simp only [Processes.perform, child, ↓reduceIte, List.mem_append, List.mem_singleton] at member
    rcases member with old | rfl
    · have := owned c old running untold
      have := proper.positive c old
      have := forks.2
      omega
    · rfl
  · rwa [ensureRunning_of_not_forks forks]

theorem Owned.exit {h : SpinnerHost} (owned : h.Owned) (pid : Int) :
    Owned { h with processes := h.processes.exit pid } := by
  intro c member running untold
  obtain ⟨d, old, rfl⟩ := List.mem_map.mp member
  split_ifs at running untold ⊢
  exact owned d old running untold

theorem Owned.waitForChild {h : SpinnerHost} (owned : h.Owned) (proper : h.processes.Proper) :
    Owned { h with processes := h.processes.waitForChild } := by
  intro c member
  rw [Processes.waitForChild_eq proper.positive] at member
  exact owned c (List.mem_of_mem_filter member)

theorem kill_executable (h : SpinnerHost) : h.kill.spinner.executable = h.spinner.executable := by
  rw [kill_eq]
  split_ifs <;> rfl

theorem proper_kill {h : SpinnerHost} (proper : h.processes.Proper) : h.kill.processes.Proper := by
  rw [kill_eq]
  split_ifs
  · exact proper
  · exact proper.signal _

theorem proper_ensureRunning {h : SpinnerHost} (proper : h.processes.Proper) {forked : Int}
    (works : h.spinner.Forks → 0 < forked ∧ h.processes.Unused forked) :
    (h.ensureRunning forked).processes.Proper := by
  by_cases forks : h.spinner.Forks
  · have fresh := works forks
    rw [ensureRunning_of_forks forks (by omega)]
    exact proper.fork fun _ => fresh.2
  · rwa [ensureRunning_of_not_forks forks]

theorem ensureRunning_spinner {h : SpinnerHost} (named : h.spinner.executable ≠ []) {forked : Int}
    (works : h.spinner.Forks → 0 < forked) :
    (h.ensureRunning forked).spinner.executable = h.spinner.executable ∧
      (h.ensureRunning forked).spinner.spinnerPid ≠ 0 := by
  by_cases forks : h.spinner.Forks
  · have child := works forks
    rw [ensureRunning_of_forks forks (by omega)]
    exact ⟨rfl, by simp only; omega⟩
  · rw [ensureRunning_of_not_forks forks]
    exact ⟨rfl, fun none => forks ⟨named, none⟩⟩

end SpinnerHost

namespace SessionSwitcher

def displaysActive (s : SessionSwitcher) : Bool := s.isSessionReadyForDisplay s.activeName && !s.booting

def asksForSpinner (s : SessionSwitcher) : Bool :=
  !s.activeName.isEmpty && !s.displaysActive ||
    s.displaysActive && !s.nextName.isEmpty && !s.isSessionReadyForDisplay s.nextName

theorem asksForSpinner_eq {s : SessionSwitcher} (gate : s.showActive = s.displaysActive) :
    s.asksForSpinner = s.spinnerMode.isSome := by
  unfold asksForSpinner spinnerMode isSessionExpectedToBecomeReady
  rw [gate]
  cases s.displaysActive <;> cases s.isSessionReadyForDisplay s.nextName <;>
    cases s.activeName.isEmpty <;> cases s.nextName.isEmpty <;> rfl

end SessionSwitcher

/-- The switcher with its spinner; which sessions came with which pid, and the sessions of exited
processes that are not removed yet. -/
structure Supervision where
  world : World := {}
  host : SpinnerHost
  connected : List (Int × SceneSession) := []
  undelivered : List SceneSession := []

inductive SupervisionEvent
  | request (op : Op) (forked : Int)
  | exits (pid : Int)
  | waitForChild
deriving DecidableEq

namespace Supervision

def connections (s : Supervision) : Op → List (Int × SceneSession)
  | .add x pid _ => (pid, x.sceneSession) :: s.connected
  | .remove session => s.connected.filter fun c => c.2 ≠ session
  | _ => s.connected

def deliver (s : Supervision) : Op → List SceneSession
  | .remove session => s.undelivered.filter fun c => c ≠ session
  | _ => s.undelivered

def step (s : Supervision) : SupervisionEvent → Except Fault Supervision
  | .request op forked => do
      let (world, calls) ← s.world.operate op
      return ⟨world, calls.foldl (SpinnerHost.obey forked) s.host, s.connections op, s.deliver op⟩
  | .exits pid => return { s with
      host := { s.host with processes := s.host.processes.exit pid }
      undelivered := (s.connected.filter fun c => c.1 = pid).map Prod.snd ++ s.undelivered }
  | .waitForChild => return { s with
      host := { s.host with processes := s.host.processes.waitForChild } }

def run (s : Supervision) (es : List SupervisionEvent) : Except Fault Supervision := es.foldlM step s

abbrev Step (s : Supervision) (e : SupervisionEvent) (t : Supervision) : Prop := s.step e = .ok t

/-- `add` asks for the pid of the spinner when it is called. -/
def AsksPid (s : Supervision) : Op → Prop
  | .add _ _ spinnerPid => spinnerPid = s.host.spinner.pid
  | _ => True

instance (s : Supervision) : (op : Op) → Decidable (s.AsksPid op)
  | .add _ _ _ => inferInstanceAs (Decidable (_ = _))
  | .remove _ | .setActiveSession _ | .setNextSession _ | .markReady _ | .activeOutputs _ =>
      inferInstanceAs (Decidable True)

def Possible (s : Supervision) : SupervisionEvent → Prop
  | .request op forked =>
      s.AsksPid op ∧ (s.host.spinner.Forks → 0 < forked ∧ s.host.processes.Unused forked)
  | .exits pid => ∃ c ∈ s.host.processes.children, c.pid = pid ∧ c.exited = false
  | .waitForChild => True

instance (s : Supervision) : (e : SupervisionEvent) → Decidable (s.Possible e)
  | .request _ _ => inferInstanceAs (Decidable (_ ∧ (_ → _)))
  | .exits _ => inferInstanceAs (Decidable (∃ c ∈ _, _))
  | .waitForChild => inferInstanceAs (Decidable True)

instance (Allowed : List SupervisionEvent → Supervision → SupervisionEvent → Prop)
    [∀ past s e, Decidable (Allowed past s e)] (s : Supervision) (es : List SupervisionEvent) :
    Decidable (Library.Along Step Allowed s es) :=
  Library.decideAlong (fun s e => (s.step e).toOption)
    (fun s e t => by cases stepped : s.step e <;> simp [Step, stepped, Except.toOption]) Allowed s es

def Obedient (s : Supervision) : SupervisionEvent → Prop
  | .exits pid => ∀ c ∈ s.host.processes.children, c.pid = pid → c.signalled = true
  | _ => True

instance (s : Supervision) : (e : SupervisionEvent) → Decidable (s.Obedient e)
  | .exits _ => inferInstanceAs (Decidable (∀ c ∈ _, _))
  | .request _ _ | .waitForChild => inferInstanceAs (Decidable True)

/-- With the outputs on and no removal outstanding: a spinner that is asked for is connected or alive,
and one that is not asked for was told to terminate. -/
def Supervised (s : Supervision) : Prop :=
  s.world.switcher.hasActiveOutputs = true → s.undelivered = [] →
    (s.world.switcher.asksForSpinner = true →
      (s.world.switcher.tracked s.world.switcher.spinnerName).isSome = true ∨
      ∃ c ∈ s.host.processes.children, c.exited = false ∧ c.signalled = false) ∧
    (s.world.switcher.asksForSpinner = false → s.host.spinner.spinnerPid = 0)

instance (s : Supervision) : Decidable s.Supervised :=
  inferInstanceAs (Decidable (_ → _ → (_ → _ ∨ ∃ c ∈ _, _) ∧ (_ → _)))

def start (executable mirSocket : Name) : Supervision := { host := { spinner := { executable, mirSocket } } }

structure Consistent (s : Supervision) : Prop where
  wellFormed : s.world.switcher.WellFormed
  proper : s.host.processes.Proper
  named : s.host.spinner.executable ≠ []
  owned : s.host.Owned
  gate : s.world.switcher.hasActiveOutputs = true →
    s.world.switcher.showActive = s.world.switcher.displaysActive
  asked : s.world.switcher.hasActiveOutputs = true → s.world.switcher.spinnerMode.isSome = true →
    (s.world.switcher.tracked s.world.switcher.spinnerName).isSome = true ∨ s.host.spinner.spinnerPid ≠ 0
  idle : s.world.switcher.hasActiveOutputs = true → s.world.switcher.spinnerMode = none →
    s.host.spinner.spinnerPid = 0

theorem Consistent.supervised {s : Supervision} (consistent : s.Consistent) (watched : s.host.Watched) :
    s.Supervised := by
  intro outputs _
  rw [SessionSwitcher.asksForSpinner_eq (consistent.gate outputs)]
  refine ⟨fun asked => ?_, fun idle => consistent.idle outputs (by simpa using idle)⟩
  rcases consistent.asked outputs asked with connected | some
  · exact .inl connected
  · obtain ⟨c, member, -, alive⟩ := watched some
    exact .inr ⟨c, member, alive⟩

theorem record_sessions {s t : SessionSwitcher} {op : Op} {before : List Call}
    (recorded : s.record op = some (t, before)) :
    ∀ c ∈ before, ∃ caller request x, c = .session caller request x := by
  cases op with
  | remove session =>
      obtain ⟨x, -, -, -, rfl⟩ := SessionSwitcher.record_remove recorded
      simp
  | _ =>
      obtain ⟨-, rfl⟩ := Prod.mk.inj (Option.some.inj recorded)
      simp

theorem step_request {s : Supervision} (wf : s.world.switcher.WellFormed) (op : Op) (forked : Int) :
    s.step (.request op forked) = .ok ⟨s.world.after op,
      (s.world.switcher.outcome op).2.foldl (SpinnerHost.obey forked) s.host,
      s.connections op, s.deliver op⟩ := by
  rw [step, World.operate_eq wf op]
  rfl

theorem Consistent.obey {s : Supervision} (consistent : s.Consistent) {t : SessionSwitcher} {forked : Int}
    (works : s.host.spinner.Forks → 0 < forked ∧ s.host.processes.Unused forked) {h : SpinnerHost}
    (obeyed : t.displayCalls.foldl (SpinnerHost.obey forked) s.host = h) :
    h.processes.Proper ∧ h.spinner.executable ≠ [] ∧ h.Owned ∧ (s.host.Watched → h.Watched) ∧
      (t.hasActiveOutputs = true → t.spinnerMode.isSome = true →
        (t.tracked t.spinnerName).isSome = true ∨ h.spinner.spinnerPid ≠ 0) ∧
      (t.hasActiveOutputs = true → t.spinnerMode = none → h.spinner.spinnerPid = 0) := by
  rw [SpinnerHost.obey_displayCalls] at obeyed
  cases outputs : t.hasActiveOutputs with
  | false =>
      obtain rfl : s.host = h := by simpa [outputs] using obeyed
      exact ⟨consistent.proper, consistent.named, consistent.owned, id, by simp, by simp⟩
  | true =>
      cases mode : t.spinnerMode with
      | none =>
          obtain rfl : s.host.kill = h := by simpa [outputs, mode] using obeyed
          have killed := SpinnerHost.kill_spinnerPid s.host
          refine ⟨SpinnerHost.proper_kill consistent.proper, ?_, consistent.owned.kill,
            fun _ some => absurd killed some, by simp, fun _ _ => killed⟩
          rw [SpinnerHost.kill_executable]
          exact consistent.named
      | some shown =>
          cases stored : t.tracked t.spinnerName with
          | none =>
              obtain rfl : s.host.ensureRunning forked = h := by simpa [outputs, mode, stored] using obeyed
              have child := fun forks => (works forks).1
              obtain ⟨executable, running⟩ := SpinnerHost.ensureRunning_spinner consistent.named child
              refine ⟨SpinnerHost.proper_ensureRunning consistent.proper works, ?_,
                consistent.owned.ensureRunning consistent.proper child,
                fun watched => watched.ensureRunning child, fun _ _ => .inr running, by simp⟩
              rw [executable]
              exact consistent.named
          | some x =>
              obtain rfl : s.host = h := by simpa [outputs, mode, stored] using obeyed
              exact ⟨consistent.proper, consistent.named, consistent.owned, id, by simp, by simp⟩

theorem obey_outcome {s t : SessionSwitcher} {op : Op} {before : List Call}
    (recorded : s.record op = some (t, before)) (forked : Int) (h : SpinnerHost) :
    (s.outcome op).2.foldl (SpinnerHost.obey forked) h = t.displayCalls.foldl (SpinnerHost.obey forked) h := by
  rw [SessionSwitcher.outcome, recorded, List.foldl_append, SpinnerHost.obey_sessions (record_sessions recorded)]

theorem Consistent.step {s t : Supervision} (consistent : s.Consistent) {e : SupervisionEvent}
    (possible : s.Possible e) (stepped : s.Step e t) : t.Consistent := by
  cases e with
  | request op forked =>
      rw [Step, step_request consistent.wellFormed, Except.ok.injEq] at stepped
      subst stepped
      cases recorded : s.world.switcher.record op with
      | none =>
          simp only [World.after_of_none recorded, SessionSwitcher.outcome, recorded, List.foldl_nil]
          exact ⟨consistent.wellFormed, consistent.proper, consistent.named, consistent.owned,
            consistent.gate, consistent.asked, consistent.idle⟩
      | some result =>
          obtain ⟨next, before⟩ := result
          rw [obey_outcome recorded]
          obtain ⟨proper, named, owned, -, asked, idle⟩ := consistent.obey (t := next) possible.2 rfl
          constructor
          · exact consistent.wellFormed.outcome op
          · exact proper
          · exact named
          · exact owned
          all_goals simp only [World.after_switcher recorded, SessionSwitcher.settle_hasActiveOutputs,
            SessionSwitcher.settle_spinnerMode, SessionSwitcher.settle_tracked,
            SessionSwitcher.settle_spinnerName, SessionSwitcher.settle_showActive]
          · intro outputs
            rw [SessionSwitcher.displaysActive, SessionSwitcher.settle_activeName, next.settle_shown outputs]
          · exact asked
          · exact idle
  | exits pid =>
      obtain rfl := Except.ok.inj stepped
      exact ⟨consistent.wellFormed, consistent.proper.exit pid, consistent.named,
        consistent.owned.exit pid, consistent.gate, consistent.asked, consistent.idle⟩
  | waitForChild =>
      obtain rfl := Except.ok.inj stepped
      exact ⟨consistent.wellFormed, consistent.proper.waitForChild, consistent.named,
        consistent.owned.waitForChild consistent.proper, consistent.gate, consistent.asked, consistent.idle⟩

theorem watched_iff_obedient {s t : Supervision} (consistent : s.Consistent) (watched : s.host.Watched)
    {e : SupervisionEvent} (possible : s.Possible e) (stepped : s.Step e t) :
    t.host.Watched ↔ s.Obedient e := by
  cases e with
  | request op forked =>
      rw [Step, step_request consistent.wellFormed, Except.ok.injEq] at stepped
      subst stepped
      refine iff_of_true ?_ trivial
      cases recorded : s.world.switcher.record op with
      | none => simpa only [SessionSwitcher.outcome, recorded, List.foldl_nil] using watched
      | some result =>
          obtain ⟨next, before⟩ := result
          rw [obey_outcome recorded]
          exact (consistent.obey (t := next) possible.2 rfl).2.2.2.1 watched
  | exits pid =>
      obtain rfl := Except.ok.inj stepped
      exact ⟨SpinnerHost.Watched.told consistent.owned consistent.proper possible, watched.exit⟩
  | waitForChild =>
      obtain rfl := Except.ok.inj stepped
      exact iff_of_true (watched.waitForChild consistent.proper) trivial

theorem start_consistent {executable : Name} (named : executable ≠ []) (mirSocket : Name) :
    (start executable mirSocket).Consistent where
  wellFormed := World.initial_wellFormed
  proper := ⟨by simp [start], by simp [start, Processes.pids]⟩
  named := named
  owned c member := by simp [start] at member
  gate _ := by
    simp [start, SessionSwitcher.showActive, SessionSwitcher.displaysActive,
      SessionSwitcher.isSessionReadyForDisplay]
  asked _ asked := by
    simp [start, SessionSwitcher.spinnerMode, SessionSwitcher.showActive,
      SessionSwitcher.isSessionReadyForDisplay, SessionSwitcher.isSessionExpectedToBecomeReady] at asked
  idle _ _ := rfl

theorem step_total {s : Supervision} (wf : s.world.switcher.WellFormed) (e : SupervisionEvent) :
    ∃ t, s.Step e t ∧ t.world.switcher.WellFormed := by
  cases e with
  | request op forked => exact ⟨_, step_request wf op forked, wf.outcome op⟩
  | exits pid | waitForChild => exact ⟨_, rfl, wf⟩

theorem run_wellFormed {s t : Supervision} (wf : s.world.switcher.WellFormed) {es : List SupervisionEvent}
    (run : Library.Run Step s es t) : t.world.switcher.WellFormed := by
  refine Library.Run.invariant (fun _ s => s.world.switcher.WellFormed) wf ?_ run
  intro past m e t _ before stepped
  obtain ⟨u, stepped', wf'⟩ := step_total before e
  obtain rfl : t = u := Except.ok.inj (stepped.symm.trans stepped')
  exact wf'

theorem run_total {s : Supervision} (wf : s.world.switcher.WellFormed) (es : List SupervisionEvent) :
    ∃ t, s.run es = .ok t := by
  induction es generalizing s with
  | nil => exact ⟨s, rfl⟩
  | cons e es ih =>
      obtain ⟨m, stepped, wf'⟩ := step_total wf e
      obtain ⟨t, rest⟩ := ih wf'
      exact ⟨t, Library.run_of_foldlM.mpr (.cons stepped (Library.run_of_foldlM.mp rest))⟩

/-- As long as spinner processes exit only when they are told to, the spinner that the display rules
ask for is there, and one that they do not ask for is not kept. These are the runs in which
`spinner_pid` never names a process that is gone. -/
theorem supervised_of_obedient (executable mirSocket : Name) (named : executable ≠ [])
    (es : List SupervisionEvent)
    (possible : Library.Along Step (fun _ => Possible) (start executable mirSocket) es) :
    (∃ s, (start executable mirSocket).run es = .ok s) ∧
      (Library.Along Step (fun _ => Obedient) (start executable mirSocket) es →
        Library.Throughout Step (fun _ => Supervised) (start executable mirSocket) es) ∧
      (Library.Along Step (fun _ => Obedient) (start executable mirSocket) es ↔
        Library.Throughout Step (fun _ s => s.host.Watched) (start executable mirSocket) es) := by
  have initial := start_consistent named mirSocket
  have consistent {past : List SupervisionEvent} {m : Supervision} (le : past <+: es)
      (run : Library.Run Step (start executable mirSocket) past m) : m.Consistent :=
    Library.Along.invariant (fun _ s => Consistent s) initial
      (fun _ m e t _ before law (stepped : Step m e t) => before.step law stepped) (possible.restrict le) run
  have watched := Library.throughout_iff_along_of (fun _ s => s.Consistent ∧ s.host.Watched)
    (fun _ => Obedient) possible ⟨initial, fun some => absurd rfl some⟩
    (fun past m e run => by
      obtain ⟨t, stepped, -⟩ := step_total (run_wellFormed initial.wellFormed run) e
      exact ⟨t, stepped⟩)
    (fun past m e t _ before law stepped => by
      rw [← watched_iff_obedient before.1 before.2 law stepped]
      exact and_iff_right (before.1.step law stepped))
  refine ⟨run_total World.initial_wellFormed es, fun obedient past le m run => ?_, ?_⟩
  · have kept := watched.mpr obedient past le m run
    exact kept.1.supervised kept.2
  · rw [← watched]
    constructor
    · exact fun kept past le m run => (kept past le m run).2
    · exact fun kept past le m run => ⟨consistent le run, kept past le m run⟩

theorem supervised_client : ∃ s, (start [112] [109]).run [.request (.setActiveSession [97]) 7,
      .request (.add ⟨2, ⟨2, [115]⟩⟩ 7 7) 8, .request (.add ⟨1, ⟨1, [97]⟩⟩ 1000 7) 8,
      .request (.markReady 1) 8, .exits 7, .waitForChild, .request (.remove ⟨2, [115]⟩) 8] = .ok s ∧
    s.Supervised := by
  obtain ⟨⟨s, ran⟩, supervised, -⟩ := supervised_of_obedient [112] [109] (by decide)
    [.request (.setActiveSession [97]) 7, .request (.add ⟨2, ⟨2, [115]⟩⟩ 7 7) 8,
      .request (.add ⟨1, ⟨1, [97]⟩⟩ 1000 7) 8, .request (.markReady 1) 8, .exits 7, .waitForChild,
      .request (.remove ⟨2, [115]⟩) 8] (by decide +kernel)
  exact ⟨s, ran, (supervised (by decide +kernel)).last (Library.run_of_foldlM.mp ran)⟩

theorem supervised_fails :
    Library.Along Step (fun _ => Possible) (start [112] [109]) [.request (.setActiveSession [97]) 7,
      .request (.add ⟨2, ⟨2, [115]⟩⟩ 7 7) 8, .exits 7, .waitForChild, .request (.remove ⟨2, [115]⟩) 8] ∧
    ¬Library.Throughout Step (fun _ => Supervised) (start [112] [109])
      [.request (.setActiveSession [97]) 7, .request (.add ⟨2, ⟨2, [115]⟩⟩ 7 7) 8, .exits 7,
        .waitForChild, .request (.remove ⟨2, [115]⟩) 8] := by
  refine ⟨by decide +kernel, fun supervised => ?_⟩
  obtain ⟨s, ran⟩ := run_total (s := start [112] [109]) World.initial_wellFormed
    [.request (.setActiveSession [97]) 7, .request (.add ⟨2, ⟨2, [115]⟩⟩ 7 7) 8, .exits 7,
      .waitForChild, .request (.remove ⟨2, [115]⟩) 8]
  have unsupervised : ((start [112] [109]).run [.request (.setActiveSession [97]) 7,
      .request (.add ⟨2, ⟨2, [115]⟩⟩ 7 7) 8, .exits 7, .waitForChild,
      .request (.remove ⟨2, [115]⟩) 8]).map (fun s => decide s.Supervised) = .ok false := by
    decide +kernel
  rw [ran, Except.map, Except.ok.injEq, decide_eq_false_iff_not] at unsupervised
  exact unsupervised (supervised.last (Library.run_of_foldlM.mp ran))

end Supervision
end SystemCompositor
