import SystemCompositor.ExternalSpinner.Host
import SystemCompositor.Library.Run

namespace SystemCompositor

/-- The calls on the spinner object, each with what `fork` returns to it, and what processes do. A call
that is to set `spinner_pid` ends with that assignment, which is an event of its own. -/
inductive SpinnerEvent
  | ensureRunning (forked : Int)
  | kill
  | pid
  | destroy
  | assign
  | exits (pid : Int)
  | waitForChild
  | starts (pid : Int)
  | stops (pid : Int)
deriving DecidableEq

/-- A spinner object whose calls children may be reaped in: `SIGCHLD` is not blocked between a system
call and the assignment after it. -/
structure SignalledHost where
  host : SpinnerHost
  assignment : Option Int := none
deriving DecidableEq

namespace SignalledHost

/-- A call on the object, up to the assignment it ends with. -/
def call (h : SignalledHost) (result : ExternalSpinner × List SystemCall) : SignalledHost where
  host := ⟨h.host.spinner, (h.host.carryOut result).processes⟩
  assignment :=
    if result.1.spinnerPid = h.host.spinner.spinnerPid then none else some result.1.spinnerPid

def assign (h : SignalledHost) : SignalledHost :=
  ⟨⟨{ h.host.spinner with spinnerPid := h.assignment.getD h.host.spinner.spinnerPid }, h.host.processes⟩, none⟩

def calls (h : SignalledHost) : SpinnerEvent → List SystemCall
  | .ensureRunning forked => (h.host.spinner.ensureRunning forked).2
  | .kill | .destroy => h.host.spinner.kill.2
  | _ => []

def next (h : SignalledHost) : SpinnerEvent → SignalledHost
  | .ensureRunning forked => h.call (h.host.spinner.ensureRunning forked)
  | .kill | .destroy => h.call h.host.spinner.kill
  | .pid => h
  | .assign => h.assign
  | .exits pid => { h with host.processes := h.host.processes.exit pid }
  | .waitForChild => { h with host.processes := h.host.processes.waitForChild }
  | .starts pid => { h with host.processes.others := pid :: h.host.processes.others }
  | .stops pid => { h with host.processes.others := h.host.processes.others.erase pid }

/-- The object's mutex lets no call begin before the one under way has made its assignment. -/
def Possible (h : SignalledHost) : SpinnerEvent → Prop
  | .ensureRunning forked => h.assignment = none ∧ h.host.Forkable forked
  | .kill | .destroy | .pid => h.assignment = none
  | .assign => h.assignment ≠ none
  | .exits pid => ∃ c ∈ h.host.processes.children, c.pid = pid ∧ c.exited = false
  | .starts pid => 0 < pid ∧ h.host.processes.Unused pid
  | .waitForChild | .stops _ => True

instance (h : SignalledHost) : (e : SpinnerEvent) → Decidable (h.Possible e)
  | .ensureRunning _ => inferInstanceAs (Decidable (_ ∧ (_ → _)))
  | .kill | .destroy | .pid => inferInstanceAs (Decidable (_ = _))
  | .assign => inferInstanceAs (Decidable (_ ≠ _))
  | .exits _ => inferInstanceAs (Decidable (∃ c ∈ _, _))
  | .starts _ => inferInstanceAs (Decidable (_ ∧ _))
  | .waitForChild | .stops _ => inferInstanceAs (Decidable True)

abbrev Step (h : SignalledHost) (e : SpinnerEvent) (g : SignalledHost) : Prop := h.next e = g

instance (Allowed : List SpinnerEvent → SignalledHost → SpinnerEvent → Prop)
    [∀ past h e, Decidable (Allowed past h e)] (h : SignalledHost) (es : List SpinnerEvent) :
    Decidable (Library.Along Step Allowed h es) :=
  Library.decideAlong (fun h e => some (h.next e)) (by simp) Allowed h es

/-- `spinner_pid` as the call under way leaves it: the process that the next `kill` is to signal. -/
def spinnerPid (h : SignalledHost) : Int := h.assignment.getD h.host.spinner.spinnerPid

def Guarded (h : SignalledHost) : Prop :=
  h.spinnerPid ≠ 0 → 0 < h.spinnerPid ∧ h.spinnerPid ∈ h.host.processes.pids

/-- Every signal goes to a process that the spinner object forked and that was not reaped. -/
def SignalsOwn (h : SignalledHost) (e : SpinnerEvent) : Prop :=
  ∀ pid ∈ (h.calls e).filterMap SystemCall.target, 0 < pid ∧ pid ∈ h.host.processes.pids

instance (h : SignalledHost) (e : SpinnerEvent) : Decidable (h.SignalsOwn e) :=
  inferInstanceAs (Decidable (∀ pid ∈ _, _))

/-- No fork fails, and no child is reaped that the next `kill` is to signal. -/
def Sound (h : SignalledHost) : SpinnerEvent → Prop
  | .ensureRunning forked => h.host.spinner.Forks → forked ≠ -1
  | .waitForChild => ∀ c ∈ h.host.processes.children, c.exited = true → c.pid ≠ h.spinnerPid
  | _ => True

instance (h : SignalledHost) : (e : SpinnerEvent) → Decidable (h.Sound e)
  | .ensureRunning _ => inferInstanceAs (Decidable (_ → _))
  | .waitForChild => inferInstanceAs (Decidable (∀ c ∈ _, _))
  | .kill | .pid | .destroy | .assign | .exits _ | .starts _ | .stops _ => inferInstanceAs (Decidable True)

/-- Where nothing is reaped in between, a call and its assignment are the call in one. -/
theorem assign_call {h : SignalledHost} {result : ExternalSpinner × List SystemCall}
    (same : { result.1 with spinnerPid := h.host.spinner.spinnerPid } = h.host.spinner) :
    (h.call result).assign = ⟨h.host.carryOut result, none⟩ := by
  obtain ⟨⟨⟨executable, mirSocket, pid⟩, processes⟩, assignment⟩ := h
  obtain ⟨⟨executable', mirSocket', pid'⟩, made⟩ := result
  simp only [ExternalSpinner.mk.injEq, and_true] at same
  obtain ⟨rfl, rfl⟩ := same
  by_cases kept : pid' = pid <;> simp [call, assign, SpinnerHost.carryOut, kept]

theorem ensureRunning_assign {h : SignalledHost} (forked : Int) :
    (h.call (h.host.spinner.ensureRunning forked)).assign = ⟨h.host.ensureRunning forked, none⟩ := by
  refine assign_call ?_
  unfold ExternalSpinner.ensureRunning
  split_ifs <;> rfl

theorem kill_assign {h : SignalledHost} : (h.call h.host.spinner.kill).assign = ⟨h.host.kill, none⟩ := by
  refine assign_call ?_
  unfold ExternalSpinner.kill
  split_ifs <;> rfl

theorem spinnerPid_of_idle {h : SignalledHost} (idle : h.assignment = none) :
    h.spinnerPid = h.host.spinner.spinnerPid := by
  rw [spinnerPid, idle, Option.getD_none]

theorem spinnerPid_call (h : SignalledHost) (result : ExternalSpinner × List SystemCall) :
    (h.call result).spinnerPid = result.1.spinnerPid := by
  by_cases kept : result.1.spinnerPid = h.host.spinner.spinnerPid <;> simp [spinnerPid, call, kept]

theorem call_processes (h : SignalledHost) (result : ExternalSpinner × List SystemCall) :
    (h.call result).host.processes = (h.host.carryOut result).processes := rfl

theorem kill_targets (h : SignalledHost) : h.host.spinner.kill.2.filterMap SystemCall.target =
    if h.host.spinner.spinnerPid = 0 then [] else [h.host.spinner.spinnerPid] := by
  by_cases none : h.host.spinner.spinnerPid = 0 <;> simp [ExternalSpinner.kill, none, SystemCall.target]

theorem ensureRunning_targets (spinner : ExternalSpinner) (forked : Int) :
    (spinner.ensureRunning forked).2.filterMap SystemCall.target = [] := by
  unfold ExternalSpinner.ensureRunning
  split_ifs <;> simp [SystemCall.target]

theorem signalsOwn_of_guarded {h : SignalledHost} (guarded : h.Guarded) {e : SpinnerEvent}
    (possible : h.Possible e) : h.SignalsOwn e := by
  intro pid called
  cases e with
  | kill | destroy =>
      rw [calls, kill_targets] at called
      split_ifs at called with none
      · cases called
      · rw [Guarded, spinnerPid_of_idle possible] at guarded
        rw [List.mem_singleton.mp called]
        exact guarded none
  | ensureRunning forked =>
      rw [calls, ensureRunning_targets] at called
      cases called
  | _ => cases called

theorem guarded_of_signalsOwn {h : SignalledHost} {e : SpinnerEvent} (ends : e = .kill ∨ e = .destroy)
    (idle : h.assignment = none) (own : h.SignalsOwn e) : h.Guarded := by
  rw [Guarded, spinnerPid_of_idle idle]
  intro some
  apply own
  rcases ends with rfl | rfl <;> simp [calls, kill_targets, some]

theorem mem_waitForChild_pids {p : Processes} (proper : p.Proper) (pid : Int) :
    pid ∈ p.waitForChild.pids ↔ pid ∈ p.pids ∧ ∀ c ∈ p.children, c.exited = true → c.pid ≠ pid := by
  have distinct := List.inj_on_of_nodup_map proper.distinct
  rw [Processes.waitForChild_eq proper.positive]
  simp only [Processes.pids, List.mem_map, List.mem_filter, Bool.not_eq_true']
  constructor
  · rintro ⟨c, ⟨member, running⟩, rfl⟩
    refine ⟨⟨c, member, rfl⟩, fun d member' exited same => ?_⟩
    rw [distinct member' member same, running] at exited
    cases exited
  · rintro ⟨⟨c, member, rfl⟩, none⟩
    exact ⟨c, ⟨member, by simpa using fun exited => none c member exited rfl⟩, rfl⟩

theorem proper_next {h : SignalledHost} (proper : h.host.processes.Proper) {e : SpinnerEvent}
    (possible : h.Possible e) : (h.next e).host.processes.Proper := by
  cases e with
  | ensureRunning forked =>
      rw [SignalledHost.next, call_processes, ← SpinnerHost.ensureRunning]
      by_cases forks : h.host.spinner.Forks
      · have law := possible.2 forks
        have parent : forked ≠ 0 := by omega
        rw [SpinnerHost.ensureRunning_of_forks forks parent]
        apply proper.fork
        intro child
        rcases law with failed | fresh
        · omega
        · exact fresh.2
      · rwa [SpinnerHost.ensureRunning_of_not_forks forks]
  | kill | destroy =>
      rw [SignalledHost.next, call_processes, ← SpinnerHost.kill, SpinnerHost.kill_eq]
      split_ifs
      · exact proper
      · exact proper.signal _
  | exits pid => exact proper.exit pid
  | waitForChild => exact proper.waitForChild
  | pid | assign => exact proper
  | starts pid | stops pid => exact ⟨proper.positive, proper.distinct⟩

theorem guarded_iff_sound {h : SignalledHost} (proper : h.host.processes.Proper) (guarded : h.Guarded)
    {e : SpinnerEvent} (possible : h.Possible e) : (h.next e).Guarded ↔ h.Sound e := by
  cases e with
  | ensureRunning forked =>
      have idle := possible.1
      rw [Guarded, SignalledHost.next, spinnerPid_call, call_processes, ← SpinnerHost.ensureRunning]
      by_cases forks : h.host.spinner.Forks
      · have law := possible.2 forks
        have parent : forked ≠ 0 := by omega
        simp only [SpinnerHost.ensureRunning_of_forks forks parent,
          ExternalSpinner.ensureRunning_of_forks forks parent, Sound, forks]
        constructor
        · intro safe _
          have := (safe parent).1
          omega
        · intro sound _
          have child : 0 < forked := by
            have := sound trivial
            omega
          refine ⟨child, ?_⟩
          rw [Processes.perform_fork_pids _ child]
          exact List.mem_append_right _ (List.mem_singleton_self forked)
      · rw [Guarded, spinnerPid_of_idle idle] at guarded
        simp only [SpinnerHost.ensureRunning_of_not_forks forks, ExternalSpinner.ensureRunning_of_not_forks forks,
          Sound, forks, false_implies, iff_true]
        exact guarded
  | kill | destroy =>
      have cleared : h.host.spinner.kill.1.spinnerPid = 0 := by
        by_cases none : h.host.spinner.spinnerPid = 0 <;> simp [ExternalSpinner.kill, none]
      rw [Guarded, SignalledHost.next, spinnerPid_call, cleared]
      exact iff_of_true (fun some => absurd rfl some) trivial
  | waitForChild =>
      simp only [SignalledHost.next, Guarded, spinnerPid, mem_waitForChild_pids proper, Sound] at guarded ⊢
      constructor
      · intro safe c member exited same
        have positive := proper.positive c member
        exact (safe (by omega)).2.2 c member exited same
      · intro sound some
        exact ⟨(guarded some).1, (guarded some).2, sound⟩
  | exits pid =>
      simpa only [SignalledHost.next, Guarded, spinnerPid, Processes.exit_pids, Sound, iff_true] using guarded
  | pid | assign | starts pid | stops pid => exact iff_of_true guarded trivial

theorem guarded_of_next {h : SignalledHost} {e : SpinnerEvent} (own : h.SignalsOwn e)
    (proper : h.host.processes.Proper) (possible : h.Possible e) (later : (h.next e).Guarded) : h.Guarded := by
  cases e with
  | kill => exact guarded_of_signalsOwn (.inl rfl) possible own
  | destroy => exact guarded_of_signalsOwn (.inr rfl) possible own
  | ensureRunning forked =>
      rw [Guarded, spinnerPid_of_idle possible.1]
      intro some
      have running : ¬h.host.spinner.Forks := fun forks => some forks.2
      rw [Guarded, SignalledHost.next, spinnerPid_call, call_processes, ← SpinnerHost.ensureRunning,
        SpinnerHost.ensureRunning_of_not_forks running, ExternalSpinner.ensureRunning_of_not_forks running] at later
      exact later some
  | waitForChild =>
      intro some
      have kept := later some
      exact ⟨kept.1, ((mem_waitForChild_pids proper _).mp kept.2).1⟩
  | exits pid => simpa only [SignalledHost.next, Guarded, spinnerPid, Processes.exit_pids] using later
  | pid | assign | starts pid | stops pid => exact later

theorem guarded_of_along {es : List SpinnerEvent} {h : SignalledHost} (proper : h.host.processes.Proper)
    (possible : Library.Along Step (fun _ => Possible) h (es ++ [.destroy]))
    (own : Library.Along Step (fun _ => SignalsOwn) h (es ++ [.destroy])) : h.Guarded := by
  induction es generalizing h with
  | nil =>
      exact guarded_of_signalsOwn (.inr rfl) (Library.Along.cons_iff.mp possible).1 (Library.Along.cons_iff.mp own).1
  | cons e es ih =>
      obtain ⟨first, rest⟩ := Library.Along.cons_iff.mp own
      obtain ⟨law, laws⟩ := Library.Along.cons_iff.mp possible
      exact guarded_of_next first proper law (ih (proper_next proper law) (laws _ rfl) (rest _ rfl))

def start (executable mirSocket : Name) (others : List Int) : SignalledHost :=
  ⟨⟨{ executable, mirSocket }, { others }⟩, none⟩

theorem start_guarded (executable mirSocket : Name) (others : List Int) :
    (start executable mirSocket others).host.processes.Proper ∧ (start executable mirSocket others).Guarded :=
  ⟨⟨by simp [start], by simp [start, Processes.pids]⟩, fun some => absurd rfl some⟩

/-- Until its destruction a spinner object signals only its own children exactly if no fork of it
fails and none of them is reaped between its fork and the signal to it. -/
theorem signalsOwn_iff (executable mirSocket : Name) (others : List Int) (es : List SpinnerEvent)
    (possible : Library.Along Step (fun _ => Possible) (start executable mirSocket others) (es ++ [.destroy])) :
    Library.Along Step (fun _ => SignalsOwn) (start executable mirSocket others) (es ++ [.destroy]) ↔
      Library.Along Step (fun _ => Sound) (start executable mirSocket others) es := by
  have earlier := possible.restrict (List.prefix_append es [.destroy])
  have proper {past : List SpinnerEvent} {m : SignalledHost} (le : past <+: es)
      (run : Library.Run Step (start executable mirSocket others) past m) : m.host.processes.Proper := by
    refine Library.Along.invariant (fun _ m => m.host.processes.Proper) (start_guarded _ _ _).1 ?_
      (earlier.restrict le) run
    rintro past m e _ - before law rfl
    exact proper_next before law
  have safe := Library.throughout_iff_along_of (fun _ m => m.host.processes.Proper ∧ m.Guarded)
    (fun _ => Sound) earlier (start_guarded executable mirSocket others)
    (fun past m e _ => ⟨_, rfl⟩) (by
      rintro past m e _ - ⟨before, guarded⟩ law rfl
      rw [← guarded_iff_sound before guarded law]
      exact and_iff_right (proper_next before law))
  rw [← safe]
  constructor
  · intro own past le m run
    obtain ⟨rest, rfl⟩ := le
    rw [List.append_assoc] at own possible
    exact ⟨proper (List.prefix_append past rest) run,
      guarded_of_along (proper (List.prefix_append past rest) run) (possible.later run) (own.later run)⟩
  · intro guarded
    refine Library.Along.concat (fun past e le m run => ?_) fun m run => ?_
    · exact signalsOwn_of_guarded (guarded past ((List.prefix_append past [e]).trans le) m run).2
        (earlier past e le m run)
    · exact signalsOwn_of_guarded (guarded.last run).2 (possible es .destroy (List.prefix_refl _) m run)

/-- The first child is reaped between the signal to it and the assignment that clears its pid. -/
theorem signalsOwn_killed : Library.Along Step (fun _ => SignalsOwn) (start [115] [109] [1])
    [.ensureRunning 7, .assign, .pid, .kill, .exits 7, .waitForChild, .starts 7, .assign, .ensureRunning 8, .assign,
      .destroy] :=
  (signalsOwn_iff [115] [109] [1] [.ensureRunning 7, .assign, .pid, .kill, .exits 7, .waitForChild, .starts 7,
    .assign, .ensureRunning 8, .assign] (by decide +kernel)).mpr (by decide +kernel)

theorem signalsOwn_fails :
    (Library.Along Step (fun _ => Possible) (start [115] [109] [1]) [.ensureRunning (-1), .assign, .kill] ∧
      ¬Library.Along Step (fun _ => SignalsOwn) (start [115] [109] [1]) [.ensureRunning (-1), .assign, .kill]) ∧
    (Library.Along Step (fun _ => Possible) (start [115] [109] [1])
        [.ensureRunning 7, .assign, .exits 7, .waitForChild, .starts 7, .kill] ∧
      ¬Library.Along Step (fun _ => SignalsOwn) (start [115] [109] [1])
        [.ensureRunning 7, .assign, .exits 7, .waitForChild, .starts 7, .kill]) ∧
    (Library.Along Step (fun _ => Possible) (start [115] [109] [1])
        [.ensureRunning 7, .exits 7, .waitForChild, .assign, .starts 7, .kill] ∧
      ¬Library.Along Step (fun _ => SignalsOwn) (start [115] [109] [1])
        [.ensureRunning 7, .exits 7, .waitForChild, .assign, .starts 7, .kill]) := by
  decide +kernel

end SignalledHost
end SystemCompositor
