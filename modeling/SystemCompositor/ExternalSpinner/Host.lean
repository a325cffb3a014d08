import Mathlib.Data.List.Nodup
import SystemCompositor.ExternalSpinner.Basic

namespace SystemCompositor

structure Child where
  pid : Int
  exited : Bool := false
  signalled : Bool := false
deriving DecidableEq

/-- The kernel's process table as the compositor sees it. -/
structure Processes where
  children : List Child := []
  others : List Int := []
deriving DecidableEq

namespace Processes

def pids (p : Processes) : List Int := p.children.map Child.pid

def Unused (p : Processes) (pid : Int) : Prop := pid ∉ p.pids ∧ pid ∉ p.others

instance (p : Processes) (pid : Int) : Decidable (p.Unused pid) := inferInstanceAs (Decidable (_ ∧ _))

def signal (p : Processes) (pid : Int) : Processes :=
  -- The pid -1 stands for every process that may be signalled.
  { p with children := p.children.map fun c =>
      if pid = -1 ∨ c.pid = pid then { c with signalled := true } else c }

def exit (p : Processes) (pid : Int) : Processes :=
  { p with children := p.children.map fun c => if c.pid = pid then { c with exited := true } else c }

def perform (p : Processes) : SystemCall → Processes
  | .fork result => if 0 < result then { p with children := p.children ++ [{ pid := result }] } else p
  | .kill pid .sigterm => p.signal pid
  -- The child makes these calls, in an address space of its own.
  | .setenv _ _ | .execlp _ _ => p

/-- `waitpid(-1, nullptr, WNOHANG)`. -/
def waitpid (p : Processes) : Int × Processes :=
  match p.children.find? Child.exited with
  | some c => (c.pid, { p with children := p.children.erase c })
  | none => (if p.children.isEmpty then -1 else 0, p)

theorem waitpid_reaps {p : Processes} (reaped : 0 < p.waitpid.1) :
    ∃ c ∈ p.children, c.exited = true ∧ p.waitpid.2 = { p with children := p.children.erase c } := by
  unfold waitpid at reaped ⊢
  cases found : p.children.find? Child.exited with
  | none =>
      simp only [found] at reaped
      split_ifs at reaped
      all_goals omega
  | some c => exact ⟨c, List.mem_of_find?_eq_some found, List.find?_some found, rfl⟩

def waitForChild (p : Processes) : Processes :=
  if 0 < p.waitpid.1 then waitForChild p.waitpid.2 else p.waitpid.2
termination_by p.children.length
decreasing_by
  rename_i reaped
  obtain ⟨c, member, -, same⟩ := waitpid_reaps reaped
  rw [same, List.length_erase_of_mem member]
  have := List.length_pos_of_mem member
  omega

structure Proper (p : Processes) : Prop where
  positive : ∀ c ∈ p.children, 0 < c.pid
  distinct : p.pids.Nodup

theorem waitForChild_eq {p : Processes} (positive : ∀ c ∈ p.children, 0 < c.pid) :
    p.waitForChild = { p with children := p.children.filter fun c => !c.exited } := by
  induction p using waitForChild.induct with
  | case1 p reaped ih =>
      rw [waitForChild, if_pos reaped]
      obtain ⟨c, member, exited, same⟩ := waitpid_reaps reaped
      rw [same] at ih ⊢
      rw [ih fun d left => positive d (List.mem_of_mem_erase left)]
      simp only [mk.injEq, and_true]
      rw [← List.erase_filter, List.erase_of_not_mem]
      simp [exited]
  | case2 p idle =>
      rw [waitForChild, if_neg idle]
      unfold waitpid at idle ⊢
      cases found : p.children.find? Child.exited with
      | some c =>
          rw [found] at idle
          exact absurd (positive c (List.mem_of_find?_eq_some found)) idle
      | none =>
          rw [List.find?_eq_none] at found
          rw [List.filter_eq_self.mpr]
          intro c member
          simpa using found c member

theorem Proper.waitForChild {p : Processes} (proper : p.Proper) : p.waitForChild.Proper := by
  rw [waitForChild_eq proper.positive]
  exact ⟨fun c left => proper.positive c (List.mem_of_mem_filter left),
    proper.distinct.sublist (List.filter_sublist.map Child.pid)⟩

@[simp] theorem signal_pids (p : Processes) (pid : Int) : (p.signal pid).pids = p.pids := by
  simp only [pids, signal, List.map_map]
  refine List.map_congr_left fun c _ => ?_
  simp only [Function.comp_apply]
  split_ifs <;> rfl

@[simp] theorem exit_pids (p : Processes) (pid : Int) : (p.exit pid).pids = p.pids := by
  simp only [pids, exit, List.map_map]
  refine List.map_congr_left fun c _ => ?_
  simp only [Function.comp_apply]
  split_ifs <;> rfl

theorem proper_iff_pids {p : Processes} : p.Proper ↔ (∀ pid ∈ p.pids, 0 < pid) ∧ p.pids.Nodup := by
  simp only [pids, List.mem_map, forall_exists_index, and_imp, forall_apply_eq_imp_iff₂]
  exact ⟨fun proper => ⟨proper.positive, proper.distinct⟩, fun ⟨positive, distinct⟩ => ⟨positive, distinct⟩⟩

theorem Proper.signal {p : Processes} (proper : p.Proper) (pid : Int) : (p.signal pid).Proper := by
  rw [proper_iff_pids, signal_pids]
  exact proper_iff_pids.mp proper

theorem Proper.exit {p : Processes} (proper : p.Proper) (pid : Int) : (p.exit pid).Proper := by
  rw [proper_iff_pids, exit_pids]
  exact proper_iff_pids.mp proper

theorem perform_fork_pids (p : Processes) {result : Int} (child : 0 < result) :
    (p.perform (.fork result)).pids = p.pids ++ [result] := by
  simp [perform, child, pids]

theorem Proper.fork {p : Processes} (proper : p.Proper) {result : Int}
    (fresh : 0 < result → p.Unused result) : (p.perform (.fork result)).Proper := by
  by_cases child : 0 < result
  · obtain ⟨positive, distinct⟩ := proper_iff_pids.mp proper
    rw [proper_iff_pids, perform_fork_pids p child]
    refine ⟨fun pid member => ?_, List.nodup_append.mpr ⟨distinct, by simp, ?_⟩⟩
    · rcases List.mem_append.mp member with old | new
      · exact positive pid old
      · rwa [List.mem_singleton.mp new]
    · rintro pid old _ new rfl
      rw [List.mem_singleton.mp new] at old
      exact (fresh child).1 old
  · simpa [perform, child] using proper

end Processes

structure SpinnerHost where
  spinner : ExternalSpinner
  processes : Processes := {}
deriving DecidableEq

namespace SpinnerHost

def carryOut (h : SpinnerHost) (result : ExternalSpinner × List SystemCall) : SpinnerHost :=
  ⟨result.1, result.2.foldl Processes.perform h.processes⟩

/-- The call as one event: no child is reaped between its `fork` and its assignment to `spinner_pid`. -/
def ensureRunning (h : SpinnerHost) (forked : Int) : SpinnerHost :=
  h.carryOut (h.spinner.ensureRunning forked)

def kill (h : SpinnerHost) : SpinnerHost := h.carryOut h.spinner.kill

/-- What `fork` may return to its caller: failure, or the pid of a process that is new. -/
def Forkable (h : SpinnerHost) (forked : Int) : Prop :=
  h.spinner.Forks → forked = -1 ∨ 0 < forked ∧ h.processes.Unused forked

theorem ensureRunning_of_not_forks {h : SpinnerHost} (idle : ¬h.spinner.Forks) (forked : Int) :
    h.ensureRunning forked = h := by
  rw [ensureRunning, ExternalSpinner.ensureRunning_of_not_forks idle]
  rfl

theorem ensureRunning_of_forks {h : SpinnerHost} (forks : h.spinner.Forks) {forked : Int}
    (parent : forked ≠ 0) : h.ensureRunning forked =
      ⟨{ h.spinner with spinnerPid := forked }, h.processes.perform (.fork forked)⟩ := by
  rw [ensureRunning, ExternalSpinner.ensureRunning_of_forks forks parent]
  rfl

theorem kill_eq (h : SpinnerHost) : h.kill = if h.spinner.spinnerPid = 0 then h else
    ⟨{ h.spinner with spinnerPid := 0 }, h.processes.signal h.spinner.spinnerPid⟩ := by
  by_cases none : h.spinner.spinnerPid = 0 <;>
    simp [kill, carryOut, ExternalSpinner.kill, none, Processes.perform]

end SpinnerHost
end SystemCompositor
