import SystemCompositor.Session

namespace SystemCompositor

inductive Signal
  | sigterm
deriving DecidableEq

/-- The system calls that `ExternalSpinner` makes; `fork` with the value it returned. -/
inductive SystemCall
  | fork (result : Int)
  | setenv (name value : Name)
  | execlp (file arg : Name)
  | kill (pid : Int) (signal : Signal)
deriving DecidableEq

def SystemCall.target : SystemCall → Option Int
  | .kill pid _ => some pid
  | _ => none

structure ExternalSpinner where
  executable : Name
  mirSocket : Name
  spinnerPid : Int := 0
deriving DecidableEq

namespace ExternalSpinner

def mirSocketVariable : Name := "MIR_SOCKET".toList.map Char.toUInt8

/-- `forked` is the value that `fork` returns if it is called. -/
def ensureRunning (spinner : ExternalSpinner) (forked : Int) : ExternalSpinner × List SystemCall :=
  if spinner.executable.isEmpty || spinner.spinnerPid != 0 then (spinner, [])
  else if forked = 0 then
    (spinner, [.fork forked, .setenv mirSocketVariable spinner.mirSocket,
      .execlp spinner.executable spinner.executable])
  else ({ spinner with spinnerPid := forked }, [.fork forked])

def kill (spinner : ExternalSpinner) : ExternalSpinner × List SystemCall :=
  if spinner.spinnerPid != 0 then
    ({ spinner with spinnerPid := 0 }, [.kill spinner.spinnerPid .sigterm])
  else (spinner, [])

def pid (spinner : ExternalSpinner) : Int := spinner.spinnerPid

def Forks (spinner : ExternalSpinner) : Prop := spinner.executable ≠ [] ∧ spinner.spinnerPid = 0

instance (spinner : ExternalSpinner) : Decidable spinner.Forks :=
  inferInstanceAs (Decidable (_ ∧ _))

theorem ensureRunning_of_not_forks {spinner : ExternalSpinner} (idle : ¬spinner.Forks) (forked : Int) :
    spinner.ensureRunning forked = (spinner, []) := by
  unfold ensureRunning
  rw [if_pos]
  by_cases named : spinner.executable = []
  · simp [named]
  · have running : spinner.spinnerPid ≠ 0 := fun none => idle ⟨named, none⟩
    simp [running]

theorem ensureRunning_of_forks {spinner : ExternalSpinner} (forks : spinner.Forks) {forked : Int}
    (parent : forked ≠ 0) :
    spinner.ensureRunning forked = ({ spinner with spinnerPid := forked }, [.fork forked]) := by
  obtain ⟨named, none⟩ := forks
  simp [ensureRunning, named, none, parent]

end ExternalSpinner
end SystemCompositor
