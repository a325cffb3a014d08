import SystemCompositor.ExternalSpinner.Basic
import SystemCompositor.Library.Run

namespace SystemCompositor
open Library

/-- What a process does next. The compositor's code runs with the spinner object of its own address space. -/
inductive ProcessState
  | compositor (spinner : ExternalSpinner)
  | executing (file : Name)
  | terminated
deriving DecidableEq

structure Process where
  pid : Int
  parent : Option Nat
  state : ProcessState
deriving DecidableEq

/-- What `fork` does, and in its child what `execlp` does. -/
inductive Fork
  | failed
  | child (pid : Int) (positive : 0 < pid) (executed : Bool)
deriving DecidableEq

namespace Fork

def result : Fork → Int
  | .failed => -1
  | .child pid _ _ => pid

def executed : Fork → Bool
  | .failed => false
  | .child _ _ executed => executed

theorem result_ne_zero (fork : Fork) : fork.result ≠ 0 := by
  cases fork with
  | failed => decide
  | child pid positive executed => exact Int.ne_of_gt positive

end Fork

def ProcessState.spinner : ProcessState → Option ExternalSpinner
  | .compositor spinner => some spinner
  | .executing _ | .terminated => none

namespace SystemCall

def file : SystemCall → Option Name
  | .execlp file _ => some file
  | .fork _ | .setenv _ _ | .kill _ _ => none

def child : SystemCall → Option Int
  | .fork result => if 0 < result then some result else none
  | .setenv _ _ | .execlp _ _ | .kill _ _ => none

end SystemCall

namespace ExternalSpinner

/-- What a process does after it has called `ensure_running`, with `forked` what `fork` returned to it. -/
def continuation (spinner : ExternalSpinner) (forked : Int) (executed : Bool) : ProcessState :=
  let (after, calls) := spinner.ensureRunning forked
  match calls.findSome? SystemCall.file with
  -- When `execlp` fails it returns, and the branch runs on to the end of the function.
  | some file => if executed then .executing file else .compositor after
  | none => .compositor after

def started (spinner : ExternalSpinner) (caller : Nat) (fork : Fork) : List Process :=
  ((spinner.ensureRunning fork.result).2.filterMap SystemCall.child).map fun pid =>
    ⟨pid, some caller, spinner.continuation 0 fork.executed⟩

@[simp] theorem ensureRunning_executable (spinner : ExternalSpinner) (forked : Int) :
    (spinner.ensureRunning forked).1.executable = spinner.executable := by
  unfold ensureRunning
  split_ifs <;> rfl

@[simp] theorem kill_executable (spinner : ExternalSpinner) :
    spinner.kill.1.executable = spinner.executable := by
  unfold kill
  split_ifs <;> rfl

/-- Only a child calls `execlp`, so control returns to a caller that `fork` did not return zero to. -/
theorem continuation_caller (spinner : ExternalSpinner) (fork : Fork) :
    spinner.continuation fork.result fork.executed = .compositor (spinner.ensureRunning fork.result).1 := by
  by_cases forks : spinner.Forks
  · rw [continuation, ensureRunning_of_forks forks fork.result_ne_zero]
    rfl
  · rw [continuation, ensureRunning_of_not_forks forks]
    rfl

theorem continuation_child {spinner : ExternalSpinner} (forks : spinner.Forks) (executed : Bool) :
    spinner.continuation 0 executed =
      if executed then .executing spinner.executable else .compositor spinner := by
  obtain ⟨named, none⟩ := forks
  simp [continuation, ensureRunning, named, none, SystemCall.file, List.findSome?_cons]

theorem started_of_not_forks {spinner : ExternalSpinner} (idle : ¬spinner.Forks) (caller : Nat) (fork : Fork) :
    spinner.started caller fork = [] := by
  rw [started, ensureRunning_of_not_forks idle]
  rfl

theorem started_of_forks {spinner : ExternalSpinner} (forks : spinner.Forks) (caller : Nat) (fork : Fork) :
    spinner.started caller fork = match fork with
      | .failed => []
      | .child pid _ executed =>
          [⟨pid, some caller, if executed then .executing spinner.executable else .compositor spinner⟩] := by
  rw [started, ensureRunning_of_forks forks fork.result_ne_zero, continuation_child forks]
  cases fork with
  | failed => rfl
  | child pid positive executed =>
      simp only [Fork.result, SystemCall.child, positive, ↓reduceIte, List.filterMap_cons, List.filterMap_nil]
      rfl

theorem started_executes (spinner : ExternalSpinner) (caller : Nat) (fork : Fork) :
    (∀ p ∈ spinner.started caller fork, p.state.spinner = none) ↔ match fork with
      | .failed => True
      | .child _ _ executed => spinner.Forks → executed = true := by
  by_cases forks : spinner.Forks
  · rw [started_of_forks forks]
    cases fork with
    | failed => simp
    | child pid positive executed => cases executed <;> simp [ProcessState.spinner, forks]
  · rw [started_of_not_forks forks]
    cases fork <;> simp [forks]

theorem started_beyond {spinner : ExternalSpinner} {caller : Nat} {fork : Fork} {p : Process}
    (member : p ∈ spinner.started caller fork) (gone : p.state.spinner = none) :
    p.parent = some caller ∧ p.state = .executing spinner.executable := by
  by_cases forks : spinner.Forks
  · rw [started_of_forks forks] at member
    cases fork with
    | failed => cases member
    | child pid positive executed =>
        obtain rfl := List.mem_singleton.mp member
        cases executed with
        | true => exact ⟨rfl, rfl⟩
        | false => cases gone
  · rw [started_of_not_forks forks] at member
    cases member

end ExternalSpinner

/-- Every process since the first, which is the one that the server starts in. -/
abbrev ProcessTree := List Process

namespace ProcessTree

inductive Event
  | ensureRunning (caller : Nat) (fork : Fork)
  | kill (caller : Nat)
  | exit (process : Nat)
deriving DecidableEq

def spinner (t : ProcessTree) (process : Nat) : Option ExternalSpinner :=
  t[process]?.bind fun p => p.state.spinner

def setState (t : ProcessTree) (process : Nat) (state : ProcessState) : ProcessTree :=
  t.modify process fun p => { p with state }

def ensureRunning (t : ProcessTree) (caller : Nat) (spinner : ExternalSpinner) (fork : Fork) : ProcessTree :=
  t.setState caller (spinner.continuation fork.result fork.executed) ++ spinner.started caller fork

/-- The processes in which control returns from a call of `ensure_running`. -/
def returns (t : ProcessTree) (caller : Nat) (spinner : ExternalSpinner) (fork : Fork) : List Nat :=
  (caller :: List.range' t.length (spinner.started caller fork).length).filter fun process =>
    ((t.ensureRunning caller spinner fork).spinner process).isSome

def step (t : ProcessTree) : Event → Option ProcessTree
  | .ensureRunning caller fork => do
      let spinner ← t.spinner caller
      return t.ensureRunning caller spinner fork
  | .kill caller => do
      let spinner ← t.spinner caller
      return t.setState caller (.compositor spinner.kill.1)
  -- A forked process may end at any time, whether or not it was signalled.
  | .exit process => if process = 0 then none else some (t.setState process .terminated)

abbrev Step (t : ProcessTree) (e : Event) (u : ProcessTree) : Prop := t.step e = some u

def start (executable mirSocket : Name) : ProcessTree :=
  [⟨0, none, .compositor { executable, mirSocket }⟩]

structure SpinnersOnly (executable : Name) (t : ProcessTree) : Prop where
  forked : ∀ p ∈ t, p.parent ≠ none → p.state = .executing executable ∨ p.state = .terminated
  one : ∃! process, (t.spinner process).isSome = true

def ReturnsInCaller (t : ProcessTree) : Event → Prop
  | .ensureRunning caller fork => ∀ spinner, t.spinner caller = some spinner →
      t.returns caller spinner fork = [caller]
  | .kill _ | .exit _ => True

def Executes (t : ProcessTree) : Event → Prop
  | .ensureRunning caller (.child _ _ executed) => ∀ spinner, t.spinner caller = some spinner →
      spinner.Forks → executed = true
  | .ensureRunning _ .failed | .kill _ | .exit _ => True

structure Contained (executable mirSocket : Name) (es : List Event) : Prop where
  states : Throughout Step (fun _ t => t.SpinnersOnly executable) (start executable mirSocket) es
  returns : Along Step (fun _ t e => t.ReturnsInCaller e) (start executable mirSocket) es

theorem spinner_setState (t : ProcessTree) (process other : Nat) (state : ProcessState) :
    (t.setState process state).spinner other =
      if process = other ∧ other < t.length then state.spinner else t.spinner other := by
  unfold spinner setState
  rw [List.getElem?_modify]
  by_cases inside : other < t.length
  · by_cases same : process = other <;> simp [same, inside]
  · simp [inside]

theorem spinner_isSome_lt {t : ProcessTree} {process : Nat} {spinner : ExternalSpinner}
    (running : t.spinner process = some spinner) : process < t.length := by
  obtain ⟨p, found, -⟩ := Option.bind_eq_some_iff.mp running
  exact (List.getElem?_eq_some_iff.mp found).1

theorem spinner_append (t : ProcessTree) (later : List Process) (process : Nat) :
    ProcessTree.spinner (t ++ later) process =
      if process < t.length then t.spinner process else ProcessTree.spinner later (process - t.length) := by
  unfold spinner
  rw [List.getElem?_append]
  split_ifs <;> rfl

theorem spinner_ensureRunning (t : ProcessTree) (caller : Nat) (spinner : ExternalSpinner) (fork : Fork)
    (process : Nat) :
    (t.ensureRunning caller spinner fork).spinner process =
      if process < t.length then
        if process = caller then some (spinner.ensureRunning fork.result).1 else t.spinner process
      else ProcessTree.spinner (spinner.started caller fork) (process - t.length) := by
  have length : (t.setState caller (spinner.continuation fork.result fork.executed)).length = t.length :=
    List.length_modify ..
  rw [ensureRunning, spinner_append, length, spinner_setState, spinner.continuation_caller]
  by_cases inside : process < t.length
  · by_cases same : process = caller
    · subst same
      simp [inside, ProcessState.spinner]
    · simp [inside, same, Ne.symm same]
  · simp [inside]

theorem returns_iff {t : ProcessTree} {caller : Nat} {spinner : ExternalSpinner}
    (running : t.spinner caller = some spinner) (fork : Fork) :
    t.returns caller spinner fork = [caller] ↔ ∀ p ∈ spinner.started caller fork, p.state.spinner = none := by
  have inside := spinner_isSome_lt running
  have here : ((t.ensureRunning caller spinner fork).spinner caller).isSome = true := by
    simp [spinner_ensureRunning, inside]
  rw [returns, List.filter_cons, if_pos here, List.cons.injEq, List.filter_eq_nil_iff]
  simp only [true_and, List.mem_range'_1, spinner_ensureRunning, and_imp]
  constructor
  · intro alone p member
    obtain ⟨i, found⟩ := List.mem_iff_getElem?.mp member
    have bound := (List.getElem?_eq_some_iff.mp found).1
    have outside : ¬t.length + i < t.length := by omega
    simpa [ProcessTree.spinner, found, outside] using alone (t.length + i) (Nat.le_add_right ..) (by omega)
  · intro gone process low _
    rw [if_neg (by omega)]
    cases found : (spinner.started caller fork)[process - t.length]? with
    | none => simp [ProcessTree.spinner, found]
    | some p => simp [ProcessTree.spinner, found, gone p (List.mem_of_getElem? found)]

theorem executes_iff {t : ProcessTree} {caller : Nat} {spinner : ExternalSpinner}
    (running : t.spinner caller = some spinner) (fork : Fork) : t.Executes (.ensureRunning caller fork) ↔
      ∀ p ∈ spinner.started caller fork, p.state.spinner = none := by
  rw [spinner.started_executes]
  cases fork with
  | failed => exact Iff.rfl
  | child pid positive executed => simp [Executes, running]

theorem returnsInCaller_iff (t : ProcessTree) (e : Event) : t.ReturnsInCaller e ↔ t.Executes e := by
  cases e with
  | ensureRunning caller fork =>
      cases running : t.spinner caller with
      | none => cases fork <;> simp [ReturnsInCaller, Executes, running]
      | some spinner =>
          rw [executes_iff running, ← returns_iff running]
          simp [ReturnsInCaller, running]
  | kill caller | exit process => exact Iff.rfl

def Beyond (executable : Name) (p : Process) : Prop :=
  p.parent ≠ none ∧ (p.state = .executing executable ∨ p.state = .terminated)

theorem Beyond.spinner_none {executable : Name} {p : Process} (beyond : Beyond executable p) :
    p.state.spinner = none := by
  rcases beyond.2 with executing | terminated
  · rw [executing]
    rfl
  · rw [terminated]
    rfl

structure Sound (executable : Name) (t : ProcessTree) (spinner : ExternalSpinner) (rest : List Process) :
    Prop where
  tree : t = ⟨0, none, .compositor spinner⟩ :: rest
  named : spinner.executable = executable
  beyond : ∀ p ∈ rest, Beyond executable p

section Sound
variable {executable : Name} {t : ProcessTree} {spinner : ExternalSpinner} {rest : List Process}

theorem Sound.spinner_succ (sound : Sound executable t spinner rest) (i : Nat) : t.spinner (i + 1) = none := by
  obtain ⟨rfl, -, beyond⟩ := sound
  rw [ProcessTree.spinner, List.getElem?_cons_succ]
  cases found : rest[i]? with
  | none => rfl
  | some p => exact (beyond p (List.mem_of_getElem? found)).spinner_none

theorem Sound.spinnersOnly (sound : Sound executable t spinner rest) : t.SpinnersOnly executable := by
  refine ⟨fun p member forked => ?_, 0, ?_, fun process running => ?_⟩
  · rw [sound.tree] at member
    rcases List.mem_cons.mp member with rfl | later
    · exact absurd rfl forked
    · exact (sound.beyond p later).2
  · simp [sound.tree, ProcessTree.spinner, ProcessState.spinner]
  · cases process with
    | zero => rfl
    | succ i =>
        rw [sound.spinner_succ i] at running
        cases running

theorem Sound.caller (sound : Sound executable t spinner rest) {caller : Nat} {own : ExternalSpinner}
    (running : t.spinner caller = some own) : caller = 0 ∧ own = spinner := by
  cases caller with
  | zero =>
      rw [sound.tree] at running
      exact ⟨rfl, (Option.some.inj running).symm⟩
  | succ i =>
      rw [sound.spinner_succ i] at running
      cases running

theorem Sound.step (sound : Sound executable t spinner rest) {e : Event} {u : ProcessTree} (step : Step t e u)
    (executes : t.Executes e) : ∃ spinner rest, Sound executable u spinner rest := by
  cases e with
  | ensureRunning caller fork =>
      -- Only the first process has a spinner to call.
      obtain ⟨own, running, made⟩ := Option.bind_eq_some_iff.mp step
      obtain rfl := Option.some.inj made
      obtain ⟨rfl, rfl⟩ := sound.caller running
      refine ⟨(own.ensureRunning fork.result).1, rest ++ own.started 0 fork, ?_, by simp [sound.named], ?_⟩
      · rw [ensureRunning, own.continuation_caller, sound.tree]
        rfl
      · intro p member
        rcases List.mem_append.mp member with old | new
        · exact sound.beyond p old
        · have gone := (executes_iff running fork).mp executes p new
          obtain ⟨parent, executing⟩ := ExternalSpinner.started_beyond new gone
          exact ⟨by simp [parent], .inl (sound.named ▸ executing)⟩
  | kill caller =>
      obtain ⟨own, running, made⟩ := Option.bind_eq_some_iff.mp step
      obtain rfl := Option.some.inj made
      obtain ⟨rfl, rfl⟩ := sound.caller running
      refine ⟨own.kill.1, rest, ?_, by simp [sound.named], sound.beyond⟩
      rw [sound.tree]
      rfl
  | exit process =>
      cases process with
      | zero => cases step
      | succ i =>
          obtain rfl := Option.some.inj step
          refine ⟨spinner, rest.modify i fun p => { p with state := .terminated }, ?_, sound.named, ?_⟩
          · rw [sound.tree]
            rfl
          · intro p member
            obtain ⟨j, found⟩ := List.mem_iff_getElem?.mp member
            rw [List.getElem?_modify] at found
            obtain ⟨q, there, rfl⟩ := Option.map_eq_some_iff.mp found
            have beyond := sound.beyond q (List.mem_of_getElem? there)
            split_ifs
            · exact ⟨beyond.1, .inr rfl⟩
            · exact beyond

end Sound

theorem start_sound (executable mirSocket : Name) :
    Sound executable (start executable mirSocket) { executable, mirSocket } [] :=
  ⟨rfl, rfl, by simp⟩

theorem contained_iff (executable mirSocket : Name) (es : List Event) : Contained executable mirSocket es ↔
    Along Step (fun _ t e => t.Executes e) (start executable mirSocket) es := by
  constructor
  · intro contained past e le t run
    exact (t.returnsInCaller_iff e).mp (contained.returns past e le t run)
  · intro executes
    refine ⟨fun past le t run => ?_, fun past e le t run => ?_⟩
    · obtain ⟨spinner, rest, sound⟩ := Along.invariant
        (fun _ t => ∃ spinner rest, Sound executable t spinner rest)
        ⟨_, _, start_sound executable mirSocket⟩
        (fun _ _ e _ _ before ok step => by
          obtain ⟨spinner, rest, sound⟩ := before
          exact sound.step step ok)
        (executes.restrict le) run
      exact sound.spinnersOnly
    · exact (t.returnsInCaller_iff e).mpr (executes past e le t run)

theorem contained_fails :
    ¬Contained [115] [] [.ensureRunning 0 (.child 1001 (by decide) false)] := by
  intro contained
  have alone := contained.returns [] _ (List.prefix_refl _) _ (.nil _)
  exact absurd (alone { executable := [115], mirSocket := [] } rfl) (by decide)

end ProcessTree
end SystemCompositor
