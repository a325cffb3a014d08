import SystemCompositor.Library.Monitor
import SystemCompositor.MirScreen.Exceptions

namespace SystemCompositor
open Std Library

/-- A handler that is registered for `owner` is called, and comes back. -/
inductive Invocation
  | begins (owner handler : Nat) (outputs : ActiveOutputs)
  | ends (owner handler : Nat)
deriving DecidableEq

structure SharedScreen where
  screen : MirScreen
  mutexHeld : Bool := false
  invocations : List Invocation := []

abbrev ScreenProgram := Program SharedScreen

/-! The functions of the screen that lock `active_outputs_mutex`, step by step. A handler runs between the two
steps of its invocation, and other threads may run there too. -/

namespace ScreenProgram
open ScreenM

def update (change : MirScreen → MirScreen) : ScreenProgram Unit :=
  Program.change fun s => { s with screen := change s.screen }

def begins (entry : Nat × Nat) (activeOutputs : ActiveOutputs) : ScreenProgram Unit :=
  Program.change fun s => { s with invocations := s.invocations ++ [.begins entry.1 entry.2 activeOutputs] }

def ends (o : Outcomes) (entry : Nat × Nat) (activeOutputs : ActiveOutputs) : ScreenProgram Unit :=
  Program.change fun s => { s with
    screen := (exec (MirScreen.callHandler o entry activeOutputs) s.screen).2
    invocations := s.invocations ++ [.ends entry.1 entry.2] }

def lock : ScreenProgram Unit := Program.await (fun s => !s.mutexHeld) fun s => { s with mutexHeld := true }

def unlock : ScreenProgram Unit := Program.change fun s => { s with mutexHeld := false }

/-- A handler that throws ends the loop; `lock_guard` frees the mutex all the same. -/
def callHandlers (o : Outcomes) (activeOutputs : ActiveOutputs) : List (Nat × Nat) → ScreenProgram Unit
  | [] => unlock
  | entry :: entries => do
      begins entry activeOutputs
      ends o entry activeOutputs
      match o.handler entry.1 with
      | .returns => callHandlers o activeOutputs entries
      | .throws _ => unlock

def registerActiveOutputsHandler (o : Outcomes) (ownerKey handler : Nat) : ScreenProgram Unit := do
  lock
  update fun s => { s with activeOutputsHandlers := s.activeOutputsHandlers.insert ownerKey handler }
  callHandlers o (← Program.read (·.screen.activeOutputs)) [(ownerKey, handler)]

def unregisterActiveOutputsHandler (ownerKey : Nat) : ScreenProgram Unit := do
  lock
  update fun s => { s with activeOutputsHandlers := s.activeOutputsHandlers.erase ownerKey }
  unlock

def assignActiveOutputs (o : Outcomes) (displayConfiguration : DisplayConfiguration) : ScreenProgram Unit := do
  lock
  update fun s => { s with activeOutputs := countActiveOutputs displayConfiguration }
  let s ← Program.read (·.screen)
  callHandlers o s.activeOutputs s.activeOutputsHandlers.toList

def initialConfiguration (o : Outcomes) (displayConfiguration : DisplayConfiguration) : ScreenProgram Unit :=
  assignActiveOutputs o displayConfiguration

def configurationApplied (o : Outcomes) (displayConfiguration : DisplayConfiguration) : ScreenProgram Unit :=
  assignActiveOutputs o displayConfiguration

end ScreenProgram

inductive RegistryCall
  | registerActiveOutputsHandler (o : Outcomes) (ownerKey handler : Nat)
  | unregisterActiveOutputsHandler (ownerKey : Nat)
  | initialConfiguration (o : Outcomes) (displayConfiguration : DisplayConfiguration)
  | configurationApplied (o : Outcomes) (displayConfiguration : DisplayConfiguration)

namespace RegistryCall

def program : RegistryCall → ScreenProgram Unit
  | .registerActiveOutputsHandler o ownerKey handler =>
      ScreenProgram.registerActiveOutputsHandler o ownerKey handler
  | .unregisterActiveOutputsHandler ownerKey => ScreenProgram.unregisterActiveOutputsHandler ownerKey
  | .initialConfiguration o displayConfiguration => ScreenProgram.initialConfiguration o displayConfiguration
  | .configurationApplied o displayConfiguration => ScreenProgram.configurationApplied o displayConfiguration

def owner : RegistryCall → Option Nat
  | .registerActiveOutputsHandler _ ownerKey _ | .unregisterActiveOutputsHandler ownerKey => some ownerKey
  | .initialConfiguration .. | .configurationApplied .. => none

def registers : RegistryCall → Option Nat
  | .registerActiveOutputsHandler _ _ handler => some handler
  | .unregisterActiveOutputsHandler _ | .initialConfiguration .. | .configurationApplied .. => none

def configured : RegistryCall → Option ActiveOutputs
  | .registerActiveOutputsHandler .. | .unregisterActiveOutputsHandler _ => none
  | .initialConfiguration _ displayConfiguration | .configurationApplied _ displayConfiguration =>
      some (countActiveOutputs displayConfiguration)

def outcomes : RegistryCall → Outcomes
  | .registerActiveOutputsHandler o _ _ | .initialConfiguration o _ | .configurationApplied o _ => o
  | .unregisterActiveOutputsHandler _ => {}

end RegistryCall

namespace Invocation

/-- The invocations that have begun and have not come back. -/
def inProgress (invocations : List Invocation) : List (Nat × Nat) :=
  invocations.foldl (fun running invocation => match invocation with
    | .begins owner handler _ => running ++ [(owner, handler)]
    | .ends owner handler => running.erase (owner, handler)) []

def toldTo (ownerKey : Nat) : Invocation → Option ActiveOutputs
  | .begins owner _ outputs => if owner = ownerKey then some outputs else none
  | .ends .. => none

end Invocation

namespace ScreenProgram
open Program ScreenM

theorem quiet_update (change : MirScreen → MirScreen) : Quiet SharedScreen.mutexHeld (update change) :=
  quiet_change fun _ => rfl

theorem inside_unlock : Inside SharedScreen.mutexHeld unlock := inside_change fun _ => rfl

theorem inside_callHandlers (o : Outcomes) (activeOutputs : ActiveOutputs) (entries : List (Nat × Nat)) :
    Inside SharedScreen.mutexHeld (callHandlers o activeOutputs entries) := by
  induction entries with
  | nil => exact inside_unlock
  | cons entry entries ih =>
      refine Quiet.inside (quiet_change fun _ => rfl) fun _ => Quiet.inside (quiet_change fun _ => rfl) fun _ => ?_
      cases o.handler entry.1 with
      | returns => exact ih
      | throws left => exact inside_unlock

theorem guarded_program (call : RegistryCall) : Guarded SharedScreen.mutexHeld call.program := by
  have locked {f : Unit → ScreenProgram Unit} (rest : Inside SharedScreen.mutexHeld (f ())) :
      Guarded SharedScreen.mutexHeld (lock >>= f) := guarded_await (fun _ => rfl) (fun _ => rfl) rest
  cases call with
  | unregisterActiveOutputsHandler ownerKey => exact locked ((quiet_update _).inside fun _ => inside_unlock)
  | registerActiveOutputsHandler o ownerKey handler =>
      exact locked ((quiet_update _).inside fun _ => (quiet_read _).inside fun _ => inside_callHandlers ..)
  | initialConfiguration o displayConfiguration | configurationApplied o displayConfiguration =>
      exact locked ((quiet_update _).inside fun _ => (quiet_read _).inside fun _ => inside_callHandlers ..)

/-- The invocations made in one pass over `entries`, up to the first handler that throws. -/
def made (o : Outcomes) (activeOutputs : ActiveOutputs) : List (Nat × Nat) → List Invocation
  | [] => []
  | entry :: entries => .begins entry.1 entry.2 activeOutputs :: .ends entry.1 entry.2 ::
      match o.handler entry.1 with
      | .returns => made o activeOutputs entries
      | .throws _ => []

theorem alone_callHandlers (o : Outcomes) (activeOutputs : ActiveOutputs) (entries : List (Nat × Nat))
    (s : SharedScreen) : (callHandlers o activeOutputs entries).alone s = some ((),
      ⟨(exec (entries.forM fun entry => MirScreen.callHandler o entry activeOutputs) s.screen).2, false,
        s.invocations ++ made o activeOutputs entries⟩) := by
  induction entries generalizing s with
  | nil => simp [callHandlers, unlock, made]
  | cons entry entries ih =>
      rw [List.forM_eq_forM, List.forM_cons, exec_bind, MirScreen.callHandler_exec]
      simp only [callHandlers, alone_bind, begins, ends, alone_change, Option.bind_some, made,
        MirScreen.callHandler_exec]
      cases o.handler entry.1 with
      | returns => simp [ih]
      | throws left => simp [unlock]

end ScreenProgram

namespace SharedScreen
open ScreenM ScreenProgram

def notify (s : SharedScreen) (o : Outcomes) (screen : MirScreen) (entries : List (Nat × Nat)) : SharedScreen :=
  ⟨(exec (entries.forM fun entry => MirScreen.callHandler o entry screen.activeOutputs) screen).2, false,
    s.invocations ++ made o screen.activeOutputs entries⟩

def after (s : SharedScreen) : RegistryCall → SharedScreen
  | .registerActiveOutputsHandler o ownerKey handler =>
      s.notify o { s.screen with
        activeOutputsHandlers := s.screen.activeOutputsHandlers.insert ownerKey handler } [(ownerKey, handler)]
  | .unregisterActiveOutputsHandler ownerKey =>
      { s with screen.activeOutputsHandlers := s.screen.activeOutputsHandlers.erase ownerKey, mutexHeld := false }
  | .initialConfiguration o displayConfiguration | .configurationApplied o displayConfiguration =>
      s.notify o { s.screen with activeOutputs := countActiveOutputs displayConfiguration }
        s.screen.activeOutputsHandlers.toList

theorem alone_program {s : SharedScreen} (free : s.mutexHeld = false) (call : RegistryCall) :
    call.program.alone s = some ((), s.after call) := by
  have locked : lock.alone s = some ((), { s with mutexHeld := true }) := by
    simp [lock, free]
  cases call with
  | unregisterActiveOutputsHandler ownerKey =>
      simp [RegistryCall.program, unregisterActiveOutputsHandler, locked, update, unlock, after]
  | registerActiveOutputsHandler o ownerKey handler =>
      simp [RegistryCall.program, registerActiveOutputsHandler, locked, update, alone_callHandlers, after, notify]
  | initialConfiguration o displayConfiguration =>
      simp [RegistryCall.program, initialConfiguration, assignActiveOutputs, locked, update, alone_callHandlers,
        after, notify]
  | configurationApplied o displayConfiguration =>
      simp [RegistryCall.program, configurationApplied, assignActiveOutputs, locked, update, alone_callHandlers,
        after, notify]

/-- With no other thread in between the steps are `configuration_applied`. -/
theorem after_configurationApplied (s : SharedScreen) (o : Outcomes) (displayConfiguration : DisplayConfiguration) :
    (s.after (.configurationApplied o displayConfiguration)).screen =
      (exec (MirScreen.configurationApplied o displayConfiguration) s.screen).2 := by
  simp only [after, notify, MirScreen.configurationApplied, exec_bind, exec_modify, exec_get]

theorem callHandlers_screen (o : Outcomes) (activeOutputs : ActiveOutputs) (entries : List (Nat × Nat))
    (screen : MirScreen) : ∃ known, (exec (entries.forM fun entry => MirScreen.callHandler o entry activeOutputs)
      screen).2 = { screen with known := known } := by
  rcases MirScreen.callHandlers_exec o activeOutputs entries screen with
    ⟨-, run⟩ | ⟨before, entry, rest, left, -, -, -, run⟩ <;> exact ⟨_, by rw [run]⟩

theorem notify_handlers (s : SharedScreen) (o : Outcomes) (screen : MirScreen) (entries : List (Nat × Nat)) :
    (s.notify o screen entries).screen.activeOutputsHandlers = screen.activeOutputsHandlers := by
  obtain ⟨known, same⟩ := callHandlers_screen o screen.activeOutputs entries screen
  rw [notify, same]

theorem notify_activeOutputs (s : SharedScreen) (o : Outcomes) (screen : MirScreen) (entries : List (Nat × Nat)) :
    (s.notify o screen entries).screen.activeOutputs = screen.activeOutputs := by
  obtain ⟨known, same⟩ := callHandlers_screen o screen.activeOutputs entries screen
  rw [notify, same]

theorem after_free (s : SharedScreen) (call : RegistryCall) : (s.after call).mutexHeld = false := by
  cases call <;> rfl

theorem after_handlers (s : SharedScreen) (call : RegistryCall) (ownerKey : Nat) :
    (s.after call).screen.activeOutputsHandlers[ownerKey]? =
      if call.owner = some ownerKey then call.registers else s.screen.activeOutputsHandlers[ownerKey]? := by
  cases call with
  | registerActiveOutputsHandler o key handler =>
      rw [after, notify_handlers, TreeMap.getElem?_insert]
      simp [RegistryCall.owner, RegistryCall.registers]
  | unregisterActiveOutputsHandler key =>
      rw [after, TreeMap.getElem?_erase]
      simp [RegistryCall.owner, RegistryCall.registers]
  | initialConfiguration o displayConfiguration | configurationApplied o displayConfiguration =>
      rw [after, notify_handlers]
      simp [RegistryCall.owner]

theorem after_activeOutputs (s : SharedScreen) (call : RegistryCall) :
    (s.after call).screen.activeOutputs = call.configured.getD s.screen.activeOutputs := by
  cases call with
  | unregisterActiveOutputsHandler key => rfl
  | registerActiveOutputsHandler o key handler =>
      rw [after, notify_activeOutputs]
      rfl
  | initialConfiguration o displayConfiguration | configurationApplied o displayConfiguration =>
      rw [after, notify_activeOutputs]
      rfl

end SharedScreen

namespace Invocation
open ScreenProgram

theorem inProgress_append (past later : List Invocation) : inProgress (past ++ later) =
    later.foldl (fun running invocation => match invocation with
      | .begins owner handler _ => running ++ [(owner, handler)]
      | .ends owner handler => running.erase (owner, handler)) (inProgress past) := by
  rw [inProgress, List.foldl_append]
  rfl

theorem inProgress_begun {past : List Invocation} (none : inProgress past = []) (owner handler : Nat)
    (outputs : ActiveOutputs) : inProgress (past ++ [.begins owner handler outputs]) = [(owner, handler)] := by
  simp [inProgress_append, none]

theorem inProgress_ended {past : List Invocation} (none : inProgress past = []) (owner handler : Nat)
    (outputs : ActiveOutputs) :
    inProgress (past ++ [.begins owner handler outputs] ++ [.ends owner handler]) = [] := by
  rw [inProgress_append, inProgress_begun none]
  simp

theorem inProgress_made {past : List Invocation} (none : inProgress past = []) (o : Outcomes)
    (outputs : ActiveOutputs) (entries : List (Nat × Nat)) : inProgress (past ++ made o outputs entries) = [] := by
  induction entries generalizing past with
  | nil => simpa [made] using none
  | cons entry entries ih =>
      have ended := inProgress_ended none entry.1 entry.2 outputs
      cases outcome : o.handler entry.1 with
      | throws left => simpa [made, outcome] using ended
      | returns => simpa [made, outcome] using ih ended

theorem toldTo_made {o : Outcomes} (returns : ∀ key, o.handler key = .returns) (outputs : ActiveOutputs)
    (ownerKey : Nat) (entries : List (Nat × Nat)) : (made o outputs entries).filterMap (toldTo ownerKey) =
      (entries.filter fun entry => entry.1 = ownerKey).map fun _ => outputs := by
  induction entries with
  | nil => rfl
  | cons entry entries ih =>
      by_cases own : entry.1 = ownerKey <;>
        simp only [made, returns, toldTo, List.filterMap_cons, List.filter_cons, own, ih, ↓reduceIte, decide_true,
          decide_false, List.map_cons, Bool.false_eq_true]

end Invocation

namespace MirScreen

/-- The functions of the screen that lock `active_outputs_mutex`, called by any number of threads. -/
def monitor : Monitor SharedScreen RegistryCall where
  held := SharedScreen.mutexHeld
  program := RegistryCall.program
  guarded := ScreenProgram.guarded_program

theorem monitor_performs :
    monitor.Performs (fun s => Invocation.inProgress s.invocations = []) SharedScreen.after := by
  intro call s free none
  refine ⟨SharedScreen.alone_program free call, SharedScreen.after_free s call, ?_⟩
  cases call with
  | unregisterActiveOutputsHandler key => exact none
  | _ => exact Invocation.inProgress_made none _ _ _

section
/-! `R` holds at every moment of a call when `Q` does between the invocations. -/

variable {Q R : TreeMap Nat Nat → List Invocation → Prop} (weaker : ∀ table log, Q table log → R table log)
  (begun : ∀ table log owner handler outputs, table[owner]? = some handler → Q table log →
    R table (log ++ [.begins owner handler outputs]))
  (ended : ∀ table log owner handler outputs, table[owner]? = some handler → Q table log →
    Q table (log ++ [.begins owner handler outputs] ++ [.ends owner handler]))

include weaker begun ended

theorem always_callHandlers (o : Outcomes) (activeOutputs : ActiveOutputs) (entries : List (Nat × Nat))
    {s : SharedScreen} (registered : ∀ entry ∈ entries, s.screen.activeOutputsHandlers[entry.1]? = some entry.2)
    (holds : Q s.screen.activeOutputsHandlers s.invocations) :
    (ScreenProgram.callHandlers o activeOutputs entries).Always
      (fun s => R s.screen.activeOutputsHandlers s.invocations) s := by
  induction entries generalizing s with
  | nil => exact ⟨weaker _ _ holds, fun _ => weaker _ _ holds⟩
  | cons entry entries ih =>
      have own := registered entry (by simp)
      refine ⟨weaker _ _ holds, fun _ => ⟨begun _ _ _ _ activeOutputs own holds, fun _ => ?_⟩⟩
      have next := ended _ _ _ _ activeOutputs own holds
      simp only [MirScreen.callHandler_exec]
      cases o.handler entry.1 with
      | returns => exact ih (fun later member => registered later (by simp [member])) next
      | throws left => exact ⟨weaker _ _ next, fun _ => weaker _ _ next⟩

theorem always_program (call : RegistryCall) {s : SharedScreen}
    (holds : Q s.screen.activeOutputsHandlers s.invocations)
    (changed : Q (s.after call).screen.activeOutputsHandlers s.invocations) :
    call.program.Always (fun s => R s.screen.activeOutputsHandlers s.invocations) s := by
  have now := weaker _ _ holds
  cases call with
  | unregisterActiveOutputsHandler ownerKey =>
      have later := weaker _ _ changed
      exact ⟨now, fun _ => ⟨now, fun _ => ⟨later, fun _ => later⟩⟩⟩
  | registerActiveOutputsHandler o ownerKey handler =>
      rw [SharedScreen.after, SharedScreen.notify_handlers] at changed
      refine ⟨now, fun _ => ⟨now, fun _ => ⟨weaker _ _ changed, fun _ => ?_⟩⟩⟩
      exact always_callHandlers weaker begun ended o _ _ (by simp) changed
  | initialConfiguration o displayConfiguration | configurationApplied o displayConfiguration =>
      refine ⟨now, fun _ => ⟨now, fun _ => ⟨now, fun _ => ?_⟩⟩⟩
      refine always_callHandlers weaker begun ended o _ _ (fun entry member => ?_) holds
      exact TreeMap.mem_toList_iff_getElem?_eq_some.mp member

end

def OneRunning (table : TreeMap Nat Nat) (invocations : List Invocation) : Prop :=
  Invocation.inProgress invocations = [] ∨ ∃ owner handler,
    Invocation.inProgress invocations = [(owner, handler)] ∧ table[owner]? = some handler

/-- The handler of owner 1 is registered and then called while Mir applies a configuration. -/
def untilCalled : List (Pool.Event RegistryCall) :=
  .call (.registerActiveOutputsHandler {} 1 5) :: List.replicate 6 (.step 0) ++
    .call (.configurationApplied {} [⟨.hdmia, true, true, .on⟩]) :: List.replicate 4 (.step 1)

def screenOff : Pool SharedScreen RegistryCall := ⟨⟨⟨false, [], {}, ⟨0, 0⟩, fun _ => none⟩, false, []⟩, []⟩

/-- Under any interleaving at most one handler runs, and it is the one that is registered for its owner. -/
theorem running_registered {screen : MirScreen} {es : List (Pool.Event RegistryCall)}
    {c : Pool SharedScreen RegistryCall} (run : Run monitor.Step ⟨⟨screen, false, []⟩, []⟩ es c) :
    OneRunning c.shared.screen.activeOutputsHandlers c.shared.invocations := by
  refine monitor_performs.always (P := fun s => OneRunning s.screen.activeOutputsHandlers s.invocations)
    (fun s none => .inl none) (fun call s _ none => ?_) rfl rfl run
  refine always_program (Q := fun _ log => Invocation.inProgress log = []) (fun _ _ none => .inl none) ?_ ?_ call
    none none
  · intro table log owner handler outputs registered none
    exact .inr ⟨owner, handler, Invocation.inProgress_begun none owner handler outputs, registered⟩
  · intro table log owner handler outputs _ none
    exact Invocation.inProgress_ended none owner handler outputs

theorem running_registered_untilCalled : ∃ c, Run monitor.Step screenOff untilCalled c ∧
    Invocation.inProgress c.shared.invocations = [(1, 5)] ∧
    OneRunning c.shared.screen.activeOutputsHandlers c.shared.invocations := by
  obtain ⟨c, ran, running⟩ : ∃ c, untilCalled.foldlM monitor.next screenOff = some c ∧
    Invocation.inProgress c.shared.invocations = [(1, 5)] := ⟨_, rfl, rfl⟩
  have run := run_of_foldlM_option.mp ran
  exact ⟨c, run, running, running_registered run⟩

theorem foldl_handlers {ownerKey : Nat} {order : List (Nat × RegistryCall)}
    (others : ∀ entry ∈ order, ¬entry.2.owner = some ownerKey) (s : SharedScreen) :
    (order.foldl (fun s entry => s.after entry.2) s).screen.activeOutputsHandlers[ownerKey]? =
      s.screen.activeOutputsHandlers[ownerKey]? := by
  induction order generalizing s with
  | nil => rfl
  | cons entry order ih =>
      rw [List.foldl_cons, ih (fun later member => others later (by simp [member])), SharedScreen.after_handlers,
        if_neg (others entry (by simp))]

/-- Once a call that registers or removes the handler of an owner has returned, no invocation of the handler
that it replaces is in progress, until the owner is the subject of another call. -/
theorem old_handler_at_rest {screen : MirScreen} {ownerKey : Nat} {call : RegistryCall}
    (own : call.owner = some ownerKey) {past later : List (Pool.Event RegistryCall)}
    {d c : Pool SharedScreen RegistryCall} (run : Run monitor.Step ⟨⟨screen, false, []⟩, []⟩ past d)
    (run' : Run monitor.Step d (.call call :: later) c)
    (through : ∀ entry ∈ d.calls, entry.1.owner = some ownerKey → entry.2 = .done ())
    (others : ∀ op ∈ later.filterMap Pool.Event.called, op.owner ≠ some ownerKey)
    (returned : c.Returned d.calls.length) :
    c.shared.screen.activeOutputsHandlers[ownerKey]? = call.registers ∧
      ∀ handler, (ownerKey, handler) ∈ Invocation.inProgress c.shared.invocations →
        call.registers = some handler := by
  have whole := Run.append_iff.mpr ⟨d, run, run'⟩
  have registered : c.shared.screen.activeOutputsHandlers[ownerKey]? = call.registers := by
    obtain ⟨order, linearizes⟩ := Monitor.linearize (m := monitor) rfl whole
    obtain ⟨earlier, rest, split, last⟩ := linearizes.last_of_kind (fun op => op.owner = some ownerKey)
      run run' through others returned
    have settled {rest : List (Nat × RegistryCall)} (last : ∀ entry ∈ rest, ¬entry.2.owner = some ownerKey) :
        ∃ s : SharedScreen, monitor.serial ⟨screen, false, []⟩ (earlier ++ (d.calls.length, call) :: rest) = some s ∧
          s.screen.activeOutputsHandlers[ownerKey]? = call.registers := by
      refine ⟨_, (monitor_performs.serial rfl rfl _).1, ?_⟩
      rw [List.foldl_append, List.foldl_cons, foldl_handlers last, SharedScreen.after_handlers, if_pos own]
    cases held : c.shared.mutexHeld with
    | false =>
        obtain ⟨s, serial, registered⟩ := settled last
        rw [← split, (linearizes.settled held).1, Option.some.injEq] at serial
        rw [serial]
        exact registered
    | true =>
        -- The call inside is another one, on another owner.
        obtain ⟨before, k, op, p, s, order_eq, found, unfinished, serial, leads, -⟩ := linearizes.pending held
        rcases List.eq_nil_or_concat rest with rfl | ⟨between, running, rfl⟩
        · obtain ⟨-, same⟩ := List.append_singleton_inj.mp (split.symm.trans order_eq)
          obtain ⟨rfl, -⟩ := Prod.mk.inj same
          obtain ⟨op', ended⟩ := returned
          rw [found, Option.some.injEq, Prod.mk.injEq] at ended
          exact absurd ended.2 unfinished
        · rw [List.concat_eq_append, ← List.cons_append, ← List.append_assoc] at split
          obtain ⟨rfl, rfl⟩ := List.append_singleton_inj.mp (order_eq.symm.trans split)
          have others' : ∀ entry ∈ between, ¬entry.2.owner = some ownerKey :=
            fun entry member => last entry (by simp [member])
          obtain ⟨s', serial', registered⟩ := settled others'
          obtain rfl := Option.some.inj (serial.symm.trans serial')
          have other : ¬op.owner = some ownerKey := last (k, op) (by simp)
          refine ((always_program (Q := fun table _ => table[ownerKey]? = call.registers) (fun _ _ h => h)
            (fun _ _ _ _ _ _ h => h) (fun _ _ _ _ _ _ h => h) op registered ?_).leads leads).now
          rw [SharedScreen.after_handlers, if_neg other]
          exact registered
  refine ⟨registered, fun handler member => ?_⟩
  rcases running_registered whole with none | ⟨owner, running, only, registered'⟩
  · rw [none] at member
    cases member
  · rw [only, List.mem_singleton, Prod.mk.injEq] at member
    obtain ⟨rfl, rfl⟩ := member
    rw [← registered, registered']

def unregistered : List (Pool.Event RegistryCall) :=
  .call (.unregisterActiveOutputsHandler 1) :: [.step 1, .step 1, .step 2, .step 2, .step 2]

theorem old_handler_at_rest_unregistered : ∃ c, Run monitor.Step screenOff (untilCalled ++ unregistered) c ∧
    c.shared.screen.activeOutputsHandlers[1]? = none ∧
    ∀ handler, (1, handler) ∉ Invocation.inProgress c.shared.invocations := by
  obtain ⟨d, ran, c, ran', through, returned⟩ : ∃ d, untilCalled.foldlM monitor.next screenOff = some d ∧
      ∃ c, unregistered.foldlM monitor.next d = some c ∧
        (∀ entry ∈ d.calls, entry.1.owner = some 1 → entry.2.Finished) ∧ c.Returned d.calls.length :=
    ⟨_, rfl, _, rfl, by decide, _, rfl⟩
  have run := run_of_foldlM_option.mp ran
  have run' := run_of_foldlM_option.mp ran'
  obtain ⟨registered, silent⟩ := old_handler_at_rest rfl run run'
    (fun entry member own => (through entry member own).eq_done) (by decide) returned
  exact ⟨c, Run.append_iff.mpr ⟨d, run, run'⟩, registered, fun handler member => by cases silent handler member⟩

def heard (ownerKey : Nat) (invocations : List Invocation) : List ActiveOutputs :=
  invocations.filterMap (Invocation.toldTo ownerKey)

theorem filter_owner {table : TreeMap Nat Nat} {ownerKey handler : Nat}
    (registered : table[ownerKey]? = some handler) :
    table.toList.filter (fun entry => entry.1 = ownerKey) = [(ownerKey, handler)] := by
  have distinct := TreeMap.distinct_keys_toList (t := table)
  obtain ⟨before, after, split⟩ := List.append_of_mem (TreeMap.mem_toList_iff_getElem?_eq_some.mpr registered)
  rw [split] at distinct ⊢
  obtain ⟨-, distinct', apart⟩ := List.pairwise_append.mp distinct
  have first : before.filter (fun entry => entry.1 = ownerKey) = [] := by
    refine List.filter_eq_nil_iff.mpr fun entry member => ?_
    simpa using apart entry member (ownerKey, handler) (by simp)
  have last : after.filter (fun entry => entry.1 = ownerKey) = [] := by
    refine List.filter_eq_nil_iff.mpr fun entry member => ?_
    have other : ownerKey ≠ entry.1 := by simpa using (List.pairwise_cons.mp distinct').1 entry member
    simpa using other.symm
  simp [first, last]

theorem heard_notify {o : Outcomes} (returns : ∀ key, o.handler key = .returns) (s : SharedScreen)
    (screen : MirScreen) (entries : List (Nat × Nat)) (ownerKey : Nat) :
    heard ownerKey (s.notify o screen entries).invocations = heard ownerKey s.invocations ++
      (entries.filter fun entry => entry.1 = ownerKey).map fun _ => screen.activeOutputs := by
  rw [heard, SharedScreen.notify, List.filterMap_append, Invocation.toldTo_made returns]
  rfl

theorem heard_after {s : SharedScreen} {call : RegistryCall} {ownerKey handler : Nat}
    (other : ¬call.owner = some ownerKey) (returns : ∀ key, call.outcomes.handler key = .returns)
    (registered : s.screen.activeOutputsHandlers[ownerKey]? = some handler) :
    heard ownerKey (s.after call).invocations = heard ownerKey s.invocations ++ call.configured.toList := by
  cases call with
  | unregisterActiveOutputsHandler key => simp [SharedScreen.after, RegistryCall.configured]
  | registerActiveOutputsHandler o key handler' =>
      have apart : key ≠ ownerKey := by simpa [RegistryCall.owner] using other
      have told := heard_notify (o := o) returns s { s.screen with
        activeOutputsHandlers := s.screen.activeOutputsHandlers.insert key handler' } [(key, handler')] ownerKey
      rw [SharedScreen.after, told]
      simp [apart, RegistryCall.configured]
  | initialConfiguration o displayConfiguration | configurationApplied o displayConfiguration =>
      have told := heard_notify (o := o) returns s { s.screen with
        activeOutputs := countActiveOutputs displayConfiguration } s.screen.activeOutputsHandlers.toList ownerKey
      rw [SharedScreen.after, told, filter_owner registered]
      rfl

theorem heard_registered (s : SharedScreen) (o : Outcomes) (ownerKey handler : Nat) :
    heard ownerKey (s.after (.registerActiveOutputsHandler o ownerKey handler)).invocations =
      heard ownerKey s.invocations ++ [s.screen.activeOutputs] := by
  rw [heard, SharedScreen.after, SharedScreen.notify, List.filterMap_append]
  cases outcome : o.handler ownerKey <;> simp [heard, ScreenProgram.made, outcome, Invocation.toldTo]

theorem heard_foldl {ownerKey handler : Nat} {order : List (Nat × RegistryCall)}
    (others : ∀ entry ∈ order, ¬entry.2.owner = some ownerKey)
    (returns : ∀ entry ∈ order, ∀ key, entry.2.outcomes.handler key = .returns) {s : SharedScreen}
    (registered : s.screen.activeOutputsHandlers[ownerKey]? = some handler) :
    heard ownerKey (order.foldl (fun s entry => s.after entry.2) s).invocations =
      heard ownerKey s.invocations ++ order.filterMap fun entry => entry.2.configured := by
  induction order generalizing s with
  | nil => simp
  | cons entry order ih =>
      have registered' : (s.after entry.2).screen.activeOutputsHandlers[ownerKey]? = some handler := by
        rw [SharedScreen.after_handlers, if_neg (others entry (by simp)), registered]
      rw [List.foldl_cons, ih (fun later member => others later (by simp [member]))
        (fun later member => returns later (by simp [member])) registered',
        heard_after (others entry (by simp)) (returns entry (by simp)) registered, List.filterMap_cons]
      cases entry.2.configured <;> simp

/-- A handler is told the outputs at its registration, and from then on every value that is assigned to them,
once each and in the order of the assignments. -/
theorem heard_since_registration {screen : MirScreen} {es : List (Pool.Event RegistryCall)}
    {c : Pool SharedScreen RegistryCall} (run : Run monitor.Step ⟨⟨screen, false, []⟩, []⟩ es c)
    (free : c.shared.mutexHeld = false) :
    ∃ order, monitor.Linearizes ⟨screen, false, []⟩ es c order ∧ ∀ before k o ownerKey handler between,
      order = before ++ (k, .registerActiveOutputsHandler o ownerKey handler) :: between →
      (∀ entry ∈ between, entry.2.owner ≠ some ownerKey) →
      (∀ entry ∈ between, ∀ key, entry.2.outcomes.handler key = .returns) →
      ∃ s, monitor.serial ⟨screen, false, []⟩ before = some s ∧
        heard ownerKey c.shared.invocations = heard ownerKey s.invocations ++
          s.screen.activeOutputs :: between.filterMap fun entry => entry.2.configured := by
  obtain ⟨order, linearizes⟩ := Monitor.linearize (m := monitor) rfl run
  refine ⟨order, linearizes, ?_⟩
  rintro before k o ownerKey handler between rfl others returns
  refine ⟨_, (monitor_performs.serial rfl rfl before).1, ?_⟩
  have serial := (linearizes.settled free).1
  rw [(monitor_performs.serial rfl rfl _).1, Option.some.injEq, List.foldl_append, List.foldl_cons] at serial
  have registered (s : SharedScreen) :
      (s.after (.registerActiveOutputsHandler o ownerKey handler)).screen.activeOutputsHandlers[ownerKey]? =
        some handler := by
    rw [SharedScreen.after_handlers]
    exact if_pos rfl
  rw [← serial, heard_foldl others returns (registered _), heard_registered, List.append_assoc, List.singleton_append]

theorem heard_since_registration_unregistered : ∃ c order,
    Run monitor.Step screenOff (untilCalled ++ unregistered) c ∧
    monitor.Linearizes screenOff.shared (untilCalled ++ unregistered) c order ∧
    heard 1 c.shared.invocations = [⟨0, 0⟩, ⟨0, 1⟩] := by
  obtain ⟨c, ran, free, told⟩ : ∃ c, (untilCalled ++ unregistered).foldlM monitor.next screenOff = some c ∧
    c.shared.mutexHeld = false ∧ heard 1 c.shared.invocations = [⟨0, 0⟩, ⟨0, 1⟩] := ⟨_, rfl, rfl, rfl⟩
  have run := run_of_foldlM_option.mp ran
  obtain ⟨order, linearizes, -⟩ := heard_since_registration run free
  exact ⟨c, order, run, linearizes, told⟩

end MirScreen

end SystemCompositor
