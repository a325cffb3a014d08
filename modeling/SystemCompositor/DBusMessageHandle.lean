import Mathlib.Data.List.Nodup
import Mathlib.Data.List.Perm.Subperm
import Mathlib.Logic.Function.Basic
import SystemCompositor.Library.Run

namespace SystemCompositor
open Library

/-- What happens to handles; a message is `none` where libdbus returns a null pointer. -/
inductive HandleEvent
  | construct (handle : Nat) (message : Option Nat)
  | constructWithArgs (handle : Nat) (message : Option Nat) (appended : Bool)
  | move (handle other : Nat)
  | destroy (handle : Nat)

/-- The handles that exist, with their `message`; `created` has the references that were handed to a handle, and
`unreffed` the calls of `dbus_message_unref`. -/
structure DBusMessageHandles where
  message : Nat → Option (Option Nat) := fun _ => none
  created : List Nat := []
  unreffed : List Nat := []

namespace DBusMessageHandles

/-- libdbus hands out each message once. -/
def Fresh (s : DBusMessageHandles) (message : Option Nat) : Prop := ∀ m ∈ message, m ∉ s.created

instance (s : DBusMessageHandles) (message : Option Nat) : Decidable (s.Fresh message) :=
  inferInstanceAs (Decidable (∀ m ∈ message, m ∉ s.created))

/-- Without a result the event is none of a C++ program: an object is constructed once before it is used, and
destroyed once. -/
def step (s : DBusMessageHandles) : HandleEvent → Option DBusMessageHandles
  | .construct handle message =>
      if s.message handle = none ∧ s.Fresh message then
        some { s with
          message := Function.update s.message handle (some message)
          created := s.created ++ message.toList }
      else none
  | .constructWithArgs handle message appended =>
      if s.message handle = none ∧ s.Fresh message then
        match message with
        | none => some s
        | some m =>
            if appended then
              some { s with
                message := Function.update s.message handle (some (some m))
                created := s.created ++ [m] }
            else
              -- The constructor throws, so that the destructor is not run.
              some { s with created := s.created ++ [m], unreffed := s.unreffed ++ [m] }
      else none
  | .move handle other =>
      match s.message handle, s.message other with
      | none, some message =>
          let released := Function.update s.message other (some none)
          some { s with message := Function.update released handle (some message) }
      | _, _ => none
  | .destroy handle =>
      match s.message handle with
      | some message =>
          some { s with
            message := Function.update s.message handle none
            unreffed := s.unreffed ++ message.toList }
      | none => none

abbrev Step (s : DBusMessageHandles) (e : HandleEvent) (t : DBusMessageHandles) : Prop := s.step e = some t

def Holds (s : DBusMessageHandles) (handle m : Nat) : Prop := s.message handle = some (some m)

structure Owned (s : DBusMessageHandles) : Prop where
  unique : ∀ handle other m, s.Holds handle m → s.Holds other m → handle = other
  held : ∀ handle m, s.Holds handle m → m ∈ s.created ∧ m ∉ s.unreffed
  kept : ∀ m ∈ s.created, m ∈ s.unreffed ∨ ∃ handle, s.Holds handle m
  known : s.unreffed ⊆ s.created
  unreffed : s.unreffed.Nodup
  created : s.created.Nodup

theorem owned_received {s : DBusMessageHandles} (owned : s.Owned) {handle : Nat} {message : Option Nat}
    (free : s.message handle = none) (fresh : s.Fresh message) : Owned { s with
      message := Function.update s.message handle (some message), created := s.created ++ message.toList } where
  unique h k n := by
    have before := owned.unique h k n
    have known := fun k => (owned.held k n ·)
    grind [Holds, Fresh, Function.update_apply]
  held h n := by
    have before := owned.held h n
    have known := owned.known
    grind [Holds, Fresh, Function.update_apply]
  kept n created := by
    rcases List.mem_append.mp created with earlier | new
    · rcases owned.kept n earlier with gone | ⟨h, holds⟩
      · exact .inl gone
      · have other : h ≠ handle := by
          rintro rfl
          rw [Holds, free] at holds
          cases holds
        exact .inr ⟨h, (Function.update_of_ne other _ _).trans holds⟩
    · obtain rfl := Option.mem_toList.mp new
      exact .inr ⟨handle, Function.update_self _ _ _⟩
  known := List.subset_append_of_subset_left _ owned.known
  unreffed := owned.unreffed
  created := by
    cases message with
    | none => simpa using owned.created
    | some m => exact List.nodup_append_comm.mp (List.nodup_cons.mpr ⟨fresh m rfl, owned.created⟩)

theorem owned_refused {s : DBusMessageHandles} (owned : s.Owned) {m : Nat} (fresh : m ∉ s.created) :
    Owned { s with created := s.created ++ [m], unreffed := s.unreffed ++ [m] } where
  unique := owned.unique
  held h n := by
    have before := owned.held h n
    grind [Holds]
  kept n created := by
    rcases List.mem_append.mp created with earlier | new
    · exact (owned.kept n earlier).imp_left (List.mem_append_left _)
    · exact .inl (List.mem_append_right _ new)
  known n gone := by
    rcases List.mem_append.mp gone with earlier | new
    · exact List.mem_append_left _ (owned.known earlier)
    · exact List.mem_append_right _ new
  unreffed := List.nodup_append_comm.mp (List.nodup_cons.mpr ⟨fun again => fresh (owned.known again), owned.unreffed⟩)
  created := List.nodup_append_comm.mp (List.nodup_cons.mpr ⟨fresh, owned.created⟩)

theorem owned_moved {s : DBusMessageHandles} (owned : s.Owned) {handle other : Nat} {message : Option Nat}
    (free : s.message handle = none) (given : s.message other = some message) :
    Owned { s with
      message := Function.update (Function.update s.message other (some none)) handle (some message) } where
  unique h k n := by
    have before := owned.unique h k n
    have moved := owned.unique other
    grind [Holds, Function.update_apply]
  held h n := by
    have before := owned.held h n
    have moved := owned.held other n
    grind [Holds, Function.update_apply]
  kept n created := by
    rcases owned.kept n created with gone | ⟨h, holds⟩
    · exact .inl gone
    · by_cases same : h = other
      · subst same
        obtain rfl := Option.some.inj (given.symm.trans holds)
        exact .inr ⟨handle, Function.update_self _ _ _⟩
      · have notHandle : h ≠ handle := by
          rintro rfl
          rw [Holds, free] at holds
          cases holds
        refine .inr ⟨h, ?_⟩
        simpa [Holds, notHandle, same] using holds
  known := owned.known
  unreffed := owned.unreffed
  created := owned.created

theorem owned_destroyed {s : DBusMessageHandles} (owned : s.Owned) {handle : Nat} {message : Option Nat}
    (held : s.message handle = some message) : Owned { s with
      message := Function.update s.message handle none, unreffed := s.unreffed ++ message.toList } where
  unique h k n := by
    have before := owned.unique h k n
    grind [Holds, Function.update_apply]
  held h n := by
    have before := owned.held h n
    have only := owned.unique handle h n
    grind [Holds, Function.update_apply]
  kept n created := by
    rcases owned.kept n created with gone | ⟨h, holds⟩
    · exact .inl (List.mem_append_left _ gone)
    · by_cases same : h = handle
      · subst same
        obtain rfl := Option.some.inj (held.symm.trans holds)
        exact .inl (List.mem_append_right _ (by simp))
      · exact .inr ⟨h, (Function.update_of_ne same _ _).trans holds⟩
  known := by
    have own := owned.held handle
    have known := owned.known
    grind [Holds]
  unreffed := by
    have own := owned.held handle
    have before := owned.unreffed
    grind [Holds]
  created := owned.created

theorem owned_step {s t : DBusMessageHandles} {e : HandleEvent} (owned : s.Owned) (step : Step s e t) : t.Owned := by
  cases e with
  | construct handle message =>
      simp only [Step, DBusMessageHandles.step] at step
      split_ifs at step with allowed
      exact Option.some.inj step ▸ owned_received owned allowed.1 allowed.2
  | constructWithArgs handle message appended =>
      cases message with
      | none =>
          simp only [Step, DBusMessageHandles.step] at step
          split_ifs at step with allowed
          exact Option.some.inj step ▸ owned
      | some m =>
          cases appended with
          | true =>
              simp only [Step, DBusMessageHandles.step] at step
              split_ifs at step with allowed
              exact Option.some.inj step ▸ owned_received owned allowed.1 allowed.2
          | false =>
              simp only [Step, DBusMessageHandles.step, Bool.false_eq_true, if_false] at step
              split_ifs at step with allowed
              exact Option.some.inj step ▸ owned_refused owned (allowed.2 m rfl)
  | move handle other =>
      simp only [Step, DBusMessageHandles.step] at step
      split at step
      · next message free given =>
        obtain rfl := Option.some.inj step
        exact owned_moved owned free given
      · cases step
  | destroy handle =>
      simp only [Step, DBusMessageHandles.step] at step
      split at step
      · next message held =>
        obtain rfl := Option.some.inj step
        exact owned_destroyed owned held
      · cases step

/-- A message is unreffed once it has no handle any more, and never twice. -/
theorem unreffed_once {events : List HandleEvent} {s : DBusMessageHandles} (run : Run Step {} events s) :
    s.unreffed.Nodup ∧ (∀ m, m ∈ s.unreffed ↔ m ∈ s.created ∧ ∀ handle, ¬s.Holds handle m) ∧
      ((∀ handle, s.message handle = none) → s.unreffed.Perm s.created) := by
  have owned : s.Owned := by
    refine Run.invariant (fun _ s => s.Owned) ?_ (fun _ _ _ _ _ owned step => owned_step owned step) run
    exact ⟨by simp [Holds], by simp [Holds], by simp, by simp, .nil, .nil⟩
  have released (m : Nat) : m ∈ s.unreffed ↔ m ∈ s.created ∧ ∀ handle, ¬s.Holds handle m :=
    ⟨fun gone => ⟨owned.known gone, fun handle holds => (owned.held handle m holds).2 gone⟩,
      fun ⟨created, free⟩ => (owned.kept m created).resolve_right fun ⟨handle, holds⟩ => free handle holds⟩
  refine ⟨owned.unreffed, released, fun none => ?_⟩
  refine (List.perm_ext_iff_of_nodup owned.unreffed owned.created).mpr fun m => ?_
  rw [released]
  simp [Holds, none]

/-- A reply that is passed on, and one whose arguments cannot be appended. -/
def twoReplies : List HandleEvent :=
  [.construct 0 (some 7), .move 1 0, .constructWithArgs 2 (some 8) false, .destroy 1, .destroy 0]

theorem unreffed_once_twoReplies : ∃ s, Run Step {} twoReplies s ∧ s.unreffed = [8, 7] ∧ s.unreffed.Nodup := by
  obtain ⟨s, ran⟩ : ∃ s, twoReplies.foldlM step {} = some s := ⟨_, rfl⟩
  have run := run_of_foldlM_option.mp ran
  obtain rfl := Option.some.inj ran
  exact ⟨_, run, rfl, (unreffed_once run).1⟩

end DBusMessageHandles
end SystemCompositor
