import Mathlib.Data.List.Induction
import SystemCompositor.Library.Sharing

namespace SystemCompositor
open Library

/-- What the accessors of `Server` return, and the window manager that it builds for Mir. -/
inductive Part
  | spinner | sessionSwitcher | dmConnection | screen | inputConfiguration | screenEventHandler | clock
  | dbusEventLoop | dbusConnectionThread | unityDisplayService | powerButtonEventSink | userActivityEventSink
  | unityInputService | windowManager
  deriving DecidableEq

/-- The parts that one of a kind owns. -/
def Part.needs : Part → List Part
  | .sessionSwitcher => [.spinner]
  | .dmConnection | .windowManager => [.sessionSwitcher]
  | .screenEventHandler => [.powerButtonEventSink, .userActivityEventSink, .clock]
  | .dbusConnectionThread => [.dbusEventLoop]
  | .unityDisplayService => [.dbusEventLoop, .screen]
  | .unityInputService => [.dbusEventLoop, .inputConfiguration]
  | .spinner | .screen | .inputConfiguration | .clock | .dbusEventLoop | .powerButtonEventSink
  | .userActivityEventSink => []

/-- `accepted` is what `check_blacklist` answers for the driver. -/
structure ServerOptions where
  accepted : Bool := true
  fromDmFd : Option Int := none
  toDmFd : Option Int := none
  debugWithoutDm : Bool := false

/-- With these options `the_dm_connection` is reached and finds what it needs. -/
def ServerOptions.Valid (options : ServerOptions) : Prop :=
  options.accepted = true ∧
    ((options.fromDmFd.isSome && options.toDmFd.isSome) = true ∨ options.debugWithoutDm = true)

inductive StartupFailure
  | abnormalExit
  | constructor (k : Part)

/-- The parts with the `screen_weak` of every session switcher. -/
abbrev Parts := Sharing Part (Nat → Option Nat)

abbrev PartAccess := Sharing.Access Part (Nat → Option Nat) StartupFailure Nat

namespace Server
open Sharing

section Accessors
-- Mir's `CachedPtr` returns its object as long as something owns it. Whether the cache itself does is left open:
-- those of the `retained` parts do. `throws` tells of each object to be made whether its constructor throws.
variable (retained : List Part) (throws : Part → Nat → Bool) (options : ServerOptions)

def construct (k : Part) (args : List PartAccess) : PartAccess :=
  makeShared (fun k id => if throws k id then some (.constructor k) else none) k args

def theSpinner : PartAccess := cached retained .spinner (construct throws .spinner [])

def theSessionSwitcher : PartAccess :=
  cached retained .sessionSwitcher (construct throws .sessionSwitcher [theSpinner retained throws])

def theDmMessageHandler : PartAccess := theSessionSwitcher retained throws

def theDmConnection : PartAccess := cached retained .dmConnection <|
  if options.fromDmFd.isSome && options.toDmFd.isSome then
    construct throws .dmConnection [theDmMessageHandler retained throws]
  else if options.debugWithoutDm then
    construct throws .dmConnection [theDmMessageHandler retained throws]
  else
    throw .abnormalExit

def theInputConfiguration : PartAccess :=
  cached retained .inputConfiguration (construct throws .inputConfiguration [])

/-- The temporary references to the switcher end with the call of `set_screen`. -/
def setScreen (switcher mirScreen : Nat) (s : Parts) : Parts :=
  s.holding s.held.tail (Function.update s.rest switcher (some mirScreen))

/-- What `the_screen` gives to its cache. -/
def mirScreen : PartAccess := do
  let mirScreen ← construct throws .screen []
  let switcher ← theSessionSwitcher retained throws
  modify (setScreen switcher mirScreen)
  return mirScreen

def theScreen : PartAccess := cached retained .screen (mirScreen retained throws)

def thePowerButtonEventSink : PartAccess :=
  cached retained .powerButtonEventSink (construct throws .powerButtonEventSink [])

def theUserActivityEventSink : PartAccess :=
  cached retained .userActivityEventSink (construct throws .userActivityEventSink [])

def theClock : PartAccess := cached retained .clock (construct throws .clock [])

def theScreenEventHandler : PartAccess := cached retained .screenEventHandler <|
  construct throws .screenEventHandler
    [thePowerButtonEventSink retained throws, theUserActivityEventSink retained throws, theClock retained throws]

def theDbusEventLoop : PartAccess := cached retained .dbusEventLoop (construct throws .dbusEventLoop [])

def theDbusConnectionThread : PartAccess :=
  cached retained .dbusConnectionThread (construct throws .dbusConnectionThread [theDbusEventLoop retained throws])

def theUnityDisplayService : PartAccess := cached retained .unityDisplayService <|
  construct throws .unityDisplayService [theDbusEventLoop retained throws, theScreen retained throws]

def theUnityInputService : PartAccess := cached retained .unityInputService <|
  construct throws .unityInputService [theDbusEventLoop retained throws, theInputConfiguration retained throws]

/-- What the builder given to `override_the_window_manager_builder` returns. -/
def windowManager : PartAccess := construct throws .windowManager [theSessionSwitcher retained throws]

/-- The accessors whose results `SystemCompositor` keeps, in the order of its constructor and of the init callback. -/
def statements : List PartAccess :=
  [theSpinner retained throws,
    do if options.accepted then theDmConnection retained throws options else throw .abnormalExit,
    theScreen retained throws, theUnityDisplayService retained throws, theScreenEventHandler retained throws,
    theUnityInputService retained throws, theDbusConnectionThread retained throws]

end Accessors

def memberParts : List Part :=
  [.spinner, .dmConnection, .screen, .unityDisplayService, .screenEventHandler, .unityInputService,
    .dbusConnectionThread]

/-- The parts whose making may come to that of another one have a lower rank. -/
def rank : Part → Nat
  | .spinner | .inputConfiguration | .clock | .dbusEventLoop | .powerButtonEventSink | .userActivityEventSink => 0
  | .sessionSwitcher | .screenEventHandler | .dbusConnectionThread | .unityInputService => 1
  | .dmConnection | .windowManager => 2
  | .screen => 3
  | .unityDisplayService => 4

theorem rank_needs (k : Part) : ∀ q ∈ k.needs, rank q < rank k := by cases k <;> decide

section Rules
variable (retained : List Part) (throws : Part → Nat → Bool)

/-- What the constructors that throw may end the startup with. -/
def thrown : Set StartupFailure := {failure | ∃ k id, throws k id = true ∧ failure = .constructor k}

/-- The screen is what `set_screen` tells the switcher about. -/
def Reaches (k : Part) (a : PartAccess) : Prop :=
  Accesses Part.needs retained (thrown throws) {.screen} {q | rank q ≤ rank k} k a

def Constructs (k : Part) (a : PartAccess) : Prop :=
  Builds Part.needs retained (thrown throws) {.screen} {q | rank q < rank k} k a

variable {retained throws}

theorem reaches_cached {k : Part} {a : PartAccess} (constructs : Constructs retained throws k a) :
    Reaches retained throws k (cached retained k a) := by
  refine (cached_accesses constructs (Nat.lt_irrefl _)).mono (Set.insert_subset (Nat.le_refl _) fun q less => ?_)
  exact Nat.le_of_lt less

theorem constructs_shared {k : Part} {args : List PartAccess}
    (reaches : List.Forall₂ (Reaches retained throws) k.needs args) :
    Constructs retained throws k (construct throws k args) := by
  refine makeShared_builds (fun id failure failed => ?_) ?_
  · split_ifs at failed with fails
    exact ⟨k, id, fails, (Option.some.inj failed).symm⟩
  · refine ((List.forall₂_and_left _ _).mpr ⟨rank_needs k, reaches⟩).imp fun q a ⟨less, reaches⟩ => reaches.mono ?_
    exact fun p le => Nat.lt_of_le_of_lt le less

theorem reaches_theSpinner : Reaches retained throws .spinner (theSpinner retained throws) :=
  reaches_cached (constructs_shared .nil)

theorem reaches_theSessionSwitcher :
    Reaches retained throws .sessionSwitcher (theSessionSwitcher retained throws) :=
  reaches_cached (constructs_shared (.cons reaches_theSpinner .nil))

theorem reaches_theScreenEventHandler :
    Reaches retained throws .screenEventHandler (theScreenEventHandler retained throws) :=
  reaches_cached (constructs_shared (.cons (reaches_cached (constructs_shared .nil))
    (.cons (reaches_cached (constructs_shared .nil)) (.cons (reaches_cached (constructs_shared .nil)) .nil))))

theorem reaches_theDbusEventLoop : Reaches retained throws .dbusEventLoop (theDbusEventLoop retained throws) :=
  reaches_cached (constructs_shared .nil)

theorem reaches_theDmConnection {options : ServerOptions} (valid : options.Valid) :
    Reaches retained throws .dmConnection (theDmConnection retained throws options) := by
  have made : Constructs retained throws .dmConnection
      (construct throws .dmConnection [theDmMessageHandler retained throws]) :=
    constructs_shared (.cons reaches_theSessionSwitcher .nil)
  refine reaches_cached ?_
  split_ifs with fds stub
  · exact made
  · exact made
  · exact absurd valid.2 (by simp_all)

/-- The screen is told to the switcher that was there before it. -/
theorem screen_run {s : Parts} (sound : s.Sound Part.needs retained) : (∃ id t,
    (mirScreen retained throws).run s = .ok (id, t) ∧
      Makes Part.needs retained {.screen} {q | rank q < rank .screen} s .screen id t ∧
      ∀ switcher, (.sessionSwitcher, switcher) ∈ s.shared → s.Live retained switcher → t.rest switcher = some id) ∨
    ∃ failure ∈ thrown throws, (mirScreen retained throws).run s = .error failure := by
  cases fails : throws .screen s.objects.length with
  | true =>
      refine .inr ⟨.constructor .screen, ⟨.screen, _, fails, rfl⟩, ?_⟩
      have failed : (construct throws .screen []).run s = .error (.constructor .screen) := by
        rw [construct, makeShared, gather, bind_run (t := s) (x := []) rfl, bind_run (t := s) (x := s) rfl,
          if_pos fails]
        rfl
      rw [mirScreen, bind_throws failed]
  | false =>
      have made : (construct throws .screen []).run s = .ok (s.objects.length, s.make .screen []) := by
        rw [construct, makeShared, gather, bind_run (t := s) (x := []) rfl, bind_run (t := s) (x := s) rfl,
          if_neg (by simp [fails])]
        rfl
      have sound' : (s.make .screen []).Sound Part.needs retained := sound.make (List.nil_subset _) .nil
      have grows : Grows retained {q | rank q < rank .screen} s (s.make .screen []) :=
        grows_make _ (List.nil_subset _)
      have reaches : Reaches retained throws .sessionSwitcher (theSessionSwitcher retained throws) :=
        reaches_theSessionSwitcher
      rcases reaches _ sound' with ⟨switcher, u, ran, gives⟩ | ⟨failure, member, failed⟩
      · have all : ∀ id ∈ u.held.tail, u.Live retained id := fun id member =>
          live_of_held (List.mem_of_mem_tail member)
        have tail : u.held.tail = s.objects.length :: s.held := by rw [gives.held]; rfl
        refine .inl ⟨s.objects.length, setScreen switcher s.objects.length u, ?_,
          ⟨gives.sound.holding _ all, ?_, tail, Nat.le_refl _, ⟨[], ?_⟩, fun other => absurd rfl other⟩,
          fun old shared live => ?_⟩
        · rw [mirScreen, bind_run made, bind_run ran]
          rfl
        · refine grows.trans ((gives.grows.mono fun q le => ?_).trans (grows_holding _ _ all))
          exact Nat.lt_of_le_of_lt le (by decide)
        · exact gives.grows.object (List.getElem?_concat_length ..)
        · have live' : u.Live retained old := by
            refine gives.grows.lives sound' (by simp [gives.held]) (grows.lives sound ?_ live)
            exact List.subset_cons_self _ _
          have given : u.Live retained switcher := live_of_held (by simp [gives.held])
          have same := gives.sound.unique gives.shared (gives.grows.shared shared) given live'
          exact (congrArg _ same.symm).trans (Function.update_self ..)
      · exact .inr ⟨failure, member, by rw [mirScreen, bind_run made, bind_throws failed]⟩

theorem reaches_theScreen : Reaches retained throws .screen (theScreen retained throws) := by
  refine reaches_cached fun s sound => ?_
  exact (screen_run sound).imp_left fun ⟨id, t, ran, makes, _⟩ => ⟨id, t, ran, makes⟩

theorem reaches_statement {options : ServerOptions} {n : Nat} (valid : n = 1 → options.Valid) {access : PartAccess}
    (stated : (statements retained throws options)[n]? = some access) :
    ∃ k, memberParts[n]? = some k ∧ Reaches retained throws k access := by
  match n with
  | 0 => exact ⟨_, rfl, Option.some.inj stated ▸ reaches_theSpinner⟩
  | 1 =>
      refine ⟨_, rfl, Option.some.inj stated ▸ ?_⟩
      rw [if_pos (valid rfl).1]
      exact reaches_theDmConnection (valid rfl)
  | 2 => exact ⟨_, rfl, Option.some.inj stated ▸ reaches_theScreen⟩
  | 3 => exact ⟨_, rfl, Option.some.inj stated ▸ reaches_cached
      (constructs_shared (.cons reaches_theDbusEventLoop (.cons reaches_theScreen .nil)))⟩
  | 4 => exact ⟨_, rfl, Option.some.inj stated ▸ reaches_theScreenEventHandler⟩
  | 5 => exact ⟨_, rfl, Option.some.inj stated ▸ reaches_cached
      (constructs_shared (.cons reaches_theDbusEventLoop (.cons (reaches_cached (constructs_shared .nil)) .nil)))⟩
  | 6 => exact ⟨_, rfl, Option.some.inj stated ▸ reaches_cached
      (constructs_shared (.cons reaches_theDbusEventLoop .nil))⟩
  | n + 7 => cases stated

theorem theDmConnection_fails {options : ServerOptions} (invalid : ¬options.Valid) {s : Parts}
    (none : s.find retained .dmConnection = none) {access : PartAccess}
    (stated : (statements retained throws options)[1]? = some access) : access.run s = .error .abnormalExit := by
  obtain rfl := Option.some.inj stated
  cases accepted : options.accepted with
  | false => rfl
  | true =>
      have fds : ¬(options.fromDmFd.isSome && options.toDmFd.isSome) = true := fun fds => invalid ⟨accepted, .inl fds⟩
      have stub : ¬options.debugWithoutDm = true := fun stub => invalid ⟨accepted, .inr stub⟩
      rw [if_pos rfl, theDmConnection, if_neg fds, if_neg stub, cached, bind_run (t := s) rfl, none]
      rfl

end Rules

end Server

/-- Mir builds and drops window managers when it likes. -/
inductive StartupEvent
  | statement
  | buildWindowManager
  | dropWindowManager (n : Nat)
  deriving DecidableEq

/-- `SystemCompositor` during the startup, with its `members` so far and the window managers that Mir holds. -/
structure Startup where
  parts : Parts := { rest := fun _ => none }
  members : List Nat := []
  windowManagers : List Nat := []

namespace Startup
open Server Sharing
variable (retained : List Part) (throws : Part → Nat → Bool) (options : ServerOptions)

def keep (parts : Parts) (members windowManagers : List Nat) : Startup :=
  ⟨parts.holding (members ++ windowManagers) parts.rest, members, windowManagers⟩

def next (s : Startup) : StartupEvent → Except StartupFailure Startup
  | .statement =>
      match (statements retained throws options)[s.members.length]? with
      | some access => do
          let (id, parts) ← access.run s.parts
          return keep parts (s.members ++ [id]) s.windowManagers
      | none => return s
  | .buildWindowManager => do
      let (id, parts) ← (windowManager retained throws).run s.parts
      return keep parts s.members (s.windowManagers ++ [id])
  | .dropWindowManager n => return keep s.parts s.members (s.windowManagers.eraseIdx n)

def run (es : List StartupEvent) : Except StartupFailure Startup := es.foldlM (next retained throws options) {}

/-- Every reference that is left is to the one living object of its part. -/
structure Wired (s : Startup) : Prop where
  unique : ∀ k id id', (k, id) ∈ s.parts.shared → (k, id') ∈ s.parts.shared → s.parts.Live retained id →
    s.parts.Live retained id' → id = id'
  owned : ∀ id k owned, s.parts.Live retained id → s.parts.objects[id]? = some (k, owned) →
    List.Forall₂ (fun q id' => (q, id') ∈ s.parts.shared) k.needs owned ∧ ∀ id' ∈ owned, s.parts.Live retained id'
  members : List.Forall₂ (fun q id => (q, id) ∈ s.parts.shared) (memberParts.take s.members.length) s.members
  windowManagers : ∀ id ∈ s.windowManagers, ∃ owned, s.parts.objects[id]? = some (.windowManager, owned)
  kept : ∀ id ∈ s.members ++ s.windowManagers, s.parts.Live retained id
  screen : ∀ screen ∈ s.members[2]?, ∀ switcher, (.sessionSwitcher, switcher) ∈ s.parts.shared →
    s.parts.Live retained switcher → s.parts.rest switcher = some screen

/-- What holds after every event; before its statement there is no connection of the display manager and no
screen. -/
structure Consistent (s : Startup) : Prop where
  sound : s.parts.Sound Part.needs retained
  held : s.parts.held = s.members ++ s.windowManagers
  members : List.Forall₂ (fun q id => (q, id) ∈ s.parts.shared) (memberParts.take s.members.length) s.members
  windowManagers : ∀ id ∈ s.windowManagers, ∃ owned, s.parts.objects[id]? = some (.windowManager, owned)
  screen : ∀ screen ∈ s.members[2]?, ∀ switcher, (.sessionSwitcher, switcher) ∈ s.parts.shared →
    s.parts.Live retained switcher → s.parts.rest switcher = some screen
  early : s.members.length < 3 → ∀ k id, (k, id) ∈ s.parts.shared → rank k ≤ max 1 s.members.length

variable {retained throws options} {s : Startup}

theorem start_consistent : Consistent retained {} where
  sound :=
    ⟨fun _ _ member => (List.not_mem_nil member).elim, fun _ member => (List.not_mem_nil member).elim,
      fun _ _ member => (List.not_mem_nil member).elim, fun _ _ member => (List.not_mem_nil member).elim,
      fun _ _ cached => (Option.some_ne_none _ cached.symm).elim, fun _ _ member => (List.not_mem_nil member).elim⟩
  held := rfl
  members := .nil
  windowManagers _ member := (List.not_mem_nil member).elim
  screen := by simp
  early := by simp

namespace Consistent

theorem live_member (consistent : s.Consistent retained) {id : Nat} (member : id ∈ s.members) :
    s.parts.Live retained id :=
  live_of_held (consistent.held ▸ List.mem_append_left _ member)

theorem live_windowManager (consistent : s.Consistent retained) {id : Nat} (member : id ∈ s.windowManagers) :
    s.parts.Live retained id :=
  live_of_held (consistent.held ▸ List.mem_append_right _ member)

theorem shared_member (consistent : s.Consistent retained) {n id : Nat} (found : s.members[n]? = some id) {k : Part}
    (part : memberParts[n]? = some k) : (k, id) ∈ s.parts.shared := by
  obtain ⟨lt, rfl⟩ := List.getElem?_eq_some_iff.mp found
  obtain ⟨lt', rfl⟩ := List.getElem?_eq_some_iff.mp part
  have typed := consistent.members.get (by simp [lt, lt']) lt
  simpa using typed

/-- The connection of the display manager keeps a session switcher alive. -/
theorem switcher (consistent : s.Consistent retained) (connected : 2 ≤ s.members.length) :
    ∃ switcher, (.sessionSwitcher, switcher) ∈ s.parts.shared ∧ s.parts.Live retained switcher := by
  have found : s.members[1]? = some s.members[1] := List.getElem?_eq_getElem connected
  obtain ⟨owned, object⟩ := consistent.sound.made _ _ (consistent.shared_member found rfl)
  have typed := consistent.sound.typed _ _ (List.mem_of_getElem? object)
  obtain ⟨switcher, rfl, shared⟩ :
      ∃ switcher, owned = [switcher] ∧ (.sessionSwitcher, switcher) ∈ s.parts.shared := by
    cases typed with
    | cons shared rest => cases rest; exact ⟨_, rfl, shared⟩
  exact ⟨switcher, shared, .owned (consistent.live_member (List.getElem_mem connected)) (by simp [owned, object])⟩

/-- Nothing takes the screen away from the switcher that the connection of the display manager keeps alive. -/
theorem screen_later (consistent : s.Consistent retained) {ks : Set Part} {t : Parts}
    (sound : t.Sound Part.needs retained) (grows : Grows retained ks s.parts t) (held : s.parts.held ⊆ t.held)
    (rest : Settled retained {.screen} s.parts → t.rest = s.parts.rest) {screen : Nat}
    (found : s.members[2]? = some screen) {switcher : Nat} (shared : (.sessionSwitcher, switcher) ∈ t.shared)
    (live : t.Live retained switcher) : t.rest switcher = some screen := by
  have connected : 2 ≤ s.members.length := Nat.le_of_lt (List.getElem?_eq_some_iff.mp found).1
  obtain ⟨old, shared', live'⟩ := consistent.switcher connected
  obtain rfl := sound.unique shared (grows.shared shared') live (grows.lives consistent.sound held live')
  rw [rest ?_]
  · exact consistent.screen screen found _ shared' live'
  · rintro _ rfl
    exact ⟨screen, consistent.shared_member found rfl, consistent.live_member (List.mem_of_getElem? found)⟩

theorem early_later (consistent : s.Consistent retained) {ks : Set Part} {t : Parts}
    (grows : Grows retained ks s.parts t) {n : Nat} (le : s.members.length ≤ n)
    (bound : n < 3 → ∀ k ∈ ks, rank k ≤ max 1 n) (early : n < 3) (k : Part) (id : Nat)
    (shared : (k, id) ∈ t.shared) : rank k ≤ max 1 n := by
  rcases grows.fresh k id shared with before | ⟨member, -⟩
  · have := consistent.early (Nat.lt_of_le_of_lt le early) k id before
    omega
  · exact bound early k member

theorem statement_run (consistent : s.Consistent retained) (valid : s.members.length = 1 → options.Valid)
    {access : PartAccess} (stated : (statements retained throws options)[s.members.length]? = some access) :
    (∃ k id t, memberParts[s.members.length]? = some k ∧ access.run s.parts = .ok (id, t) ∧
      Gives Part.needs retained {.screen} {q | rank q ≤ rank k} s.parts k id t ∧
      (s.members.length = 2 → ∀ switcher, (.sessionSwitcher, switcher) ∈ s.parts.shared →
        s.parts.Live retained switcher → t.rest switcher = some id)) ∨
    ∃ failure ∈ thrown throws, access.run s.parts = .error failure := by
  obtain ⟨k, part, reaches⟩ := reaches_statement valid stated
  refine (reaches s.parts consistent.sound).imp_left fun ⟨id, t, ran, gives⟩ => ?_
  refine ⟨k, id, t, part, ran, gives, fun two switcher shared live => ?_⟩
  rw [two] at stated
  obtain rfl := Option.some.inj stated
  have unmade : s.parts.find retained .screen = none := by
    refine Option.eq_none_iff_forall_not_mem.mpr fun screen found => ?_
    have := consistent.early (by omega) _ _ (consistent.sound.find_eq_some.mp found).1
    simp [two, rank] at this
  rcases (screen_run consistent.sound : _ ∨ ∃ failure ∈ thrown throws, _) with
    ⟨id', t', ran', -, told⟩ | ⟨failure, -, failed⟩
  · have same := Except.ok.inj (ran.symm.trans (cached_run unmade ran'))
    obtain ⟨rfl, rfl⟩ := Prod.mk.inj same
    exact told switcher shared live
  · have stopped : (theScreen retained throws).run s.parts = .error failure := by
      rw [theScreen, cached, bind_run (t := s.parts) rfl, unmade]
      exact bind_throws failed
    cases ran.symm.trans stopped

theorem statement (consistent : s.Consistent retained) (valid : s.members.length = 1 → options.Valid) :
    (∃ t, s.next retained throws options .statement = .ok t ∧ t.Consistent retained ∧
      t.members.length = min 7 (s.members.length + 1)) ∨
    ∃ failure ∈ thrown throws, s.next retained throws options .statement = .error failure := by
  cases stated : (statements retained throws options)[s.members.length]? with
  | none =>
      have done : 7 ≤ s.members.length := List.getElem?_eq_none_iff.mp stated
      have most := consistent.members.length_eq
      refine .inl ⟨s, by rw [next, stated]; rfl, consistent, ?_⟩
      simp [memberParts] at most
      omega
  | some access =>
      rcases consistent.statement_run valid stated with ⟨k, id, t, part, ran, gives, told⟩ | ⟨failure, member, failed⟩
      case inr =>
        refine .inr ⟨failure, member, ?_⟩
        rw [next, stated]
        simp only [failed]
        rfl
      have lt : s.members.length < 7 := (List.getElem?_eq_some_iff.mp part).1
      have within : ∀ x ∈ (s.members ++ [id]) ++ s.windowManagers, t.Live retained x := by
        refine fun x member => live_of_held ?_
        rw [gives.held, consistent.held]
        simp only [List.mem_append, List.mem_cons] at member ⊢
        tauto
      have typed : List.Forall₂ (fun q id => (q, id) ∈ t.shared) (memberParts.take (s.members.length + 1))
          (s.members ++ [id]) := by
        rw [List.take_add_one, part]
        exact List.rel_append (consistent.members.imp fun _ _ shared => gives.grows.shared shared)
          (.cons gives.shared .nil)
      have bound : s.members.length + 1 < 3 → ∀ q ∈ {q | rank q ≤ rank k}, rank q ≤ max 1 (s.members.length + 1) := by
        intro early q (le : rank q ≤ rank k)
        match n : s.members.length with
        | 0 | 1 =>
            rw [n] at part
            obtain rfl := Option.some.inj part
            exact Nat.le_trans le (by decide)
        | n + 2 => omega
      refine .inl ⟨keep t (s.members ++ [id]) s.windowManagers, ?_,
        ⟨gives.sound.holding _ within, rfl, ?_, ?_, ?_, ?_⟩, ?_⟩
      · rw [next, stated]
        simp only [ran]
        rfl
      · rw [keep, List.length_append]
        exact typed
      · intro x member
        obtain ⟨owned, object⟩ := consistent.windowManagers x member
        exact ⟨owned, gives.grows.object object⟩
      · intro screen found switcher shared live
        have live := live_holding within live
        rcases Nat.lt_trichotomy s.members.length 2 with before | now | after
        · rw [keep, List.getElem?_eq_none (by simp; omega)] at found
          cases found
        · obtain ⟨old, shared', live'⟩ := consistent.switcher now.ge
          obtain rfl := gives.sound.unique shared (gives.grows.shared shared') live
            (gives.grows.lives consistent.sound (by simp [gives.held]) live')
          rw [keep, List.getElem?_append_right now.le, now] at found
          exact (told now _ shared' live').trans found
        · rw [keep, List.getElem?_append_left after] at found
          exact consistent.screen_later gives.sound gives.grows (by simp [gives.held]) gives.rest found shared live
      · rw [keep, List.length_append]
        exact consistent.early_later gives.grows (Nat.le_succ _) bound
      · rw [keep, List.length_append, List.length_singleton]
        omega

theorem statement_fails (consistent : s.Consistent retained) (first : s.members.length = 1)
    (invalid : ¬options.Valid) : s.next retained throws options .statement = .error .abnormalExit := by
  have unmade : s.parts.find retained .dmConnection = none := by
    refine Option.eq_none_iff_forall_not_mem.mpr fun connection found => ?_
    have := consistent.early (by omega) _ _ (consistent.sound.find_eq_some.mp found).1
    simp [first, rank] at this
  rw [next, first]
  exact congrArg (· >>= _) (theDmConnection_fails invalid unmade rfl)

theorem buildWindowManager (consistent : s.Consistent retained) (throws : Part → Nat → Bool)
    (options : ServerOptions) :
    (∃ t, s.next retained throws options .buildWindowManager = .ok t ∧ t.Consistent retained ∧
      t.members = s.members) ∨
    ∃ failure ∈ thrown throws, s.next retained throws options .buildWindowManager = .error failure := by
  have constructs : Constructs retained throws .windowManager (windowManager retained throws) :=
    constructs_shared (.cons reaches_theSessionSwitcher .nil)
  rcases constructs s.parts consistent.sound with ⟨id, t, ran, makes⟩ | ⟨failure, member, failed⟩
  case inr =>
    refine .inr ⟨failure, member, ?_⟩
    rw [next, failed]
    rfl
  have within : ∀ x ∈ s.members ++ (s.windowManagers ++ [id]), t.Live retained x := by
    refine fun x member => live_of_held ?_
    rw [makes.held, consistent.held]
    simp only [List.mem_append, List.mem_cons] at member ⊢
    tauto
  refine .inl ⟨keep t s.members (s.windowManagers ++ [id]), ?_, ⟨makes.sound.holding _ within, rfl, ?_, ?_, ?_, ?_⟩,
    rfl⟩
  · rw [next, ran]
    rfl
  · exact consistent.members.imp fun _ _ shared => makes.grows.shared shared
  · intro x member
    rcases List.mem_append.mp member with before | new
    · obtain ⟨owned, object⟩ := consistent.windowManagers x before
      exact ⟨owned, makes.grows.object object⟩
    · obtain rfl := List.mem_singleton.mp new
      exact makes.made
  · intro screen found switcher shared live
    exact consistent.screen_later makes.sound makes.grows (by simp [makes.held]) (makes.rest (by simp)) found shared
      (live_holding within live)
  · refine consistent.early_later makes.grows (Nat.le_refl _) fun _ q (less : rank q < 2) => ?_
    exact Nat.le_trans (Nat.le_of_lt_succ less) (Nat.le_max_left ..)

theorem dropWindowManager (consistent : s.Consistent retained) (n : Nat) :
    (keep s.parts s.members (s.windowManagers.eraseIdx n)).Consistent retained := by
  have within : ∀ x ∈ s.members ++ s.windowManagers.eraseIdx n, s.parts.Live retained x := by
    intro x member
    rcases List.mem_append.mp member with member | member
    · exact consistent.live_member member
    · exact consistent.live_windowManager (List.mem_of_mem_eraseIdx member)
  exact {
    sound := consistent.sound.holding _ within
    held := rfl
    members := consistent.members
    windowManagers := fun x member => consistent.windowManagers x (List.mem_of_mem_eraseIdx member)
    screen := fun screen found switcher shared live =>
      consistent.screen screen found switcher shared (live_holding within live)
    early := consistent.early }

theorem wired (consistent : s.Consistent retained) : s.Wired retained where
  unique _ _ _ shared shared' live live' := consistent.sound.unique shared shared' live live'
  owned id k owned live object := by
    refine ⟨consistent.sound.typed k owned (List.mem_of_getElem? object), fun id' member => .owned live ?_⟩
    rwa [Sharing.owned, object]
  members := consistent.members
  windowManagers := consistent.windowManagers
  kept _ member := live_of_held (consistent.held ▸ member)
  screen := consistent.screen

end Consistent

theorem run_concat (past : List StartupEvent) (e : StartupEvent) :
    run retained throws options (past ++ [e]) =
      run retained throws options past >>= fun s => s.next retained throws options e := by
  rw [run, List.foldlM_append]
  exact bind_congr fun s => by simp

/-- The statements past the connection of the display manager come with options that let it be made. -/
theorem run_ends (retained : List Part) (throws : Part → Nat → Bool) (options : ServerOptions)
    (es : List StartupEvent) :
    (∃ s, run retained throws options es = .ok s ∧ s.Consistent retained ∧
      s.members.length = min 7 (es.count .statement) ∧ (options.Valid ∨ es.count .statement < 2)) ∨
    (run retained throws options es = .error .abnormalExit ∧ ¬options.Valid ∧ 2 ≤ es.count .statement) ∨
    ∃ failure ∈ thrown throws, run retained throws options es = .error failure := by
  induction es using List.reverseRecOn with
  | nil => exact .inl ⟨{}, rfl, start_consistent, rfl, .inr (by simp)⟩
  | append_singleton past e ih =>
      rw [run_concat, List.count_append, List.count_singleton]
      rcases ih with ⟨s, ran, consistent, length, reached⟩ | ⟨failed, invalid, reached⟩ | ⟨failure, member, failed⟩
      · rw [ran]
        cases e with
        | statement =>
            have more : past.count .statement + (if StartupEvent.statement == .statement then 1 else 0) =
                past.count .statement + 1 := rfl
            rw [more]
            by_cases stops : s.members.length = 1 ∧ ¬options.Valid
            · obtain ⟨first, invalid⟩ := stops
              exact .inr (.inl ⟨consistent.statement_fails first invalid, invalid, by omega⟩)
            · have valid : s.members.length = 1 → options.Valid := fun one =>
                Classical.byContradiction fun invalid => stops ⟨one, invalid⟩
              rcases (consistent.statement valid : _ ∨ ∃ failure ∈ thrown throws, _) with
                ⟨t, stepped, consistent', length'⟩ | ⟨failure, member, failed⟩
              · refine .inl ⟨t, stepped, consistent', by omega, ?_⟩
                by_cases valid : options.Valid
                · exact .inl valid
                · have notFirst : s.members.length ≠ 1 := fun first => stops ⟨first, valid⟩
                  have before := reached.resolve_left valid
                  exact .inr (by omega)
              · exact .inr (.inr ⟨failure, member, failed⟩)
        | buildWindowManager =>
            rcases consistent.buildWindowManager throws options with
              ⟨t, stepped, consistent', members⟩ | ⟨failure, member, failed⟩
            · exact .inl ⟨t, stepped, consistent', by simpa [members] using length, by simpa using reached⟩
            · exact .inr (.inr ⟨failure, member, failed⟩)
        | dropWindowManager n =>
            exact .inl ⟨_, rfl, consistent.dropWindowManager n, by simpa [keep] using length, by simpa using reached⟩
      · rw [failed]
        exact .inr (.inl ⟨rfl, invalid, Nat.le_add_right_of_le reached⟩)
      · rw [failed]
        exact .inr (.inr ⟨failure, member, rfl⟩)

/-- Whatever window managers Mir builds and drops between the statements of the startup, it goes on as long as no
constructor throws and the connection of the display manager can be made, and the parts are wired to one another. -/
theorem startup_wired (retained : List Part) (throws : Part → Nat → Bool) (options : ServerOptions)
    (es : List StartupEvent) :
    (∃ s, run retained throws options es = .ok s ∧ s.Wired retained ∧ (options.Valid ∨ es.count .statement < 2)) ∨
    (run retained throws options es = .error .abnormalExit ∧ ¬options.Valid ∧ 2 ≤ es.count .statement) ∨
    ∃ k id, throws k id = true ∧ run retained throws options es = .error (.constructor k) := by
  rcases run_ends retained throws options es with
    ⟨s, ran, consistent, -, reached⟩ | stopped | ⟨_, ⟨k, id, fails, rfl⟩, failed⟩
  · exact .inl ⟨s, ran, consistent.wired, reached⟩
  · exact .inr (.inl stopped)
  · exact .inr (.inr ⟨k, id, fails, failed⟩)

end Startup
end SystemCompositor
