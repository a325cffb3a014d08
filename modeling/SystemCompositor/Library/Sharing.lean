import Mathlib.Data.List.Forall2
import Mathlib.Data.Set.Insert
import Mathlib.Logic.Function.Basic

namespace Library

/-- Objects, each of a kind and with the objects that it owns. `held` has the references that no object has, the
latest first; `shared` has the objects that the accessor of a kind has returned, and `cache` the last of them. -/
structure Sharing (κ φ : Type) where
  objects : List (κ × List Nat) := []
  held : List Nat := []
  shared : List (κ × Nat) := []
  cache : κ → Option Nat := fun _ => none
  rest : φ

namespace Sharing
variable {κ φ ε : Type}

def owned (s : Sharing κ φ) (id : Nat) : List Nat := (s.objects[id]?.map Prod.snd).getD []

def holding (s : Sharing κ φ) (held : List Nat) (rest : φ) : Sharing κ φ := { s with held := held, rest := rest }

/-- A new object takes over the last references that are held. -/
def make (s : Sharing κ φ) (k : κ) (owned : List Nat) : Sharing κ φ :=
  { s with objects := s.objects ++ [(k, owned)], held := s.objects.length :: s.held.drop owned.length }

def share [DecidableEq κ] (s : Sharing κ φ) (k : κ) (id : Nat) : Sharing κ φ :=
  { s with shared := s.shared ++ [(k, id)], cache := Function.update s.cache k (some id) }

/-- Takes `marked` through everything that the objects before `n` own. -/
def mark (s : Sharing κ φ) : Nat → List Nat → List Nat
  | 0, marked => marked
  | n + 1, marked => s.mark n (if n ∈ marked then s.owned n ++ marked else marked)

section Live
variable (retained : List κ)

/-- The caches of the `retained` kinds own what is in them. -/
def roots (s : Sharing κ φ) : List Nat := s.held ++ retained.filterMap s.cache

def live (s : Sharing κ φ) : List Nat := s.mark s.objects.length (s.roots retained)

def find (s : Sharing κ φ) (k : κ) : Option Nat := (s.cache k).filter fun id => id ∈ s.live retained

inductive Live (s : Sharing κ φ) : Nat → Prop
  | root {id : Nat} : id ∈ s.roots retained → Live s id
  | owned {id id' : Nat} : Live s id → id' ∈ s.owned id → Live s id'

variable {retained}

theorem live_of_held {s : Sharing κ φ} {id : Nat} (held : id ∈ s.held) : s.Live retained id :=
  .root (List.mem_append_left _ held)

theorem subset_mark (s : Sharing κ φ) (n : Nat) (marked : List Nat) : marked ⊆ s.mark n marked := by
  induction n generalizing marked with
  | zero => exact List.Subset.refl _
  | succ n ih =>
      refine List.Subset.trans ?_ (ih _)
      split_ifs
      · exact List.subset_append_right _ _
      · exact List.Subset.refl _

theorem live_of_mark {s : Sharing κ φ} (n : Nat) {marked : List Nat} (all : ∀ id ∈ marked, s.Live retained id) :
    ∀ id ∈ s.mark n marked, s.Live retained id := by
  induction n generalizing marked with
  | zero => exact all
  | succ n ih =>
      refine ih fun id member => ?_
      split_ifs at member with mem
      · rcases List.mem_append.mp member with owned | member
        · exact .owned (all n mem) owned
        · exact all id member
      · exact all id member

theorem mark_closed {s : Sharing κ φ} (older : ∀ id, ∀ id' ∈ s.owned id, id' < id) (n : Nat) {marked : List Nat}
    (closed : ∀ id ∈ marked, n ≤ id → s.owned id ⊆ marked) :
    ∀ id ∈ s.mark n marked, s.owned id ⊆ s.mark n marked := by
  induction n generalizing marked with
  | zero => exact fun id member => closed id member (Nat.zero_le _)
  | succ n ih =>
      refine ih fun id member le => ?_
      split_ifs at member ⊢ with mem
      · rcases List.mem_append.mp member with owned | member
        · exact absurd (older n id owned) (Nat.not_lt.mpr le)
        · rcases Nat.eq_or_lt_of_le le with rfl | less
          · exact List.subset_append_left _ _
          · exact List.Subset.trans (closed id member less) (List.subset_append_right _ _)
      · rcases Nat.eq_or_lt_of_le le with rfl | less
        · exact absurd member mem
        · exact closed id member less

theorem mem_live {s : Sharing κ φ} (older : ∀ id, ∀ id' ∈ s.owned id, id' < id) {id : Nat} :
    id ∈ s.live retained ↔ s.Live retained id := by
  constructor
  · exact live_of_mark _ (fun _ => .root) id
  · intro live
    induction live with
    | root member => exact subset_mark _ _ _ member
    | @owned id id' _ owned ih =>
        refine mark_closed older _ (fun id _ le => ?_) id ih owned
        rw [Sharing.owned, List.getElem?_eq_none le]
        exact List.nil_subset _

end Live

section Invariant
variable (deps : κ → List κ) (retained : List κ)

/-- Every object owns older ones, of the kinds that its own kind needs, and of each kind no object is alive but the
one in the cache. -/
structure Sound (s : Sharing κ φ) : Prop where
  older : ∀ id, ∀ id' ∈ s.owned id, id' < id
  held : ∀ id ∈ s.held, id < s.objects.length
  typed : ∀ k owned, (k, owned) ∈ s.objects → List.Forall₂ (fun q id => (q, id) ∈ s.shared) (deps k) owned
  made : ∀ k id, (k, id) ∈ s.shared → ∃ owned, s.objects[id]? = some (k, owned)
  cached : ∀ k id, s.cache k = some id → (k, id) ∈ s.shared
  current : ∀ k id, (k, id) ∈ s.shared → s.Live retained id → s.cache k = some id

/-- What can happen while objects of the kinds in `ks` are made; no object comes back to life. -/
structure Grows (ks : Set κ) (s t : Sharing κ φ) : Prop where
  objects : s.objects <+: t.objects
  shared : s.shared ⊆ t.shared
  fresh : ∀ k id, (k, id) ∈ t.shared → (k, id) ∈ s.shared ∨ k ∈ ks ∧ s.objects.length ≤ id
  live : ∀ id < s.objects.length, t.Live retained id → s.Live retained id
  retains : ∀ k ∈ retained, ∀ id, s.cache k = some id → t.cache k = some id

variable {deps retained} {ks ks' : Set κ} {s t u : Sharing κ φ} {k : κ} {id : Nat}

theorem Sound.shared_lt (sound : s.Sound deps retained) (shared : (k, id) ∈ s.shared) : id < s.objects.length := by
  obtain ⟨owned, made⟩ := sound.made k id shared
  exact (List.getElem?_eq_some_iff.mp made).1

theorem Sound.live_lt (sound : s.Sound deps retained) (live : s.Live retained id) : id < s.objects.length := by
  induction live with
  | root member =>
      rcases List.mem_append.mp member with held | cached
      · exact sound.held _ held
      · obtain ⟨k, -, cached⟩ := List.mem_filterMap.mp cached
        exact sound.shared_lt (sound.cached k _ cached)
  | owned _ owned ih => exact Nat.lt_trans (sound.older _ _ owned) ih

theorem Sound.find_eq_some (sound : s.Sound deps retained) :
    s.find retained k = some id ↔ (k, id) ∈ s.shared ∧ s.Live retained id := by
  rw [find, Option.filter_eq_some_iff, decide_eq_true_iff, mem_live sound.older]
  exact ⟨fun ⟨cached, live⟩ => ⟨sound.cached k id cached, live⟩,
    fun ⟨shared, live⟩ => ⟨sound.current k id shared live, live⟩⟩

/-- Of each kind one object at most is alive. -/
theorem Sound.unique (sound : s.Sound deps retained) {id' : Nat} (shared : (k, id) ∈ s.shared)
    (shared' : (k, id') ∈ s.shared) (live : s.Live retained id) (live' : s.Live retained id') : id = id' :=
  Option.some.inj ((sound.current k id shared live).symm.trans (sound.current k id' shared' live'))

theorem Grows.refl (s : Sharing κ φ) : Grows retained ks s s where
  objects := List.prefix_rfl
  shared := List.Subset.refl _
  fresh _ _ shared := .inl shared
  live _ _ live := live
  retains _ _ _ cached := cached

theorem Grows.length_le (grows : Grows retained ks s t) : s.objects.length ≤ t.objects.length :=
  grows.objects.length_le

theorem Grows.trans (first : Grows retained ks s t) (second : Grows retained ks t u) : Grows retained ks s u where
  objects := first.objects.trans second.objects
  shared := List.Subset.trans first.shared second.shared
  fresh k id shared := by
    rcases second.fresh k id shared with shared | ⟨member, le⟩
    · exact first.fresh k id shared
    · exact .inr ⟨member, Nat.le_trans first.length_le le⟩
  live id lt live := first.live id lt (second.live id (Nat.lt_of_lt_of_le lt first.length_le) live)
  retains k member id cached := second.retains k member id (first.retains k member id cached)

theorem Grows.mono (subset : ks ⊆ ks') (grows : Grows retained ks s t) : Grows retained ks' s t where
  objects := grows.objects
  shared := grows.shared
  fresh k id shared := (grows.fresh k id shared).imp_right fun ⟨member, le⟩ => ⟨subset member, le⟩
  live := grows.live
  retains := grows.retains

theorem Grows.owned (grows : Grows retained ks s t) (lt : id < s.objects.length) : t.owned id = s.owned id := by
  obtain ⟨new, objects⟩ := grows.objects
  rw [Sharing.owned, ← objects, List.getElem?_append_left lt]
  rfl

theorem Grows.object (grows : Grows retained ks s t) {o : κ × List Nat} (object : s.objects[id]? = some o) :
    t.objects[id]? = some o := by
  obtain ⟨new, objects⟩ := grows.objects
  rw [← objects, List.getElem?_append_left (List.getElem?_eq_some_iff.mp object).1, object]

/-- What was alive stays alive as long as the references that were held are. -/
theorem Grows.lives (grows : Grows retained ks s t) (sound : s.Sound deps retained) (held : s.held ⊆ t.held)
    (live : s.Live retained id) : t.Live retained id := by
  induction live with
  | root member =>
      rcases List.mem_append.mp member with member | cached
      · exact live_of_held (held member)
      · obtain ⟨k, mem, cached⟩ := List.mem_filterMap.mp cached
        exact .root (List.mem_append_right _ (List.mem_filterMap.mpr ⟨k, mem, grows.retains k mem _ cached⟩))
  | owned before owned ih =>
      rw [← grows.owned (sound.live_lt before)] at owned
      exact .owned ih owned

theorem live_holding {held : List Nat} {rest : φ} (all : ∀ id ∈ held, s.Live retained id)
    (live : (s.holding held rest).Live retained id) : s.Live retained id := by
  induction live with
  | root member =>
      rcases List.mem_append.mp member with member | cached
      · exact all _ member
      · exact .root (List.mem_append_right _ cached)
  | owned _ owned ih => exact .owned ih owned

theorem Sound.holding (sound : s.Sound deps retained) {held : List Nat} (rest : φ)
    (all : ∀ id ∈ held, s.Live retained id) : (s.holding held rest).Sound deps retained where
  older := sound.older
  held id member := sound.live_lt (all id member)
  typed := sound.typed
  made := sound.made
  cached := sound.cached
  current k id shared live := sound.current k id shared (live_holding all live)

theorem grows_holding (ks : Set κ) {held : List Nat} (rest : φ) (all : ∀ id ∈ held, s.Live retained id) :
    Grows retained ks s (s.holding held rest) where
  objects := List.prefix_rfl
  shared := List.Subset.refl _
  fresh _ _ shared := .inl shared
  live _ _ live := live_holding all live
  retains _ _ _ cached := cached

theorem owned_make (s : Sharing κ φ) (k : κ) (owned : List Nat) (id : Nat) :
    (s.make k owned).owned id = if id = s.objects.length then owned else s.owned id := by
  simp only [Sharing.owned, make, List.getElem?_append, List.getElem?_singleton]
  split_ifs <;> first | rfl | omega | skip
  · rw [List.getElem?_eq_none (by omega)]

theorem live_make {owned : List Nat} (held : owned ⊆ s.held) (live : (s.make k owned).Live retained id) :
    id = s.objects.length ∨ s.Live retained id := by
  induction live with
  | root member =>
      rcases List.mem_append.mp member with member | cached
      · exact (List.mem_cons.mp member).imp_right fun member => live_of_held (List.mem_of_mem_drop member)
      · exact .inr (.root (List.mem_append_right _ cached))
  | @owned id id' _ owned' ih =>
      rw [owned_make] at owned'
      split_ifs at owned' with new
      · exact .inr (live_of_held (held owned'))
      · exact .inr (.owned (ih.resolve_left new) owned')

theorem Sound.make (sound : s.Sound deps retained) {owned : List Nat} (held : owned ⊆ s.held)
    (typed : List.Forall₂ (fun q id => (q, id) ∈ s.shared) (deps k) owned) :
    (s.make k owned).Sound deps retained where
  older id id' member := by
    rw [owned_make] at member
    split_ifs at member with new
    · exact new ▸ sound.held id' (held member)
    · exact sound.older id id' member
  held id member := by
    rw [Sharing.make, List.length_append]
    rcases List.mem_cons.mp member with rfl | member
    · exact Nat.lt_succ_self _
    · exact Nat.lt_succ_of_lt (sound.held id (List.mem_of_mem_drop member))
  typed k' owned' member := by
    rcases List.mem_append.mp member with member | new
    · exact sound.typed k' owned' member
    · obtain ⟨rfl, rfl⟩ := Prod.mk.inj (List.mem_singleton.mp new)
      exact typed
  made k' id shared := by
    obtain ⟨owned', made⟩ := sound.made k' id shared
    exact ⟨owned', (List.getElem?_append_left (sound.shared_lt shared)).trans made⟩
  cached := sound.cached
  current k' id shared live :=
    sound.current k' id shared ((live_make held live).resolve_left (Nat.ne_of_lt (sound.shared_lt shared)))

theorem grows_make (ks : Set κ) {owned : List Nat} (held : owned ⊆ s.held) :
    Grows retained ks s (s.make k owned) where
  objects := List.prefix_append _ _
  shared := List.Subset.refl _
  fresh _ _ shared := .inl shared
  live _ lt live := (live_make held live).resolve_left (Nat.ne_of_lt lt)
  retains _ _ _ cached := cached

variable [DecidableEq κ]

theorem cache_share (s : Sharing κ φ) (k : κ) (id : Nat) (k' : κ) :
    (s.share k id).cache k' = if k' = k then some id else s.cache k' := Function.update_apply _ _ _ _

theorem live_share (alive : s.Live retained id) {id' : Nat} (live : (s.share k id).Live retained id') :
    s.Live retained id' := by
  induction live with
  | root member =>
      rcases List.mem_append.mp member with member | cached
      · exact live_of_held member
      · obtain ⟨k', mem, cached⟩ := List.mem_filterMap.mp cached
        rw [cache_share] at cached
        split_ifs at cached with same
        · exact Option.some.inj cached ▸ alive
        · exact .root (List.mem_append_right _ (List.mem_filterMap.mpr ⟨k', mem, cached⟩))
  | owned _ owned ih => exact .owned ih owned

theorem Sound.share (sound : s.Sound deps retained) {owned : List Nat} (made : s.objects[id]? = some (k, owned))
    (alive : s.Live retained id) (none : ∀ id', (k, id') ∈ s.shared → ¬s.Live retained id') :
    (s.share k id).Sound deps retained where
  older := sound.older
  held := sound.held
  typed k' owned' member := (sound.typed k' owned' member).imp fun _ _ shared => List.mem_append_left _ shared
  made k' id' shared := by
    rcases List.mem_append.mp shared with shared | new
    · exact sound.made k' id' shared
    · obtain ⟨rfl, rfl⟩ := Prod.mk.inj (List.mem_singleton.mp new)
      exact ⟨owned, made⟩
  cached k' id' cached := by
    rw [cache_share] at cached
    split_ifs at cached with same
    · obtain rfl := Option.some.inj cached
      exact List.mem_append_right _ (by simp [same])
    · exact List.mem_append_left _ (sound.cached k' id' cached)
  current k' id' shared live := by
    have lives := live_share alive live
    rw [cache_share]
    rcases List.mem_append.mp shared with before | new
    · rw [if_neg]
      · exact sound.current k' id' before lives
      · rintro rfl
        exact none id' before lives
    · obtain ⟨rfl, rfl⟩ := Prod.mk.inj (List.mem_singleton.mp new)
      exact if_pos rfl

theorem Grows.share (grows : Grows retained ks s t) (sound : s.Sound deps retained) (none : s.find retained k = none)
    (mem : k ∈ ks) (new : s.objects.length ≤ id) (alive : t.Live retained id) :
    Grows retained ks s (t.share k id) where
  objects := grows.objects
  shared := List.Subset.trans grows.shared (List.subset_append_left _ _)
  fresh k' id' shared := by
    rcases List.mem_append.mp shared with shared | new'
    · exact grows.fresh k' id' shared
    · obtain ⟨rfl, rfl⟩ := Prod.mk.inj (List.mem_singleton.mp new')
      exact .inr ⟨mem, new⟩
  live id' lt live := grows.live id' lt (live_share alive live)
  retains k' member id' cached := by
    rw [cache_share, if_neg]
    · exact grows.retains k' member id' cached
    · rintro rfl
      have live : s.Live retained id' := .root (List.mem_append_right _ (List.mem_filterMap.mpr ⟨_, member, cached⟩))
      rw [sound.find_eq_some.mpr ⟨sound.cached _ _ cached, live⟩] at none
      cases none

end Invariant

abbrev Access (κ φ ε α : Type) := StateT (Sharing κ φ) (Except ε) α

theorem bind_run {α β : Type} {a : Access κ φ ε α} {f : α → Access κ φ ε β} {s t : Sharing κ φ} {x : α}
    (ran : a.run s = .ok (x, t)) : (a >>= f).run s = (f x).run t := by
  rw [StateT.run_bind, ran]
  rfl

theorem bind_throws {α β : Type} {a : Access κ φ ε α} {f : α → Access κ φ ε β} {s : Sharing κ φ} {e : ε}
    (ran : a.run s = .error e) : (a >>= f).run s = .error e := by
  rw [StateT.run_bind, ran]
  rfl

/-- Evaluates arguments, the first one first. -/
def gather : List (Access κ φ ε Nat) → Access κ φ ε (List Nat)
  | [] => return []
  | arg :: args => return (← arg) :: (← gather args)

/-- `throws` says what the constructor of the object throws, if it does. -/
def makeShared (throws : κ → Nat → Option ε) (k : κ) (args : List (Access κ φ ε Nat)) : Access κ φ ε Nat := do
  let owned ← gather args
  let s ← get
  match throws k s.objects.length with
  | some e => throw e
  | none =>
      set (s.make k owned)
      return s.objects.length

def cached [DecidableEq κ] (retained : List κ) (k : κ) (make : Access κ φ ε Nat) : Access κ φ ε Nat := do
  let s ← get
  match s.find retained k with
  | some id =>
      set (s.holding (id :: s.held) s.rest)
      return id
  | none =>
      let id ← make
      modify fun t => t.share k id
      return id

section Rules
variable (deps : κ → List κ) (retained : List κ) (thrown : Set ε) (writers ks : Set κ)

def Settled (s : Sharing κ φ) : Prop := ∀ k ∈ writers, ∃ id, (k, id) ∈ s.shared ∧ s.Live retained id

/-- From `s` the object `id` of kind `k` is returned, with `t` afterwards. While objects of the kinds in `writers`
are alive, the rest of the state is left alone. -/
structure Gives (s : Sharing κ φ) (k : κ) (id : Nat) (t : Sharing κ φ) : Prop where
  sound : t.Sound deps retained
  grows : Grows retained ks s t
  held : t.held = id :: s.held
  shared : (k, id) ∈ t.shared
  rest : Settled retained writers s → t.rest = s.rest

structure Makes (s : Sharing κ φ) (k : κ) (id : Nat) (t : Sharing κ φ) : Prop where
  sound : t.Sound deps retained
  grows : Grows retained ks s t
  held : t.held = id :: s.held
  new : s.objects.length ≤ id
  made : ∃ owned, t.objects[id]? = some (k, owned)
  rest : k ∉ writers → Settled retained writers s → t.rest = s.rest

def Accesses (k : κ) (a : Access κ φ ε Nat) : Prop := ∀ s : Sharing κ φ, s.Sound deps retained →
  (∃ id t, a.run s = .ok (id, t) ∧ Gives deps retained writers ks s k id t) ∨ ∃ e ∈ thrown, a.run s = .error e

def Builds (k : κ) (a : Access κ φ ε Nat) : Prop := ∀ s : Sharing κ φ, s.Sound deps retained →
  (∃ id t, a.run s = .ok (id, t) ∧ Makes deps retained writers ks s k id t) ∨ ∃ e ∈ thrown, a.run s = .error e

variable {deps retained thrown writers ks} {k : κ} {a : Access κ φ ε Nat} {s t : Sharing κ φ}

theorem Accesses.mono {ks' : Set κ} (subset : ks ⊆ ks') (accesses : Accesses deps retained thrown writers ks k a) :
    Accesses deps retained thrown writers ks' k a := fun s sound =>
  (accesses s sound).imp_left fun ⟨id, t, ran, gives⟩ => ⟨id, t, ran, { gives with grows := gives.grows.mono subset }⟩

theorem Settled.grows (settled : Settled retained writers s) (sound : s.Sound deps retained)
    (grows : Grows retained ks s t) (held : s.held ⊆ t.held) : Settled retained writers t := by
  intro k member
  obtain ⟨id, shared, live⟩ := settled k member
  exact ⟨id, grows.shared shared, grows.lives sound held live⟩

theorem gather_run {qs : List κ} {args : List (Access κ φ ε Nat)}
    (accesses : List.Forall₂ (Accesses deps retained thrown writers ks) qs args) (sound : s.Sound deps retained) :
    (∃ owned t, (gather args).run s = .ok (owned, t) ∧ t.Sound deps retained ∧ Grows retained ks s t ∧
      t.held = owned.reverse ++ s.held ∧ List.Forall₂ (fun q id => (q, id) ∈ t.shared) qs owned ∧
      (Settled retained writers s → t.rest = s.rest)) ∨ ∃ e ∈ thrown, (gather args).run s = .error e := by
  induction accesses generalizing s with
  | nil => exact .inl ⟨[], s, rfl, sound, .refl s, rfl, .nil, fun _ => rfl⟩
  | @cons q arg qs args first _ ih =>
      rcases first s sound with ⟨id, t, ran, gives⟩ | ⟨e, member, failed⟩
      · rcases ih gives.sound with ⟨owned, u, ran', sound', grows, held, shared, rest⟩ | ⟨e, member, failed⟩
        · refine .inl ⟨id :: owned, u, ?_, sound', gives.grows.trans grows, ?_,
            .cons (grows.shared gives.shared) shared, ?_⟩
          · rw [gather, bind_run ran, bind_run ran']
            rfl
          · rw [held, gives.held, List.reverse_cons, List.append_assoc, List.singleton_append]
          · intro settled
            rw [rest (settled.grows sound gives.grows (by simp [gives.held])), gives.rest settled]
        · exact .inr ⟨e, member, by rw [gather, bind_run ran, bind_throws failed]⟩
      · exact .inr ⟨e, member, by rw [gather, bind_throws failed]⟩

theorem makeShared_builds {throws : κ → Nat → Option ε} (allowed : ∀ id e, throws k id = some e → e ∈ thrown)
    {args : List (Access κ φ ε Nat)}
    (accesses : List.Forall₂ (Accesses deps retained thrown writers ks) (deps k) args) :
    Builds deps retained thrown writers ks k (makeShared throws k args) := by
  intro s sound
  rcases gather_run accesses sound with ⟨owned, t, ran, sound', grows, held, shared, rest⟩ | ⟨e, member, failed⟩
  · cases outcome : throws k t.objects.length with
    | some e =>
        refine .inr ⟨e, allowed _ e outcome, ?_⟩
        rw [makeShared, bind_run ran, bind_run (t := t) (x := t) rfl, outcome]
        rfl
    | none =>
        have taken : owned ⊆ t.held := by
          rw [held]
          exact fun id member => List.mem_append_left _ (List.mem_reverse.mpr member)
        refine .inl ⟨t.objects.length, t.make k owned, ?_, sound'.make taken shared,
          grows.trans (grows_make ks taken), ?_, grows.length_le, ⟨owned, List.getElem?_concat_length ..⟩,
          fun _ => rest⟩
        · rw [makeShared, bind_run ran, bind_run (t := t) (x := t) rfl, outcome]
          rfl
        · rw [make, held, List.drop_left' (List.length_reverse ..)]
  · exact .inr ⟨e, member, by rw [makeShared, bind_throws failed]⟩

theorem cached_run [DecidableEq κ] {id : Nat} (found : s.find retained k = none) (ran : a.run s = .ok (id, t)) :
    (cached retained k a).run s = .ok (id, t.share k id) := by
  rw [cached, bind_run (t := s) rfl, found]
  exact bind_run ran

/-- An accessor makes no second object of its kind, and none through the accessors that it calls. -/
theorem cached_accesses [DecidableEq κ] (builds : Builds deps retained thrown writers ks k a) (other : k ∉ ks) :
    Accesses deps retained thrown writers (insert k ks) k (cached retained k a) := by
  intro s sound
  cases found : s.find retained k with
  | some id =>
      obtain ⟨shared, live⟩ := sound.find_eq_some.mp found
      have all : ∀ id' ∈ id :: s.held, s.Live retained id' :=
        List.forall_mem_cons.mpr ⟨live, fun _ => live_of_held⟩
      refine .inl ⟨id, s.holding (id :: s.held) s.rest, ?_, sound.holding _ all, grows_holding _ _ all, rfl, shared,
        fun _ => rfl⟩
      rw [cached, bind_run (t := s) rfl, found]
      rfl
  | none =>
      rcases builds s sound with ⟨id, t, ran, makes⟩ | ⟨e, member, failed⟩
      · obtain ⟨owned, made⟩ := makes.made
        have alive : t.Live retained id := live_of_held (by simp [makes.held])
        have dead : ∀ id', (k, id') ∈ s.shared → ¬s.Live retained id' := by
          intro id' shared live
          rw [sound.find_eq_some.mpr ⟨shared, live⟩] at found
          cases found
        have dead' : ∀ id', (k, id') ∈ t.shared → ¬t.Live retained id' := by
          intro id' shared live
          have before := (makes.grows.fresh k id' shared).resolve_right fun fresh => other fresh.1
          exact dead id' before (makes.grows.live id' (sound.shared_lt before) live)
        refine .inl ⟨id, t.share k id, cached_run found ran, makes.sound.share made alive dead', ?_, makes.held,
          List.mem_append_right _ (List.mem_singleton_self _), fun settled => makes.rest ?_ settled⟩
        · exact (makes.grows.mono (Set.subset_insert k ks)).share sound found (Set.mem_insert k ks) makes.new alive
        · intro member
          obtain ⟨id', shared, live⟩ := settled k member
          exact dead id' shared live
      · refine .inr ⟨e, member, ?_⟩
        rw [cached, bind_run (t := s) rfl, found]
        exact bind_throws failed

end Rules

end Sharing
end Library
