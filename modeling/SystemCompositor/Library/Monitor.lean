import Mathlib.Logic.Hydra
import SystemCompositor.Library.Interleaving

namespace Library

namespace Program
variable {σ α β γ : Type} (held : σ → Bool)

/-- It neither waits nor touches the mutex. -/
inductive Quiet : Program σ α → Prop
  | done (a : α) : Quiet (.done a)
  | fault : Quiet .fault
  | step {enabled : σ → Bool} {effect : σ → σ} {next : σ → Program σ α} (ready : ∀ s, enabled s = true)
      (keeps : ∀ s, held (effect s) = held s) (rest : ∀ s, Quiet (next s)) : Quiet (.step enabled effect next)

/-- It holds the mutex until its last step, which frees it. -/
inductive Inside : Program σ Unit → Prop
  | fault : Inside .fault
  | stay {enabled : σ → Bool} {effect : σ → σ} {next : σ → Program σ Unit} (ready : ∀ s, enabled s = true)
      (keeps : ∀ s, held (effect s) = held s) (rest : ∀ s, Inside (next s)) : Inside (.step enabled effect next)
  | leave {enabled : σ → Bool} {effect : σ → σ} (ready : ∀ s, enabled s = true)
      (frees : ∀ s, held (effect s) = false) : Inside (.step enabled effect fun _ => .done ())

/-- Its first step waits for the mutex and takes it. -/
inductive Guarded : Program σ Unit → Prop
  | enter {enabled : σ → Bool} {effect : σ → σ} {next : σ → Program σ Unit} (waits : ∀ s, enabled s = !held s)
      (takes : ∀ s, held (effect s) = true) (rest : ∀ s, Inside held (next s)) :
      Guarded (.step enabled effect next)

variable {held}

theorem quiet_pure (a : α) : Quiet held (pure a : Program σ α) := .done a

theorem quiet_read (look : σ → α) : Quiet held (read look) := .step (fun _ => rfl) (fun _ => rfl) fun _ => .done _

theorem quiet_change {effect : σ → σ} (keeps : ∀ s, held (effect s) = held s) : Quiet held (change effect) :=
  .step (fun _ => rfl) keeps fun _ => .done ()

theorem Quiet.bind {p : Program σ α} {f : α → Program σ β} (quiet : Quiet held p)
    (rest : ∀ a, Quiet held (f a)) : Quiet held (p >>= f) := by
  induction quiet with
  | done a => exact rest a
  | fault => exact .fault
  | step ready keeps _ ih => exact .step ready keeps ih

theorem Quiet.ite {c : Prop} [Decidable c] {p q : Program σ α} (yes : Quiet held p) (no : Quiet held q) :
    Quiet held (if c then p else q) := by
  split_ifs
  · exact yes
  · exact no

theorem Quiet.forM {body : γ → Program σ PUnit} (xs : List γ) (one : ∀ x, Quiet held (body x)) :
    Quiet held (xs.forM body) := by
  induction xs with
  | nil => exact .done _
  | cons x xs ih =>
      rw [List.forM_eq_forM, List.forM_cons]
      exact (one x).bind fun _ => ih

theorem Quiet.inside {p : Program σ α} {f : α → Program σ Unit} (quiet : Quiet held p)
    (rest : ∀ a, Inside held (f a)) : Inside held (p >>= f) := by
  induction quiet with
  | done a => exact rest a
  | fault => exact .fault
  | step ready keeps _ ih => exact .stay ready keeps ih

theorem inside_change {effect : σ → σ} (frees : ∀ s, held (effect s) = false) : Inside held (change effect) :=
  .leave (fun _ => rfl) frees

theorem guarded_await {enabled : σ → Bool} {effect : σ → σ} {f : Unit → Program σ Unit}
    (waits : ∀ s, enabled s = !held s) (takes : ∀ s, held (effect s) = true) (rest : Inside held (f ())) :
    Guarded held (await enabled effect >>= f) :=
  .enter waits takes fun _ => rest

theorem Inside.advance {p q : Program σ Unit} {s t : σ} (inside : Inside held p)
    (stepped : p.advance s = some (q, t)) :
    held t = held s ∧ Inside held q ∨ held t = false ∧ q = .done () := by
  cases inside with
  | fault => cases stepped
  | stay ready keeps rest =>
      rw [Program.advance, if_pos (ready s), Option.some.injEq, Prod.mk.injEq] at stepped
      obtain ⟨rfl, rfl⟩ := stepped
      exact .inl ⟨keeps s, rest s⟩
  | leave ready frees =>
      rw [Program.advance, if_pos (ready s), Option.some.injEq, Prod.mk.injEq] at stepped
      obtain ⟨rfl, rfl⟩ := stepped
      exact .inr ⟨frees s, rfl⟩

theorem Inside.ready {p : Program σ Unit} (inside : Inside held p) (sound : p ≠ .fault) (s : σ) :
    ∃ r, p.advance s = some r := by
  cases inside with
  | fault => exact absurd rfl sound
  | stay ready _ _ => exact ⟨_, if_pos (ready s)⟩
  | leave ready _ => exact ⟨_, if_pos (ready s)⟩

theorem Guarded.advance {p q : Program σ Unit} {s t : σ} (guarded : Guarded held p)
    (stepped : p.advance s = some (q, t)) : held s = false ∧ held t = true ∧ Inside held q := by
  cases guarded with
  | enter waits takes rest =>
      simp only [Program.advance, Option.ite_none_right_eq_some, waits, Bool.not_eq_true', Option.some.injEq,
        Prod.mk.injEq] at stepped
      obtain ⟨free, rfl, rfl⟩ := stepped
      exact ⟨free, takes s, rest s⟩

theorem Guarded.ready {p : Program σ Unit} (guarded : Guarded held p) {s : σ} (free : held s = false) :
    ∃ r, p.advance s = some r := by
  cases guarded with
  | enter waits _ _ => exact ⟨_, if_pos (by rw [waits, free]; rfl)⟩

theorem Guarded.ne_fault {p : Program σ Unit} (guarded : Guarded held p) : p ≠ .fault := by
  rintro rfl
  cases guarded

/-- What is left of a program after one of its steps. -/
inductive Rest : Program σ α → Program σ α → Prop
  | step (enabled : σ → Bool) (effect : σ → σ) (next : σ → Program σ α) (s : σ) :
      Rest (next s) (.step enabled effect next)

theorem rest_wellFounded : WellFounded (Rest : Program σ α → Program σ α → Prop) := by
  constructor
  intro p
  induction p with
  | done a => exact ⟨_, fun _ rest => by cases rest⟩
  | fault => exact ⟨_, fun _ rest => by cases rest⟩
  | step enabled effect next ih =>
      constructor
      rintro _ ⟨⟩
      exact ih _

theorem rest_of_advance {p q : Program σ Unit} {s t : σ} (stepped : p.advance s = some (q, t)) : Rest q p := by
  cases p with
  | done _ | fault => cases stepped
  | step enabled effect next =>
      simp only [advance, Option.ite_none_right_eq_some, Option.some.injEq, Prod.mk.injEq] at stepped
      obtain ⟨-, rfl, -⟩ := stepped
      exact .step enabled effect next s

/-- `p` run alone from `s` passes `t`, where `q` is what is left of it. -/
inductive Leads : Program σ Unit → σ → Program σ Unit → σ → Prop
  | refl (p : Program σ Unit) (s : σ) : Leads p s p s
  | step {p q r : Program σ Unit} {s t u : σ} (before : Leads p s q t) (advanced : q.advance t = some (r, u)) :
      Leads p s r u

theorem Leads.alone {p q : Program σ Unit} {s t : σ} (leads : Leads p s q t) : q.alone t = p.alone s := by
  induction leads with
  | refl => rfl
  | step _ advanced ih => exact (alone_advance advanced).trans ih

/-- `P` holds of every state that the program passes when it runs alone. -/
def Always (P : σ → Prop) : Program σ α → σ → Prop
  | .done _, s | .fault, s => P s
  | .step enabled effect next, s => P s ∧ (enabled s = true → (next s).Always P (effect s))

theorem Always.now {P : σ → Prop} {p : Program σ α} {s : σ} (always : p.Always P s) : P s := by
  cases p with
  | done _ | fault => exact always
  | step _ _ _ => exact always.1

theorem Always.leads {P : σ → Prop} {p q : Program σ Unit} {s t : σ} (always : p.Always P s)
    (leads : Leads p s q t) : q.Always P t := by
  induction leads with
  | refl => exact always
  | @step q _ _ _ _ _ advanced before =>
      have here := before always
      cases q with
      | done _ | fault => cases advanced
      | step enabled effect next =>
          simp only [advance, Option.ite_none_right_eq_some, Option.some.injEq, Prod.mk.injEq] at advanced
          obtain ⟨ready, rfl, rfl⟩ := advanced
          exact here.2 ready

end Program

/-- The calls made so far, in the order in which they were made, each with what is left of it. -/
structure Pool (σ ω : Type) where
  shared : σ
  calls : List (ω × Program σ Unit) := []

namespace Pool
variable {σ ω : Type}

inductive Event (ω : Type)
  | call (op : ω)
  | step (k : Nat)

def Event.called : Event ω → Option ω
  | .call op => some op
  | .step _ => none

def Returned (c : Pool σ ω) (k : Nat) : Prop := ∃ op, c.calls[k]? = some (op, .done ())

def AllReturned (c : Pool σ ω) : Prop := ∀ entry ∈ c.calls, entry.2 = .done ()

end Pool

/-- Operations on a state under one mutex, which each takes first and frees last. -/
structure Monitor (σ ω : Type) where
  held : σ → Bool
  program : ω → Program σ Unit
  guarded : ∀ op, (program op).Guarded held

namespace Monitor
variable {σ ω : Type} (m : Monitor σ ω)

def next (c : Pool σ ω) : Pool.Event ω → Option (Pool σ ω)
  | .call op => some { c with calls := c.calls ++ [(op, m.program op)] }
  | .step k => do
      let (op, p) ← c.calls[k]?
      let (q, s) ← p.advance c.shared
      return ⟨s, c.calls.set k (op, q)⟩

abbrev Step (c : Pool σ ω) (e : Pool.Event ω) (d : Pool σ ω) : Prop := m.next c e = some d

/-- The calls of `order` one after the other. -/
def serial (s : σ) (order : List (Nat × ω)) : Option σ :=
  order.foldlM (fun s entry => ((m.program entry.2).alone s).map Prod.snd) s

variable {m}

theorem step_iff {c d : Pool σ ω} {k : Nat} : m.Step c (.step k) d ↔ ∃ op p q t,
    c.calls[k]? = some (op, p) ∧ p.advance c.shared = some (q, t) ∧ d = ⟨t, c.calls.set k (op, q)⟩ := by
  constructor
  · intro stepped
    obtain ⟨⟨op, p⟩, found, stepped⟩ := Option.bind_eq_some_iff.mp stepped
    obtain ⟨⟨q, t⟩, advanced, result⟩ := Option.bind_eq_some_iff.mp stepped
    exact ⟨op, p, q, t, found, advanced, (Option.some.inj result).symm⟩
  · rintro ⟨op, p, q, t, found, advanced, rfl⟩
    simp [Step, next, found, advanced]

theorem serial_concat (s : σ) (order : List (Nat × ω)) (k : Nat) (op : ω) :
    m.serial s (order ++ [(k, op)]) = (m.serial s order).bind fun t => ((m.program op).alone t).map Prod.snd := by
  simp [serial, List.foldlM_append]

/-- `through` have returned, `current` is the call that holds the mutex, and no other call has begun. -/
structure Serialized (m : Monitor σ ω) (start : σ) (c : Pool σ ω) (through : List (Nat × ω))
    (current : Option (Nat × ω)) : Prop where
  once : ((through ++ current.toList).map Prod.fst).Nodup
  returned : ∀ entry ∈ through, c.calls[entry.1]? = some (entry.2, .done ())
  waiting : ∀ k op p, c.calls[k]? = some (op, p) → k ∉ (through ++ current.toList).map Prod.fst →
    p = m.program op
  free : current = none → m.held c.shared = false ∧ m.serial start through = some c.shared
  inside : ∀ k op, current = some (k, op) → m.held c.shared = true ∧ ∃ p s, c.calls[k]? = some (op, p) ∧
    p.Inside m.held ∧ m.serial start through = some s ∧ (m.program op).Leads s p c.shared

namespace Serialized
variable {start : σ} {c d : Pool σ ω} {through : List (Nat × ω)} {current : Option (Nat × ω)}

theorem once_concat {k : Nat} {op : ω} :
    ((through ++ [(k, op)]).map Prod.fst).Nodup ↔ k ∉ through.map Prod.fst ∧ (through.map Prod.fst).Nodup := by
  rw [List.map_append, List.map_singleton, ← List.concat_eq_append, List.nodup_concat]

theorem initial (free : m.held start = false) : m.Serialized start ⟨start, []⟩ [] none where
  once := by simp
  returned := by simp
  waiting := by simp
  free _ := ⟨free, rfl⟩
  inside := by simp

theorem call (h : m.Serialized start c through current) (op : ω) :
    m.Serialized start { c with calls := c.calls ++ [(op, m.program op)] } through current := by
  have kept {k : Nat} {entry : ω × Program σ Unit} (found : c.calls[k]? = some entry) :
      (c.calls ++ [(op, m.program op)])[k]? = some entry := by
    obtain ⟨made, -⟩ := List.getElem?_eq_some_iff.mp found
    rw [List.getElem?_append_left made, found]
  refine ⟨h.once, fun entry member => kept (h.returned entry member), ?_, h.free, ?_⟩
  · intro k op' p found outside
    rcases Nat.lt_or_ge k c.calls.length with made | fresh
    · rw [List.getElem?_append_left made] at found
      exact h.waiting k op' p found outside
    · rw [List.getElem?_append_right fresh, List.getElem?_singleton] at found
      simp only [Option.ite_none_right_eq_some, Option.some.injEq, Prod.mk.injEq] at found
      obtain ⟨-, rfl, rfl⟩ := found
      rfl
  · intro k op' running
    obtain ⟨held, p, s, found, rest⟩ := h.inside k op' running
    exact ⟨held, p, s, kept found, rest⟩

/-- Only the call that holds the mutex steps, or when there is none a call that has not begun. -/
theorem stepper (h : m.Serialized start c through current) {k : Nat} {op : ω} {p q : Program σ Unit} {t : σ}
    (found : c.calls[k]? = some (op, p)) (advanced : p.advance c.shared = some (q, t)) :
    current = none ∧ p = m.program op ∧ k ∉ through.map Prod.fst ∨ current = some (k, op) := by
  have unfinished : k ∉ through.map Prod.fst := by
    intro member
    obtain ⟨entry, returned, rfl⟩ := List.mem_map.mp member
    have ended := h.returned entry returned
    rw [found, Option.some.injEq, Prod.mk.injEq] at ended
    rw [ended.2] at advanced
    cases advanced
  cases current with
  | none => exact .inl ⟨rfl, h.waiting k op p found (by simpa using unfinished), unfinished⟩
  | some running =>
      obtain ⟨l, op'⟩ := running
      obtain ⟨held, p', -, found', -⟩ := h.inside l op' rfl
      by_cases same : k = l
      · subst same
        rw [found, Option.some.injEq, Prod.mk.injEq] at found'
        exact .inr (by rw [found'.1])
      · -- The mutex is held, so a call that has not begun has to wait.
        have waiting := h.waiting k op p found (by simpa [same] using unfinished)
        rw [waiting] at advanced
        have free := ((m.guarded op).advance advanced).1
        rw [held] at free
        cases free

theorem returned_set (h : m.Serialized start c through current) {k : Nat} (outside : k ∉ through.map Prod.fst)
    (entry : ω × Program σ Unit) : ∀ e ∈ through, (c.calls.set k entry)[e.1]? = some (e.2, .done ()) := by
  intro e member
  have other : k ≠ e.1 := by
    rintro rfl
    exact outside (List.mem_map_of_mem member)
  rw [List.getElem?_set_ne other]
  exact h.returned e member

theorem waiting_set {k : Nat} {op : ω} {p : Program σ Unit} {began : List Nat}
    (waiting : ∀ l op' p', c.calls[l]? = some (op', p') → l ∉ began → p' = m.program op')
    {later : List Nat} (grows : ∀ l ∈ began, l ∈ later) (own : k ∈ later) :
    ∀ l op' p', (c.calls.set k (op, p))[l]? = some (op', p') → l ∉ later → p' = m.program op' := by
  intro l op' p' found outside
  have other : k ≠ l := by
    rintro rfl
    exact outside own
  rw [List.getElem?_set_ne other] at found
  exact waiting l op' p' found fun member => outside (grows l member)

theorem step (h : m.Serialized start c through current) {k : Nat} (stepped : m.Step c (.step k) d) :
    ∃ through' current', m.Serialized start d through' current' ∧
      through ++ current.toList <+: through' ++ current'.toList := by
  obtain ⟨op, p, q, t, found, advanced, rfl⟩ := step_iff.mp stepped
  obtain ⟨made, -⟩ := List.getElem?_eq_some_iff.mp found
  have set : (c.calls.set k (op, q))[k]? = some (op, q) := List.getElem?_set_self made
  rcases h.stepper found advanced with ⟨rfl, rfl, outside⟩ | rfl
  · obtain ⟨-, held, inside⟩ := (m.guarded op).advance advanced
    obtain ⟨-, serial⟩ := h.free rfl
    have waiting := h.waiting
    rw [Option.toList_none, List.append_nil] at waiting
    refine ⟨through, some (k, op), ⟨?_, h.returned_set outside _, ?_, by simp, ?_⟩, by simp⟩
    · have once := h.once
      rw [Option.toList_none, List.append_nil] at once
      exact once_concat.mpr ⟨outside, once⟩
    · refine waiting_set waiting (fun l member => ?_) (by simp)
      rw [List.map_append]
      exact List.mem_append_left _ member
    · intro l op' running
      obtain ⟨rfl, rfl⟩ := Prod.mk.inj (Option.some.inj running)
      exact ⟨held, q, c.shared, set, inside, serial, .step (.refl _ _) advanced⟩
  · obtain ⟨held, p', s, found', inside, serial, leads⟩ := h.inside k op rfl
    obtain rfl := (Prod.mk.inj (Option.some.inj (found.symm.trans found'))).2
    have once := h.once
    have outside := (once_concat.mp once).1
    have leads' := leads.step advanced
    rcases inside.advance advanced with ⟨kept, inside'⟩ | ⟨freed, rfl⟩
    · refine ⟨through, some (k, op), ⟨once, h.returned_set outside _, ?_, by simp, ?_⟩, List.prefix_refl _⟩
      · exact waiting_set h.waiting (fun _ member => member) (by simp)
      · intro l op' running
        obtain ⟨rfl, rfl⟩ := Prod.mk.inj (Option.some.inj running)
        exact ⟨kept.trans held, q, s, set, inside', serial, leads'⟩
    · refine ⟨through ++ [(k, op)], none, ⟨by simpa using once, ?_, ?_, ?_, by simp⟩, by simp⟩
      · intro e member
        rcases List.mem_append.mp member with earlier | own
        · exact h.returned_set outside _ e earlier
        · rw [List.mem_singleton.mp own]
          exact set
      · exact waiting_set h.waiting (fun _ member => by simpa using member) (by simp)
      · intro _
        refine ⟨freed, ?_⟩
        rw [serial_concat, serial, Option.bind_some, ← leads'.alone]
        rfl

theorem returned_mem (h : m.Serialized start c through current) {k : Nat} (returned : c.Returned k) :
    k ∈ (through ++ current.toList).map Prod.fst := by
  obtain ⟨op, found⟩ := returned
  by_contra outside
  have unfinished := h.waiting k op _ found outside
  have guarded := m.guarded op
  rw [← unfinished] at guarded
  cases guarded

theorem made (h : m.Serialized start c through current) :
    ∀ entry ∈ through ++ current.toList, ∃ p, c.calls[entry.1]? = some (entry.2, p) := by
  intro entry member
  rcases List.mem_append.mp member with returned | running
  · exact ⟨_, h.returned entry returned⟩
  · obtain ⟨-, p, -, found, -⟩ := h.inside entry.1 entry.2 (Option.mem_toList.mp running)
    exact ⟨p, found⟩

theorem made_lt (h : m.Serialized start c through current) :
    ∀ k ∈ (through ++ current.toList).map Prod.fst, k < c.calls.length := by
  intro k member
  obtain ⟨entry, listed, rfl⟩ := List.mem_map.mp member
  obtain ⟨p, found⟩ := h.made entry listed
  exact (List.getElem?_eq_some_iff.mp found).1

theorem of_run (free : m.held start = false) {es : List (Pool.Event ω)} (run : Run m.Step ⟨start, []⟩ es c) :
    ∃ through current, m.Serialized start c through current ∧ ∀ past, past <+: es → ∀ d,
      Run m.Step ⟨start, []⟩ past d → ∃ through' current', m.Serialized start d through' current' ∧
        through' ++ current'.toList <+: through ++ current.toList := by
  have deterministic : ∀ c e d d', m.Step c e d → m.Step c e d' → d = d' :=
    fun c e d d' one other => Option.some.inj (one.symm.trans other)
  refine Run.invariant (fun es c => ∃ through current, m.Serialized start c through current ∧ ∀ past,
    past <+: es → ∀ d, Run m.Step ⟨start, []⟩ past d → ∃ through' current', m.Serialized start d through' current' ∧
      through' ++ current'.toList <+: through ++ current.toList) ?_ ?_ run
  · refine ⟨[], none, initial free, fun past le d run => ?_⟩
    obtain rfl := List.prefix_nil.mp le
    obtain rfl := Run.nil_iff.mp run
    exact ⟨[], none, initial free, List.prefix_refl _⟩
  · rintro past m' e d before ⟨through, current, h, earlier⟩ stepped
    obtain ⟨through', current', h', grows⟩ : ∃ through' current', m.Serialized start d through' current' ∧
        through ++ current.toList <+: through' ++ current'.toList := by
      cases e with
      | call op =>
          obtain rfl := Option.some.inj stepped
          exact ⟨through, current, h.call op, List.prefix_refl _⟩
      | step k => exact h.step stepped
    refine ⟨through', current', h', fun past' le d' run' => ?_⟩
    rcases List.prefix_concat_iff.mp le with rfl | le
    · rw [Run.unique deterministic run' (Run.concat_iff.mpr ⟨m', before, stepped⟩)]
      exact ⟨through', current', h', List.prefix_refl _⟩
    · obtain ⟨through'', current'', h'', le'⟩ := earlier past' le d' run'
      exact ⟨through'', current'', h'', le'.trans grows⟩

end Serialized

/-- One after the other the calls of `order` lead to the state that the run has come to, where the last of
them is under way while the mutex is held; what had returned at some moment comes before what was called
after it. -/
structure Linearizes (m : Monitor σ ω) (start : σ) (es : List (Pool.Event ω)) (c : Pool σ ω)
    (order : List (Nat × ω)) : Prop where
  once : (order.map Prod.fst).Nodup
  made : ∀ entry ∈ order, ∃ p, c.calls[entry.1]? = some (entry.2, p)
  returned : ∀ k, c.Returned k → k ∈ order.map Prod.fst
  realTime : ∀ past, past <+: es → ∀ d, Run m.Step ⟨start, []⟩ past d → ∃ early, early <+: order ∧
    (∀ k, d.Returned k → k ∈ early.map Prod.fst) ∧ ∀ k ∈ early.map Prod.fst, k < d.calls.length
  settled : m.held c.shared = false → m.serial start order = some c.shared ∧ ∀ entry ∈ order, c.Returned entry.1
  pending : m.held c.shared = true → ∃ before k op p s, order = before ++ [(k, op)] ∧
    c.calls[k]? = some (op, p) ∧ p ≠ .done () ∧ m.serial start before = some s ∧
    (m.program op).Leads s p c.shared ∧ ∀ entry ∈ before, c.Returned entry.1

theorem linearize {start : σ} (free : m.held start = false) {es : List (Pool.Event ω)} {c : Pool σ ω}
    (run : Run m.Step ⟨start, []⟩ es c) : ∃ order, m.Linearizes start es c order := by
  obtain ⟨through, current, h, earlier⟩ := Serialized.of_run free run
  refine ⟨through ++ current.toList, h.once, h.made, fun k => h.returned_mem, ?_, ?_, ?_⟩
  · intro past le d run'
    obtain ⟨through', current', h', le'⟩ := earlier past le d run'
    exact ⟨_, le', fun k => h'.returned_mem, h'.made_lt⟩
  · intro unheld
    cases current with
    | none =>
        rw [Option.toList_none, List.append_nil]
        exact ⟨(h.free rfl).2, fun entry member => ⟨entry.2, h.returned entry member⟩⟩
    | some running =>
        have held := (h.inside running.1 running.2 rfl).1
        rw [unheld] at held
        cases held
  · intro held
    cases current with
    | none =>
        have unheld := (h.free rfl).1
        rw [held] at unheld
        cases unheld
    | some running =>
        obtain ⟨-, p, s, found, inside, serial, leads⟩ := h.inside running.1 running.2 rfl
        refine ⟨through, running.1, running.2, p, s, rfl, found, ?_, serial, leads,
          fun entry member => ⟨entry.2, h.returned entry member⟩⟩
        rintro rfl
        cases inside

theorem run_calls {c d : Pool σ ω} {es : List (Pool.Event ω)} (run : Run m.Step c es d) :
    d.calls.map Prod.fst = c.calls.map Prod.fst ++ es.filterMap Pool.Event.called := by
  induction run with
  | nil c => simp
  | @cons c mid d e es first rest ih =>
      rw [ih]
      cases e with
      | call op =>
          obtain rfl := Option.some.inj first
          simp [Pool.Event.called]
      | step k =>
          obtain ⟨op, p, q, t, found, -, rfl⟩ := step_iff.mp first
          have same : (c.calls.set k (op, q)).map Prod.fst = c.calls.map Prod.fst := by
            apply List.ext_getElem?
            intro l
            by_cases own : k = l
            · subst own
              obtain ⟨made, -⟩ := List.getElem?_eq_some_iff.mp found
              rw [List.getElem?_map, List.getElem?_map, List.getElem?_set_self made, found]
              rfl
            · rw [List.getElem?_map, List.getElem?_map, List.getElem?_set_ne own]
          rw [same]
          rfl

/-- When the calls of a kind have returned before `op` is called, and no more of them are made, `op` is the
last of its kind. -/
theorem Linearizes.last_of_kind (Kind : ω → Prop) {start : σ} {past later : List (Pool.Event ω)} {op : ω}
    {c d : Pool σ ω} {order : List (Nat × ω)} (h : m.Linearizes start (past ++ .call op :: later) c order)
    (run : Run m.Step ⟨start, []⟩ past d) (run' : Run m.Step d (.call op :: later) c)
    (through : ∀ entry ∈ d.calls, Kind entry.1 → entry.2 = .done ())
    (others : ∀ op' ∈ later.filterMap Pool.Event.called, ¬Kind op') (returned : c.Returned d.calls.length) :
    ∃ earlier rest, order = earlier ++ (d.calls.length, op) :: rest ∧ ∀ entry ∈ rest, ¬Kind entry.2 := by
  have names := run_calls run'
  obtain ⟨early, ⟨late, rfl⟩, returnedEarly, madeEarly⟩ := h.realTime past (by simp) d run
  have name (k : Nat) (op' : ω) (member : (k, op') ∈ early ++ late) : (d.calls.map Prod.fst ++
      op :: later.filterMap Pool.Event.called)[k]? = some op' := by
    obtain ⟨p, found⟩ := h.made _ member
    have same : (c.calls.map Prod.fst)[k]? = some op' := by rw [List.getElem?_map, found]; rfl
    rw [names] at same
    exact same
  obtain ⟨⟨k, op'⟩, member, own⟩ := List.mem_map.mp (h.returned _ returned)
  obtain rfl : k = d.calls.length := own
  obtain rfl : op = op' := by simpa using name _ _ member
  have late' : (d.calls.length, op) ∈ late := by
    refine (List.mem_append.mp member).resolve_left fun earlier => ?_
    exact absurd (madeEarly _ (List.mem_map_of_mem earlier)) (Nat.lt_irrefl _)
  obtain ⟨between, rest, rfl⟩ := List.append_of_mem late'
  have once := h.once
  rw [List.map_append, List.map_append, List.map_cons] at once
  refine ⟨early ++ between, rest, by simp, ?_⟩
  rintro ⟨l, op'⟩ last kind
  have called := name l op' (by simp [last])
  have last' := List.mem_map_of_mem (f := Prod.fst) last
  rcases Nat.lt_trichotomy l d.calls.length with before | rfl | after
  · -- Called before, so it had returned and is among the early calls.
    rw [List.getElem?_append_left (by simpa using before), List.getElem?_map] at called
    obtain ⟨⟨_, p⟩, found, rfl⟩ := Option.map_eq_some_iff.mp called
    have ended : p = .done () := through _ (List.mem_of_getElem? found) kind
    have twice := returnedEarly l ⟨_, ended ▸ found⟩
    have apart := (List.nodup_append.mp once).2.2
    exact apart l twice l (by simp only [List.mem_append, List.mem_cons, last', or_true]) rfl
  · exact (List.nodup_cons.mp (List.nodup_append.mp (List.nodup_append.mp once).2.1).2.1).1 last'
  · obtain ⟨n, rfl⟩ := Nat.exists_eq_add_of_lt after
    rw [List.getElem?_append_right (by simp; omega), List.length_map, Nat.add_assoc, Nat.add_sub_cancel_left,
      List.getElem?_cons_succ] at called
    exact others op' (List.mem_of_getElem? called) kind

theorem cutExpand_set {α : Type} {r : α → α → Prop} {xs : List α} {k : Nat} {x y : α} (found : xs[k]? = some x)
    (less : r y x) : Relation.CutExpand r (xs.set k y : Multiset α) (xs : Multiset α) := by
  obtain ⟨made, own⟩ := List.getElem?_eq_some_iff.mp found
  obtain ⟨before, after, split, -, set⟩ : ∃ before after, xs = before ++ xs[k] :: after ∧ before.length = k ∧
    xs.set k y = before ++ y :: after := List.exists_of_set made
  refine ⟨{y}, x, by simpa using less, ?_⟩
  rw [set, split, own]
  simp only [← Multiset.coe_add, ← Multiset.cons_coe, Multiset.add_cons, Multiset.add_comm _ {_},
    Multiset.singleton_add]
  exact Multiset.cons_swap y x _

/-- Steps alone come to an end. -/
theorem steps_wellFounded : WellFounded fun d c : Pool σ ω => ∃ k, m.Step c (.step k) d := by
  have order : WellFounded (InvImage (Relation.CutExpand Program.Rest)
      fun c : Pool σ ω => ((c.calls.map Prod.snd : List (Program σ Unit)) : Multiset (Program σ Unit))) :=
    InvImage.wf _ Program.rest_wellFounded.cutExpand
  refine Subrelation.wf (fun {d c} => ?_) order
  rintro ⟨k, stepped⟩
  obtain ⟨op, p, q, t, found, advanced, rfl⟩ := step_iff.mp stepped
  rw [InvImage, List.map_set]
  exact cutExpand_set (by rw [List.getElem?_map, found]; rfl) (Program.rest_of_advance advanced)

/-- An operation that finds the mutex free and runs alone has the effect `after`. -/
def Performs (m : Monitor σ ω) (Inv : σ → Prop) (after : σ → ω → σ) : Prop :=
  ∀ op s, m.held s = false → Inv s →
    (m.program op).alone s = some ((), after s op) ∧ m.held (after s op) = false ∧ Inv (after s op)

section
variable {Inv : σ → Prop} {after : σ → ω → σ} (performs : m.Performs Inv after)

include performs

theorem Performs.serial {s : σ} (free : m.held s = false) (inv : Inv s) (order : List (Nat × ω)) :
    m.serial s order = some (order.foldl (fun s entry => after s entry.2) s) ∧
      m.held (order.foldl (fun s entry => after s entry.2) s) = false ∧
      Inv (order.foldl (fun s entry => after s entry.2) s) := by
  induction order generalizing s with
  | nil => exact ⟨rfl, free, inv⟩
  | cons entry order ih =>
      obtain ⟨alone, free', inv'⟩ := performs entry.2 s free inv
      rw [Monitor.serial, List.foldlM_cons, alone]
      exact ih free' inv'

theorem Performs.inv {start s : σ} (free : m.held start = false) (inv : Inv start) {order : List (Nat × ω)}
    (ran : m.serial start order = some s) : m.held s = false ∧ Inv s := by
  obtain ⟨serial, after⟩ := performs.serial free inv order
  obtain rfl := Option.some.inj (serial.symm.trans ran)
  exact after

/-- What holds throughout every operation that runs alone holds at every moment. -/
theorem Performs.always {P : σ → Prop} (weaker : ∀ s, Inv s → P s)
    (during : ∀ op s, m.held s = false → Inv s → (m.program op).Always P s) {start : σ}
    (free : m.held start = false) (inv : Inv start) {es : List (Pool.Event ω)} {c : Pool σ ω}
    (run : Run m.Step ⟨start, []⟩ es c) : P c.shared := by
  obtain ⟨through, current, h, -⟩ := Serialized.of_run free run
  cases current with
  | none => exact weaker _ (performs.inv free inv (h.free rfl).2).2
  | some running =>
      obtain ⟨-, p, s, -, -, serial, leads⟩ := h.inside running.1 running.2 rfl
      obtain ⟨free', inv'⟩ := performs.inv free inv serial
      exact ((during running.2 s free' inv').leads leads).now

theorem Performs.no_deadlock {start : σ} (free : m.held start = false) (inv : Inv start)
    {es : List (Pool.Event ω)} {c : Pool σ ω} (run : Run m.Step ⟨start, []⟩ es c) :
    (∀ entry ∈ c.calls, entry.2 ≠ .fault) ∧ (c.AllReturned ∨ ∃ k d, m.Step c (.step k) d) := by
  obtain ⟨through, current, h, -⟩ := Serialized.of_run free run
  have stepped {k : Nat} {op : ω} {p : Program σ Unit} (found : c.calls[k]? = some (op, p))
      (ready : ∃ r, p.advance c.shared = some r) : ∃ k d, m.Step c (.step k) d := by
    obtain ⟨⟨q, t⟩, advanced⟩ := ready
    exact ⟨k, _, step_iff.mpr ⟨op, p, q, t, found, advanced, rfl⟩⟩
  have running {k : Nat} {op : ω} (current_eq : current = some (k, op)) :
      ∃ p, c.calls[k]? = some (op, p) ∧ p.Inside m.held ∧ p ≠ .fault := by
    obtain ⟨-, p, s, found, inside, serial, leads⟩ := h.inside k op current_eq
    obtain ⟨free', inv'⟩ := performs.inv free inv serial
    obtain ⟨alone, -⟩ := performs op s free' inv'
    refine ⟨p, found, inside, ?_⟩
    rintro rfl
    have ended := leads.alone
    rw [alone] at ended
    cases ended
  have known {k : Nat} {op : ω} {p : Program σ Unit} (found : c.calls[k]? = some (op, p)) :
      p = .done () ∨ p = m.program op ∨ current = some (k, op) := by
    by_cases began : k ∈ (through ++ current.toList).map Prod.fst
    · obtain ⟨⟨_, op'⟩, member, rfl⟩ := List.mem_map.mp began
      rcases List.mem_append.mp member with returned | own
      · have ended := h.returned _ returned
        rw [found, Option.some.injEq, Prod.mk.injEq] at ended
        exact .inl ended.2
      · have own := Option.mem_toList.mp own
        obtain ⟨-, p', s, found', -⟩ := h.inside _ _ own
        rw [found, Option.some.injEq, Prod.mk.injEq] at found'
        exact .inr (.inr (by rw [found'.1]; exact own))
    · exact .inr (.inl (h.waiting k op p found began))
  constructor
  · rintro ⟨op, p⟩ member
    obtain ⟨k, found⟩ := List.mem_iff_getElem?.mp member
    rcases known found with rfl | rfl | own
    · simp
    · exact (m.guarded op).ne_fault
    · obtain ⟨p', found', -, sound⟩ := running own
      obtain rfl := (Prod.mk.inj (Option.some.inj (found.symm.trans found'))).2
      exact sound
  · cases current with
    | some own =>
        obtain ⟨p, found, inside, sound⟩ := running (show some own = some (own.1, own.2) from rfl)
        exact .inr (stepped found (inside.ready sound c.shared))
    | none =>
        by_cases all : c.AllReturned
        · exact .inl all
        · obtain ⟨⟨op, p⟩, member, unfinished⟩ : ∃ entry ∈ c.calls, entry.2 ≠ .done () := by
            simpa [Pool.AllReturned] using all
          obtain ⟨k, found⟩ := List.mem_iff_getElem?.mp member
          rcases known found with rfl | rfl | own
          · exact absurd rfl unfinished
          · exact .inr (stepped found ((m.guarded op).ready (h.free rfl).1))
          · cases own

end

theorem steps_end (f : Nat → Pool σ ω) : ∃ n, ∀ k, ¬ m.Step (f n) (.step k) (f (n + 1)) := by
  have : IsWellFounded (Pool σ ω) fun d c => ∃ k, m.Step c (.step k) d := ⟨steps_wellFounded⟩
  obtain ⟨n, last⟩ := WellFounded.not_rel_apply_succ (r := fun d c : Pool σ ω => ∃ k, m.Step c (.step k) d) f
  exact ⟨n, fun k stepped => last ⟨k, stepped⟩⟩

end Monitor
end Library
