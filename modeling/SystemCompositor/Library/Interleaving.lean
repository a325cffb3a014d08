import SystemCompositor.Library.Run

namespace Library

/-- A thread over a shared state: each step waits until it is enabled, is atomic, and decides what
comes next from the state it finds. -/
inductive Program (σ : Type) (α : Type)
  | done (result : α)
  | fault
  | step (enabled : σ → Bool) (effect : σ → σ) (next : σ → Program σ α)

namespace Program
variable {σ α β : Type}

def bind : Program σ α → (α → Program σ β) → Program σ β
  | .done a, f => f a
  | .fault, _ => .fault
  | .step enabled effect next, f => .step enabled effect fun s => (next s).bind f

instance : Monad (Program σ) where
  pure := .done
  bind := .bind

def read (look : σ → α) : Program σ α := .step (fun _ => true) id fun s => .done (look s)

def change (effect : σ → σ) : Program σ Unit := .step (fun _ => true) effect fun _ => .done ()

def await (enabled : σ → Bool) (effect : σ → σ) : Program σ Unit := .step enabled effect fun _ => .done ()

def alone : Program σ α → σ → Option (α × σ)
  | .done a, s => some (a, s)
  | .fault, _ => none
  | .step enabled effect next, s => if enabled s then (next s).alone (effect s) else none

@[simp] theorem alone_pure (a : α) (s : σ) : (pure a : Program σ α).alone s = some (a, s) := rfl

@[simp] theorem alone_read (look : σ → α) (s : σ) : (read look).alone s = some (look s, s) := rfl

@[simp] theorem alone_change (effect : σ → σ) (s : σ) : (change effect).alone s = some ((), effect s) := rfl

@[simp] theorem alone_await {enabled : σ → Bool} {s : σ} (ready : enabled s = true) (effect : σ → σ) :
    (await enabled effect).alone s = some ((), effect s) := by
  simp [await, alone, ready]

@[simp] theorem alone_bind (p : Program σ α) (f : α → Program σ β) (s : σ) :
    (p >>= f).alone s = (p.alone s).bind fun r => (f r.1).alone r.2 := by
  induction p generalizing s with
  | done a => rfl
  | fault => rfl
  | step enabled effect next ih =>
      change (if enabled s then ((next s) >>= f).alone (effect s) else none) = _
      rw [alone]
      split_ifs
      · exact ih s (effect s)
      · rfl

@[simp] theorem alone_ite (c : Prop) [Decidable c] (p q : Program σ α) (s : σ) :
    (if c then p else q).alone s = if c then p.alone s else q.alone s := by
  split_ifs <;> rfl

theorem alone_forM {γ : Type} (body : γ → Program σ PUnit) (visit : σ → γ → σ) (Inv : σ → Prop) (xs : List γ)
    (one : ∀ x ∈ xs, ∀ s, Inv s → (body x).alone s = some ((), visit s x) ∧ Inv (visit s x))
    {s : σ} (inv : Inv s) : (xs.forM body).alone s = some ((), xs.foldl visit s) := by
  induction xs generalizing s with
  | nil => rfl
  | cons x xs ih =>
      obtain ⟨first, inv'⟩ := one x (by simp) s inv
      rw [List.forM_eq_forM, List.forM_cons, alone_bind, first]
      exact ih (fun y member => one y (by simp [member])) inv'

def Finished : Program σ Unit → Prop
  | .done _ => True
  | .fault | .step _ _ _ => False

instance : (p : Program σ Unit) → Decidable p.Finished
  | .done _ => inferInstanceAs (Decidable True)
  | .fault | .step _ _ _ => inferInstanceAs (Decidable False)

theorem Finished.eq_done {p : Program σ Unit} (finished : p.Finished) : p = .done () := by
  cases p with
  | done a => rfl
  | fault | step _ _ _ => cases finished

def advance (p : Program σ Unit) (s : σ) : Option (Program σ Unit × σ) :=
  match p with
  | .done _ | .fault => none
  | .step enabled effect next => if enabled s then some (next s, effect s) else none

theorem alone_advance {p q : Program σ Unit} {s t : σ} (stepped : p.advance s = some (q, t)) :
    q.alone t = p.alone s := by
  cases p with
  | done _ | fault => cases stepped
  | step enabled effect next =>
      simp only [advance, Option.ite_none_right_eq_some, Option.some.injEq, Prod.mk.injEq] at stepped
      obtain ⟨ready, rfl, rfl⟩ := stepped
      rw [alone, if_pos ready]

/-- What `k` steps of `p`, with no other thread in between, leave to do, and the state they leave. -/
def advances (p : Program σ Unit) (s : σ) : Nat → Option (Program σ Unit × σ)
  | 0 => some (p, s)
  | k + 1 => (p.advances s k).bind fun r => r.1.advance r.2

theorem advances_succ {p q r : Program σ Unit} {s t u : σ} {k : Nat} (before : p.advances s k = some (q, t))
    (stepped : q.advance t = some (r, u)) : p.advances s (k + 1) = some (r, u) := by
  rw [advances, before]
  exact stepped

theorem advances_succ_iff {p r : Program σ Unit} {s u : σ} {k : Nat} :
    p.advances s (k + 1) = some (r, u) ↔ ∃ q t, p.advances s k = some (q, t) ∧ q.advance t = some (r, u) := by
  simp [advances, Option.bind_eq_some_iff]

theorem alone_advances {p q : Program σ Unit} {s t : σ} {k : Nat} (advanced : p.advances s k = some (q, t)) :
    q.alone t = p.alone s := by
  induction k generalizing q t with
  | zero =>
      obtain ⟨rfl, rfl⟩ := Prod.mk.inj (Option.some.inj advanced)
      rfl
  | succ k ih =>
      obtain ⟨m, u, before, stepped⟩ := advances_succ_iff.mp advanced
      rw [alone_advance stepped, ih before]

/-- No step of `p` looks at what `touch` changes, or changes it. -/
inductive Blind (touch : σ → σ) : Program σ α → Prop
  | done (a : α) : Blind touch (.done a)
  | fault : Blind touch .fault
  | step {enabled : σ → Bool} {effect : σ → σ} {next : σ → Program σ α}
      (ready : ∀ s, enabled (touch s) = enabled s) (commutes : ∀ s, effect (touch s) = touch (effect s))
      (same : ∀ s, next (touch s) = next s) (later : ∀ s, Blind touch (next s)) :
      Blind touch (.step enabled effect next)

/-- At most one step of `p` looks at what `touch` changes, and none changes it. -/
inductive LooksOnce (touch : σ → σ) : Program σ α → Prop
  | blind {p : Program σ α} (blind : Blind touch p) : LooksOnce touch p
  | look {enabled : σ → Bool} {effect : σ → σ} {next : σ → Program σ α} (later : ∀ s, Blind touch (next s)) :
      LooksOnce touch (.step enabled effect next)
  | step {enabled : σ → Bool} {effect : σ → σ} {next : σ → Program σ α}
      (ready : ∀ s, enabled (touch s) = enabled s) (commutes : ∀ s, effect (touch s) = touch (effect s))
      (same : ∀ s, next (touch s) = next s) (later : ∀ s, LooksOnce touch (next s)) :
      LooksOnce touch (.step enabled effect next)

section Touch
variable {touch : σ → σ}

theorem Blind.read {look : σ → α} (same : ∀ s, look (touch s) = look s) : Blind touch (Program.read look) :=
  .step (fun _ => rfl) (fun _ => rfl) (fun s => by rw [same]) fun _ => .done _

theorem Blind.change {effect : σ → σ} (commutes : ∀ s, effect (touch s) = touch (effect s)) :
    Blind touch (Program.change effect) :=
  .step (fun _ => rfl) commutes (fun _ => rfl) fun _ => .done _

theorem Blind.await {enabled : σ → Bool} {effect : σ → σ} (ready : ∀ s, enabled (touch s) = enabled s)
    (commutes : ∀ s, effect (touch s) = touch (effect s)) : Blind touch (Program.await enabled effect) :=
  .step ready commutes (fun _ => rfl) fun _ => .done _

theorem Blind.bind {p : Program σ α} {f : α → Program σ β} (first : Blind touch p) (rest : ∀ a, Blind touch (f a)) :
    Blind touch (p >>= f) := by
  induction first with
  | done a => exact rest a
  | fault => exact .fault
  | step ready commutes same _ ih => exact .step ready commutes (fun s => by rw [same]) ih

theorem Blind.ite {c : Prop} [Decidable c] {p q : Program σ α} (yes : Blind touch p) (no : Blind touch q) :
    Blind touch (if c then p else q) := by
  split_ifs
  · exact yes
  · exact no

theorem Blind.forM {γ : Type} {body : γ → Program σ PUnit} (one : ∀ x, Blind touch (body x)) (xs : List γ) :
    Blind touch (xs.forM body) := by
  induction xs with
  | nil => exact .done _
  | cons x xs ih => exact (one x).bind fun _ => ih

theorem Blind.advance {p : Program σ Unit} (blind : Blind touch p) (s : σ) :
    p.advance (touch s) = (p.advance s).map fun r => (r.1, touch r.2) := by
  cases blind with
  | done a => rfl
  | fault => rfl
  | step ready commutes same later =>
      simp only [Program.advance, ready, commutes, same]
      split_ifs <;> rfl

theorem Blind.later {p q : Program σ Unit} {s t : σ} (blind : Blind touch p)
    (stepped : p.advance s = some (q, t)) : Blind touch q := by
  cases blind with
  | done a => cases stepped
  | fault => cases stepped
  | step ready commutes same later =>
      simp only [Program.advance, Option.ite_none_right_eq_some, Option.some.injEq, Prod.mk.injEq] at stepped
      obtain ⟨-, rfl, -⟩ := stepped
      exact later s

theorem LooksOnce.bind {p : Program σ α} {f : α → Program σ β} (first : Blind touch p)
    (rest : ∀ a, LooksOnce touch (f a)) : LooksOnce touch (p >>= f) := by
  induction first with
  | done a => exact rest a
  | fault => exact .blind .fault
  | step ready commutes same _ ih => exact .step ready commutes (fun s => by rw [same]) ih

theorem LooksOnce.bind_blind {p : Program σ α} {f : α → Program σ β} (first : LooksOnce touch p)
    (rest : ∀ a, Blind touch (f a)) : LooksOnce touch (p >>= f) := by
  induction first with
  | blind blind => exact .blind (blind.bind rest)
  | look later => exact .look fun s => (later s).bind rest
  | step ready commutes same _ ih => exact .step ready commutes (fun s => by rw [same]) ih

theorem LooksOnce.read (look : σ → α) {f : α → Program σ β} (rest : ∀ a, Blind touch (f a)) :
    LooksOnce touch (Program.read look >>= f) := .look fun _ => rest _

theorem LooksOnce.ite {c : Prop} [Decidable c] {p q : Program σ α} (yes : LooksOnce touch p)
    (no : LooksOnce touch q) : LooksOnce touch (if c then p else q) := by
  split_ifs
  · exact yes
  · exact no

/-- Whether `touch` comes first makes no difference to steps that have not looked yet. -/
theorem LooksOnce.advances {p q : Program σ Unit} {s t : σ} {k : Nat} (once : LooksOnce touch p)
    (advanced : p.advances s k = some (q, t)) :
    Blind touch q ∨ p.advances (touch s) k = some (q, touch t) ∧ LooksOnce touch q := by
  induction k generalizing q t with
  | zero =>
      obtain ⟨rfl, rfl⟩ := Prod.mk.inj (Option.some.inj advanced)
      exact .inr ⟨rfl, once⟩
  | succ k ih =>
      obtain ⟨m, u, before, stepped⟩ := advances_succ_iff.mp advanced
      rcases ih before with blind | ⟨touched, again⟩
      · exact .inl (blind.later stepped)
      · cases again with
        | blind blind => exact .inl (blind.later stepped)
        | look later =>
            simp only [Program.advance, Option.ite_none_right_eq_some, Option.some.injEq, Prod.mk.injEq] at stepped
            obtain ⟨-, rfl, -⟩ := stepped
            exact .inl (later u)
        | step ready commutes same later =>
            simp only [Program.advance, Option.ite_none_right_eq_some, Option.some.injEq, Prod.mk.injEq] at stepped
            obtain ⟨enabled, rfl, rfl⟩ := stepped
            refine .inr ⟨advances_succ touched ?_, later u⟩
            simp [Program.advance, ready, enabled, same, commutes]

end Touch

/-- Every way through `p` has `last` as its end. -/
inductive EndsIn (last : Program σ Unit) : Program σ Unit → Prop
  | last : EndsIn last last
  | fault : EndsIn last .fault
  | step {enabled : σ → Bool} {effect : σ → σ} {next : σ → Program σ Unit} (later : ∀ s, EndsIn last (next s)) :
      EndsIn last (.step enabled effect next)

theorem EndsIn.bind {last : Program σ Unit} {f : α → Program σ Unit} (rest : ∀ a, EndsIn last (f a))
    (p : Program σ α) : EndsIn last (p >>= f) := by
  induction p with
  | done a => exact rest a
  | fault => exact .fault
  | step enabled effect next ih => exact .step ih

theorem EndsIn.ite {last : Program σ Unit} {c : Prop} [Decidable c] {p q : Program σ Unit} (yes : EndsIn last p)
    (no : EndsIn last q) : EndsIn last (if c then p else q) := by
  split_ifs
  · exact yes
  · exact no

theorem EndsIn.advance {effect : σ → σ} {p q : Program σ Unit} {s t : σ} (ends : EndsIn (change effect) p)
    (stepped : p.advance s = some (q, t)) : p = change effect ∧ q.Finished ∨ EndsIn (change effect) q := by
  cases ends with
  | last =>
      obtain ⟨rfl, -⟩ := Prod.mk.inj (Option.some.inj stepped)
      exact .inl ⟨rfl, trivial⟩
  | fault => cases stepped
  | step later =>
      simp only [Program.advance, Option.ite_none_right_eq_some, Option.some.injEq, Prod.mk.injEq] at stepped
      obtain ⟨-, rfl, -⟩ := stepped
      exact .inr (later s)

theorem EndsIn.advances {effect : σ → σ} {p q : Program σ Unit} {s t : σ} {k : Nat}
    (ends : EndsIn (change effect) p) (advanced : p.advances s k = some (q, t)) :
    q.Finished ∨ EndsIn (change effect) q := by
  induction k generalizing q t with
  | zero =>
      obtain ⟨rfl, rfl⟩ := Prod.mk.inj (Option.some.inj advanced)
      exact .inr ends
  | succ k ih =>
      obtain ⟨m, u, before, stepped⟩ := advances_succ_iff.mp advanced
      rcases ih before with finished | ends'
      · rw [finished.eq_done] at stepped
        cases stepped
      · exact (ends'.advance stepped).imp_left And.right

def LastStep (p : Program σ Unit) (s : σ) : Prop := ((p.advance s).any fun r => decide r.1.Finished) = true

instance (p : Program σ Unit) (s : σ) : Decidable (p.LastStep s) := inferInstanceAs (Decidable (_ = true))

theorem EndsIn.of_lastStep {effect : σ → σ} {p : Program σ Unit} {s : σ} (ends : EndsIn (change effect) p)
    (last : p.LastStep s) : p = change effect := by
  obtain ⟨⟨q, t⟩, stepped, finished⟩ := (Option.any_eq_true _ _).mp last
  rcases ends.advance stepped with ⟨same, -⟩ | later
  · exact same
  · have finished : q.Finished := of_decide_eq_true finished
    rw [finished.eq_done] at later
    cases later

end Program

inductive Side
  | left
  | right
deriving DecidableEq

def Side.other : Side → Side
  | .left => .right
  | .right => .left

@[simp] theorem Side.other_other (side : Side) : side.other.other = side := by cases side <;> rfl

structure Parallel (σ : Type) where
  shared : σ
  program : Side → Program σ Unit

namespace Parallel
variable {σ : Type}

def step (c : Parallel σ) (side : Side) : Option (Parallel σ) :=
  (c.program side).advance c.shared |>.map fun r =>
    ⟨r.2, fun s => if s = side then r.1 else c.program s⟩

abbrev Step (c : Parallel σ) (side : Side) (d : Parallel σ) : Prop := c.step side = some d

def run (c : Parallel σ) (schedule : List Side) : Option (Parallel σ) := schedule.foldlM step c

theorem run_iff {c d : Parallel σ} {schedule : List Side} :
    c.run schedule = some d ↔ Run Step c schedule d := run_of_foldlM_option

theorem step_inv {c d : Parallel σ} {side : Side} (stepped : c.Step side d) :
    (d.program side).alone d.shared = (c.program side).alone c.shared ∧
      d.program side.other = c.program side.other ∧ ¬(c.program side).Finished := by
  obtain ⟨⟨q, t⟩, advanced, rfl⟩ := Option.map_eq_some_iff.mp stepped
  refine ⟨?_, ?_, ?_⟩
  · simp [Program.alone_advance advanced]
  · cases side <;> simp [Side.other]
  · intro finished
    rw [finished.eq_done] at advanced
    cases advanced

/-- The right side changes the state by its first step and then has `q` to do. It does `q` in one go,
while the left side stands where `cut` allows it. -/
def Apart (cut : Nat → Program σ Unit → σ → Prop) (past : List Side) (c : Parallel σ) : Side → Prop
  | .left => past.count .right ≤ 1 ∨ (c.program .right).Finished
  | .right => past.count .right = 0 ∨ cut (past.count .left) (c.program .left) c.shared

instance (cut : Nat → Program σ Unit → σ → Prop) [∀ k p s, Decidable (cut k p s)] (past : List Side)
    (c : Parallel σ) : (side : Side) → Decidable (Apart cut past c side)
  | .left => inferInstanceAs (Decidable (_ ∨ _))
  | .right => inferInstanceAs (Decidable (_ ∨ _))

instance (cut : Nat → Program σ Unit → σ → Prop) [∀ k p s, Decidable (cut k p s)] (start : Parallel σ)
    (schedule : List Side) : Decidable (Along Step (Apart cut) start schedule) :=
  decideAlong step (fun _ _ _ => Iff.rfl) (Apart cut) start schedule

/-- `k` steps of `p` from `s`, with `touch` before the first of them or after the last, leave `q` to do
and the state `t`. -/
def Touched (p : Program σ Unit) (touch : σ → σ) (s : σ) (k : Nat) (q : Program σ Unit) (t : σ) : Prop :=
  p.advances (touch s) k = some (q, t) ∨
    ∃ u, p.advances s k = some (q, u) ∧ t = touch u ∧ Program.Blind touch q

/-- Where two threads that keep apart have come to: the right side's first step is still to come, or it
was the only one, or the right side is within `q`, or through with it. -/
inductive Phase (cut : Nat → Program σ Unit → σ → Prop) (touch : σ → σ) (p q : Program σ Unit) (s : σ)
    (past : List Side) (c : Parallel σ) : Prop
  | untouched (none : past.count .right = 0)
      (right : c.program .right = .step (fun _ => true) touch fun _ => q)
      (left : p.advances s (past.count .left) = some (c.program .left, c.shared))
  | touched (one : past.count .right = 1) (right : c.program .right = q)
      (left : Touched p touch s (past.count .left) (c.program .left) c.shared)
  | within (k : Nat) (t : σ) (many : 1 < past.count .right) (left : Touched p touch s k (c.program .left) t)
      (held : cut k (c.program .left) t) (right : (c.program .right).alone c.shared = q.alone t)
  | through (k : Nat) (r : Program σ Unit) (t u : σ) (many : 1 < past.count .right)
      (left : Touched p touch s k r t) (held : cut k r t) (right : q.alone t = some ((), u))
      (finished : (c.program .right).Finished) (rest : (c.program .left).alone c.shared = r.alone u)

section Phase
variable {cut : Nat → Program σ Unit → σ → Prop} {touch : σ → σ} {p q : Program σ Unit} {s : σ}

theorem Touched.advance {k : Nat} {m n : Program σ Unit} {t u : σ} (touched : Touched p touch s k m t)
    (stepped : m.advance t = some (n, u)) : Touched p touch s (k + 1) n u := by
  rcases touched with first | ⟨v, advanced, rfl, blind⟩
  · exact .inl (Program.advances_succ first stepped)
  · rw [blind.advance v] at stepped
    obtain ⟨⟨n', v'⟩, stepped', same⟩ := Option.map_eq_some_iff.mp stepped
    obtain ⟨rfl, rfl⟩ := Prod.mk.inj same
    exact .inr ⟨v', Program.advances_succ advanced stepped', rfl, blind.later stepped'⟩

theorem Phase.step {c d : Parallel σ} {past : List Side} {side : Side} (once : Program.LooksOnce touch p)
    (phase : Phase cut touch p q s past c) (apart : Apart cut past c side) (stepped : c.Step side d) :
    Phase cut touch p q s (past ++ [side]) d := by
  obtain ⟨⟨n, u⟩, advanced, rfl⟩ := Option.map_eq_some_iff.mp stepped
  obtain ⟨rest, -, unfinished⟩ := step_inv stepped
  cases phase with
  | untouched none right left =>
      cases side with
      | left =>
          refine .untouched (by simp [none]) right ?_
          simpa using Program.advances_succ left advanced
      | right =>
          rw [right] at advanced
          obtain ⟨rfl, rfl⟩ := Prod.mk.inj (Option.some.inj advanced)
          refine .touched (by simp [none]) (by simp) ?_
          rcases once.advances left with blind | ⟨touched, -⟩
          · exact .inr ⟨c.shared, by simpa using left, rfl, by simpa using blind⟩
          · exact .inl (by simpa using touched)
  | touched one right left =>
      cases side with
      | left =>
          refine .touched (by simp [one]) right ?_
          simpa using left.advance advanced
      | right =>
          have held : cut (past.count .left) (c.program .left) c.shared := by
            simpa [Apart, one] using apart
          refine .within (past.count .left) c.shared (by simp [one]) (by simpa using left) (by simpa using held) ?_
          rw [rest, right]
  | within k t many left held right =>
      cases side with
      | left =>
          have finished : (c.program .right).Finished := apart.resolve_left (by omega)
          rw [finished.eq_done] at right
          exact .through k (c.program .left) t c.shared (by simpa using many) left held right.symm finished rest
      | right => exact .within k t (by rw [List.count_append]; omega) left held (rest.trans right)
  | through k r t v many left held right finished rest' =>
      cases side with
      | left => exact .through k r t v (by simpa using many) left held right finished (rest.trans rest')
      | right => exact absurd finished unfinished

/-- Two threads that keep apart leave the state as a schedule does that takes the right side's first
step first or after some steps of the left one, then all that is left to the right side, and only
then what is left to the left one. -/
theorem apart_run {start c : Parallel σ} {schedule : List Side} (once : Program.LooksOnce touch p)
    (left : start.program .left = p) (right : start.program .right = .step (fun _ => true) touch fun _ => q)
    (apart : Along Step (Apart cut) start schedule) (run : Run Step start schedule c)
    (finished : ∀ side, (c.program side).Finished) :
    ∃ k r t u, Touched p touch start.shared k r t ∧ (cut k r t ∨ r.Finished) ∧ q.alone t = some ((), u) ∧
      r.alone u = some ((), c.shared) := by
  have phase : Phase cut touch p q start.shared schedule c := Along.invariant (Phase cut touch p q start.shared)
    (.untouched rfl right (by simp [Program.advances, left]))
    (fun _ _ _ _ _ phase allowed step => phase.step once allowed step) apart run
  have last {side : Side} {s : σ} {p : Option (Unit × σ)} (rest : (c.program side).alone s = p) :
      p = some ((), s) := by
    rw [← rest, (finished side).eq_done]
    rfl
  cases phase with
  | untouched none right _ =>
      have stuck := finished .right
      rw [right] at stuck
      cases stuck
  | touched one right left =>
      exact ⟨_, _, _, c.shared, left, .inr (finished .left), last (by rw [right]), last rfl⟩
  | within k t many left held right => exact ⟨k, _, t, c.shared, left, .inl held, last right, last rfl⟩
  | through k r t u many left held right _ rest => exact ⟨k, r, t, u, left, .inl held, right, last rest⟩

end Phase

end Parallel
end Library
