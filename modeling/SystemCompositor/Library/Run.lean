import Mathlib.Data.List.Infix

namespace Library
variable {σ ε : Type*}

inductive Run (Step : σ → ε → σ → Prop) : σ → List ε → σ → Prop
  | nil (s : σ) : Run Step s [] s
  | cons {s m t : σ} {e : ε} {es : List ε} : Step s e m → Run Step m es t → Run Step s (e :: es) t

variable {Step : σ → ε → σ → Prop}

theorem Run.nil_iff {s t : σ} : Run Step s [] t ↔ t = s := by
  constructor
  · rintro ⟨⟩
    rfl
  · rintro rfl
    exact .nil _

theorem Run.cons_iff {s t : σ} {e : ε} {es : List ε} :
    Run Step s (e :: es) t ↔ ∃ m, Step s e m ∧ Run Step m es t := by
  constructor
  · intro run
    cases run with
    | cons first rest => exact ⟨_, first, rest⟩
  · rintro ⟨m, first, rest⟩
    exact .cons first rest

theorem Run.append_iff {s t : σ} {es later : List ε} :
    Run Step s (es ++ later) t ↔ ∃ m, Run Step s es m ∧ Run Step m later t := by
  induction es generalizing s with
  | nil => simp [Run.nil_iff]
  | cons e es ih =>
      simp only [List.cons_append, Run.cons_iff, ih]
      constructor
      · rintro ⟨m, first, n, rest, last⟩
        exact ⟨n, ⟨m, first, rest⟩, last⟩
      · rintro ⟨n, ⟨m, first, rest⟩, last⟩
        exact ⟨m, first, n, rest, last⟩

theorem Run.concat_iff {s t : σ} {es : List ε} {e : ε} :
    Run Step s (es ++ [e]) t ↔ ∃ m, Run Step s es m ∧ Step m e t := by
  simp [Run.append_iff, Run.cons_iff, Run.nil_iff]

theorem Run.simulation {τ : Type*} {Step' : τ → ε → τ → Prop} (R : σ → τ → Prop) {es : List ε}
    (next : ∀ e ∈ es, ∀ s t s', R s t → Step s e s' → ∃ t', Step' t e t' ∧ R s' t')
    {s s' : σ} {t : τ} (start : R s t) (run : Run Step s es s') : ∃ t', Run Step' t es t' ∧ R s' t' := by
  induction run generalizing t with
  | nil s => exact ⟨t, .nil t, start⟩
  | @cons s m u e es first rest ih =>
      obtain ⟨m', first', related⟩ := next e (by simp) s t m start first
      obtain ⟨t', rest', last⟩ := ih (fun e member => next e (by simp [member])) related
      exact ⟨t', .cons first' rest', last⟩

/-- `Inv past s` may speak of the events that led to `s`. -/
theorem Run.invariant (Inv : List ε → σ → Prop) {s : σ} (start : Inv [] s)
    (next : ∀ past m e t, Run Step s past m → Inv past m → Step m e t → Inv (past ++ [e]) t)
    {es : List ε} {t : σ} (run : Run Step s es t) : Inv es t := by
  induction es using List.reverseRecOn generalizing t with
  | nil =>
      obtain rfl := Run.nil_iff.mp run
      exact start
  | append_singleton past e ih =>
      obtain ⟨m, before, step⟩ := Run.concat_iff.mp run
      exact next past m e t before (ih before) step

/-- `P` holds of every state reached along `es`, the first and the last included. -/
def Throughout (Step : σ → ε → σ → Prop) (P : List ε → σ → Prop) (s : σ) (es : List ε) : Prop :=
  ∀ past, past <+: es → ∀ m, Run Step s past m → P past m

def Along (Step : σ → ε → σ → Prop) (Allowed : List ε → σ → ε → Prop) (s : σ) (es : List ε) : Prop :=
  ∀ past e, past ++ [e] <+: es → ∀ m, Run Step s past m → Allowed past m e

theorem Throughout.last {P : List ε → σ → Prop} {s t : σ} {es : List ε}
    (h : Throughout Step P s es) (run : Run Step s es t) : P es t :=
  h es (List.prefix_refl es) t run

theorem Along.restrict {Allowed : List ε → σ → ε → Prop} {s : σ} {es later : List ε}
    (h : Along Step Allowed s later) (le : es <+: later) : Along Step Allowed s es :=
  fun past e member m run => h past e (member.trans le) m run

theorem Along.later {Allowed : List ε → σ → ε → Prop} {s m : σ} {past rest : List ε}
    (h : Along Step Allowed s (past ++ rest)) (run : Run Step s past m) :
    Along Step (fun between => Allowed (past ++ between)) m rest := by
  intro between e le n run'
  refine h (past ++ between) e ?_ n (Run.append_iff.mpr ⟨m, run, run'⟩)
  rw [List.append_assoc]
  exact (List.prefix_append_right_inj past).mpr le

theorem Along.nil {Allowed : List ε → σ → ε → Prop} {s : σ} : Along Step Allowed s [] := by
  intro past e le
  simp at le

theorem Along.cons_iff {Allowed : List ε → σ → ε → Prop} {s : σ} {e : ε} {es : List ε} :
    Along Step Allowed s (e :: es) ↔
      Allowed [] s e ∧ ∀ m, Step s e m → Along Step (fun past => Allowed (e :: past)) m es := by
  constructor
  · intro h
    refine ⟨h [] e (by simp) s (.nil s), fun m first past f le n run => ?_⟩
    exact h (e :: past) f (List.cons_prefix_cons.mpr ⟨rfl, le⟩) n (.cons first run)
  · rintro ⟨head, tail⟩ past f le n run
    cases past with
    | nil =>
        obtain rfl := (List.cons_prefix_cons.mp le).1
        obtain rfl := Run.nil_iff.mp run
        exact head
    | cons d past =>
        obtain ⟨rfl, le'⟩ := List.cons_prefix_cons.mp le
        obtain ⟨m, first, rest⟩ := Run.cons_iff.mp run
        exact tail m first past f le' n rest

def decideAlong (next : σ → ε → Option σ) (computes : ∀ s e t, Step s e t ↔ next s e = some t) :
    (Allowed : List ε → σ → ε → Prop) → [∀ past s e, Decidable (Allowed past s e)] → (s : σ) →
    (es : List ε) → Decidable (Along Step Allowed s es)
  | _, _, _, [] => isTrue Along.nil
  | Allowed, _, s, e :: es =>
      match found : next s e with
      | none => decidable_of_iff (Allowed [] s e) (by simp [Along.cons_iff, computes, found])
      | some t =>
          have := decideAlong next computes (fun past => Allowed (e :: past)) t es
          decidable_of_iff (Allowed [] s e ∧ Along Step (fun past => Allowed (e :: past)) t es)
            (by simp [Along.cons_iff, computes, found])

theorem Along.concat {Allowed : List ε → σ → ε → Prop} {s : σ} {es : List ε} {e : ε}
    (h : Along Step Allowed s es) (last : ∀ m, Run Step s es m → Allowed es m e) :
    Along Step Allowed s (es ++ [e]) := by
  intro past f le m run
  rcases List.prefix_concat_iff.mp le with same | earlier
  · obtain ⟨rfl, rfl⟩ := List.append_singleton_inj.mp same
    exact last m run
  · exact h past f earlier m run

theorem Along.invariant {Allowed : List ε → σ → ε → Prop} (Inv : List ε → σ → Prop) {s : σ}
    (start : Inv [] s)
    (next : ∀ past m e t, Run Step s past m → Inv past m → Allowed past m e → Step m e t →
      Inv (past ++ [e]) t)
    {es : List ε} (allowed : Along Step Allowed s es) {t : σ} (run : Run Step s es t) : Inv es t := by
  have strengthened := Run.invariant (fun past m => past <+: es → Inv past m) (fun _ => start)
    (fun past m e t before inv step le =>
      next past m e t before (inv ((List.prefix_append past [e]).trans le)) (allowed past e le m before) step)
    run
  exact strengthened (List.prefix_refl es)

/-- Where each event of a kind lowers `work`, a run of such events is no longer than the work there was. -/
theorem Run.length_le (Inv : σ → Prop) {Own : ε → Prop} (work : σ → Nat)
    (next : ∀ s e t, Inv s → Own e → Step s e t → Inv t ∧ work t < work s) {s t : σ} {es : List ε} (inv : Inv s)
    (own : ∀ e ∈ es, Own e) (run : Run Step s es t) : es.length + work t ≤ work s := by
  induction run with
  | nil s => simp
  | @cons s m t e es first rest ih =>
      obtain ⟨inv', less⟩ := next s e m inv (own e (by simp)) first
      have bound := ih inv' fun e member => own e (by simp [member])
      rw [List.length_cons]
      omega

theorem Run.unique (deterministic : ∀ s e t t', Step s e t → Step s e t' → t = t') {s t t' : σ} {es : List ε}
    (run : Run Step s es t) (run' : Run Step s es t') : t = t' := by
  induction run with
  | nil s => exact (Run.nil_iff.mp run').symm
  | @cons s m t e es first rest ih =>
      obtain ⟨m', first', rest'⟩ := Run.cons_iff.mp run'
      rw [deterministic s e m m' first first'] at ih
      exact ih rest'

theorem Run.total (deterministic : ∀ s e t t', Step s e t → Step s e t' → t = t') {s t : σ} {es : List ε}
    (run : Run Step s es t) : Along Step (fun _ m e => ∃ t, Step m e t) s es := by
  rintro past e ⟨later, rfl⟩ m before
  obtain ⟨n, reached, -⟩ := Run.append_iff.mp run
  obtain ⟨m', before', step⟩ := Run.concat_iff.mp reached
  rw [Run.unique deterministic before before']
  exact ⟨n, step⟩

/-- When a step keeps `P` exactly if it is allowed, a run keeps `P` exactly if all its steps are. -/
theorem throughout_iff_along_total {Possible : List ε → σ → ε → Prop} (P : List ε → σ → Prop)
    (Allowed : List ε → σ → ε → Prop) {s : σ} {es : List ε} (possible : Along Step Possible s es)
    (start : P [] s) (total : Along Step (fun _ m e => ∃ t, Step m e t) s es)
    (exact : ∀ past m e t, Run Step s past m → P past m → Possible past m e → Step m e t →
      (P (past ++ [e]) t ↔ Allowed past m e)) : Throughout Step P s es ↔ Along Step Allowed s es := by
  constructor
  · intro kept past e le m run
    obtain ⟨t, step⟩ := total past e le m run
    have before : P past m := kept past ((List.prefix_append past [e]).trans le) m run
    have after : P (past ++ [e]) t := kept _ le t (Run.concat_iff.mpr ⟨m, run, step⟩)
    exact (exact past m e t run before (possible past e le m run) step).mp after
  · intro allowed past le m run
    have both : Along Step (fun past m e => Possible past m e ∧ Allowed past m e) s past :=
      fun earlier e le' m run => ⟨possible earlier e (le'.trans le) m run, allowed earlier e (le'.trans le) m run⟩
    exact Along.invariant P start
      (fun past m e t before inv ok step => (exact past m e t before inv ok.1 step).mpr ok.2) both run

theorem throughout_iff_along_of {Possible : List ε → σ → ε → Prop} (P : List ε → σ → Prop)
    (Allowed : List ε → σ → ε → Prop) {s : σ} {es : List ε} (possible : Along Step Possible s es)
    (start : P [] s) (total : ∀ past m e, Run Step s past m → ∃ t, Step m e t)
    (exact : ∀ past m e t, Run Step s past m → P past m → Possible past m e → Step m e t →
      (P (past ++ [e]) t ↔ Allowed past m e)) : Throughout Step P s es ↔ Along Step Allowed s es :=
  throughout_iff_along_total P Allowed possible start (fun past e _ m run => total past m e run) exact

theorem throughout_iff_along (P : List ε → σ → Prop) (Allowed : List ε → σ → ε → Prop) {s : σ}
    (start : P [] s) (total : ∀ past m e, Run Step s past m → ∃ t, Step m e t)
    (exact : ∀ past m e t, Run Step s past m → P past m → Step m e t →
      (P (past ++ [e]) t ↔ Allowed past m e))
    (es : List ε) : Throughout Step P s es ↔ Along Step Allowed s es :=
  have possible : Along Step (fun _ _ _ => True) s es := fun _ _ _ _ _ => trivial
  throughout_iff_along_of P Allowed possible start total
    fun past m e t run before _ step => exact past m e t run before step

theorem run_of_foldlM_option {step : σ → ε → Option σ} {s t : σ} {es : List ε} :
    es.foldlM step s = some t ↔ Run (fun s e t => step s e = some t) s es t := by
  induction es generalizing s with
  | nil => simp [Run.nil_iff, eq_comm]
  | cons e es ih =>
      rw [Run.cons_iff, List.foldlM_cons]
      cases action : step s e with
      | none => simp
      | some m => simp [ih]

theorem run_of_foldlM {φ : Type*} {step : σ → ε → Except φ σ} {s t : σ} {es : List ε} :
    es.foldlM step s = .ok t ↔ Run (fun s e t => step s e = .ok t) s es t := by
  induction es generalizing s with
  | nil => simp [Run.nil_iff, pure, Except.pure, eq_comm]
  | cons e es ih =>
      rw [Run.cons_iff, List.foldlM_cons]
      cases action : step s e with
      | error fault => simp [bind, Except.bind]
      | ok m => simp [bind, Except.bind, ih]

/-- A field that every event either writes or leaves alone ends as the last write to it. -/
theorem foldl_last_write {β : Type*} {next : σ → ε → σ} (field : σ → β) (write : ε → Option β) (Inv : σ → Prop)
    (es : List ε) (keeps : ∀ s, ∀ e ∈ es, Inv s → Inv (next s e))
    (one : ∀ s, ∀ e ∈ es, Inv s → field (next s e) = (write e).getD (field s)) {s : σ} (inv : Inv s) :
    field (es.foldl next s) = (es.filterMap write).getLast?.getD (field s) := by
  induction es generalizing s with
  | nil => rfl
  | cons e es ih =>
      have first := one s e (by simp) inv
      rw [List.foldl_cons, ih (fun s e member => keeps s e (by simp [member]))
        (fun s e member => one s e (by simp [member])) (keeps s e (by simp) inv), first, List.filterMap_cons]
      cases written : write e with
      | none => rfl
      | some value => rw [List.getLast?_cons, Option.getD_some, Option.getD_some]

end Library
