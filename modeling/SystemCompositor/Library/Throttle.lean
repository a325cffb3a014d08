import Mathlib.Algebra.Order.Monoid.Defs
import Mathlib.Data.List.Induction

namespace Library
variable {T : Type*}

/-- `checked` is the reading that decides the attempt, and `taken` the one that the next attempt
waits from when this one passes. -/
structure Attempt (T : Type*) where
  checked : T
  taken : T

section Definitions
variable [Add T] [LE T]

def Apart (period : T) (earlier later : Attempt T) : Prop := earlier.taken + period ≤ later.checked

def Opens (period : T) (passed : List (Attempt T)) (checked : T) : Prop :=
  ∀ previous ∈ passed.getLast?, previous.taken + period ≤ checked

instance [DecidableLE T] (period : T) (passed : List (Attempt T)) (checked : T) :
    Decidable (Opens period passed checked) :=
  inferInstanceAs (Decidable (∀ previous ∈ passed.getLast?, previous.taken + period ≤ checked))

variable [DecidableLE T]

def offer (period : T) (passed : List (Attempt T)) (attempt : Attempt T) : List (Attempt T) :=
  if Opens period passed attempt.checked then passed ++ [attempt] else passed

theorem getLast?_offer (period : T) (passed : List (Attempt T)) (attempt : Attempt T) :
    (offer period passed attempt).getLast? =
      if Opens period passed attempt.checked then some attempt else passed.getLast? := by
  unfold offer
  split_ifs
  · exact List.getLast?_concat
  · rfl

/-- The attempts that pass when each must come a `period` after the last that did. -/
def throttle (period : T) (attempts : List (Attempt T)) : List (Attempt T) :=
  attempts.foldl (offer period) []

theorem throttle_concat (period : T) (attempts : List (Attempt T)) (attempt : Attempt T) :
    throttle period (attempts ++ [attempt]) = offer period (throttle period attempts) attempt := by
  simp [throttle]

theorem throttle_sublist (period : T) (attempts : List (Attempt T)) :
    (throttle period attempts).Sublist attempts := by
  induction attempts using List.reverseRecOn with
  | nil => exact .slnil
  | append_singleton attempts attempt ih =>
      rw [throttle_concat, offer]
      split_ifs
      · exact ih.append_right [attempt]
      · exact ih.trans (List.sublist_append_left attempts [attempt])

end Definitions

variable [AddCommMonoid T] [PartialOrder T] [IsOrderedAddMonoid T] {period : T}

theorem taken_le_last {passed : List (Attempt T)} {last : Attempt T} (positive : 0 ≤ period)
    (forward : ∀ attempt ∈ passed, attempt.checked ≤ attempt.taken) (apart : passed.Pairwise (Apart period))
    (atEnd : last ∈ passed.getLast?) : ∀ attempt ∈ passed, attempt.taken ≤ last.taken := by
  obtain ⟨before, rfl⟩ := List.getLast?_eq_some_iff.mp atEnd
  intro attempt member
  rcases List.mem_append.mp member with earlier | same
  · have gap : attempt.taken + period ≤ last.checked := (List.pairwise_append.mp apart).2.2 _ earlier _ (by simp)
    calc attempt.taken ≤ attempt.taken + period := le_add_of_nonneg_right positive
      _ ≤ last.checked := gap
      _ ≤ last.taken := forward last (by simp)
  · rw [List.mem_singleton.mp same]

/-- On a clock that does not run backwards, not only neighbours are a period apart. -/
theorem throttle_apart [DecidableLE T] {attempts : List (Attempt T)} (positive : 0 ≤ period)
    (forward : ∀ attempt ∈ attempts, attempt.checked ≤ attempt.taken) :
    (throttle period attempts).Pairwise (Apart period) := by
  induction attempts using List.reverseRecOn with
  | nil => exact .nil
  | append_singleton attempts attempt ih =>
      have before := ih fun a member => forward a (by simp [member])
      rw [throttle_concat, offer]
      split_ifs with opens
      · refine List.pairwise_append.mpr ⟨before, List.pairwise_singleton _ _, ?_⟩
        intro a member b same
        rw [List.mem_singleton.mp same]
        have atEnd := List.getLast?_eq_some_getLast (List.ne_nil_of_mem member)
        have passed (c : Attempt T) (reached : c ∈ throttle period attempts) : c.checked ≤ c.taken :=
          forward c (by simp [(throttle_sublist period attempts).subset reached])
        calc a.taken + period ≤ _ :=
              add_le_add_left (taken_le_last positive passed before atEnd a member) period
          _ ≤ attempt.checked := opens _ atEnd
      · exact before

end Library
