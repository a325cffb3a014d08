import Mathlib.Data.List.Basic

namespace Library
variable {α β δ : Type*}

/-- The last thing that `f` finds in a history. -/
def lastOf (f : α → Option β) (history : List α) : Option β := (history.filterMap f).getLast?

theorem lastOf_concat (f : α → Option β) (history : List α) (a : α) :
    lastOf f (history ++ [a]) = (f a).or (lastOf f history) := by
  cases found : f a <;> simp [lastOf, List.filterMap_append, found]

theorem lastOf_append (f : α → Option β) (history later : List α) :
    lastOf f (history ++ later) = (lastOf f later).or (lastOf f history) := by
  simp [lastOf, List.filterMap_append, List.getLast?_append]

/-- Only what is done for `d` counts for `d`. -/
theorem lastOf_flatMap [DecidableEq δ] {f : α → Option β} {g : δ → List α} {d : δ}
    (others : ∀ e, e ≠ d → lastOf f (g e) = none) (history : List α) (ds : List δ) :
    lastOf f (history ++ ds.flatMap g) =
      if d ∈ ds then (lastOf f (g d)).or (lastOf f history) else lastOf f history := by
  induction ds generalizing history with
  | nil => simp
  | cons e ds ih =>
      rw [List.flatMap_cons, ← List.append_assoc, ih, lastOf_append]
      by_cases same : e = d
      · subst same
        cases own : lastOf f (g e) <;> simp
      · simp [others e same, Ne.symm same]

end Library
