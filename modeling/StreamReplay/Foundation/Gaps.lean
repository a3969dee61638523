import Mathlib.Algebra.Order.BigOperators.Group.List
import Mathlib.Algebra.Order.Group.Unbundled.Basic
import Mathlib.Tactic.Abel
import Mathlib.Tactic.Common

/-!
# Gaps of a sequence

The differences between the neighbours in a list.  They add up to the distance
between the ends, and cutting one of them in two does not raise the sum of a
superadditive function over them.
-/

namespace Gaps

universe u

variable {α : Type u}

section Differences

variable [AddCommGroup α]

/-- The difference between each element and the one before it. -/
def gaps : List α → List α
  | [] => []
  | [_] => []
  | first :: second :: rest => (second - first) :: gaps (second :: rest)

@[simp] theorem gaps_nil : gaps ([] : List α) = [] := rfl

@[simp] theorem gaps_singleton (value : α) : gaps [value] = [] := rfl

@[simp] theorem gaps_cons_cons (first second : α) (rest : List α) :
    gaps (first :: second :: rest) = (second - first) :: gaps (second :: rest) := rfl

/-- The gaps on the two sides of an element. -/
theorem gaps_append_cons (before : List α) (pivot : α) (after : List α) :
    gaps (before ++ pivot :: after) = gaps (before ++ [pivot]) ++ gaps (pivot :: after) := by
  induction before with
  | nil => rfl
  | cons first before ih =>
      cases before with
      | nil => rfl
      | cons second before =>
          simp only [List.cons_append, gaps_cons_cons] at ih ⊢
          rw [ih]

/-- The gaps add up to the distance between the ends. -/
theorem sum_gaps (first : α) (rest : List α) :
    (gaps (first :: rest)).sum = rest.getLast?.getD first - first := by
  induction rest generalizing first with
  | nil => simp
  | cons second rest ih =>
      rw [gaps_cons_cons, List.sum_cons, ih, List.getLast?_cons, Option.getD_some]
      abel

end Differences

section Ordered

variable [AddCommGroup α] [LinearOrder α] [IsOrderedAddMonoid α] {values : List α}

theorem nonneg_of_mem_gaps (ordered : values.Pairwise (· ≤ ·)) {gap : α}
    (member : gap ∈ gaps values) : 0 ≤ gap := by
  induction values with
  | nil => cases member
  | cons first rest ih =>
      cases rest with
      | nil => cases member
      | cons second rest =>
          rcases List.pairwise_cons.mp ordered with ⟨least, ordered⟩
          rcases List.mem_cons.mp member with equal | member
          · rw [equal]
            exact sub_nonneg.mpr (least second List.mem_cons_self)
          · exact ih ordered member

/-- A new element inside a gap does not raise the sum of a superadditive function. -/
theorem sum_map_gaps_insert_le {weight : α → α}
    (superadditive : ∀ left right, 0 ≤ left → 0 ≤ right →
      weight left + weight right ≤ weight (left + right))
    (before after : List α) {first inner second : α} (above : first ≤ inner)
    (below : inner ≤ second) :
    ((gaps (before ++ first :: inner :: second :: after)).map weight).sum ≤
      ((gaps (before ++ first :: second :: after)).map weight).sum := by
  have cut : weight (inner - first) + weight (second - inner) ≤ weight (second - first) := by
    have together : inner - first + (second - inner) = second - first := by abel
    rw [← together]
    exact superadditive _ _ (sub_nonneg.mpr above) (sub_nonneg.mpr below)
  rw [gaps_append_cons before first (inner :: _), gaps_append_cons before first (second :: _)]
  simp only [gaps_cons_cons, List.map_append, List.map_cons, List.sum_append, List.sum_cons,
    ← add_assoc]
  rw [add_assoc (List.sum _) (weight _) (weight _)]
  exact add_le_add_left (add_le_add_right cut _) _

end Ordered

end Gaps
