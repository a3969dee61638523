import Mathlib.Algebra.Order.Field.Basic
import Mathlib.Logic.Function.Iterate
import Mathlib.Tactic.Linarith

/-!
# Greedy balancing

A balancer sees the signed difference between two sides and adds to the side that
is behind: below zero it moves the difference up by one width, otherwise down by
another.  Whatever the start, the difference moves towards one interval around
zero, stays there, and is never larger than at the start or than the widths.
-/

namespace Balance

variable {K : Type*} [Field K] [LinearOrder K] [IsStrictOrderedRing K]

/-- One step of the balancer. -/
def greedy (up down difference : K) : K :=
  if difference < 0 then difference + up else difference - down

/-- The interval of a balanced difference. -/
def Within (up down difference : K) : Prop := -down ≤ difference ∧ difference < up

/-- A move from outside the interval towards it, and not beyond it. -/
structure Towards (up down difference next : K) : Prop where
  rises : difference < -down → difference < next ∧ next < up
  falls : up ≤ difference → next < difference ∧ -down ≤ next

section

variable {up down difference : K} (upPos : 0 < up) (downPos : 0 < down)

include upPos downPos

theorem within_greedy (within : Within up down difference) :
    Within up down (greedy up down difference) := by
  rcases within with ⟨above, below⟩
  unfold greedy
  split
  next negative => exact ⟨by linarith, by linarith⟩
  next positive => exact ⟨by linarith, by linarith⟩

theorem towards_greedy : Towards up down difference (greedy up down difference) := by
  unfold greedy
  split
  next negative =>
    refine ⟨fun _ => ⟨by linarith, by linarith⟩, fun far => ?_⟩
    linarith
  next positive =>
    refine ⟨fun far => ?_, fun _ => ⟨by linarith, by linarith⟩⟩
    linarith

theorem abs_greedy_le :
    |greedy up down difference| ≤ max |difference| (max up down) := by
  unfold greedy
  split
  next negative =>
    have upLe : up ≤ max |difference| (max up down) :=
      (le_max_left up down).trans (le_max_right _ _)
    have differenceLe : |difference| ≤ max |difference| (max up down) := le_max_left _ _
    rw [abs_of_neg negative] at differenceLe upLe ⊢
    exact abs_le.mpr ⟨by linarith, by linarith⟩
  next positive =>
    have downLe : down ≤ max |difference| (max up down) :=
      (le_max_right up down).trans (le_max_right _ _)
    have differenceLe : |difference| ≤ max |difference| (max up down) := le_max_left _ _
    rw [abs_of_nonneg (not_lt.mp positive)] at differenceLe downLe ⊢
    exact abs_le.mpr ⟨by linarith, by linarith⟩

/-! ## Many steps -/

theorem within_iterate (within : Within up down difference) (steps : Nat) :
    Within up down ((greedy up down)^[steps] difference) := by
  induction steps with
  | zero => exact within
  | succ steps ih =>
      rw [Function.iterate_succ_apply']
      exact within_greedy upPos downPos ih

/-- The difference is never larger than at the start or than the widths. -/
theorem abs_iterate_le (steps : Nat) :
    |(greedy up down)^[steps] difference| ≤ max |difference| (max up down) := by
  induction steps with
  | zero => exact le_max_left _ _
  | succ steps ih =>
      rw [Function.iterate_succ_apply']
      exact (abs_greedy_le upPos downPos).trans (max_le ih (le_max_right _ _))

end

end Balance
