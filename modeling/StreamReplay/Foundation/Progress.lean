import Mathlib.Data.Nat.Init
import Mathlib.Data.Nat.Basic
import Mathlib.Tactic.Common

/-!
# Progress in an endless run

One predicate leads to another along a sequence of states when, from every state at which
the first holds, one is reached at which the second does.  A rank that falls again and again
turns single advances into an arrival.
-/

namespace Progress

universe u

variable {State : Type u} {states : Nat → State}

/-- From every state at which `before` holds, one is reached at which `after` does. -/
def LeadsTo (states : Nat → State) (before after : State → Prop) : Prop :=
  ∀ now, before (states now) → ∃ later, now ≤ later ∧ after (states later)

/-- What one step keeps is kept for good. -/
theorem stable (states : Nat → State) (holds : State → Prop) {now : Nat}
    (step : ∀ time, now ≤ time → holds (states time) → holds (states (time + 1)))
    (here : holds (states now)) : ∀ later, now ≤ later → holds (states later) := by
  intro later reached
  induction later, reached using Nat.le_induction with
  | base => exact here
  | succ time reached ih => exact step time reached ih

namespace LeadsTo

variable {first second third : State → Prop}

theorem trans (front : LeadsTo states first second) (rest : LeadsTo states second third) :
    LeadsTo states first third := by
  intro now here
  rcases front now here with ⟨between, reached, there⟩
  rcases rest between there with ⟨later, after, done⟩
  exact ⟨later, Nat.le_trans reached after, done⟩

/-- A rank that falls as long as the goal is not reached leads to the goal. -/
theorem of_rank (states : Nat → State) (goal : State → Prop) (rank : State → Nat)
    (falls : ∀ now, ¬goal (states now) → ∃ later, now ≤ later ∧
      rank (states later) < rank (states now)) : LeadsTo states (fun _ => True) goal := by
  have byRank : ∀ bound now, rank (states now) < bound →
      ∃ later, now ≤ later ∧ goal (states later) := by
    intro bound
    induction bound with
    | zero => exact fun now below => absurd below (Nat.not_lt_zero _)
    | succ bound ih =>
        intro now below
        by_cases done : goal (states now)
        · exact ⟨now, le_refl now, done⟩
        · rcases falls now done with ⟨between, reached, lower⟩
          rcases ih between (Nat.lt_of_lt_of_le lower (Nat.le_of_lt_succ below)) with
            ⟨later, after, done⟩
          exact ⟨later, Nat.le_trans reached after, done⟩
  exact fun now _ => byRank _ now (Nat.lt_succ_self _)

end LeadsTo

end Progress
