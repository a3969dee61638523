import Mathlib.Algebra.Order.BigOperators.Group.List
import Mathlib.Algebra.Order.Field.Basic
import Mathlib.Data.List.Induction
import Mathlib.Tactic.FieldSimp
import Mathlib.Tactic.Linarith

/-!
# Paced sequences

Items come one after another, each at a time and with a size.  A meter that looks back over
a limited stretch of them bounds what the stretch holds.  Cut into such stretches from its
end, the whole sequence holds no more than the rate allows, and one slack for each stretch.
-/

namespace Pacing

variable {α K : Type*} [Field K]

def total (size : α → K) (items : List α) : K := (items.map size).sum

@[simp] theorem total_nil (size : α → K) : total size [] = 0 := rfl

@[simp] theorem total_cons (size : α → K) (item : α) (items : List α) :
    total size (item :: items) = size item + total size items := by
  simp [total]

@[simp] theorem total_append (size : α → K) (first second : List α) :
    total size (first ++ second) = total size first + total size second := by
  simp [total]

variable [LinearOrder K]

/-- The items end in a stretch that holds what the rate allows until `now`, up to a slack.
The stretch has `least` items, or it is all of them and the first one does not count. -/
inductive Covered (time size : α → K) (rate slack : K) (least : Nat) (now : K) :
    List α → Prop where
  | whole {first : α} {tail : List α}
      (within : total size tail ≤ rate * (now - time first) + slack) :
      Covered time size rate slack least now (first :: tail)
  | recent {front : List α} {first : α} {tail : List α} (long : least ≤ tail.length + 1)
      (within : total size (first :: tail) ≤ rate * (now - time first) + slack) :
      Covered time size rate slack least now (front ++ first :: tail)

/-- Each item ended in such a stretch when it came. -/
def Paced (time size : α → K) (rate slack : K) (least : Nat) (items : List α) : Prop :=
  ∀ earlier last, earlier ++ [last] <+: items →
    Covered time size rate slack least (time last) (earlier ++ [last])

variable {time size : α → K} {rate slack now : K} {least : Nat} {items : List α}

theorem Paced.nil : Paced time size rate slack least ([] : List α) := by
  intro earlier last before
  simp at before

theorem Paced.snoc {last : α} (paced : Paced time size rate slack least items)
    (covered : Covered time size rate slack least (time last) (items ++ [last])) :
    Paced time size rate slack least (items ++ [last]) := by
  intro earlier other before
  rcases List.prefix_concat_iff.mp before with whole | before
  · rcases List.append_inj' whole rfl with ⟨rfl, same⟩
    obtain rfl := List.singleton_inj.mp same
    exact covered
  · exact paced earlier other before

theorem Paced.front {front back : List α}
    (paced : Paced time size rate slack least (front ++ back)) :
    Paced time size rate slack least front :=
  fun earlier last before => paced earlier last (before.trans (List.prefix_append _ _))

variable [IsStrictOrderedRing K]

theorem Covered.mono {more later : K} {fewer : Nat}
    (covered : Covered time size rate slack least now items) (nonneg : 0 ≤ rate)
    (slack_le : slack ≤ more) (fewer_le : fewer ≤ least) (now_le : now ≤ later) :
    Covered time size rate more fewer later items := by
  have grown : ∀ start, rate * (now - start) ≤ rate * (later - start) := fun start =>
    mul_le_mul_of_nonneg_left (sub_le_sub_right now_le start) nonneg
  cases covered with
  | @whole first tail within => exact .whole (by linarith [grown (time first)])
  | @recent front first tail long within =>
      exact .recent (fewer_le.trans long) (by linarith [grown (time first)])

/-- One more item makes the stretch longer. -/
theorem Covered.snoc (covered : Covered time size rate slack least now items) (last : α) :
    Covered time size rate (slack + size last) (least + 1) now (items ++ [last]) := by
  cases covered with
  | @whole first tail within =>
      rw [List.cons_append]
      refine .whole ?_
      rw [total_append, total_cons, total_nil]
      linarith
  | @recent front first tail long within =>
      rw [List.append_assoc, List.cons_append]
      refine .recent ?_ ?_
      · rw [List.length_append, List.length_singleton]
        exact Nat.succ_le_succ long
      · rw [total_cons] at within
        rw [total_cons, total_append, total_cons, total_nil]
        linarith

/-- A stretch behind others adds its own length to theirs. -/
theorem add_one_le_div (positive : 0 < least) {back : Nat} (long : least ≤ back)
    (front : Nat) : (front : K) / least + 1 ≤ ((front + back : Nat) : K) / least := by
  have least_pos : (0 : K) < least := Nat.cast_pos.mpr positive
  rw [div_add_one least_pos.ne', Nat.cast_add]
  have long : (least : K) ≤ back := Nat.cast_le.mpr long
  exact div_le_div_of_nonneg_right (by linarith) least_pos.le

/-- What a paced sequence holds. -/
theorem Paced.total_le (positive : 0 < least) (nonneg : 0 ≤ rate) (slack_nonneg : 0 ≤ slack)
    (sizes : ∀ item, 0 ≤ size item) (paced : Paced time size rate slack least items)
    (sorted : items.Pairwise fun earlier later => time earlier ≤ time later)
    {first last : α} (starts : items.head? = some first) (ends : items.getLast? = some last) :
    total size items ≤
      size first + rate * (time last - time first) + (items.length / least + 1) * slack := by
  induction length : items.length using Nat.strong_induction_on generalizing items last with
  | _ count ih =>
    subst length
    rcases List.eq_nil_or_concat items with rfl | ⟨earlier, final, rfl⟩
    · cases starts
    obtain rfl : final = last := by simpa using ends
    rw [List.concat_eq_append] at starts ends paced sorted ih ⊢
    have one_slack : 0 ≤ ((earlier ++ [final]).length : K) / least * slack :=
      mul_nonneg (div_nonneg (Nat.cast_nonneg _) (Nat.cast_nonneg _)) slack_nonneg
    have covered := paced earlier final List.prefix_rfl
    generalize earlier ++ [final] = items at *
    cases covered with
    | @whole head tail within =>
        obtain rfl : head = first := by simpa using starts
        rw [total_cons]
        linarith
    | @recent front head tail long within =>
        rcases List.eq_nil_or_concat front with rfl | ⟨start, middle, rfl⟩
        · obtain rfl : head = first := by simpa using starts
          have free := sizes head
          simp only [List.nil_append] at one_slack ⊢
          linarith
        rw [List.concat_eq_append] at starts ends paced sorted ih one_slack ⊢
        have shorter : (start ++ [middle]).length <
            (start ++ [middle] ++ head :: tail).length := by simp
        rcases List.pairwise_append.mp sorted with ⟨front_sorted, _, across⟩
        have before := ih _ shorter paced.front front_sorted
          (by simpa [List.head?_append] using starts) List.getLast?_concat rfl
        have ordered : time middle ≤ time head :=
          across middle (by simp) head List.mem_cons_self
        have earned := mul_le_mul_of_nonneg_left ordered nonneg
        have slacks := mul_le_mul_of_nonneg_right
          (add_one_le_div (K := K) positive long (start ++ [middle]).length) slack_nonneg
        rw [total_append, List.length_append, List.length_cons]
        linarith

end Pacing
