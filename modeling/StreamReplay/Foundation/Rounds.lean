import Mathlib.Data.Finset.Dedup
import Mathlib.Data.Finset.Lattice.Lemmas
import Mathlib.Data.List.Induction
import Mathlib.Tactic.Common

/-!
# Collecting in rounds

A collector takes items until it has all it wants, and then starts over with
nothing.  As it finishes each round at the first chance, it finishes as many as the
items can be cut into parts that hold all that is wanted.
-/

namespace Rounds

variable {α : Type*} [DecidableEq α]

/-- What the collector holds and how many rounds it has finished. -/
structure Progress (α : Type*) where
  held : Finset α
  rounds : Nat

/-- Taking one item. -/
def take (wanted : Finset α) (progress : Progress α) (item : α) : Progress α :=
  let held := insert item progress.held
  if wanted ⊆ held then ⟨∅, progress.rounds + 1⟩ else ⟨held, progress.rounds⟩

/-- Taking items in order. -/
def collect (wanted : Finset α) (items : List α) : Progress α :=
  items.foldl (take wanted) ⟨∅, 0⟩

/-- The rounds finished from a start with some items held. -/
def roundsFrom (wanted : Finset α) : Finset α → List α → Nat
  | _, [] => 0
  | held, item :: items =>
      if wanted ⊆ insert item held then roundsFrom wanted ∅ items + 1
      else roundsFrom wanted (insert item held) items

variable {wanted : Finset α}

@[simp] theorem collect_nil (wanted : Finset α) : collect wanted [] = ⟨∅, 0⟩ := rfl

theorem collect_snoc (wanted : Finset α) (items : List α) (item : α) :
    collect wanted (items ++ [item]) = take wanted (collect wanted items) item := by
  simp [collect]

/-- What is held is among what has come. -/
theorem held_subset (wanted : Finset α) (items : List α) :
    (collect wanted items).held ⊆ items.toFinset := by
  induction items using List.reverseRecOn with
  | nil => simp
  | append_singleton items item ih =>
      rw [collect_snoc, take, List.toFinset_append, List.toFinset_cons, List.toFinset_nil]
      split
      next => exact Finset.empty_subset _
      next =>
        rw [Finset.insert_eq, Finset.union_comm]
        exact Finset.union_subset_union ih (Finset.Subset.refl _)

theorem rounds_foldl (wanted : Finset α) (items : List α) (progress : Progress α) :
    (items.foldl (take wanted) progress).rounds =
      progress.rounds + roundsFrom wanted progress.held items := by
  induction items generalizing progress with
  | nil => rfl
  | cons item items ih =>
      rw [List.foldl_cons, ih, take, roundsFrom]
      split
      next => exact Nat.add_right_comm _ _ _
      next => rfl

theorem rounds_collect (wanted : Finset α) (items : List α) :
    (collect wanted items).rounds = roundsFrom wanted ∅ items := by
  rw [collect, rounds_foldl, Nat.zero_add]

omit [DecidableEq α] in
theorem not_subset_empty (some : wanted.Nonempty) : ¬wanted ⊆ ∅ :=
  fun subset => some.ne_empty (Finset.subset_empty.mp subset)

/-! ## Greedy is best -/

/-- Holding more finishes no fewer rounds, and holding anything at most one more than
holding nothing. -/
theorem roundsFrom_le (items : List α) :
    (∀ less more : Finset α, less ⊆ more →
      roundsFrom wanted less items ≤ roundsFrom wanted more items) ∧
    ∀ held : Finset α, roundsFrom wanted held items ≤ roundsFrom wanted ∅ items + 1 := by
  induction items with
  | nil => simp [roundsFrom]
  | cons item items ih =>
      rcases ih with ⟨monotone, atMostOne⟩
      have first : ∀ less more : Finset α, less ⊆ more →
          roundsFrom wanted less (item :: items) ≤
            roundsFrom wanted more (item :: items) := by
        intro less more subset
        have step := Finset.insert_subset_insert item subset
        simp only [roundsFrom]
        split_ifs with lessAll moreAll moreAll
        · exact le_rfl
        · exact absurd (lessAll.trans step) moreAll
        · exact atMostOne _
        · exact monotone _ _ step
      refine ⟨first, fun held => ?_⟩
      have skipped : roundsFrom wanted ∅ items ≤ roundsFrom wanted ∅ (item :: items) := by
        rw [roundsFrom]
        split
        next => exact Nat.le_succ _
        next => exact monotone _ _ (Finset.empty_subset _)
      rw [roundsFrom]
      split
      next => omega
      next short =>
        have alone : ¬wanted ⊆ insert item ∅ := fun subset => short
          (subset.trans (Finset.insert_subset_insert item (Finset.empty_subset held)))
        rw [roundsFrom, if_neg alone]
        have one := atMostOne (insert item held)
        have grown := monotone ∅ (insert item ∅) (Finset.empty_subset _)
        omega

theorem roundsFrom_append_le (front back : List α) (held : Finset α) :
    roundsFrom wanted ∅ back ≤ roundsFrom wanted held (front ++ back) := by
  induction front generalizing held with
  | nil => exact (roundsFrom_le back).1 _ _ (Finset.empty_subset held)
  | cons item front ih =>
      rw [List.cons_append, roundsFrom]
      split
      next => exact (ih ∅).trans (Nat.le_succ _)
      next => exact ih _

/-- One more round is finished exactly when a front of the items completes what is
held and the rest is good for the other rounds. -/
theorem succ_le_roundsFrom_iff {count : Nat} {held : Finset α} {items : List α}
    (short : ¬wanted ⊆ held) :
    count + 1 ≤ roundsFrom wanted held items ↔
      ∃ front back, items = front ++ back ∧ wanted ⊆ held ∪ front.toFinset ∧
        count ≤ roundsFrom wanted ∅ back := by
  induction items generalizing held with
  | nil =>
      constructor
      · intro le
        simp [roundsFrom] at le
      · rintro ⟨front, back, split, covers, _⟩
        obtain ⟨rfl, rfl⟩ := List.append_eq_nil_iff.mp split.symm
        exact absurd (by simpa using covers) short
  | cons item items ih =>
      rw [roundsFrom]
      split
      next full =>
        rw [Nat.add_le_add_iff_right]
        constructor
        · intro le
          refine ⟨[item], items, rfl, ?_, le⟩
          rw [List.toFinset_cons, List.toFinset_nil, Finset.union_insert, Finset.union_empty]
          exact full
        · rintro ⟨front, back, split, covers, le⟩
          rcases List.cons_eq_append_iff.mp split with ⟨rfl, rfl⟩ | ⟨front, rfl, rfl⟩
          · exact absurd (by simpa using covers) short
          · exact le.trans (roundsFrom_append_le front back ∅)
      next stillShort =>
        rw [ih stillShort]
        constructor
        · rintro ⟨front, back, rfl, covers, le⟩
          refine ⟨item :: front, back, rfl, ?_, le⟩
          rwa [List.toFinset_cons, Finset.union_insert, ← Finset.insert_union]
        · rintro ⟨front, back, split, covers, le⟩
          rcases List.cons_eq_append_iff.mp split with ⟨rfl, rfl⟩ | ⟨front, rfl, rfl⟩
          · exact absurd (by simpa using covers) short
          · refine ⟨front, back, rfl, ?_, le⟩
            rwa [List.toFinset_cons, Finset.union_insert, ← Finset.insert_union] at covers

/-- A round is finished exactly when the items hold all that is wanted. -/
theorem one_le_rounds_iff (some : wanted.Nonempty) {items : List α} :
    1 ≤ (collect wanted items).rounds ↔ wanted ⊆ items.toFinset := by
  rw [rounds_collect, show 1 = 0 + 1 from rfl,
    succ_le_roundsFrom_iff (not_subset_empty some)]
  constructor
  · rintro ⟨front, back, rfl, covers, _⟩
    rw [Finset.empty_union] at covers
    rw [List.toFinset_append]
    exact covers.trans Finset.subset_union_left
  · intro covers
    exact ⟨items, [], by simp, by simpa using covers, Nat.zero_le _⟩

/-- A second round is finished exactly when the items can be cut into two parts that
both hold all that is wanted. -/
theorem two_le_rounds_iff (some : wanted.Nonempty) {items : List α} :
    2 ≤ (collect wanted items).rounds ↔
      ∃ front back, items = front ++ back ∧ wanted ⊆ front.toFinset ∧
        wanted ⊆ back.toFinset := by
  rw [rounds_collect, show 2 = 1 + 1 from rfl,
    succ_le_roundsFrom_iff (not_subset_empty some)]
  simp only [← rounds_collect, one_le_rounds_iff some, Finset.empty_union]

/-- Items that do not repeat finish at most one round. -/
theorem rounds_eq_of_nodup (some : wanted.Nonempty) {items : List α} (nodup : items.Nodup) :
    (collect wanted items).rounds = if wanted ⊆ items.toFinset then 1 else 0 := by
  have atMostOne : ¬2 ≤ (collect wanted items).rounds := by
    rw [two_le_rounds_iff some]
    rintro ⟨front, back, rfl, inFront, inBack⟩
    rcases some with ⟨item, member⟩
    exact List.disjoint_of_nodup_append nodup (List.mem_toFinset.mp (inFront member))
      (List.mem_toFinset.mp (inBack member))
  have once : 1 ≤ (collect wanted items).rounds ↔ _ := one_le_rounds_iff some
  split
  next covers =>
    have least := once.mpr covers
    omega
  next short =>
    have none := mt once.mp short
    omega

/-! ## The round under way -/

section Pending

variable {β γ : Type*}

/-- The items of the round under way, where an item counts by its key. -/
def pending (wanted : Finset α) (key : β → α) (items : List β) : List β :=
  items.foldl (fun kept item =>
    if wanted ⊆ insert (key item) (kept.map key).toFinset then [] else kept ++ [item]) []

theorem pending_snoc (wanted : Finset α) (key : β → α) (items : List β) (item : β) :
    pending wanted key (items ++ [item]) =
      if wanted ⊆ insert (key item) ((pending wanted key items).map key).toFinset then []
      else pending wanted key items ++ [item] := by
  rw [pending, List.foldl_append]
  rfl

/-- They are what is held. -/
theorem held_collect_map (wanted : Finset α) (key : β → α) (items : List β) :
    (collect wanted (items.map key)).held = ((pending wanted key items).map key).toFinset := by
  induction items using List.reverseRecOn with
  | nil => rfl
  | append_singleton items item ih =>
      rw [List.map_append, List.map_singleton, collect_snoc, take, pending_snoc, ih]
      split
      next => rfl
      next =>
        rw [List.map_append, List.toFinset_append, Finset.union_comm, List.map_singleton,
          List.toFinset_cons, List.toFinset_nil, Finset.insert_eq, Finset.insert_eq,
          Finset.union_empty]

theorem pending_map (wanted : Finset α) (key : β → α) (rename : γ → β) (items : List γ) :
    pending wanted key (items.map rename) =
      (pending wanted (key ∘ rename) items).map rename := by
  induction items using List.reverseRecOn with
  | nil => rfl
  | append_singleton items item ih =>
      rw [List.map_append, List.map_singleton, pending_snoc, pending_snoc, ih, List.map_map,
        apply_ite (List.map rename), List.map_nil, List.map_append, List.map_singleton]
      rfl

end Pending

end Rounds
