import Mathlib.Data.Finset.Card
import Mathlib.Data.List.Forall2
import Mathlib.Data.List.Induction
import Mathlib.Tactic.Common

/-!
# Sequences

Facts about lists that the queues and the packet sequences are built on.
-/

namespace Sequence

universe u v w

variable {α : Type u} {β : Type v} {γ : Type w}

/-- Every entry on the right of a pointwise relation has a partner. -/
theorem exists_related_of_mem {related : α → β → Prop} {left : List α} {right : List β}
    (pairs : List.Forall₂ related left right) {b : β} (member : b ∈ right) :
    ∃ a ∈ left, related a b := by
  induction pairs with
  | nil => simp at member
  | cons head _ ih =>
      rcases List.mem_cons.mp member with rfl | later
      · exact ⟨_, by simp, head⟩
      · rcases ih later with ⟨a, aMem, holds⟩
        exact ⟨a, by simp [aMem], holds⟩

/-- And so does every entry on the left. -/
theorem exists_related_of_mem_left {related : α → β → Prop} {left : List α} {right : List β}
    (pairs : List.Forall₂ related left right) {a : α} (member : a ∈ left) :
    ∃ b ∈ right, related a b :=
  exists_related_of_mem pairs.flip member

/-- An ordering of the left entries that forces one of their partners carries over. -/
theorem pairwise_of_forall₂ {related : α → β → Prop} {before : α → α → Prop}
    {after : β → β → Prop} {left : List α} {right : List β}
    (pairs : List.Forall₂ related left right) (ordered : left.Pairwise before)
    (forces : ∀ first ∈ left, ∀ second ∈ left, ∀ b c, before first second →
      related first b → related second c → after b c) :
    right.Pairwise after := by
  induction pairs with
  | nil => exact .nil
  | @cons first b left right head rest ih =>
      rcases List.pairwise_cons.mp ordered with ⟨firstBefore, ordered⟩
      refine List.pairwise_cons.mpr ⟨fun c member => ?_, ih ordered fun a aMem a' a'Mem => ?_⟩
      · rcases exists_related_of_mem rest member with ⟨second, inLeft, holds⟩
        exact forces first (by simp) second (by simp [inLeft]) b c
          (firstBefore second inLeft) head holds
      · exact forces a (by simp [aMem]) a' (by simp [a'Mem])

/-- Shifting an item through a list leaves the list as it was exactly when it
holds nothing else. -/
theorem tail_append_singleton_eq_self_iff {items : List α} {item : α} :
    (items ++ [item]).tail = items ↔ ∀ other ∈ items, other = item := by
  cases items with
  | nil => simp
  | cons head tail =>
      induction tail generalizing head with
      | nil => simp [eq_comm]
      | cons next tail ih =>
          have rest := ih next
          simp only [List.cons_append, List.tail_cons, List.cons.injEq,
            List.forall_mem_cons] at rest ⊢
          rw [rest]
          constructor
          · rintro ⟨rfl, nextEq, every⟩
            exact ⟨nextEq, nextEq, every⟩
          · rintro ⟨headEq, nextEq, every⟩
            exact ⟨nextEq.trans headEq.symm, nextEq, every⟩

/-- Pointwise related lists have equal images under functions that agree on
related entries. -/
theorem map_eq_of_forall₂ {related : α → β → Prop} (f : α → γ) (g : β → γ)
    {left : List α} {right : List β} (pairs : List.Forall₂ related left right)
    (agree : ∀ a b, related a b → f a = g b) : left.map f = right.map g := by
  rw [← List.forall₂_eq_eq_eq, List.forall₂_map_left_iff, List.forall₂_map_right_iff]
  exact pairs.imp agree

/-- Consecutive chunks of one width concatenate to a front of the list. -/
theorem flatMap_chunks (values : List α) (width count : Nat) :
    (List.range count).flatMap
        (fun index => (values.take (index * width + width)).drop (index * width)) =
      values.take (count * width) := by
  induction count with
  | zero => simp
  | succ count ih =>
      rw [List.range_succ, List.flatMap_append, ih, List.flatMap_singleton,
        Nat.succ_mul, List.drop_take, Nat.add_sub_cancel_left, List.take_add]

/-- Reading every entry succeeds when each reading does, and reads as many. -/
theorem exists_mapM_eq_some_iff (items : List α) (reading : α → Option β) (count : Nat) :
    (∃ readings, items.mapM reading = some readings ∧ count ≤ readings.length) ↔
      count ≤ items.length ∧ ∀ item ∈ items, (reading item).isSome = true := by
  induction items generalizing count with
  | nil => simp
  | cons item items ih =>
      rw [List.mapM_cons, List.forall_mem_cons]
      cases read : reading item with
      | none => simp
      | some value =>
          have rest := ih (count - 1)
          simp only [Option.bind_eq_bind, Option.bind_some, Option.isSome_some, true_and,
            List.length_cons]
          constructor
          · rintro ⟨readings, all, le⟩
            rcases Option.bind_eq_some_iff.mp all with ⟨later, laterEq, equal⟩
            cases equal
            rw [List.length_cons] at le
            rcases rest.mp ⟨later, laterEq, by omega⟩ with ⟨laterLe, every⟩
            exact ⟨by omega, every⟩
          · rintro ⟨le, every⟩
            rcases rest.mpr ⟨by omega, every⟩ with ⟨later, laterEq, laterLe⟩
            refine ⟨value :: later, by simp [laterEq], ?_⟩
            rw [List.length_cons]
            omega

/-- What holds of every entry of a longer list, given those before it, holds of every
entry of the list and of the last one. -/
theorem forall_split_snoc_iff (holds : List α → α → Prop) {items : List α} {last : α} :
    (∀ earlier item later, items ++ [last] = earlier ++ item :: later → holds earlier item) ↔
      (∀ earlier item later, items = earlier ++ item :: later → holds earlier item) ∧
        holds items last := by
  constructor
  · intro every
    refine ⟨fun earlier item later split => ?_, every items last [] rfl⟩
    exact every earlier item (later ++ [last]) (by simp [split])
  · rintro ⟨shorter, whole⟩ earlier item later split
    rcases List.eq_nil_or_concat later with rfl | ⟨later, final, rfl⟩
    · rcases List.append_inj' split rfl with ⟨rfl, lastEq⟩
      rwa [← List.singleton_inj.mp lastEq]
    · rw [List.concat_eq_append, ← List.cons_append, ← List.append_assoc] at split
      exact shorter earlier item later (List.append_inj' split rfl).1

/-- What holds of every nonempty front of a longer list holds of every nonempty
front of the list and of the longer list itself. -/
theorem forall_front_snoc_iff (holds : List α → Prop) {items : List α} {last : α} :
    (∀ earlier item later, items ++ [last] = earlier ++ item :: later →
        holds (earlier ++ [item])) ↔
      (∀ earlier item later, items = earlier ++ item :: later → holds (earlier ++ [item])) ∧
        holds (items ++ [last]) :=
  forall_split_snoc_iff fun earlier item => holds (earlier ++ [item])

theorem filterMap_snoc (read : α → Option β) (items : List α) (last : α) :
    (items ++ [last]).filterMap read = items.filterMap read ++ (read last).toList := by
  rw [List.filterMap_append]
  cases found : read last with
  | none => rw [List.filterMap_cons_none found]; rfl
  | some _ => rw [List.filterMap_cons_some found]; rfl

/-- A test that implies another counts as many entries exactly when the other
implies it too on every entry. -/
theorem countP_eq_countP_iff {strong weak : α → Bool}
    (implies : ∀ item, strong item = true → weak item = true) {items : List α} :
    items.countP strong = items.countP weak ↔
      ∀ item ∈ items, weak item = true → strong item = true := by
  induction items with
  | nil => simp
  | cons item items ih =>
      have fewer : items.countP strong ≤ items.countP weak :=
        List.countP_mono_left fun other _ => implies other
      rw [List.forall_mem_cons, ← ih, List.countP_cons, List.countP_cons]
      cases strongHolds : strong item with
      | true => simp [implies item strongHolds]
      | false =>
          cases weakHolds : weak item with
          | true =>
              simp
              omega
          | false => simp

/-! ## Counting keys -/

section

variable [DecidableEq β] {key : α → β}

/-- The number of distinct keys among the items. -/
def distinct (key : α → β) (items : List α) : Nat := (items.map key).toFinset.card

@[simp] theorem distinct_nil : distinct key [] = 0 := rfl

theorem distinct_eq_zero {items : List α} : distinct key items = 0 ↔ items = [] := by
  simp [distinct]

/-- Taking the first item loses a key unless a later item has the same one. -/
theorem distinct_cons (item : α) (items : List α) :
    distinct key (item :: items) =
      distinct key items + if ∃ other ∈ items, key other = key item then 0 else 1 := by
  simp only [distinct, List.map_cons, List.toFinset_cons]
  split
  next repeated =>
    rw [Finset.insert_eq_of_mem (by simpa using repeated), Nat.add_zero]
  next unique =>
    rw [Finset.card_insert_of_notMem (by simpa using unique)]

/-- Items with one new key add that key, if there are any. -/
theorem distinct_append_of_fresh {items fresh : List α} {newKey : β}
    (same : ∀ item ∈ fresh, key item = newKey) (unused : ∀ item ∈ items, key item ≠ newKey) :
    distinct key (items ++ fresh) = distinct key items + if fresh = [] then 0 else 1 := by
  cases fresh with
  | nil => simp
  | cons first rest =>
      have keys : ((first :: rest).map key).toFinset = {newKey} := by
        ext other
        simp only [List.mem_toFinset, List.mem_map, Finset.mem_singleton]
        constructor
        · rintro ⟨item, member, rfl⟩
          exact same item member
        · rintro rfl
          exact ⟨first, by simp, same first (by simp)⟩
      have disjoint : Disjoint (items.map key).toFinset {newKey} := by
        rw [Finset.disjoint_singleton_right]
        simpa using unused
      rw [distinct, List.map_append, List.toFinset_append, keys,
        Finset.card_union_of_disjoint disjoint, Finset.card_singleton, if_neg (by simp)]
      rfl

end

end Sequence
