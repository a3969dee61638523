import Mathlib.Algebra.BigOperators.Group.List.Basic
import Mathlib.Algebra.Ring.Nat
import Mathlib.Data.Finmap
import Mathlib.Tactic.Common

/-!
# Sums by key

A finite map that adds up amounts by key, entry by entry.  What it holds is the sum
over the entries of a key, so the order of the entries plays no role.
-/

namespace Tally

universe u

variable {κ : Type u} [DecidableEq κ]

/-- The sum of the amounts of a key. -/
def total (entries : List (κ × Nat)) (key : κ) : Nat :=
  ((entries.filter fun entry => entry.1 = key).map Prod.snd).sum

/-- Add an amount to what its key has, nothing if the key is new. -/
def charge (table : Finmap fun _ : κ => Nat) (entry : κ × Nat) : Finmap fun _ : κ => Nat :=
  table.insert entry.1 ((table.lookup entry.1).getD 0 + entry.2)

def tally (entries : List (κ × Nat)) : Finmap fun _ : κ => Nat := entries.foldl charge ∅

theorem total_append (first second : List (κ × Nat)) (key : κ) :
    total (first ++ second) key = total first key + total second key := by
  rw [total, List.filter_append, List.map_append, List.sum_append, total, total]

theorem total_singleton (entry : κ × Nat) (key : κ) :
    total [entry] key = if entry.1 = key then entry.2 else 0 := by
  unfold total
  by_cases same : entry.1 = key
  · simp [same]
  · simp [same]

theorem total_of_not_mem {entries : List (κ × Nat)} {key : κ}
    (absent : key ∉ entries.map Prod.fst) : total entries key = 0 := by
  have none : entries.filter (fun entry => entry.1 = key) = [] := by
    refine List.filter_eq_nil_iff.mpr ?_
    intro entry member
    rw [decide_eq_true_eq]
    rintro rfl
    exact absent (List.mem_map_of_mem member)
  rw [total, none, List.map_nil, List.sum_nil]

theorem tally_concat (entries : List (κ × Nat)) (entry : κ × Nat) :
    tally (entries ++ [entry]) = charge (tally entries) entry := by
  rw [tally, List.foldl_append, ← tally]
  rfl

/-- A tally holds the keys of its entries, each with its sum. -/
theorem lookup_tally (entries : List (κ × Nat)) (key : κ) :
    (tally entries).lookup key =
      if key ∈ entries.map Prod.fst then some (total entries key) else none := by
  induction entries using List.reverseRecOn with
  | nil => rfl
  | append_singleton entries entry ih =>
      rw [tally_concat, charge, List.map_append, total_append, total_singleton]
      by_cases same : key = entry.1
      · subst same
        rw [Finmap.lookup_insert, ih]
        split
        next known => simp
        next new => simp [total_of_not_mem new]
      · have known : key ∈ entries.map Prod.fst ++ [entry].map Prod.fst ↔
            key ∈ entries.map Prod.fst := by simp [same]
        rw [Finmap.lookup_insert_of_ne _ same, ih, if_neg (Ne.symm same), add_zero]
        simp only [known]

theorem getD_lookup_tally (entries : List (κ × Nat)) (key : κ) :
    ((tally entries).lookup key).getD 0 = total entries key := by
  rw [lookup_tally]
  split
  · rfl
  next new => exact (total_of_not_mem new).symm

theorem total_perm {entries others : List (κ × Nat)} (perm : entries.Perm others) (key : κ) :
    total entries key = total others key :=
  ((perm.filter _).map _).sum_eq

/-- The order of the entries plays no role. -/
theorem tally_perm {entries others : List (κ × Nat)} (perm : entries.Perm others) :
    tally entries = tally others := by
  refine Finmap.ext_lookup fun key => ?_
  rw [lookup_tally, lookup_tally, total_perm perm]
  simp only [(perm.map Prod.fst).mem_iff]

end Tally
