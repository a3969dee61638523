import StreamReplay.Foundation.Checked
import Mathlib.Data.List.AList
import Mathlib.Data.List.Permutation
import Mathlib.Tactic.Common

/-!
# Hash maps and their enumeration order

A hash map is a finite map together with the order in which it happens to
enumerate its entries, an `AList`.  Two tables hold the same contents when their
entries are permutations of each other.  This file relates reading a map by
position in its enumeration to reading it by key.
-/

namespace Enumeration

universe u v w

variable {κ : Type u} {ν : Type v} {δ : Type w}

/-- A table from keys to values of one type. -/
abbrev Table (κ : Type u) (ν : Type v) := AList fun _ : κ => ν

/-- The values, in enumeration order. -/
def values (table : Table κ ν) : List ν := table.entries.map Sigma.snd

variable {table : Table κ ν} {first second : κ}

/-- The table of two entries, enumerated in this order. -/
def pair (distinct : first ≠ second) (left right : ν) : Table κ ν where
  entries := [⟨first, left⟩, ⟨second, right⟩]
  nodupKeys := by simpa [List.NodupKeys, List.keys] using distinct

theorem pair_perm_swap (distinct : first ≠ second) (left right : ν) :
    (pair distinct left right).entries.Perm (pair distinct.symm right left).entries :=
  .swap _ _ _

/-- The table has entries for these two keys and no others. -/
def KeysAre (table : Table κ ν) (first second : κ) : Prop :=
  ∀ key, key ∈ table ↔ key = first ∨ key = second

theorem keysAre_pair (distinct : first ≠ second) (left right : ν) :
    KeysAre (pair distinct left right) first second := by
  intro key
  simp [AList.mem_keys, AList.keys, pair]

/-- A table with two keys enumerates them in one of two orders. -/
theorem keys_cases (keys : KeysAre table first second) (distinct : first ≠ second) :
    table.keys = [first, second] ∨ table.keys = [second, first] := by
  refine List.perm_pair.mp ?_
  refine (List.perm_ext_iff_of_nodup table.keys_nodup (by simpa using distinct)).mpr ?_
  intro key
  rw [← AList.mem_keys, keys key]
  simp

theorem keys_of_same (keys : KeysAre table first first) : table.keys = [first] := by
  refine List.perm_singleton.mp ?_
  refine (List.perm_ext_iff_of_nodup table.keys_nodup (List.nodup_singleton _)).mpr ?_
  intro key
  rw [← AList.mem_keys, keys key]
  simp

variable [DecidableEq κ]

theorem map_some_values (table : Table κ ν) :
    (values table).map some = table.keys.map fun key => table.lookup key := by
  simp only [values, AList.keys, List.keys, List.map_map]
  refine List.map_congr_left fun entry member => ?_
  exact (AList.mem_lookup_iff.mpr member).symm

theorem mem_values {value : ν} :
    value ∈ values table ↔ ∃ key, table.lookup key = some value := by
  simp only [values, List.mem_map]
  constructor
  · rintro ⟨⟨key, _⟩, member, rfl⟩
    exact ⟨key, AList.mem_lookup_iff.mpr member⟩
  · rintro ⟨key, found⟩
    exact ⟨⟨key, value⟩, AList.mem_lookup_iff.mp found, rfl⟩

/-- The values behind two keys, in the order of their enumeration. -/
theorem values_eq_pair (enumerated : table.keys = [first, second]) :
    ∃ left right, table.lookup first = some left ∧ table.lookup second = some right ∧
      values table = [left, right] := by
  have read := map_some_values table
  rw [enumerated] at read
  match found : values table with
  | [] => simp [found] at read
  | [_] => simp [found] at read
  | [left, right] =>
      simp only [found, List.map_cons, List.map_nil, List.cons.injEq, and_true] at read
      exact ⟨left, right, read.1.symm, read.2.symm, rfl⟩
  | _ :: _ :: _ :: _ => simp [found] at read

theorem values_eq_singleton (enumerated : table.keys = [first]) :
    ∃ value, table.lookup first = some value ∧ values table = [value] := by
  have read := map_some_values table
  rw [enumerated] at read
  match found : values table with
  | [] => simp [found] at read
  | [value] =>
      simp only [found, List.map_cons, List.map_nil, List.cons.injEq, and_true] at read
      exact ⟨value, read.symm, rfl⟩
  | _ :: _ :: _ => simp [found] at read

/-! ## Reading by position -/

/-- A reading of all values has each key's at the key's position exactly when the
keys differ and are enumerated in their order or read alike. -/
theorem positioned_values_iff (keys : KeysAre table first second) (reading : ν → δ) :
    (((values table).map reading)[0]? = (table.lookup first).map reading ∧
        ((values table).map reading)[1]? = (table.lookup second).map reading) ↔
      first ≠ second ∧ (table.keys = [first, second] ∨
        (table.lookup first).map reading = (table.lookup second).map reading) := by
  by_cases distinct : first = second
  · subst distinct
    rcases values_eq_singleton (keys_of_same keys) with ⟨value, found, valuesEq⟩
    simp [valuesEq, found]
  · have ordered : [first, second] ≠ [second, first] := by simp [distinct]
    rcases keys_cases keys distinct with enumerated | enumerated
    · rcases values_eq_pair enumerated with ⟨left, right, leftFound, rightFound, valuesEq⟩
      simp [valuesEq, leftFound, rightFound, distinct, enumerated]
    · rcases values_eq_pair enumerated with ⟨right, left, rightFound, leftFound, valuesEq⟩
      simp only [valuesEq, leftFound, rightFound, enumerated, ordered.symm, List.map_cons,
        List.map_nil, List.getElem?_cons_zero, List.getElem?_cons_succ, Option.map_some,
        Option.some.injEq, ne_eq, distinct, not_false_eq_true, false_or, true_and]
      exact ⟨fun both => both.2, fun same => ⟨same.symm, same⟩⟩

/-- The same for a reading that may be missing, where one missing reading spoils
them all. -/
theorem positioned_mapM_values_iff (keys : KeysAre table first second)
    (distinct : first ≠ second) (reading : ν → Option δ) :
    (((values table).mapM reading).bind (·[0]?) = (table.lookup first).bind reading ∧
        ((values table).mapM reading).bind (·[1]?) = (table.lookup second).bind reading) ↔
      ((table.lookup first).bind reading = (table.lookup second).bind reading ∨
        (((table.lookup first).bind reading).isSome = true ∧
          ((table.lookup second).bind reading).isSome = true ∧
          table.keys = [first, second])) := by
  have ordered : [second, first] ≠ [first, second] := by simp [Ne.symm distinct]
  rcases keys_cases keys distinct with enumerated | enumerated <;>
    rcases values_eq_pair enumerated with ⟨left, right, leftFound, rightFound, valuesEq⟩ <;>
    cases leftRead : reading left <;> cases rightRead : reading right <;>
    simp [valuesEq, leftFound, rightFound, leftRead, rightRead, enumerated, ordered, eq_comm]

/-! ## Readings determined by the contents -/

/-- A reading in order is a function of the contents alone. -/
theorem map_values_eq (keys : KeysAre table first second) (distinct : first ≠ second)
    {reading : ν → δ}
    (ordered : table.keys = [first, second] ∨
      (table.lookup first).map reading = (table.lookup second).map reading) :
    some ((values table).map reading) = do
      let left ← (table.lookup first).map reading
      let right ← (table.lookup second).map reading
      return [left, right] := by
  rcases keys_cases keys distinct with enumerated | enumerated
  · rcases values_eq_pair enumerated with ⟨left, right, leftFound, rightFound, valuesEq⟩
    simp [valuesEq, leftFound, rightFound]
  · rcases values_eq_pair enumerated with ⟨right, left, rightFound, leftFound, valuesEq⟩
    rcases ordered with other | same
    · rw [enumerated] at other
      exact absurd (List.cons.inj other).1 (Ne.symm distinct)
    · simp only [leftFound, rightFound, Option.map_some, Option.some.injEq] at same
      simp [valuesEq, leftFound, rightFound, same]

theorem mapM_values_eq (keys : KeysAre table first second) (distinct : first ≠ second)
    {reading : ν → Option δ}
    (ordered : (table.lookup first).bind reading = (table.lookup second).bind reading ∨
      table.keys = [first, second]) :
    (values table).mapM reading = do
      let left ← (table.lookup first).bind reading
      let right ← (table.lookup second).bind reading
      return [left, right] := by
  rcases keys_cases keys distinct with enumerated | enumerated
  · rcases values_eq_pair enumerated with ⟨left, right, leftFound, rightFound, valuesEq⟩
    simp [valuesEq, leftFound, rightFound, Option.bind_assoc]
  · rcases values_eq_pair enumerated with ⟨right, left, rightFound, leftFound, valuesEq⟩
    rcases ordered with same | other
    · rw [leftFound, rightFound, Option.bind_some, Option.bind_some] at same
      simp [valuesEq, leftFound, rightFound, same, Option.bind_assoc]
    · rw [enumerated] at other
      exact absurd (List.cons.inj other).1 (Ne.symm distinct)

/-! ## Visiting a table -/

/-- The values read from a table, under their keys. -/
def collect (read : ν → δ) (table : Table κ ν) : Table κ δ where
  entries := table.entries.map (.map id fun _ => read)
  nodupKeys := .map₂ (fun _ => read) _ table.nodupKeys

@[simp] theorem lookup_collect (read : ν → δ) (table : Table κ ν) (key : κ) :
    (collect read table).lookup key = (table.lookup key).map read :=
  List.dlookup_map₂ key

section Visits

open Checked

variable {ι μ ρ : Type u} [DecidableEq ι] {ε : Type w} {visit : μ → Except ε ρ}

/-- Keep what the visit of an entry gives. -/
def visitEntry (visit : μ → Except ε ρ) (collected : Table ι ρ)
    (entry : Sigma fun _ : ι => μ) : Except ε (Table ι ρ) := do
  let value ← visit entry.2
  return collected.insert entry.1 value

/-- Visit the entries in the order of their enumeration; a visit may fail. -/
def collectM (visit : μ → Except ε ρ) (table : Table ι μ) : Except ε (Table ι ρ) :=
  table.entries.foldlM (visitEntry visit) ∅

theorem lookup_visitEntries {entries : List (Sigma fun _ : ι => μ)} (nodup : entries.NodupKeys)
    {start collected : Table ι ρ}
    (visited : entries.foldlM (visitEntry visit) start = .ok collected) (key : ι) :
    (entries.dlookup key = none → collected.lookup key = start.lookup key) ∧
      ∀ value, entries.dlookup key = some value → ∃ result, visit value = .ok result ∧
        collected.lookup key = some result := by
  induction entries generalizing start with
  | nil =>
      cases visited
      simp
  | cons entry entries ih =>
      rcases entry with ⟨first, item⟩
      rcases List.nodupKeys_cons.mp nodup with ⟨new, rest⟩
      rw [List.foldlM_cons] at visited
      rcases bind_eq_ok.mp visited with ⟨_, head, tail⟩
      rcases bind_eq_ok.mp head with ⟨result, given, equal⟩
      cases equal
      rcases ih rest tail with ⟨absent, present⟩
      by_cases same : key = first
      · subst same
        have missing : entries.dlookup key = none := List.dlookup_eq_none.mpr new
        rw [List.dlookup_cons_eq, absent missing, AList.lookup_insert]
        refine ⟨by simp, ?_⟩
        rintro _ ⟨⟩
        exact ⟨result, given, rfl⟩
      · rw [List.dlookup_cons_ne _ _ same]
        refine ⟨fun missing => ?_, present⟩
        rw [absent missing, AList.lookup_insert_ne same]

/-- A table that was visited has the same keys, each with what its visit gave. -/
theorem lookup_collectM {table : Table ι μ} {collected : Table ι ρ}
    (visited : collectM visit table = .ok collected) (key : ι) :
    (table.lookup key = none → collected.lookup key = none) ∧
      ∀ value, table.lookup key = some value → ∃ result, visit value = .ok result ∧
        collected.lookup key = some result :=
  lookup_visitEntries table.nodupKeys visited key

end Visits

end Enumeration
