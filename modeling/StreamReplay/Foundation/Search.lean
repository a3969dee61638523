import Mathlib.Data.List.Infix
import Mathlib.Tactic.Common

/-!
# First occurrences of a pattern

Searching a list for a pattern, and what the search may skip: a part that does not
have the first element of the pattern, and a part up to a separator that the pattern
does not have.
-/

namespace Search

universe u

variable {α : Type u}

/-- A pattern without the separator that starts before it ends before it. -/
theorem prefix_of_separated {needle part rest : List α} {separator : α}
    (free : separator ∉ needle) (starts : needle <+: part ++ separator :: rest) :
    needle <+: part := by
  have whole : part ++ [separator] <+: part ++ separator :: rest :=
    ⟨rest, by rw [List.append_assoc, List.singleton_append]⟩
  rcases List.prefix_or_prefix_of_prefix starts whole with shorter | longer
  · rcases List.prefix_concat_iff.mp shorter with equal | within
    · exact absurd (equal ▸ List.mem_append_right _ List.mem_cons_self) free
    · exact within
  · have member : separator ∈ part ++ [separator] := by simp
    exact absurd (longer.subset member) free

variable [DecidableEq α]

/-- The position of the first occurrence of the pattern. -/
def find (needle : List α) : List α → Option Nat
  | [] => if needle = [] then some 0 else none
  | head :: tail =>
      if needle <+: head :: tail then some 0 else (find needle tail).map (· + 1)

variable {needle : List α}

theorem find_eq_none_iff {text : List α} : find needle text = none ↔ ¬needle <:+: text := by
  induction text with
  | nil =>
      rw [find, List.infix_nil]
      split
      next empty => simp [empty]
      next nonempty => simp [nonempty]
  | cons head tail ih =>
      rw [find, List.infix_cons_iff]
      split
      next starts => simp [starts]
      next later => simp [later, ih]

theorem find_of_prefix {text : List α} (starts : needle <+: text) :
    find needle text = some 0 := by
  cases text with
  | nil => rw [find, if_pos (List.prefix_nil.mp starts)]
  | cons head tail => rw [find, if_pos starts]

theorem find_cons {head : α} {tail : List α} (later : ¬needle <+: head :: tail) :
    find needle (head :: tail) = (find needle tail).map (· + 1) := by
  rw [find, if_neg later]

/-- The search skips a part in which the pattern does not start. -/
theorem find_append {part rest : List α}
    (later : ∀ before after, part = before ++ after → after ≠ [] →
      ¬needle <+: after ++ rest) :
    find needle (part ++ rest) = (find needle rest).map (· + part.length) := by
  induction part with
  | nil => simp
  | cons head part ih =>
      have here : ¬needle <+: head :: (part ++ rest) := later [] _ rfl (by simp)
      have skipped := ih fun before after equal nonempty =>
        later (head :: before) after (by rw [equal]; rfl) nonempty
      rw [List.cons_append, find_cons here, skipped, Option.map_map]
      rfl

/-- The search skips a part without the first element of the pattern. -/
theorem find_append_of_not_mem {first : α} {part rest : List α}
    (starting : needle.head? = some first) (absent : first ∉ part) :
    find needle (part ++ rest) = (find needle rest).map (· + part.length) := by
  rcases List.head?_eq_some_iff.mp starting with ⟨more, rfl⟩
  refine find_append ?_
  rintro before after rfl nonempty starts
  cases after with
  | nil => exact nonempty rfl
  | cons head after =>
      rw [List.cons_append, List.cons_prefix_cons] at starts
      rw [starts.1] at absent
      exact absent (by simp)

/-- The search skips a part without the pattern, up to a separator. -/
theorem find_append_separator {part rest : List α} {separator : α}
    (separated : rest.head? = some separator) (free : separator ∉ needle)
    (absent : ¬needle <:+: part) :
    find needle (part ++ rest) = (find needle rest).map (· + part.length) := by
  rcases List.head?_eq_some_iff.mp separated with ⟨more, rfl⟩
  refine find_append ?_
  rintro before after rfl _ starts
  have within := prefix_of_separated free starts
  exact absent (within.isInfix.trans (List.suffix_append before after).isInfix)

end Search
