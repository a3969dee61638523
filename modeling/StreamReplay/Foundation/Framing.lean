import Mathlib.Data.List.Basic
import Mathlib.Tactic.Common

/-!
# Self-delimiting codes

A code in which the end of each code word can be told from the word itself.  A
sequence of code words then determines the sequence of values it stands for.
The usual case is a header of fixed width that tells the length of the body.
-/

namespace Framing

universe u v

/-- Nonempty code words, none of which is a proper prefix of another. -/
structure Code (Value : Type u) (Symbol : Type v) where
  encode : Value → List Symbol
  nonempty : ∀ value, encode value ≠ []
  delimited : ∀ left right leftRest rightRest,
    encode left ++ leftRest = encode right ++ rightRest →
      left = right ∧ leftRest = rightRest

variable {Value : Type u} {Symbol : Type v}

namespace Code

/-- The code words of a list of values, one after the other. -/
def encodeAll (code : Code Value Symbol) (values : List Value) : List Symbol :=
  values.flatMap code.encode

variable (code : Code Value Symbol)

@[simp] theorem encodeAll_nil : code.encodeAll [] = [] := rfl

@[simp] theorem encodeAll_cons (value : Value) (values : List Value) :
    code.encodeAll (value :: values) = code.encode value ++ code.encodeAll values := by
  simp [encodeAll]

/-- No list of values but the empty one is encoded by nothing. -/
@[simp] theorem encodeAll_eq_nil {values : List Value} :
    code.encodeAll values = [] ↔ values = [] := by
  cases values with
  | nil => simp
  | cons value values => simp [code.nonempty value]

theorem encodeAll_injective : Function.Injective code.encodeAll := by
  intro left right equal
  induction left generalizing right with
  | nil =>
      rw [encodeAll_nil, eq_comm, encodeAll_eq_nil] at equal
      exact equal.symm
  | cons value values ih =>
      cases right with
      | nil => simp [code.nonempty value] at equal
      | cons other others =>
          rw [encodeAll_cons, encodeAll_cons] at equal
          rcases code.delimited _ _ _ _ equal with ⟨rfl, rest⟩
          rw [ih rest]

end Code

/-- The code of a header of fixed width and a body whose length the header tells. -/
def ofHeader (width : Nat) (header body : Value → List Symbol) (positive : 0 < width)
    (length_header : ∀ value, (header value).length = width)
    (sized : ∀ left right, header left = header right →
      (body left).length = (body right).length)
    (determined : ∀ left right, header left = header right → body left = body right →
      left = right) : Code Value Symbol where
  encode value := header value ++ body value
  nonempty value := by
    have long := length_header value
    exact List.ne_nil_of_length_pos (by rw [List.length_append]; omega)
  delimited left right leftRest rightRest equal := by
    rw [List.append_assoc, List.append_assoc] at equal
    have sameWidth := (length_header left).trans (length_header right).symm
    rcases List.append_inj equal sameWidth with ⟨headers, equal⟩
    rcases List.append_inj equal (sized left right headers) with ⟨bodies, rests⟩
    exact ⟨determined left right headers bodies, rests⟩

end Framing
