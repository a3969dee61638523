import Mathlib.Data.UInt
import Mathlib.Tactic.Common

/-!
# Checked evaluation

Rust code either returns a value or panics.  A computation that may panic is an
`Except Panic`, so a panic ends the calls after it and no state survives it.

Integer arithmetic is checked: both crates are run with `cargo run`, whose
profile turns an overflow into a panic.  A result of type `.ok` therefore says
that no counter has wrapped either.
-/

namespace Checked

universe u

/-- The ways in which the modelled code can panic. -/
inductive Panic where
  | overflow
  | outOfBounds
  | unwrapNone
  | unwrapErr
  | message (text : String)
  deriving DecidableEq, Repr

/-- Checked addition of unsigned integers with `width` bits. -/
def add (width left right : Nat) : Except Panic Nat :=
  if left + right < 2 ^ width then .ok (left + right) else .error .overflow

/-- Checked multiplication of unsigned integers with `width` bits. -/
def mul (width left right : Nat) : Except Panic Nat :=
  if left * right < 2 ^ width then .ok (left * right) else .error .overflow

/-- Checked addition at the type `u32`. -/
def add32 (left right : UInt32) : Except Panic UInt32 :=
  if left.toNat + right.toNat < 2 ^ 32 then .ok (left + right) else .error .overflow

/-- Checked subtraction of unsigned integers. -/
def sub (left right : Nat) : Except Panic Nat :=
  if right ≤ left then .ok (left - right) else .error .overflow

/-- The slice `&values[start..stop]`. -/
def slice {α : Type*} (values : List α) (start stop : Nat) : Except Panic (List α) :=
  if start ≤ stop ∧ stop ≤ values.length then
    .ok ((values.take stop).drop start)
  else .error .outOfBounds

/-- The element `values[index]`. -/
def index {α : Type*} (values : List α) (position : Nat) : Except Panic α :=
  match values[position]? with
  | some value => .ok value
  | none => .error .outOfBounds

/-- `Option::unwrap`. -/
def unwrap {α : Type*} : Option α → Except Panic α
  | some value => .ok value
  | none => .error .unwrapNone

/-- A sequenced computation returns exactly when both of its parts do. -/
theorem bind_eq_ok {ε : Type*} {α β : Type u} {first : Except ε α} {rest : α → Except ε β}
    {result : β} :
    (first >>= rest) = .ok result ↔
      ∃ value, first = .ok value ∧ rest value = .ok result := by
  cases first with
  | error fault => simp [bind, Except.bind]
  | ok value => simp [bind, Except.bind]

/-- It faults when its first part does, or the rest does on the value of that. -/
theorem bind_eq_error {ε : Type*} {α β : Type u} {first : Except ε α}
    {rest : α → Except ε β} {fault : ε} :
    (first >>= rest) = .error fault ↔
      first = .error fault ∨ ∃ value, first = .ok value ∧ rest value = .error fault := by
  cases first with
  | error other => simp [bind, Except.bind]
  | ok value => simp [bind, Except.bind]

@[simp] theorem ok_bind {ε : Type*} {α β : Type u} (value : α) (rest : α → Except ε β) :
    (Except.ok value >>= rest) = rest value := rfl

@[simp] theorem error_bind {ε : Type*} {α β : Type u} (fault : ε) (rest : α → Except ε β) :
    (Except.error fault >>= rest) = .error fault := rfl

@[simp] theorem pure_eq_ok {ε α : Type*} (value : α) :
    (pure value : Except ε α) = .ok value := rfl

/-- A result that passes a test is a value. -/
theorem exists_of_any {ε α : Type*} {result : Except ε α} {test : α → Bool}
    (passes : result.toOption.any test = true) :
    ∃ value, result = .ok value ∧ test value = true := by
  cases result with
  | error fault => simp [Except.toOption] at passes
  | ok value => exact ⟨value, rfl, by simpa [Except.toOption] using passes⟩

theorem exists_of_isNone {ε α : Type*} {result : Except ε α}
    (none : result.toOption.isNone = true) : ∃ fault, result = .error fault := by
  cases result with
  | error fault => exact ⟨fault, rfl⟩
  | ok value => simp [Except.toOption] at none

theorem add32_eq_ok {left right total : UInt32} :
    add32 left right = .ok total ↔
      left.toNat + right.toNat < 2 ^ 32 ∧ total = left + right := by
  unfold add32
  split
  next fits =>
    rw [Except.ok.injEq]
    constructor
    · intro equal
      exact ⟨fits, equal.symm⟩
    · rintro ⟨_, equal⟩
      exact equal.symm
  next wraps =>
    constructor
    · intro equal
      cases equal
    · rintro ⟨fits, _⟩
      exact absurd fits wraps

/-- Without an overflow the checked sum is the sum of the numbers. -/
theorem toNat_of_add32 {left right total : UInt32}
    (sum : add32 left right = .ok total) :
    total.toNat = left.toNat + right.toNat := by
  rcases add32_eq_ok.mp sum with ⟨fits, rfl⟩
  rw [UInt32.toNat_add, Nat.mod_eq_of_lt fits]

theorem add_eq_ok {width left right total : Nat} :
    add width left right = .ok total ↔
      left + right < 2 ^ width ∧ total = left + right := by
  unfold add
  split
  next fits => simp [fits, eq_comm]
  next wraps => simp [wraps]

theorem mul_eq_ok {width left right product : Nat} :
    mul width left right = .ok product ↔
      left * right < 2 ^ width ∧ product = left * right := by
  unfold mul
  split
  next fits => simp [fits, eq_comm]
  next wraps => simp [wraps]

theorem sub_eq_ok {left right difference : Nat} :
    sub left right = .ok difference ↔ right ≤ left ∧ difference = left - right := by
  unfold sub
  split
  next fits => simp [fits, eq_comm]
  next below => simp [below]

@[simp] theorem sub_of_le {left right : Nat} (fits : right ≤ left) :
    sub left right = .ok (left - right) := by
  simp [sub, fits]

theorem slice_of_le {α : Type*} {values : List α} {start stop : Nat}
    (ordered : start ≤ stop) (inBounds : stop ≤ values.length) :
    slice values start stop = .ok ((values.take stop).drop start) := by
  simp [slice, ordered, inBounds]

theorem slice_eq_ok {α : Type*} {values part : List α} {start stop : Nat} :
    slice values start stop = .ok part ↔
      (start ≤ stop ∧ stop ≤ values.length) ∧ part = (values.take stop).drop start := by
  unfold slice
  split
  next fits => simp [fits, eq_comm]
  next outside => simp [outside]

theorem unwrap_eq_ok {α : Type*} {value : Option α} {result : α} :
    unwrap value = .ok result ↔ value = some result := by
  cases value <;> simp [unwrap]

theorem index_eq_ok {α : Type*} {values : List α} {position : Nat} {value : α} :
    index values position = .ok value ↔ values[position]? = some value := by
  unfold index
  cases values[position]? with
  | none => simp
  | some other => simp

theorem index_eq_error {α : Type*} {values : List α} {position : Nat} {fault : Panic} :
    index values position = .error fault ↔
      values.length ≤ position ∧ fault = .outOfBounds := by
  unfold index
  cases found : values[position]? with
  | none => simp [List.getElem?_eq_none_iff.mp found, eq_comm]
  | some value =>
      rcases List.getElem?_eq_some_iff.mp found with ⟨below, _⟩
      simp [below]

theorem lt_length_of_index {α : Type*} {values : List α} {position : Nat} {value : α}
    (found : index values position = .ok value) : position < values.length := by
  rcases List.getElem?_eq_some_iff.mp (index_eq_ok.mp found) with ⟨below, _⟩
  exact below

theorem index_of_lt {α : Type*} {values : List α} {position : Nat}
    (below : position < values.length) : ∃ value, index values position = .ok value :=
  ⟨values[position], index_eq_ok.mpr (List.getElem?_eq_getElem below)⟩

end Checked
