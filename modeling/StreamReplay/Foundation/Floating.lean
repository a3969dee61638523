import Mathlib.Data.Int.Log
import Mathlib.Data.NNRat.Floor
import Mathlib.Algebra.Field.Rat
import Mathlib.Tactic.Ring

/-!
# Floating-point numbers

A floating-point operation computes its exact result and rounds it.  A finite number is a
sign and a magnitude, so there are two zeros.  The rounding is a parameter: a format has its
precision, and with the exact rounding the operations are those of the rationals.
-/

namespace Floating

inductive Number where
  | finite (negative : Bool) (magnitude : ℚ≥0)
  | infinite (negative : Bool)
  | nan
  deriving DecidableEq

/-- The magnitude that stands for an exact one, unless it overflows. -/
abbrev Rounding := ℚ≥0 → Option ℚ≥0

namespace Rounding

def exact : Rounding := some

/-- The nearest natural number, and of two the even one. -/
def halfEven (value : ℚ≥0) : Nat :=
  let rest := value - ⌊value⌋₊
  if rest < 1 / 2 ∨ rest = 1 / 2 ∧ ⌊value⌋₊ % 2 = 0 then ⌊value⌋₊ else ⌊value⌋₊ + 1

/-- Round to `precision` binary digits.  The last of them stands for `2 ^ least` at least,
and all magnitudes are below `2 ^ bound`. -/
def binary (precision : Nat) (least bound : ℤ) : Rounding := fun magnitude =>
  let unit : ℚ≥0 := 2 ^ max (Int.log 2 magnitude + 1 - precision) least
  let rounded := halfEven (magnitude / unit) * unit
  if rounded < 2 ^ bound then some rounded else none

/-- The numbers of type `f32`. -/
def binary32 : Rounding := binary 24 (-149) 128

end Rounding

namespace Number

instance (n : Nat) : OfNat Number n := ⟨finite false n⟩

def signed (negative : Bool) (magnitude : ℚ≥0) : ℚ := if negative then -magnitude else magnitude

theorem nnabs_signed (negative : Bool) (magnitude : ℚ≥0) :
    (signed negative magnitude).nnabs = magnitude := by
  refine NNRat.coe_injective ?_
  rw [Rat.coe_nnabs, signed]
  split
  · rw [abs_neg, abs_of_nonneg magnitude.coe_nonneg]
  · exact abs_of_nonneg magnitude.coe_nonneg

theorem signed_neg_iff {negative : Bool} {magnitude : ℚ≥0} :
    signed negative magnitude < 0 ↔ negative = true ∧ magnitude ≠ 0 := by
  rw [signed]
  cases negative with
  | true => simp [pos_iff_ne_zero]
  | false => simp

/-- The rational that a finite number is. -/
def value : Number → Option ℚ
  | finite negative magnitude => some (signed negative magnitude)
  | _ => none

section Operations

variable (round : Rounding)

def rounded (negative : Bool) (magnitude : ℚ≥0) : Number :=
  match round magnitude with
  | some magnitude => finite negative magnitude
  | none => infinite negative

def ofRat (value : ℚ) : Number := rounded round (value < 0) value.nnabs

def ofNat (value : Nat) : Number := rounded round false value

def mul : Number → Number → Number
  | finite left first, finite right second => rounded round (left ^^ right) (first * second)
  | finite left first, infinite right => if first = 0 then nan else infinite (left ^^ right)
  | infinite left, finite right second => if second = 0 then nan else infinite (left ^^ right)
  | infinite left, infinite right => infinite (left ^^ right)
  | nan, _ | _, nan => nan

/-- A sum of zero is negative only where both zeros are. -/
def add : Number → Number → Number
  | finite left first, finite right second =>
      let sum := signed left first + signed right second
      if sum = 0 then finite (left && right) 0 else ofRat round sum
  | infinite left, infinite right => if left = right then infinite left else nan
  | infinite left, finite _ _ => infinite left
  | finite _ _, infinite right => infinite right
  | nan, _ | _, nan => nan

def div : Number → Number → Number
  | finite left first, finite right second =>
      if second = 0 then if first = 0 then nan else infinite (left ^^ right)
      else rounded round (left ^^ right) (first / second)
  | finite left _, infinite right => finite (left ^^ right) 0
  | infinite left, finite right _ => infinite (left ^^ right)
  | nan, _ | _, nan | infinite _, infinite _ => nan

end Operations

def lt : Number → Number → Bool
  | finite left first, finite right second => signed left first < signed right second
  | infinite left, infinite right => left && !right
  | infinite left, finite _ _ => left
  | finite _ _, infinite right => !right
  | nan, _ | _, nan => false

def le : Number → Number → Bool
  | finite left first, finite right second => signed left first ≤ signed right second
  | infinite left, infinite right => left || !right
  | infinite left, finite _ _ => left
  | finite _ _, infinite right => !right
  | nan, _ | _, nan => false

/-! ## Exact arithmetic -/

section Exact

variable {first second : Number} {left right : ℚ}

theorem value_eq_some (known : first.value = some left) :
    ∃ negative magnitude, first = finite negative magnitude ∧ signed negative magnitude = left := by
  cases first with
  | finite negative magnitude => exact ⟨negative, magnitude, rfl, Option.some.inj known⟩
  | infinite | nan => cases known

theorem value_ofRat (value : ℚ) : (ofRat .exact value).value = some value := by
  simp only [ofRat, rounded, Rounding.exact, Number.value, signed, decide_eq_true_eq,
    Rat.coe_nnabs]
  split
  next below => rw [abs_of_neg below, neg_neg]
  next above => rw [abs_of_nonneg (not_lt.mp above)]

theorem value_ofNat (value : Nat) : (ofNat .exact value).value = some (value : ℚ) := by
  simp [ofNat, rounded, Rounding.exact, Number.value, signed]

theorem value_mul (known : first.value = some left) (also : second.value = some right) :
    (mul .exact first second).value = some (left * right) := by
  rcases value_eq_some known with ⟨negative, magnitude, rfl, rfl⟩
  rcases value_eq_some also with ⟨other, factor, rfl, rfl⟩
  simp only [mul, rounded, Rounding.exact, value, signed]
  cases negative <;> cases other <;> simp

theorem value_add (known : first.value = some left) (also : second.value = some right) :
    (add .exact first second).value = some (left + right) := by
  rcases value_eq_some known with ⟨negative, magnitude, rfl, rfl⟩
  rcases value_eq_some also with ⟨other, addend, rfl, rfl⟩
  simp only [add]
  split
  next zero => rw [zero]; simp [value, signed]
  next => exact value_ofRat _

theorem value_div (known : first.value = some left) (also : second.value = some right)
    (nonzero : right ≠ 0) : (div .exact first second).value = some (left / right) := by
  rcases value_eq_some known with ⟨negative, magnitude, rfl, rfl⟩
  rcases value_eq_some also with ⟨other, divisor, rfl, rfl⟩
  have divides : divisor ≠ 0 := by
    rintro rfl
    simp [signed] at nonzero
  simp only [div, divides, if_false, rounded, Rounding.exact, value, signed]
  cases negative <;> cases other <;> simp [neg_div, div_neg]

theorem lt_eq (known : first.value = some left) (also : second.value = some right) :
    lt first second = decide (left < right) := by
  rcases value_eq_some known with ⟨negative, magnitude, rfl, rfl⟩
  rcases value_eq_some also with ⟨other, bound, rfl, rfl⟩
  rfl

end Exact

end Number

end Floating
