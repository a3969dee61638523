import Mathlib.Data.UInt
import Mathlib.Tactic.Common

/-!
# Decimal numerals

Numerals of ASCII digits and the number that they denote.
-/

namespace Decimal

/-- `b'0'..=b'9'` -/
def isDigit (byte : UInt8) : Bool := 48 ≤ byte && byte ≤ 57

/-- `byte - b'0'` -/
def digit (byte : UInt8) : Nat := byte.toNat - 48

/-- The number that these digits make of the number read before them. -/
def continued (num : Nat) (digits : List UInt8) : Nat :=
  digits.foldl (fun num byte => num * 10 + digit byte) num

@[simp] theorem continued_nil (num : Nat) : continued num [] = num := rfl

@[simp] theorem continued_cons (num : Nat) (byte : UInt8) (digits : List UInt8) :
    continued num (byte :: digits) = continued (num * 10 + digit byte) digits := by
  rw [continued, List.foldl_cons, continued]

/-- A number only grows with more digits. -/
theorem le_continued (num : Nat) (digits : List UInt8) : num ≤ continued num digits := by
  induction digits generalizing num with
  | nil => exact le_refl num
  | cons byte digits ih =>
      calc num ≤ num * 10 + digit byte := by omega
        _ ≤ continued num (byte :: digits) := ih _

/-- At least one digit. -/
structure Numeral where
  bytes : List UInt8
  nonempty : bytes ≠ []
  digits : ∀ byte ∈ bytes, isDigit byte = true

def Numeral.value (numeral : Numeral) : Nat := continued 0 numeral.bytes

/-- A byte that is no digit does not occur in a numeral. -/
theorem Numeral.not_mem (numeral : Numeral) {byte : UInt8} (other : isDigit byte = false) :
    byte ∉ numeral.bytes := by
  intro member
  rw [numeral.digits byte member] at other
  cases other

end Decimal
