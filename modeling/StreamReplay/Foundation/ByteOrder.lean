import Mathlib.Data.Nat.Digits.Defs
import Mathlib.Tactic.Ring

/-!
# Byte order

The fixed-width little-endian image of a natural number, and its reading back
as a base-256 numeral.  The big-endian image is its reverse.
-/

namespace ByteOrder

/-- The `width` low bytes of `value`, least significant first. -/
def toLittleEndian : (width value : Nat) → List UInt8
  | 0, _ => []
  | width + 1, value => UInt8.ofNat value :: toLittleEndian width (value / 256)

/-- The number that a little-endian byte string denotes. -/
def ofLittleEndian (bytes : List UInt8) : Nat :=
  Nat.ofDigits 256 (bytes.map UInt8.toNat)

@[simp] theorem length_toLittleEndian (width value : Nat) :
    (toLittleEndian width value).length = width := by
  induction width generalizing value with
  | zero => rfl
  | succ width ih => simp [toLittleEndian, ih]

@[simp] theorem ofLittleEndian_nil : ofLittleEndian [] = 0 := rfl

@[simp] theorem ofLittleEndian_cons (byte : UInt8) (bytes : List UInt8) :
    ofLittleEndian (byte :: bytes) = byte.toNat + 256 * ofLittleEndian bytes := by
  simp [ofLittleEndian, Nat.ofDigits_cons]

/-- Reading back the low bytes of a number gives its residue. -/
theorem ofLittleEndian_toLittleEndian (width value : Nat) :
    ofLittleEndian (toLittleEndian width value) = value % 256 ^ width := by
  induction width generalizing value with
  | zero => simp [toLittleEndian, Nat.mod_one]
  | succ width ih =>
      have low : (UInt8.ofNat value).toNat = value % 256 := by simp
      rw [toLittleEndian, ofLittleEndian_cons, ih, low, pow_succ', Nat.mod_mul]

/-- A number that fits its width is read back exactly. -/
theorem ofLittleEndian_of_lt {width value : Nat} (fits : value < 256 ^ width) :
    ofLittleEndian (toLittleEndian width value) = value := by
  rw [ofLittleEndian_toLittleEndian, Nat.mod_eq_of_lt fits]

theorem ofLittleEndian_lt (bytes : List UInt8) :
    ofLittleEndian bytes < 256 ^ bytes.length := by
  induction bytes with
  | nil => simp
  | cons byte bytes ih =>
      have low := byte.toNat_lt
      rw [ofLittleEndian_cons, List.length_cons, pow_succ]
      omega

/-- A byte string is the image of the number it denotes. -/
theorem toLittleEndian_ofLittleEndian (bytes : List UInt8) :
    toLittleEndian bytes.length (ofLittleEndian bytes) = bytes := by
  induction bytes with
  | nil => rfl
  | cons byte bytes ih =>
      have low := byte.toNat_lt
      have quotient : (byte.toNat + 256 * ofLittleEndian bytes) / 256 =
          ofLittleEndian bytes := by omega
      have residue : UInt8.ofNat (byte.toNat + 256 * ofLittleEndian bytes) = byte := by
        apply UInt8.toNat_inj.mp
        rw [UInt8.toNat_ofNat']
        omega
      rw [ofLittleEndian_cons, List.length_cons, toLittleEndian, quotient, residue, ih]

/-! ## Big-endian byte strings -/

/-- The `width` low bytes of `value`, most significant first. -/
def toBigEndian (width value : Nat) : List UInt8 := (toLittleEndian width value).reverse

/-- The number that a big-endian byte string denotes. -/
def ofBigEndian (bytes : List UInt8) : Nat := ofLittleEndian bytes.reverse

@[simp] theorem length_toBigEndian (width value : Nat) :
    (toBigEndian width value).length = width := by
  simp [toBigEndian]

theorem ofBigEndian_of_lt {width value : Nat} (fits : value < 256 ^ width) :
    ofBigEndian (toBigEndian width value) = value := by
  rw [ofBigEndian, toBigEndian, List.reverse_reverse, ofLittleEndian_of_lt fits]

theorem ofBigEndian_lt (bytes : List UInt8) : ofBigEndian bytes < 256 ^ bytes.length := by
  simpa [ofBigEndian] using ofLittleEndian_lt bytes.reverse

theorem toBigEndian_ofBigEndian (bytes : List UInt8) :
    toBigEndian bytes.length (ofBigEndian bytes) = bytes := by
  have read := toLittleEndian_ofLittleEndian bytes.reverse
  rw [List.length_reverse] at read
  rw [toBigEndian, ofBigEndian, read, List.reverse_reverse]

end ByteOrder
