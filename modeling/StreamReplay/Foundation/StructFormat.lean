import StreamReplay.Foundation.ByteOrder

/-!
# Packed record formats

The formats of Python's `struct` module in its standard little-endian mode: a list
of field codes, read from a byte string without padding.  A byte string of any
other size than the format's is refused.
-/

namespace StructFormat

open ByteOrder

/-- The field codes `I`, `H`, `b` and `d`. -/
inductive Field where
  | uint32
  | uint16
  | int8
  | float64
  deriving DecidableEq, Repr

def Field.size : Field → Nat
  | .uint32 => 4
  | .uint16 => 2
  | .int8 => 1
  | .float64 => 8

/-- The value of a field; that of a floating-point field is given by its bits. -/
def Field.read (field : Field) (bytes : List UInt8) : Int :=
  let value := ofLittleEndian bytes
  match field with
  | .uint32 | .uint16 | .float64 => value
  | .int8 => if value < 128 then value else value - 256

/-- `struct.calcsize`. -/
def calcsize (format : List Field) : Nat := (format.map Field.size).sum

/-- The values of consecutive fields. -/
def fields : List Field → List UInt8 → List Int
  | [], _ => []
  | field :: format, bytes =>
      field.read (bytes.take field.size) :: fields format (bytes.drop field.size)

/-- `struct.unpack`. -/
def unpack (format : List Field) (bytes : List UInt8) : Except String (List Int) :=
  if bytes.length = calcsize format then .ok (fields format bytes)
  else .error ("unpack requires a buffer of " ++ toString (calcsize format) ++ " bytes")

@[simp] theorem fields_nil (bytes : List UInt8) : fields [] bytes = [] := rfl

/-- A field is read from its own bytes. -/
theorem fields_append {field : Field} {format : List Field} {own rest : List UInt8}
    (sized : own.length = field.size) :
    fields (field :: format) (own ++ rest) = field.read own :: fields format rest := by
  rw [fields, ← sized, List.take_left, List.drop_left]

theorem unpack_eq_ok {format : List Field} {bytes : List UInt8} {values : List Int} :
    unpack format bytes = .ok values ↔
      bytes.length = calcsize format ∧ values = fields format bytes := by
  unfold unpack
  split
  next sized => simp [sized, eq_comm]
  next other => simp [other]

/-- A number that fits an unsigned field is read back from its bytes. -/
theorem read_uint32 {value : Nat} (fits : value < 2 ^ 32) :
    Field.uint32.read (toLittleEndian 4 value) = value := by
  rw [Field.read, ofLittleEndian_of_lt (by omega)]

theorem read_uint16 {value : Nat} (fits : value < 2 ^ 16) :
    Field.uint16.read (toLittleEndian 2 value) = value := by
  rw [Field.read, ofLittleEndian_of_lt (by omega)]

/-- A signed byte has the value of an unsigned one exactly when they are the same and
have the sign bit clear. -/
theorem read_int8_eq_iff {byte other : UInt8} :
    Field.int8.read [byte] = other.toNat ↔ byte = other ∧ other < 128 := by
  have byteLt := byte.toNat_lt
  have otherLt := other.toNat_lt
  simp only [Field.read, ofLittleEndian_cons, ofLittleEndian_nil, Nat.mul_zero, Nat.add_zero,
    ← UInt8.toNat_inj, UInt8.lt_iff_toNat_lt]
  change _ ↔ _ ∧ other.toNat < 128
  split <;> omega

end StructFormat
