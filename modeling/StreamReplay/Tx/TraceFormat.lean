import StreamReplay.Tx.TraceReader

/-!
# Which files the trace reader accepts

The reader takes an end of file within the metadata for the end of the trace, and
allocates what a header declares before it looks at what the file holds.  Apart
from these two it accepts exactly the encodings of traces.
-/

namespace StreamReplay

open Checked

namespace TraceReader

/-- The environment grants an allocation that the code can ask for. -/
def Allocatable (memory : Memory) (held : List TraceRecord) (size : Nat) : Prop :=
  size ≤ maxAllocation ∧ memory held size = true

theorem allocate_eq_ok {memory : Memory} {held : List TraceRecord} {size : Nat} :
    allocate memory held size = .ok () ↔ Allocatable memory held size := by
  unfold allocate Allocatable
  split
  next above => simp [Nat.not_le.mpr above]
  next below =>
    split
    next granted => simp [granted, Nat.not_lt.mp below]
    next refused => simp [refused]

/-- Exactly the encodings of traces are accepted, and any other file is an error. -/
def ReadsExactly (memory : Memory) (file : List UInt8) : Prop :=
  (∀ records, readPackets memory file = .ok (.ok records) ↔ file = encode records) ∧
    ((∀ records, file ≠ encode records) →
      ∃ error, readPackets memory file = .ok (.error error))

/-- What is left of a file after any number of records is nothing, or a whole header
that declares a length which can be allocated. -/
def Wholesome (memory : Memory) (stored : List TraceRecord) (file : List UInt8) : Prop :=
  ∀ records rest, file = encode records ++ rest →
    rest = [] ∨ 16 ≤ rest.length ∧ Allocatable memory (stored ++ records) (declared rest)

theorem encode_cons (record : TraceRecord) (records : List TraceRecord) :
    encode (record :: records) = TraceRecord.code.encode record ++ encode records :=
  TraceRecord.code.encodeAll_cons record records

/-- A nonempty encoding starts with a whole record. -/
theorem length_encode {records : List TraceRecord} (nonempty : encode records ≠ []) :
    16 + declared (encode records) ≤ (encode records).length := by
  cases records with
  | nil => exact absurd rfl nonempty
  | cons record records =>
      rw [encode_cons, declared_encode]
      simp

theorem Wholesome.of_record {memory : Memory} {stored : List TraceRecord}
    {record : TraceRecord} {rest : List UInt8}
    (wholesome : Wholesome memory stored (TraceRecord.code.encode record ++ rest)) :
    Wholesome memory (stored ++ [record]) rest := by
  rintro records left rfl
  have whole := wholesome (record :: records) left
    (by rw [encode_cons, List.append_assoc])
  rwa [List.append_assoc, List.singleton_append]

/-- On a wholesome file the loop returns the records it encodes, or the error. -/
theorem Wholesome.readRecords_cases {memory : Memory} {stored : List TraceRecord}
    {file : List UInt8} (wholesome : Wholesome memory stored file) :
    (∃ records, file = encode records ∧
        readRecords memory stored file = .ok (.ok (stored ++ records))) ∨
      (∀ records, file ≠ encode records) ∧
        readRecords memory stored file = .ok (.error .unexpectedEof) := by
  induction size : file.length using Nat.strong_induction_on generalizing stored file with
  | _ size ih =>
  subst size
  rcases wholesome [] file rfl with rfl | ⟨long, allocatable⟩
  · refine .inl ⟨[], rfl, ?_⟩
    rw [List.append_nil]
    exact readRecords_short (by simp)
  rw [List.append_nil] at allocatable
  have allocated := allocate_eq_ok.mpr allocatable
  by_cases enough : 16 + declared file ≤ file.length
  · rcases exists_record enough with ⟨record, rest, rfl⟩
    rw [declared_encode] at allocated
    have shorter : rest.length < (TraceRecord.code.encode record ++ rest).length := by
      simp only [TraceRecord.encode_eq, List.length_append, TraceRecord.length_metadata]
      omega
    rw [readRecords_record, allocated]
    rcases ih _ shorter wholesome.of_record rfl with ⟨records, rfl, read⟩ | ⟨other, read⟩
    · refine .inl ⟨record :: records, (encode_cons record records).symm, ?_⟩
      rw [List.append_assoc, List.singleton_append] at read
      exact read
    · refine .inr ⟨fun records equal => ?_, read⟩
      cases records with
      | nil => exact TraceRecord.code.nonempty record (List.append_eq_nil_iff.mp equal).1
      | cons first records =>
          rw [encode_cons] at equal
          exact other records (TraceRecord.code.delimited _ _ _ _ equal).2
  · refine .inr ⟨?_, ?_⟩
    · rintro records rfl
      have nonempty : encode records ≠ [] := List.ne_nil_of_length_pos (by omega)
      exact enough (length_encode nonempty)
    · rw [readRecords_truncated long (by omega), allocated]
      rfl

/-- The loop goes on behind the records it has stored. -/
theorem readRecords_encode {memory : Memory} {stored records : List TraceRecord}
    {rest : List UInt8} {result : Except IoError (List TraceRecord)}
    (read : readRecords memory stored (encode records ++ rest) = .ok result) :
    readRecords memory (stored ++ records) rest = .ok result := by
  induction records generalizing stored with
  | nil => simpa [encode] using read
  | cons record records ih =>
      rw [encode_cons, List.append_assoc, readRecords_record] at read
      rcases bind_eq_ok.mp read with ⟨_, _, read⟩
      have onwards := ih read
      rwa [List.append_assoc, List.singleton_append] at onwards

/-- What is read from a file is what it encodes; less than a header may be left over. -/
theorem exists_of_readRecords {memory : Memory} {stored trace : List TraceRecord}
    {file : List UInt8} (read : readRecords memory stored file = .ok (.ok trace)) :
    ∃ records rest, trace = stored ++ records ∧ file = encode records ++ rest ∧
      rest.length < 16 := by
  induction size : file.length using Nat.strong_induction_on generalizing stored file with
  | _ size ih =>
  subst size
  by_cases short : file.length < 16
  · rw [readRecords_short short] at read
    cases read
    exact ⟨[], file, by simp, by simp [encode], short⟩
  · have long := Nat.not_lt.mp short
    by_cases enough : 16 + declared file ≤ file.length
    · rcases exists_record enough with ⟨record, remaining, rfl⟩
      rw [readRecords_record] at read
      rcases bind_eq_ok.mp read with ⟨_, _, onwards⟩
      have shorter : remaining.length <
          (TraceRecord.code.encode record ++ remaining).length := by
        simp only [TraceRecord.encode_eq, List.length_append, TraceRecord.length_metadata]
        omega
      rcases ih _ shorter onwards rfl with ⟨records, rest, rfl, rfl, left⟩
      exact ⟨record :: records, rest, by simp, by rw [encode_cons, List.append_assoc], left⟩
    · rw [readRecords_truncated long (by omega)] at read
      rcases bind_eq_ok.mp read with ⟨_, _, fails⟩
      cases fails

/-- A file is read exactly when, after any number of records, it has nothing left or
a whole header whose declared length can be allocated. -/
theorem trace_format_exact_iff (memory : Memory) (file : List UInt8) :
    ReadsExactly memory file ↔
      ∀ records rest, file = encode records ++ rest →
        rest = [] ∨ 16 ≤ rest.length ∧ Allocatable memory records (declared rest) := by
  constructor
  · rintro ⟨accepts, rejects⟩ records rest rfl
    have returned : ∃ result, readRecords memory records rest = .ok result ∧
        readPackets memory (encode records ++ rest) = .ok result := by
      by_cases encoded : ∃ others, encode records ++ rest = encode others
      · rcases encoded with ⟨others, equal⟩
        have read := (accepts others).mpr equal
        exact ⟨_, readRecords_encode read, read⟩
      · rcases rejects (not_exists.mp encoded) with ⟨error, read⟩
        exact ⟨_, readRecords_encode read, read⟩
    rcases returned with ⟨result, left, read⟩
    by_cases short : rest.length < 16
    · left
      rw [readRecords_short short] at left
      cases left
      simpa using (accepts records).mp read
    · right
      have long := Nat.not_lt.mp short
      refine ⟨long, allocate_eq_ok.mp ?_⟩
      by_cases enough : 16 + declared rest ≤ rest.length
      · rcases exists_record enough with ⟨record, remaining, rfl⟩
        rw [readRecords_record] at left
        rcases bind_eq_ok.mp left with ⟨_, allocated, _⟩
        rw [declared_encode]
        exact allocated
      · rw [readRecords_truncated long (by omega)] at left
        rcases bind_eq_ok.mp left with ⟨_, allocated, _⟩
        exact allocated
  · intro condition
    have wholesome : Wholesome memory [] file := condition
    rcases wholesome.readRecords_cases with ⟨records, rfl, read⟩ | ⟨other, read⟩
    · have accepted : readPackets memory (encode records) = .ok (.ok records) := read
      refine ⟨fun others => ?_, fun different => absurd rfl (different records)⟩
      rw [accepted, Except.ok.injEq, Except.ok.injEq]
      exact TraceRecord.code.encodeAll_injective.eq_iff.symm
    · have rejected : readPackets memory file = .ok (.error .unexpectedEof) := read
      refine ⟨fun others => ?_, fun _ => ⟨_, rejected⟩⟩
      rw [rejected]
      simp [other others]

/-- A file of one byte is taken for an empty trace. -/
theorem one_byte_accepted : ¬ReadsExactly (fun _ _ => true) [0] := by
  rintro ⟨accepts, _⟩
  have encoded := (accepts []).mp (readRecords_short (by decide))
  simp [encode] at encoded

end TraceReader

end StreamReplay
