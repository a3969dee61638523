import StreamReplay.Foundation.ByteOrder
import StreamReplay.Foundation.Checked
import StreamReplay.Foundation.Framing
import Mathlib.Data.Vector.Basic

/-!
# The trace reader

`read_packets` of `tx/src/utils/trace_reader.rs`, on the bytes of a readable
file: its only read error is the end of the file.  The body of a record is
allocated before it is read, at the length that the file declares.  Whether an
allocation succeeds is up to the environment, except that none does beyond
`isize::MAX` bytes.
-/

namespace StreamReplay

open Checked ByteOrder

/-- An interval in nanoseconds and the data it follows. -/
@[ext]
structure TraceRecord where
  intervalNs : UInt64
  data : List UInt8
  data_lt : data.length < 2 ^ 64

namespace TraceReader

inductive IoError where
  | unexpectedEof
  deriving DecidableEq

/-- `read_exact` into a buffer of `count` bytes; the rest of the file stays. -/
def readExact (count : Nat) (file : List UInt8) :
    Option (List.Vector UInt8 count × List UInt8) :=
  if enough : count ≤ file.length then
    some (⟨file.take count, by simp [enough]⟩, file.drop count)
  else none

theorem length_of_readExact {count : Nat} {file rest : List UInt8}
    {buffer : List.Vector UInt8 count} (read : readExact count file = some (buffer, rest)) :
    file.length = count + rest.length := by
  unfold readExact at read
  split at read
  next enough =>
    cases read
    simp [enough]
  next => cases read

theorem readExact_eq_none {count : Nat} {file : List UInt8} :
    readExact count file = none ↔ file.length < count := by
  unfold readExact
  split
  next enough => simp [enough]
  next short => simpa using short

theorem readExact_eq_some {count : Nat} {file rest : List UInt8}
    {buffer : List.Vector UInt8 count} (read : readExact count file = some (buffer, rest)) :
    buffer.toList = file.take count ∧ rest = file.drop count := by
  unfold readExact at read
  split at read
  next enough =>
    cases read
    exact ⟨rfl, rfl⟩
  next => cases read

/-- `isize::MAX` -/
def maxAllocation : Nat := 2 ^ 63 - 1

/-- What the environment allows: an allocation of this size, with these records held. -/
abbrev Memory := List TraceRecord → Nat → Bool

/-- `vec![0u8; size]` -/
def allocate (memory : Memory) (held : List TraceRecord) (size : Nat) :
    Except Panic Unit :=
  if maxAllocation < size then .error (.message "capacity overflow")
  else if memory held size then .ok ()
  else .error (.message "memory allocation failed")

/-- `u64::from_be_bytes` -/
def fromBeBytes (bytes : List UInt8) : UInt64 := UInt64.ofNat (ofBigEndian bytes)

theorem toNat_fromBeBytes {bytes : List UInt8} (short : bytes.length ≤ 8) :
    (fromBeBytes bytes).toNat = ofBigEndian bytes := by
  have fits : ofBigEndian bytes < 2 ^ 64 :=
    calc ofBigEndian bytes < 256 ^ bytes.length := ofBigEndian_lt bytes
      _ ≤ 256 ^ 8 := Nat.pow_le_pow_right (by decide) short
      _ = 2 ^ 64 := by decide
  rw [fromBeBytes, UInt64.toNat_ofNat', Nat.mod_eq_of_lt fits]

/-- The loop of `read_packets`, from the current position of the file.  An end of
file while reading the metadata ends the trace, also when some bytes were left. -/
def readRecords (memory : Memory) (stored : List TraceRecord) (file : List UInt8) :
    Except Panic (Except IoError (List TraceRecord)) :=
  match header : readExact 16 file with
  | none => .ok (.ok stored)
  | some (metadata, afterHeader) =>
      let intervalNs := fromBeBytes (metadata.toList.take 8)
      let dataLength := fromBeBytes (metadata.toList.drop 8)
      match allocate memory stored dataLength.toNat with
      | .error fault => .error fault
      | .ok () =>
          match body : readExact dataLength.toNat afterHeader with
          | none => .ok (.error .unexpectedEof)
          | some (data, rest) =>
              let record : TraceRecord :=
                ⟨intervalNs, data.toList, by rw [data.toList_length]; exact dataLength.toNat_lt⟩
              readRecords memory (stored ++ [record]) rest
termination_by file.length
decreasing_by
  have headerLength := length_of_readExact header
  have bodyLength := length_of_readExact body
  omega

def readPackets (memory : Memory) (file : List UInt8) :
    Except Panic (Except IoError (List TraceRecord)) :=
  readRecords memory [] file

end TraceReader

/-! ## The format -/

namespace TraceRecord

def metadata (record : TraceRecord) : List UInt8 :=
  toBigEndian 8 record.intervalNs.toNat ++ toBigEndian 8 record.data.length

@[simp] theorem length_metadata (record : TraceRecord) : record.metadata.length = 16 := by
  simp [metadata]

theorem take_metadata (record : TraceRecord) :
    record.metadata.take 8 = toBigEndian 8 record.intervalNs.toNat :=
  List.take_left' (by simp)

theorem drop_metadata (record : TraceRecord) :
    record.metadata.drop 8 = toBigEndian 8 record.data.length :=
  List.drop_left' (by simp)

theorem ofBigEndian_interval (record : TraceRecord) :
    ofBigEndian (record.metadata.take 8) = record.intervalNs.toNat := by
  have fits : record.intervalNs.toNat < 256 ^ 8 := record.intervalNs.toNat_lt
  rw [take_metadata, ofBigEndian_of_lt fits]

theorem ofBigEndian_length (record : TraceRecord) :
    ofBigEndian (record.metadata.drop 8) = record.data.length := by
  have fits : record.data.length < 256 ^ 8 := record.data_lt
  rw [drop_metadata, ofBigEndian_of_lt fits]

/-- A record is the eight bytes of the interval, those of the data's length, and the
data. -/
def code : Framing.Code TraceRecord UInt8 :=
  Framing.ofHeader 16 metadata data (by decide) length_metadata
    (fun left right headers => by
      rw [← ofBigEndian_length left, ← ofBigEndian_length right, headers])
    (fun left right headers bodies => by
      apply TraceRecord.ext
      · apply UInt64.toNat_inj.mp
        rw [← ofBigEndian_interval left, ← ofBigEndian_interval right, headers]
      · exact bodies)

@[simp] theorem encode_eq (record : TraceRecord) :
    code.encode record = record.metadata ++ record.data := rfl

end TraceRecord

/-- The content of a trace file with these records. -/
def encode (records : List TraceRecord) : List UInt8 := TraceRecord.code.encodeAll records

namespace TraceReader

/-- The data length that the first sixteen bytes declare. -/
def declared (file : List UInt8) : Nat := ofBigEndian ((file.take 16).drop 8)

theorem declared_lt (file : List UInt8) : declared file < 2 ^ 64 := by
  have bound := ofBigEndian_lt ((file.take 16).drop 8)
  have short : ((file.take 16).drop 8).length ≤ 8 := by
    simp only [List.length_drop, List.length_take]
    omega
  calc declared file < 256 ^ ((file.take 16).drop 8).length := bound
    _ ≤ 256 ^ 8 := Nat.pow_le_pow_right (by decide) short
    _ = 2 ^ 64 := by decide

theorem declared_encode (record : TraceRecord) (rest : List UInt8) :
    declared (TraceRecord.code.encode record ++ rest) = record.data.length := by
  have header : (TraceRecord.code.encode record ++ rest).take 16 = record.metadata := by
    rw [TraceRecord.encode_eq, List.append_assoc]
    exact List.take_left' record.length_metadata
  rw [declared, header, record.ofBigEndian_length]

/-- A file starts with a record when it holds as many bytes as it declares. -/
theorem exists_record {file : List UInt8} (enough : 16 + declared file ≤ file.length) :
    ∃ record rest, file = TraceRecord.code.encode record ++ rest := by
  have dataLength : ((file.drop 16).take (declared file)).length = declared file := by
    simp only [List.length_take, List.length_drop]
    omega
  have headerLength : (file.take 16).length = 16 := by
    rw [List.length_take]
    omega
  have intervalLength : ((file.take 16).take 8).length = 8 := by
    rw [List.length_take, headerLength]
    rfl
  have declaredLength : ((file.take 16).drop 8).length = 8 := by
    rw [List.length_drop, headerLength]
  let record : TraceRecord :=
    ⟨fromBeBytes ((file.take 16).take 8), (file.drop 16).take (declared file),
      by rw [dataLength]; exact declared_lt file⟩
  have metadataEq : record.metadata = file.take 16 := by
    have interval := toBigEndian_ofBigEndian ((file.take 16).take 8)
    have length := toBigEndian_ofBigEndian ((file.take 16).drop 8)
    rw [intervalLength] at interval
    rw [declaredLength] at length
    calc record.metadata
        = toBigEndian 8 (ofBigEndian ((file.take 16).take 8)) ++
            toBigEndian 8 (declared file) := by
          rw [TraceRecord.metadata, dataLength, toNat_fromBeBytes intervalLength.le]
      _ = (file.take 16).take 8 ++ (file.take 16).drop 8 := by rw [declared, interval, length]
      _ = file.take 16 := List.take_append_drop 8 _
  refine ⟨record, (file.drop 16).drop (declared file), ?_⟩
  rw [TraceRecord.encode_eq, metadataEq, List.append_assoc, List.take_append_drop,
    List.take_append_drop]

/-! ## The loop, case by case -/

theorem readRecords_short {memory : Memory} {stored : List TraceRecord}
    {file : List UInt8} (short : file.length < 16) :
    readRecords memory stored file = .ok (.ok stored) := by
  rw [readRecords]
  split
  next => rfl
  next metadata afterHeader header =>
    have long := length_of_readExact header
    omega

/-- The length read from a whole header is the declared one. -/
theorem length_of_header {file afterHeader : List UInt8} {metadata : List.Vector UInt8 16}
    (header : readExact 16 file = some (metadata, afterHeader)) :
    (fromBeBytes (metadata.toList.drop 8)).toNat = declared file := by
  rcases readExact_eq_some header with ⟨metadataEq, _⟩
  rw [toNat_fromBeBytes (by simp), metadataEq, declared]

/-- Behind a whole header, the declared length is allocated and the body is read. -/
theorem readRecords_header {memory : Memory} {stored : List TraceRecord}
    {file afterHeader : List UInt8} {metadata : List.Vector UInt8 16}
    (header : readExact 16 file = some (metadata, afterHeader)) :
    readRecords memory stored file =
      (allocate memory stored (declared file)).bind fun _ =>
        match readExact (fromBeBytes (metadata.toList.drop 8)).toNat afterHeader with
        | none => .ok (.error .unexpectedEof)
        | some (data, rest) =>
            readRecords memory (stored ++ [⟨fromBeBytes (metadata.toList.take 8), data.toList,
              by rw [data.toList_length]; exact UInt64.toNat_lt _⟩]) rest := by
  rw [readRecords, ← length_of_header header]
  split
  next missing =>
    rw [header] at missing
    cases missing
  next found afterFound again =>
    rw [header] at again
    cases again
    dsimp only
    split
    next fault failed =>
      rw [failed]
      rfl
    next allocated =>
      rw [allocated]
      change _ = (match readExact (fromBeBytes (metadata.toList.drop 8)).toNat afterHeader with
        | none => _
        | some (data, rest) => _)
      split
      next missing => simp only [missing]
      next data rest body => simp only [body]

/-- A body shorter than its header declares is an error, once it was allocated. -/
theorem readRecords_truncated {memory : Memory} {stored : List TraceRecord}
    {file : List UInt8} (long : 16 ≤ file.length)
    (short : file.length < 16 + declared file) :
    readRecords memory stored file =
      (allocate memory stored (declared file)).bind fun _ =>
        .ok (.error .unexpectedEof) := by
  cases header : readExact 16 file with
  | none =>
      have below := readExact_eq_none.mp header
      omega
  | some found =>
      rcases found with ⟨metadata, afterHeader⟩
      have lengthEq := length_of_header header
      have headerLength := length_of_readExact header
      have body : readExact (fromBeBytes (metadata.toList.drop 8)).toNat afterHeader = none :=
        readExact_eq_none.mpr (by omega)
      rw [readRecords_header header, body]

/-- A record at the start of the file is allocated, read and stored. -/
theorem readRecords_record {memory : Memory} {stored : List TraceRecord}
    (record : TraceRecord) (rest : List UInt8) :
    readRecords memory stored (TraceRecord.code.encode record ++ rest) =
      (allocate memory stored record.data.length).bind fun _ =>
        readRecords memory (stored ++ [record]) rest := by
  have fileLength : (TraceRecord.code.encode record ++ rest).length =
      16 + record.data.length + rest.length := by simp [Nat.add_assoc]
  cases header : readExact 16 (TraceRecord.code.encode record ++ rest) with
  | none =>
      have below := readExact_eq_none.mp header
      omega
  | some found =>
      rcases found with ⟨metadata, afterHeader⟩
      have lengthEq := (length_of_header header).trans (declared_encode record rest)
      have headerLength := length_of_readExact header
      rcases readExact_eq_some header with ⟨metadataEq, afterEq⟩
      rw [TraceRecord.encode_eq, List.append_assoc] at metadataEq afterEq
      rw [List.take_left' record.length_metadata] at metadataEq
      rw [List.drop_left' record.length_metadata] at afterEq
      rw [readRecords_header header, declared_encode]
      cases body : readExact (fromBeBytes (metadata.toList.drop 8)).toNat afterHeader with
      | none =>
          have below := readExact_eq_none.mp body
          omega
      | some read =>
          rcases read with ⟨data, remaining⟩
          rcases readExact_eq_some body with ⟨dataEq, remainingEq⟩
          rw [afterEq, List.take_left' lengthEq.symm] at dataEq
          rw [afterEq, List.drop_left' lengthEq.symm] at remainingEq
          have intervalEq : fromBeBytes (metadata.toList.take 8) = record.intervalNs := by
            apply UInt64.toNat_inj.mp
            rw [toNat_fromBeBytes (by simp), metadataEq, record.ofBigEndian_interval]
          have recordEq : (⟨fromBeBytes (metadata.toList.take 8), data.toList,
              by rw [data.toList_length]; exact UInt64.toNat_lt _⟩ : TraceRecord) = record :=
            TraceRecord.ext intervalEq dataEq
          simp only [remainingEq, recordEq]

end TraceReader

end StreamReplay
