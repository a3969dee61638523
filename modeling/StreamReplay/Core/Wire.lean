import StreamReplay.Foundation.ByteOrder
import StreamReplay.Core.Packet

/-!
# The wire format

`PacketStruct` is `repr(C, packed)`, so on a little-endian host its memory image
is the nine header bytes followed by the payload array.  The sender writes a
front of that image; the receiver casts its reused buffer back, stale tail
included.
-/

namespace StreamReplay

open ByteOrder

/-- The size of the packed structure. -/
def packetSize : Nat := appHeaderLength + maxPayloadLen

namespace PacketStruct

/-- The nine header bytes in field order. -/
def header (packet : PacketStruct) : List UInt8 :=
  toLittleEndian 4 packet.seq.toNat ++ toLittleEndian 2 packet.offset.toNat ++
    toLittleEndian 2 packet.length.toNat ++ [packet.indicators]

/-- The memory image `to_u8_slice`. -/
def toU8Slice (packet : PacketStruct) : List UInt8 :=
  packet.header ++ packet.payload.1

/-- The bytes the sender puts on the wire, `buf[..APP_HEADER_LENGTH + length]`. -/
def datagram (packet : PacketStruct) : List UInt8 :=
  packet.toU8Slice.take (appHeaderLength + packet.length.toNat)

@[simp] theorem length_header (packet : PacketStruct) :
    packet.header.length = appHeaderLength := by
  simp [header, appHeaderLength]

/-- A datagram is the header followed by the carried bytes. -/
theorem datagram_eq (packet : PacketStruct) :
    packet.datagram = packet.header ++ packet.content := by
  rw [datagram, toU8Slice, List.take_append, length_header, Nat.add_sub_cancel_left,
    List.take_of_length_le (by rw [length_header]; omega), content]

theorem length_datagram {packet : PacketStruct}
    (fits : packet.length.toNat ≤ maxPayloadLen) :
    packet.datagram.length = appHeaderLength + packet.length.toNat := by
  rw [datagram_eq, List.length_append, length_header, packet.length_content fits]

end PacketStruct

/-- The unsigned integer in the bytes from `start` to `stop`. -/
def readField (buffer : List UInt8) (start stop : Nat) : Nat :=
  ofLittleEndian ((buffer.take stop).drop start)

/-- The cast `from_buffer`.  It copies `packetSize` bytes, so the buffer must be
at least that long. -/
def fromBuffer (buffer : List UInt8) (large : packetSize ≤ buffer.length) : PacketStruct where
  seq := UInt32.ofNat (readField buffer 0 4)
  offset := UInt16.ofNat (readField buffer 4 6)
  length := UInt16.ofNat (readField buffer 6 8)
  indicators := UInt8.ofNat (readField buffer 8 9)
  payload := ⟨(buffer.take packetSize).drop appHeaderLength, by
    rw [List.length_drop, List.length_take, Nat.min_eq_left large, packetSize,
      Nat.add_sub_cancel_left]⟩

section Decoding

variable (packet : PacketStruct) (body : List UInt8)

private theorem readField_seq :
    readField (packet.header ++ body) 0 4 = packet.seq.toNat := by
  have bytes : ((packet.header ++ body).take 4).drop 0 =
      toLittleEndian 4 packet.seq.toNat := by
    simp [PacketStruct.header, toLittleEndian]
  rw [readField, bytes, ofLittleEndian_of_lt packet.seq.toNat_lt]

private theorem readField_offset :
    readField (packet.header ++ body) 4 6 = packet.offset.toNat := by
  have bytes : ((packet.header ++ body).take 6).drop 4 =
      toLittleEndian 2 packet.offset.toNat := by
    simp [PacketStruct.header, toLittleEndian]
  rw [readField, bytes, ofLittleEndian_of_lt packet.offset.toNat_lt]

private theorem readField_length :
    readField (packet.header ++ body) 6 8 = packet.length.toNat := by
  have bytes : ((packet.header ++ body).take 8).drop 6 =
      toLittleEndian 2 packet.length.toNat := by
    simp [PacketStruct.header, toLittleEndian]
  rw [readField, bytes, ofLittleEndian_of_lt packet.length.toNat_lt]

private theorem readField_indicators :
    readField (packet.header ++ body) 8 9 = packet.indicators.toNat := by
  have bytes : ((packet.header ++ body).take 9).drop 8 = [packet.indicators] := by
    simp [PacketStruct.header, toLittleEndian]
  rw [readField, bytes]
  simp

/-- Decoding a buffer that starts with a packet's header and content recovers
the packet up to the stale bytes behind the content. -/
theorem fromBuffer_header (large : packetSize ≤ (packet.header ++ body).length) :
    let decoded := fromBuffer (packet.header ++ body) large
    decoded.seq = packet.seq ∧ decoded.offset = packet.offset ∧
      decoded.length = packet.length ∧ decoded.indicators = packet.indicators ∧
      decoded.payload.1 = body.take maxPayloadLen := by
  refine ⟨?_, ?_, ?_, ?_, ?_⟩
  · simp only [fromBuffer, readField_seq, UInt32.ofNat_toNat]
  · simp only [fromBuffer, readField_offset, UInt16.ofNat_toNat]
  · simp only [fromBuffer, readField_length, UInt16.ofNat_toNat]
  · simp only [fromBuffer, readField_indicators, UInt8.ofNat_toNat]
  · simp only [fromBuffer, packetSize, List.take_append, PacketStruct.length_header,
      Nat.add_sub_cancel_left]
    rw [List.take_of_length_le (by rw [PacketStruct.length_header]; omega),
      List.drop_append_of_le_length (by rw [PacketStruct.length_header]),
      List.drop_of_length_le (by rw [PacketStruct.length_header]), List.nil_append]

end Decoding

/-- A received datagram decodes to the sent header fields and the sent bytes,
whatever the buffer held behind it. -/
theorem fromBuffer_datagram {packet : PacketStruct} {stale : List UInt8}
    (fits : packet.length.toNat ≤ maxPayloadLen)
    (large : packetSize ≤ (packet.datagram ++ stale).length) :
    let decoded := fromBuffer (packet.datagram ++ stale) large
    decoded.seq = packet.seq ∧ decoded.offset = packet.offset ∧
      decoded.length = packet.length ∧ decoded.indicators = packet.indicators ∧
      decoded.content = packet.content := by
  have split : packet.datagram ++ stale = packet.header ++ (packet.content ++ stale) := by
    rw [PacketStruct.datagram_eq, List.append_assoc]
  simp only [split] at large ⊢
  obtain ⟨seq, offset, length, indicators, payload⟩ :=
    fromBuffer_header packet (packet.content ++ stale) large
  refine ⟨seq, offset, length, indicators, ?_⟩
  have carried := packet.length_content fits
  rw [PacketStruct.content, length, payload, List.take_take, Nat.min_eq_left fits,
    ← carried, List.take_left]

end StreamReplay
