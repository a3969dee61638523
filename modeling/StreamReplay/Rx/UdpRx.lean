import StreamReplay.Core.Wire
import StreamReplay.Foundation.StructFormat

/-!
# The Python receiver

`udp_rx.py` unpacks a datagram with a format of its own.  Its first two fields are
those of the packed structure; behind them it expects a port, a packet count and a
timestamp that the sender does not write, and finds payload there.
-/

namespace StreamReplay

open Checked ByteOrder StructFormat

/-- The tuple that `extract` returns. -/
structure Extracted where
  timestamp : Int
  seq : Int
  offset : Int
  num : Int
  indicator : Int
  deriving DecidableEq, Repr

/-- The format `<IHHHHbd`. -/
def extractFormat : List Field :=
  [.uint32, .uint16, .uint16, .uint16, .uint16, .int8, .float64]

def extract (buffer : List UInt8) : Except String Extracted :=
  match unpack extractFormat (buffer.take 21) with
  | .ok [seq, offset, _length, _port, num, indicator, timestamp] =>
      .ok ⟨timestamp, seq, offset, num, indicator⟩
  | .ok _ => .error "wrong number of values to unpack"
  | .error fault => .error fault

/-- The agreement of a reading with the packet. -/
structure Extracted.Agrees (extracted : Extracted) (packet : PacketStruct) : Prop where
  seq_eq : extracted.seq = packet.seq.toNat
  offset_eq : extracted.offset = packet.offset.toNat
  indicator_eq : extracted.indicator = packet.indicators.toNat

/-- The bytes that `extract` unpacks from a datagram that has as many, cut at the
format's fields. -/
theorem take_datagram {packet : PacketStruct} (long : 12 ≤ packet.length.toNat)
    {byte0 byte1 byte2 byte3 : UInt8} {rest : List UInt8}
    (payload : packet.payload.1 = byte0 :: byte1 :: byte2 :: byte3 :: rest) :
    packet.datagram.take 21 = toLittleEndian 4 packet.seq.toNat ++
      (toLittleEndian 2 packet.offset.toNat ++ (toLittleEndian 2 packet.length.toNat ++
        ([packet.indicators, byte0] ++
          ([byte1, byte2] ++ ([byte3] ++ (rest.take 8 ++ [])))))) := by
  have content : packet.content.take 12 =
      byte0 :: byte1 :: byte2 :: byte3 :: rest.take 8 := by
    rw [PacketStruct.content, List.take_take, Nat.min_eq_left long, payload]
    rfl
  have headerLength : packet.header.length = 9 := packet.length_header
  rw [PacketStruct.datagram_eq, List.take_append, headerLength, content,
    List.take_of_length_le (by rw [headerLength]; omega), PacketStruct.header]
  simp

theorem extract_datagram {packet : PacketStruct} (long : 12 ≤ packet.length.toNat)
    {byte0 byte1 byte2 byte3 : UInt8} {rest : List UInt8}
    (payload : packet.payload.1 = byte0 :: byte1 :: byte2 :: byte3 :: rest) :
    extract packet.datagram = .ok {
      seq := packet.seq.toNat
      offset := packet.offset.toNat
      num := Field.uint16.read [byte1, byte2]
      indicator := Field.int8.read [byte3]
      timestamp := Field.float64.read (rest.take 8) } := by
  have bytes := take_datagram long payload
  have restLength : (rest.take 8).length = 8 := by
    have whole := packet.payload.2
    rw [payload, maxPayloadLen_eq] at whole
    simp only [List.length_cons] at whole
    rw [List.length_take]
    omega
  have unpacked : unpack extractFormat (packet.datagram.take 21) = .ok
      [packet.seq.toNat, packet.offset.toNat,
        Field.uint16.read (toLittleEndian 2 packet.length.toNat),
        Field.uint16.read [packet.indicators, byte0], Field.uint16.read [byte1, byte2],
        Field.int8.read [byte3], Field.float64.read (rest.take 8)] := by
    refine unpack_eq_ok.mpr ⟨?_, ?_⟩
    · rw [bytes]
      simp [restLength, extractFormat, calcsize, Field.size]
    · rw [bytes, extractFormat, fields_append (by simp [Field.size]),
        fields_append (by simp [Field.size]), fields_append (by simp [Field.size]),
        fields_append rfl, fields_append rfl, fields_append rfl, fields_append restLength,
        fields_nil, read_uint32 packet.seq.toNat_lt, read_uint16 packet.offset.toNat_lt]
  rw [extract, unpacked]

/-- A datagram of fewer than 21 bytes is refused. -/
theorem length_of_extract {packet : PacketStruct}
    (fits : packet.length.toNat ≤ maxPayloadLen) {extracted : Extracted}
    (unpacked : extract packet.datagram = .ok extracted) : 12 ≤ packet.length.toNat := by
  unfold extract at unpacked
  split at unpacked
  next values =>
    have sized := (unpack_eq_ok.mp values).1
    rw [List.length_take, PacketStruct.length_datagram fits] at sized
    change min 21 (9 + packet.length.toNat) = 21 at sized
    omega
  next => cases unpacked
  next => cases unpacked

/-- The first bytes of a payload. -/
theorem payload_cases (payload : Payload) :
    ∃ byte0 byte1 byte2 byte3 rest, payload.1 = byte0 :: byte1 :: byte2 :: byte3 :: rest := by
  rcases payload with ⟨bytes, sized⟩
  rw [maxPayloadLen_eq] at sized
  match bytes, sized with
  | byte0 :: byte1 :: byte2 :: byte3 :: rest, _ =>
      exact ⟨byte0, byte1, byte2, byte3, rest, rfl⟩

/-- For a packet that the sender puts on the wire, `extract` returns the sequence
number, offset and indicator exactly when the packet carries 12 bytes or more, of
which the fourth equals the indicator; `from_buffer` always recovers them. -/
theorem extract_agrees_iff {packet : PacketStruct} {buffer : List UInt8}
    (sent : slice packet.toU8Slice 0 (appHeaderLength + packet.length.toNat) = .ok buffer) :
    ((∃ extracted, extract buffer = .ok extracted ∧ extracted.Agrees packet) ↔
      12 ≤ packet.length.toNat ∧ packet.payload.1[3]? = some packet.indicators ∧
        packet.indicators < 128) ∧
    ∀ stale large, let decoded := fromBuffer (buffer ++ stale) large
      decoded.seq = packet.seq ∧ decoded.offset = packet.offset ∧
        decoded.indicators = packet.indicators := by
  obtain ⟨⟨_, inBounds⟩, rfl⟩ := slice_eq_ok.mp sent
  have fits : packet.length.toNat ≤ maxPayloadLen := by
    rw [PacketStruct.toU8Slice, List.length_append, PacketStruct.length_header,
      packet.payload.2] at inBounds
    omega
  rw [List.drop_zero]
  change ((∃ extracted, extract packet.datagram = _ ∧ _) ↔ _) ∧
    ∀ stale large, let decoded := fromBuffer (packet.datagram ++ stale) large; _
  rcases payload_cases packet.payload with ⟨byte0, byte1, byte2, byte3, rest, payload⟩
  refine ⟨?_, fun stale large => ?_⟩
  · constructor
    · rintro ⟨extracted, unpacked, agrees⟩
      have long := length_of_extract fits unpacked
      rw [extract_datagram long payload, Except.ok.injEq] at unpacked
      subst unpacked
      have same := read_int8_eq_iff.mp agrees.indicator_eq
      refine ⟨long, ?_, same.2⟩
      rw [payload, ← same.1]
      rfl
    · rintro ⟨long, fourth, positive⟩
      rw [payload] at fourth
      have same : byte3 = packet.indicators := Option.some.inj fourth
      exact ⟨_, extract_datagram long payload, rfl, rfl,
        read_int8_eq_iff.mpr ⟨same, positive⟩⟩
  · obtain ⟨seq, offset, _, indicators, _⟩ := fromBuffer_datagram fits large
    exact ⟨seq, offset, indicators⟩

/-- A packet with the payload bytes 0, 1, 2, ... -/
def numberedPacket (length : UInt16) (packetType : PacketType) : PacketStruct :=
  (PacketStruct.new.setLength length).setIndicator packetType

theorem numberedPacket_sent {length : UInt16} (fits : length.toNat ≤ maxPayloadLen)
    (packetType : PacketType) :
    slice (numberedPacket length packetType).toU8Slice 0
      (appHeaderLength + (numberedPacket length packetType).length.toNat) =
        .ok (numberedPacket length packetType).datagram := by
  refine slice_of_le (Nat.zero_le _) ?_
  rw [PacketStruct.toU8Slice, List.length_append, PacketStruct.length_header,
    (numberedPacket length packetType).payload.2]
  exact Nat.add_le_add_left fits _

theorem extract_agrees_iff_numbered :
    let packet := numberedPacket 12 .lastPacketInSecondLink
    ∃ buffer, slice packet.toU8Slice 0 (appHeaderLength + packet.length.toNat) = .ok buffer ∧
      ((∃ extracted, extract buffer = .ok extracted ∧ extracted.Agrees packet) ↔
        12 ≤ packet.length.toNat ∧ packet.payload.1[3]? = some packet.indicators ∧
          packet.indicators < 128) ∧
      packet.payload.1[3]? = some packet.indicators := by
  intro packet
  have sent := numberedPacket_sent (by decide : (12 : UInt16).toNat ≤ maxPayloadLen)
    .lastPacketInSecondLink
  exact ⟨_, sent, (extract_agrees_iff sent).1, by decide +kernel⟩

/-- The indicator of a packet on the first link is read as 3 from its payload, and a
packet with 3 bytes is refused. -/
theorem extract_misreads :
    (∃ extracted, extract (numberedPacket 12 .firstLink).datagram = .ok extracted ∧
      extracted.indicator = 3 ∧ (numberedPacket 12 .firstLink).indicators = 0) ∧
    ∃ fault, extract (numberedPacket 3 .firstLink).datagram = .error fault := by
  have passes : (extract (numberedPacket 12 .firstLink).datagram).toOption.any
      (·.indicator == 3) = true := by
    decide +kernel
  rcases exists_of_any passes with ⟨extracted, unpacked, three⟩
  exact ⟨⟨extracted, unpacked, beq_iff_eq.mp three, rfl⟩,
    exists_of_isNone (by decide +kernel)⟩

end StreamReplay
