import StreamReplay.Foundation.Checked
import Mathlib.Data.Rat.Defs

/-!
# Packets

The packet of `core/src/packet.rs`: the packed wire structure, the sender's
bookkeeping around it, and the indicator byte that names the link and marks the
last packet of a frame.
-/

namespace StreamReplay

open Checked

def ipHeaderLength : Nat := 20
def udpHeaderLength : Nat := 8
def appHeaderLength : Nat := 9
def udpMaxLength : Nat := 1500 - ipHeaderLength - udpHeaderLength
def maxPayloadLen : Nat := udpMaxLength - appHeaderLength

theorem maxPayloadLen_eq : maxPayloadLen = 1463 := rfl

/-- The payload array `[u8; MAX_PAYLOAD_LEN]`. -/
abbrev Payload := { bytes : List UInt8 // bytes.length = maxPayloadLen }

inductive PacketType where
  | firstLink
  | secondLink
  | lastPacketInFirstLink
  | lastPacketInSecondLink
  deriving DecidableEq, Repr

/-- Whether a packet type marks the last packet of its frame. -/
def PacketType.isLast : PacketType → Bool
  | .firstLink | .secondLink => false
  | .lastPacketInFirstLink | .lastPacketInSecondLink => true

/-- The wire structure `PacketStruct`. -/
structure PacketStruct where
  seq : UInt32
  offset : UInt16
  length : UInt16
  indicators : UInt8
  payload : Payload
  deriving DecidableEq

/-- A packet with the sender's metadata; `num` counts the packets of its frame. -/
structure PacketWithMeta where
  packet : PacketStruct
  port : UInt16
  num : Nat
  arrivalTime : ℚ
  channel : Nat
  lastOne : Bool
  deriving DecidableEq

/-! ## Indicators -/

def toIndicator : PacketType → UInt8
  | .firstLink => 0b00000000
  | .secondLink => 0b00000001
  | .lastPacketInFirstLink => 0b00000010
  | .lastPacketInSecondLink => 0b00000011

def getPacketType (indicators : UInt8) : Except Panic PacketType :=
  if indicators = 0b00000000 then .ok .firstLink
  else if indicators = 0b00000001 then .ok .secondLink
  else if indicators = 0b00000010 then .ok .lastPacketInFirstLink
  else if indicators = 0b00000011 then .ok .lastPacketInSecondLink
  else .error (.message "Invalid packet type")

/-- The last bit of the indicator. -/
def channelInfo (indicator : UInt8) : UInt8 := indicator &&& 0b00000001

@[simp] theorem getPacketType_toIndicator (packetType : PacketType) :
    getPacketType (toIndicator packetType) = .ok packetType := by
  cases packetType <;> rfl

theorem getPacketType_eq_ok {indicators : UInt8} {packetType : PacketType} :
    getPacketType indicators = .ok packetType ↔ indicators = toIndicator packetType := by
  constructor
  · intro accepted
    unfold getPacketType at accepted
    split_ifs at accepted <;> cases accepted <;> assumption
  · rintro rfl
    exact getPacketType_toIndicator packetType

/-- The receiver accepts exactly the four indicators the sender can write. -/
theorem getPacketType_returns_iff (indicators : UInt8) :
    (∃ packetType, getPacketType indicators = .ok packetType) ↔ indicators ≤ 3 := by
  simp only [getPacketType_eq_ok]
  constructor
  · rintro ⟨packetType, rfl⟩
    cases packetType <;> decide
  · intro bound
    have known : indicators = 0 ∨ indicators = 1 ∨ indicators = 2 ∨ indicators = 3 := by
      grind
    rcases known with rfl | rfl | rfl | rfl
    · exact ⟨.firstLink, rfl⟩
    · exact ⟨.secondLink, rfl⟩
    · exact ⟨.lastPacketInFirstLink, rfl⟩
    · exact ⟨.lastPacketInSecondLink, rfl⟩

/-- The last-packet indicators are the ones with the second bit set. -/
theorem isLast_iff_two_le {indicators : UInt8} {packetType : PacketType}
    (known : indicators = toIndicator packetType) :
    packetType.isLast = true ↔ 2 ≤ indicators := by
  subst known
  cases packetType <;> decide

/-! ## Packet updates -/

namespace PacketStruct

/-- The dummy content `0..MAX_PAYLOAD_LEN`, truncated to bytes. -/
def dummyPayload : Payload :=
  ⟨(List.range maxPayloadLen).map UInt8.ofNat, by simp⟩

def new : PacketStruct where
  seq := 0
  offset := 0
  length := 0
  indicators := 0
  payload := dummyPayload

def setLength (packet : PacketStruct) (length : UInt16) : PacketStruct :=
  { packet with length }

def nextSeq (packet : PacketStruct) (num : Nat) : Except Panic PacketStruct := do
  let seq ← add32 packet.seq 1
  return { packet with seq, offset := UInt16.ofNat num }

def setOffset (packet : PacketStruct) (offset : UInt16) : PacketStruct :=
  { packet with offset }

def setIndicator (packet : PacketStruct) (packetType : PacketType) : PacketStruct :=
  { packet with indicators := toIndicator packetType }

/-- Overwrite the front of the payload; the bytes behind it stay. -/
def setPayload (packet : PacketStruct) (payload : List UInt8) : Except Panic PacketStruct :=
  if fits : payload.length ≤ maxPayloadLen then
    .ok { packet with
      payload := ⟨payload ++ packet.payload.1.drop payload.length, by
        rw [List.length_append, List.length_drop, packet.payload.2]
        omega⟩ }
  else .error .outOfBounds

/-- The bytes `payload[..length]` that a packet carries. -/
def content (packet : PacketStruct) : List UInt8 :=
  packet.payload.1.take packet.length.toNat

theorem length_content (packet : PacketStruct)
    (fits : packet.length.toNat ≤ maxPayloadLen) :
    packet.content.length = packet.length.toNat := by
  rw [content, List.length_take, packet.payload.2]
  omega

end PacketStruct

namespace PacketWithMeta

def new (port : UInt16) : PacketWithMeta where
  packet := .new
  port
  num := 0
  arrivalTime := 0
  channel := 0
  lastOne := false

def nextSeq (packet : PacketWithMeta) (num : Nat) : Except Panic PacketWithMeta := do
  let inner ← packet.packet.nextSeq num
  return { packet with packet := inner, num }

def setLength (packet : PacketWithMeta) (length : UInt16) : PacketWithMeta :=
  { packet with packet := packet.packet.setLength length }

/-- `last_one` compares the offset with the last index truncated to `u16`. -/
def setOffset (packet : PacketWithMeta) (offset : UInt16) : Except Panic PacketWithMeta := do
  let last ← sub packet.num 1
  return { packet with
    packet := packet.packet.setOffset offset
    lastOne := offset == UInt16.ofNat last }

def setIndicator (packet : PacketWithMeta) (packetType : PacketType) : PacketWithMeta :=
  let inner := packet.packet.setIndicator packetType
  { packet with packet := inner, channel := (channelInfo inner.indicators).toNat }

def setPayload (packet : PacketWithMeta) (payload : List UInt8) :
    Except Panic PacketWithMeta := do
  let inner ← packet.packet.setPayload payload
  return { packet with packet := inner }

end PacketWithMeta

end StreamReplay
