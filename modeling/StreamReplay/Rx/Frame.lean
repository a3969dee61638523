import StreamReplay.Rx.Record

/-!
# Frames and their partial records

A frame is what the sender emits under one sequence number.  What the receiver
should know of a frame is the set of indices that have arrived; `Holds` relates a
record to that set.  Recording a datagram adds its index to the set, whatever the
buffer held behind the datagram.
-/

namespace StreamReplay

/-- The packets of one frame, in offset order, as they are put on the wire: each
on either link, the last one and no other marked as last. -/
structure Frame (seq : UInt32) where
  packets : List PacketStruct
  count_pos : 0 < packets.length
  count_le : packets.length ≤ 65535
  seq_eq : ∀ packet ∈ packets, packet.seq = seq
  offset_eq : ∀ index (below : index < packets.length),
    packets[index].offset = UInt16.ofNat index
  length_le : ∀ packet ∈ packets, packet.length.toNat ≤ maxPayloadLen
  indicator_eq : ∀ index (below : index < packets.length), ∃ packetType,
    packets[index].indicators = toIndicator packetType ∧
      (packetType.isLast = true ↔ index + 1 = packets.length)

namespace Frame

variable {seq : UInt32} (frame : Frame seq)

/-- The bytes of the frame in offset order. -/
def content : List UInt8 :=
  frame.packets.flatMap PacketStruct.content

theorem toNat_offset {index : Nat} (below : index < frame.packets.length) :
    (UInt16.ofNat index).toNat = index := by
  have small := frame.count_le
  rw [UInt16.toNat_ofNat']
  omega

/-- The record knows exactly the packets of the frame whose indices have arrived. -/
structure Holds (arrived : Finset Nat) (record : RecvRecord) : Prop where
  bounded : ∀ index ∈ arrived, index < frame.packets.length
  stored : ∀ offset, offset ∈ record.packets ↔ ∃ index ∈ arrived, offset = UInt16.ofNat index
  faithful : ∀ index (below : index < frame.packets.length) packet,
    record.packets.lookup (UInt16.ofNat index) = some packet →
      packet.length = frame.packets[index].length ∧
        packet.content = frame.packets[index].content
  last : record.lastPacketId =
    if frame.packets.length - 1 ∈ arrived then
      some (UInt16.ofNat (frame.packets.length - 1))
    else none

/-- Every index of the frame has arrived. -/
def Covered (arrived : Finset Nat) : Prop :=
  ∀ index < frame.packets.length, index ∈ arrived

variable {frame}

theorem holds_new : frame.Holds ∅ .new where
  bounded := by simp
  stored := by simp [RecvRecord.new, Finmap.notMem_empty]
  faithful := by simp [RecvRecord.new]
  last := by simp [RecvRecord.new]

/-- A record that holds the arrived indices is complete when they cover the frame. -/
theorem Holds.determineComplete_iff {arrived : Finset Nat} {record : RecvRecord}
    (holds : frame.Holds arrived record) :
    record.determineComplete = true ↔ frame.Covered arrived := by
  have countPos := frame.count_pos
  have lastBelow : frame.packets.length - 1 < frame.packets.length := by omega
  have lastEq := frame.toNat_offset lastBelow
  rw [RecvRecord.determineComplete_iff, holds.last]
  constructor
  · rintro ⟨lastId, known, every⟩
    split at known
    next =>
      cases known
      intro index below
      have le : UInt16.ofNat index ≤ UInt16.ofNat (frame.packets.length - 1) := by
        rw [UInt16.le_iff_toNat_le, frame.toNat_offset below, lastEq]
        omega
      rcases (holds.stored _).mp (every _ le) with ⟨other, otherMem, equal⟩
      have numbers := congrArg UInt16.toNat equal
      rw [frame.toNat_offset below, frame.toNat_offset (holds.bounded other otherMem)]
        at numbers
      exact numbers ▸ otherMem
    next => cases known
  · intro covered
    have lastArrived := covered (frame.packets.length - 1) (by omega)
    refine ⟨UInt16.ofNat (frame.packets.length - 1), by rw [if_pos lastArrived], ?_⟩
    intro offset le
    rw [UInt16.le_iff_toNat_le, lastEq] at le
    refine (holds.stored offset).mpr ⟨offset.toNat, covered _ (by omega), ?_⟩
    rw [UInt16.ofNat_toNat]

/-- Recording a datagram of the frame returns, adds its index and reports
completion exactly when the frame is covered. -/
theorem Holds.record {arrived : Finset Nat} {record : RecvRecord}
    (holds : frame.Holds arrived record) {index : Nat}
    (below : index < frame.packets.length) (rxTime : ℚ) (stale : List UInt8)
    (large : packetSize ≤ (frame.packets[index].datagram ++ stale).length) :
    ∃ updated, record.record rxTime (frame.packets[index].datagram ++ stale) large =
        .ok updated ∧
      frame.Holds (insert index arrived) updated ∧
      (updated.isComplete = true ↔ frame.Covered (insert index arrived)) := by
  have short := frame.length_le _ (List.getElem_mem below)
  obtain ⟨_, offsetEq, lengthEq, indicatorsEq, contentEq⟩ :=
    fromBuffer_datagram short large
  rw [frame.offset_eq index below] at offsetEq
  rcases frame.indicator_eq index below with ⟨packetType, indicator, isLast⟩
  rw [indicator] at indicatorsEq
  have known : (fromBuffer _ large).indicators ≤ 3 := by
    rw [indicatorsEq]
    cases packetType <;> decide
  obtain ⟨updated, recorded⟩ :=
    (RecvRecord.recordPacket_returns_iff record rxTime _).mpr known
  rcases RecvRecord.recordPacket_fields indicatorsEq recorded with ⟨packets, lastId, complete⟩
  rw [offsetEq] at packets lastId
  have updatedHolds : frame.Holds (insert index arrived) updated := {
    bounded := by
      intro other member
      rcases Finset.mem_insert.mp member with rfl | earlier
      · exact below
      · exact holds.bounded other earlier
    stored := by
      intro offset
      rw [packets, Finmap.mem_insert, holds.stored offset]
      simp
    faithful := by
      intro other otherBelow packet found
      rw [packets] at found
      by_cases same : other = index
      · subst same
        rw [Finmap.lookup_insert, Option.some.injEq] at found
        subst found
        exact ⟨lengthEq, contentEq⟩
      · have different : UInt16.ofNat other ≠ UInt16.ofNat index := by
          intro equal
          have numbers := congrArg UInt16.toNat equal
          rw [frame.toNat_offset otherBelow, frame.toNat_offset below] at numbers
          exact same numbers
        rw [Finmap.lookup_insert_of_ne _ different] at found
        exact holds.faithful other otherBelow packet found
    last := by
      rw [lastId, RecvRecord.lastIdWith, holds.last]
      by_cases final : index + 1 = frame.packets.length
      · have indexEq : frame.packets.length - 1 = index := by omega
        rw [if_pos (isLast.mpr final), indexEq, if_pos (Finset.mem_insert_self ..)]
      · have notLast : ¬packetType.isLast = true := fun marked => final (isLast.mp marked)
        have indexNe : frame.packets.length - 1 ≠ index := by omega
        rw [if_neg notLast]
        simp [indexNe] }
  exact ⟨updated, recorded, updatedHolds, by rw [complete, updatedHolds.determineComplete_iff]⟩

/-- Gathering a covered frame gives its bytes in offset order. -/
theorem Holds.gather {arrived : Finset Nat} {record : RecvRecord}
    (holds : frame.Holds arrived record) (covered : frame.Covered arrived) :
    record.gather = .ok frame.content := by
  have countLe := frame.count_le
  have keys : record.packets.keys =
      (Finset.range frame.packets.length).image UInt16.ofNat := by
    ext offset
    rw [Finmap.mem_keys, holds.stored, Finset.mem_image]
    constructor
    · rintro ⟨index, member, rfl⟩
      exact ⟨index, Finset.mem_range.mpr (holds.bounded index member), rfl⟩
    · rintro ⟨index, member, rfl⟩
      exact ⟨index, covered index (Finset.mem_range.mp member), rfl⟩
  have card : record.packets.keys.card = frame.packets.length := by
    rw [keys, RecvRecord.card_image_ofNat (by omega)]
  let contents (index : Nat) : PacketStruct :=
    (record.packets.lookup (UInt16.ofNat index)).getD .new
  have found : ∀ index (below : index < frame.packets.length),
      record.packets.lookup (UInt16.ofNat index) = some (contents index) ∧
        (contents index).length = frame.packets[index].length ∧
        (contents index).content = frame.packets[index].content := by
    intro index below
    have member : UInt16.ofNat index ∈ record.packets :=
      (holds.stored _).mpr ⟨index, covered index below, rfl⟩
    rcases Finmap.mem_iff.mp member with ⟨packet, lookup⟩
    have same : contents index = packet := by
      simp only [contents, lookup, Option.getD_some]
    rw [same]
    exact ⟨lookup, holds.faithful index below packet lookup⟩
  have present : ∀ index ∈ List.range frame.packets.length,
      record.packets.lookup (UInt16.ofNat index) = some (contents index) ∧
        (contents index).length.toNat ≤ maxPayloadLen := by
    intro index member
    have below := List.mem_range.mp member
    rcases found index below with ⟨lookup, lengthEq, _⟩
    refine ⟨lookup, ?_⟩
    rw [lengthEq]
    exact frame.length_le _ (List.getElem_mem below)
  have gathered := RecvRecord.gatherFrom_eq_ok contents present
  have parts : (List.range frame.packets.length).map (fun index => (contents index).content) =
      frame.packets.map PacketStruct.content := by
    apply List.ext_getElem
    · simp
    · intro index left right
      have below : index < frame.packets.length := by simpa using right
      simpa using (found index below).2.2
  rw [RecvRecord.gather, card, gathered, content, List.flatMap_def, parts,
    List.flatMap_def]

end Frame

/-! ## Sample frames -/

/-- So many packets of three bytes each, of which the last goes out on the second link. -/
def samplePackets (seq : UInt32) (num : UInt16) : List PacketStruct :=
  (List.range num.toNat).map fun index =>
    { seq
      offset := UInt16.ofNat index
      length := 3
      indicators :=
        toIndicator (if index + 1 = num.toNat then .lastPacketInSecondLink else .firstLink)
      payload := ⟨List.replicate maxPayloadLen (UInt8.ofNat index), List.length_replicate⟩ }

section Samples

variable (seq : UInt32) (num : UInt16)

@[simp] theorem length_samplePackets : (samplePackets seq num).length = num.toNat := by
  simp [samplePackets]

theorem seq_samplePackets : ∀ packet ∈ samplePackets seq num, packet.seq = seq := by
  intro packet member
  rcases List.mem_map.mp member with ⟨index, _, rfl⟩
  rfl

theorem length_le_samplePackets :
    ∀ packet ∈ samplePackets seq num, packet.length.toNat ≤ maxPayloadLen := by
  intro packet member
  rcases List.mem_map.mp member with ⟨index, _, rfl⟩
  change 3 ≤ maxPayloadLen
  decide

theorem offset_samplePackets : ∀ index (below : index < (samplePackets seq num).length),
    (samplePackets seq num)[index].offset = UInt16.ofNat index := by
  intro index below
  simp only [samplePackets, List.getElem_map, List.getElem_range]

theorem indicator_samplePackets : ∀ index (below : index < (samplePackets seq num).length),
    ∃ packetType, (samplePackets seq num)[index].indicators = toIndicator packetType ∧
      (packetType.isLast = true ↔ index + 1 = num.toNat) := by
  intro index below
  simp only [samplePackets, List.getElem_map, List.getElem_range]
  refine ⟨_, rfl, ?_⟩
  split
  next last => simp [last, PacketType.isLast]
  next other => simp [other, PacketType.isLast]

end Samples

end StreamReplay
