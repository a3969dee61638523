import StreamReplay.Foundation.Sequence
import StreamReplay.Tx.Packetise

/-!
# What packetisation preserves

A frame of at most 65535 packets reaches the wire as the front of its buffer up
to the end of the last packet.  The last packet has the remainder of the division
as its length, so the front is the whole buffer unless the remainder is zero.
-/

namespace StreamReplay

open Checked Sequence

/-- The packets carry `buffer` under the sequence number `seq`: in offset order,
each byte once. -/
structure Lossless (seq : UInt32) (buffer : List UInt8) (packets : List PacketWithMeta) :
    Prop where
  seqs : ∀ packet ∈ packets, packet.packet.seq = seq
  offsets : packets.map (fun packet => packet.packet.offset.toNat) =
    List.range (frameNum buffer.length)
  bytes : packets.flatMap (fun packet => packet.packet.content) = buffer
  lengths : (packets.map fun packet => packet.packet.length.toNat).sum = buffer.length

/-- The chunk that the packet at `offset` copies. -/
def chunk (buffer : List UInt8) (offset : UInt16) : List UInt8 :=
  let length := packetLength (frameNum buffer.length - 1) (frameRemains buffer.length) offset
  (buffer.take (offset.toNat * maxPayloadLen + length.toNat)).drop
    (offset.toNat * maxPayloadLen)

theorem flatMap_chunk {buffer : List UInt8} (nonempty : buffer ≠ [])
    (short : frameNum buffer.length ≤ 65535) :
    (offsetRange (frameNum buffer.length)).flatMap (chunk buffer) =
      buffer.take ((frameNum buffer.length - 1) * maxPayloadLen +
        frameRemains buffer.length) := by
  have sizePos : 0 < buffer.length := List.length_pos_iff.mpr nonempty
  have numPos : 0 < frameNum buffer.length := by
    rcases frameNum_cases buffer.length with ⟨exact, count⟩ | ⟨partly, count⟩ <;> omega
  obtain ⟨last, lastEq⟩ : ∃ last, frameNum buffer.length = last + 1 :=
    ⟨frameNum buffer.length - 1, by omega⟩
  have small : (UInt16.ofNat (frameNum buffer.length)).toNat = last + 1 := by
    rw [UInt16.toNat_ofNat', lastEq]
    omega
  have inner : ∀ index ∈ List.range last,
      chunk buffer (UInt16.ofNat index) =
        (buffer.take (index * maxPayloadLen + maxPayloadLen)).drop
          (index * maxPayloadLen) := by
    intro index member
    rw [List.mem_range] at member
    have indexEq : (UInt16.ofNat index).toNat = index := by
      rw [UInt16.toNat_ofNat']
      omega
    have notLast : index ≠ (frameNum buffer.length - 1) % 2 ^ 16 := by omega
    rw [chunk, toNat_packetLength, indexEq, if_neg notLast, maxPayloadLen_eq]
  have final : chunk buffer (UInt16.ofNat last) =
      (buffer.take (last * maxPayloadLen + frameRemains buffer.length)).drop
        (last * maxPayloadLen) := by
    have lastSmall : (UInt16.ofNat last).toNat = last := by
      rw [UInt16.toNat_ofNat']
      omega
    have isLast : last = (frameNum buffer.length - 1) % 2 ^ 16 := by omega
    rw [chunk, toNat_packetLength, lastSmall, if_pos isLast]
    rfl
  rw [offsetRange, small, List.range_succ, List.map_append, List.flatMap_append,
    List.flatMap_map, List.flatMap_congr inner, flatMap_chunks]
  rw [List.map_singleton, List.flatMap_singleton, final, lastEq, Nat.add_sub_cancel]
  rw [List.drop_take, Nat.add_sub_cancel_left, ← List.take_add]

private theorem sized_some (buffer : List UInt8) :
    ∀ bytes, some buffer = some bytes → bytes.length = buffer.length := by
  intro bytes equal
  cases equal
  rfl

/-- The fields of a packetised buffer, packet by packet. -/
private theorem packetise_fields {now : ℚ} {template final : PacketWithMeta}
    {buffer : List UInt8} {packets : List PacketWithMeta}
    (returned : packetise now template buffer.length (some buffer) = .ok (packets, final)) :
    (∀ packet ∈ packets, packet.packet.seq = template.packet.seq + 1 ∧
      packet.packet.length.toNat ≤ maxPayloadLen) ∧
    packets.map (fun packet => packet.packet.offset.toNat) =
      List.range (frameNum buffer.length % 2 ^ 16) ∧
    packets.flatMap (fun packet => packet.packet.content) =
      (offsetRange (frameNum buffer.length)).flatMap (chunk buffer) := by
  have sized := sized_some buffer
  rcases emitted_of_packetise sized returned with ⟨_, _, every⟩
  refine ⟨?_, ?_, ?_⟩
  · intro packet member
    rcases exists_related_of_mem every member with ⟨offset, offsetMem, holds⟩
    refine ⟨holds.seq_eq, ?_⟩
    rw [holds.length_eq]
    exact (fits_of_mem_offsetRange sized offsetMem).short
  · rw [← map_eq_of_forall₂ UInt16.toNat _ every (by
      intro offset packet holds
      rw [holds.offset_eq])]
    exact map_toNat_offsetRange _
  · rw [List.flatMap_def, List.flatMap_def]
    congr 1
    refine (map_eq_of_forall₂ _ _ every ?_).symm
    intro offset packet holds
    rw [holds.content_eq buffer rfl, holds.length_eq]
    rfl

/-- Lossless packets leave a nonzero remainder and a count that fits the offset. -/
private theorem shape_of_lossless {now : ℚ} {template final : PacketWithMeta}
    {buffer : List UInt8} {packets : List PacketWithMeta} (nonempty : buffer ≠ [])
    (returned : packetise now template buffer.length (some buffer) = .ok (packets, final))
    (lossless : Lossless (template.packet.seq + 1) buffer packets) :
    buffer.length % maxPayloadLen ≠ 0 ∧ frameNum buffer.length ≤ 65535 := by
  rcases packetise_fields returned with ⟨_, offsets, contents⟩
  have count : frameNum buffer.length % 2 ^ 16 = frameNum buffer.length := by
    have ranges := offsets.symm.trans lossless.offsets
    simpa using congrArg List.length ranges
  have short : frameNum buffer.length ≤ 65535 := by omega
  refine ⟨?_, short⟩
  intro exact
  -- With a zero remainder the bytes stop one full packet before the end.
  have front : buffer.take ((frameNum buffer.length - 1) * maxPayloadLen +
      frameRemains buffer.length) = buffer :=
    (flatMap_chunk nonempty short).symm.trans (contents.symm.trans lossless.bytes)
  have lengths := congrArg List.length front
  have sizePos : 0 < buffer.length := List.length_pos_iff.mpr nonempty
  rw [List.length_take, frameRemains, exact] at lengths
  rw [maxPayloadLen_eq] at lengths exact
  rcases frameNum_cases buffer.length with ⟨_, num⟩ | ⟨partly, _⟩
  · rw [num] at lengths
    omega
  · omega

/-- Packetisation is lossless exactly for the sizes that are no multiple of
`MAX_PAYLOAD_LEN` and need at most 65535 packets, while sequence numbers last. -/
theorem packetise_lossless_iff (now : ℚ) (template : PacketWithMeta)
    (buffer : List UInt8) (nonempty : buffer ≠ []) :
    (∃ packets final,
      packetise now template buffer.length (some buffer) = .ok (packets, final) ∧
        Lossless (template.packet.seq + 1) buffer packets) ↔
      template.packet.seq.toNat + 1 < 2 ^ 32 ∧
        buffer.length % maxPayloadLen ≠ 0 ∧ frameNum buffer.length ≤ 65535 := by
  have sized := sized_some buffer
  constructor
  · rintro ⟨packets, final, returned, lossless⟩
    exact ⟨(packetise_returns_iff now template sized).mp ⟨_, returned⟩,
      shape_of_lossless nonempty returned lossless⟩
  · rintro ⟨seqFits, partly, short⟩
    obtain ⟨⟨packets, final⟩, returned⟩ :=
      (packetise_returns_iff now template sized).mpr seqFits
    rcases packetise_fields returned with ⟨fields, offsets, contents⟩
    have bytes : packets.flatMap (fun packet => packet.packet.content) = buffer := by
      rw [contents, flatMap_chunk nonempty short]
      apply List.take_of_length_le
      rw [frameRemains, maxPayloadLen_eq]
      rw [maxPayloadLen_eq] at partly
      rcases frameNum_cases buffer.length with ⟨exact, _⟩ | ⟨_, num⟩ <;> omega
    refine ⟨packets, final, returned, ?_⟩
    exact {
      seqs := fun packet member => (fields packet member).1
      offsets := by rw [offsets, Nat.mod_eq_of_lt (by omega)]
      bytes := bytes
      lengths := by
        have contentLengths : packets.map (fun packet => packet.packet.length.toNat) =
            packets.map (fun packet => packet.packet.content.length) := by
          apply List.map_congr_left
          intro packet member
          rw [packet.packet.length_content (fields packet member).2]
        rw [contentLengths, ← List.length_flatMap, bytes] }

theorem packetise_lossless_three :
    (∃ packets final, packetise 0 (.new 5000) 3 (some [1, 2, 3]) = .ok (packets, final) ∧
        Lossless ((PacketWithMeta.new 5000).packet.seq + 1) [1, 2, 3] packets) ↔
      (PacketWithMeta.new 5000).packet.seq.toNat + 1 < 2 ^ 32 ∧
        3 % maxPayloadLen ≠ 0 ∧ frameNum 3 ≤ 65535 :=
  packetise_lossless_iff 0 (.new 5000) [1, 2, 3] (by simp)

/-- A frame of exactly one full payload loses all of its bytes: its only packet
has length zero. -/
theorem packetise_full_payload_not_lossless :
    ¬∃ packets final,
      packetise 0 (.new 5000) (List.replicate maxPayloadLen (7 : UInt8)).length
          (some (List.replicate maxPayloadLen 7)) = .ok (packets, final) ∧
        Lossless ((PacketWithMeta.new 5000).packet.seq + 1)
          (List.replicate maxPayloadLen 7) packets := by
  rintro ⟨packets, final, returned, lossless⟩
  have nonempty : List.replicate maxPayloadLen (7 : UInt8) ≠ [] := by
    apply List.ne_nil_of_length_pos
    rw [List.length_replicate, maxPayloadLen_eq]
    omega
  apply (shape_of_lossless nonempty returned lossless).1
  rw [List.length_replicate, Nat.mod_self]

end StreamReplay
