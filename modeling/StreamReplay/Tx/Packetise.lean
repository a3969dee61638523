import StreamReplay.Core.Packet
import Mathlib.Algebra.BigOperators.Group.List.Basic
import Mathlib.Tactic.Ring

/-!
# Packetisation

`generate_packets` cuts a frame into packets of `MAX_PAYLOAD_LEN` bytes.  The
three source threads compute the packet count and the remainder from the size of
the frame and give the frame the next sequence number.
-/

namespace StreamReplay

open Checked

/-- The packet count the source threads compute for a frame of `size` bytes. -/
def frameNum (size : Nat) : Nat :=
  size / maxPayloadLen + if size % maxPayloadLen > 0 then 1 else 0

theorem frameNum_cases (size : Nat) :
    (size % 1463 = 0 ∧ frameNum size = size / 1463) ∨
      (0 < size % 1463 ∧ frameNum size = size / 1463 + 1) := by
  unfold frameNum
  rw [maxPayloadLen_eq]
  split <;> omega

/-- The remainder the source threads pass as `_remains`. -/
def frameRemains (size : Nat) : Nat := size % maxPayloadLen

/-- The length field of the packet at `offset`, where `last` is the index of the
last packet; the comparison is in `u16`. -/
def packetLength (last remains : Nat) (offset : UInt16) : UInt16 :=
  if offset == UInt16.ofNat last then UInt16.ofNat remains
  else UInt16.ofNat maxPayloadLen

/-- One turn of the loop in `generate_packets`, which updates the template and
pushes a copy of it. -/
def emitPacket (remains : Nat) (buffer : Option (List UInt8))
    (template : PacketWithMeta) (offset : UInt16) : Except Panic PacketWithMeta := do
  let last ← sub template.num 1
  let length := packetLength last remains offset
  let template ← (template.setLength length).setOffset offset
  match buffer with
  | none => return template
  | some bytes =>
      let start := offset.toNat * maxPayloadLen
      let part ← slice bytes start (start + length.toNat)
      template.setPayload part

/-- The loop of `generate_packets` over the remaining offsets. -/
def emitPackets (remains : Nat) (buffer : Option (List UInt8)) :
    PacketWithMeta → List UInt16 → Except Panic (List PacketWithMeta × PacketWithMeta)
  | template, [] => .ok ([], template)
  | template, offset :: offsets => do
      let packet ← emitPacket remains buffer template offset
      let (packets, template) ← emitPackets remains buffer packet offsets
      return (packet :: packets, template)

/-- The range `0..num as u16`. -/
def offsetRange (num : Nat) : List UInt16 :=
  (List.range (UInt16.ofNat num).toNat).map UInt16.ofNat

/-- `generate_packets`, returning the packets and the template it leaves. -/
def generatePackets (now : ℚ) (remains : Nat) (template : PacketWithMeta)
    (buffer : Option (List UInt8)) : Except Panic (List PacketWithMeta × PacketWithMeta) :=
  emitPackets remains buffer { template with arrivalTime := now } (offsetRange template.num)

/-- What every source thread does with a frame of `size` bytes: take the next
sequence number and generate the packets.  The trace replay has no buffer. -/
def packetise (now : ℚ) (template : PacketWithMeta) (size : Nat)
    (buffer : Option (List UInt8)) : Except Panic (List PacketWithMeta × PacketWithMeta) := do
  let template ← template.nextSeq (frameNum size)
  generatePackets now (frameRemains size) template buffer

/-! ## What one packet holds -/

/-- The fields of the packet that the loop pushes at `offset`. -/
structure Emitted (seq : UInt32) (num remains : Nat) (buffer : Option (List UInt8))
    (offset : UInt16) (packet : PacketWithMeta) : Prop where
  seq_eq : packet.packet.seq = seq
  num_eq : packet.num = num
  offset_eq : packet.packet.offset = offset
  length_eq : packet.packet.length = packetLength (num - 1) remains offset
  lastOne_eq : packet.lastOne = (offset == UInt16.ofNat (num - 1))
  content_eq : ∀ bytes, buffer = some bytes →
    packet.packet.content =
      (bytes.take (offset.toNat * maxPayloadLen + packet.packet.length.toNat)).drop
        (offset.toNat * maxPayloadLen)

/-- The range of the buffer that the packet at `offset` copies exists and fits
the payload array. -/
structure Fits (num remains : Nat) (buffer : Option (List UInt8)) (offset : UInt16) :
    Prop where
  short : (packetLength (num - 1) remains offset).toNat ≤ maxPayloadLen
  inBounds : ∀ bytes, buffer = some bytes →
    offset.toNat * maxPayloadLen + (packetLength (num - 1) remains offset).toNat ≤ bytes.length

theorem emitPacket_spec {remains : Nat} {buffer : Option (List UInt8)}
    {template : PacketWithMeta} {offset : UInt16} (nonempty : 1 ≤ template.num)
    (fits : Fits template.num remains buffer offset) :
    ∃ packet, emitPacket remains buffer template offset = .ok packet ∧
      Emitted template.packet.seq template.num remains buffer offset packet := by
  cases buffer with
  | none =>
      refine ⟨_, by
        simp only [emitPacket, PacketWithMeta.setOffset, PacketWithMeta.setLength,
          sub_of_le nonempty, ok_bind, pure_eq_ok]
        rfl, ?_⟩
      exact {
        seq_eq := rfl
        num_eq := rfl
        offset_eq := rfl
        length_eq := rfl
        lastOne_eq := rfl
        content_eq := by simp }
  | some bytes =>
      let length := packetLength (template.num - 1) remains offset
      let start := offset.toNat * maxPayloadLen
      let part := (bytes.take (start + length.toNat)).drop start
      have inBounds : start + length.toNat ≤ bytes.length := fits.inBounds bytes rfl
      have partLength : part.length = length.toNat := by
        simp only [part, List.length_drop, List.length_take]
        omega
      have sliced : slice bytes start (start + length.toNat) = .ok part :=
        slice_of_le (Nat.le_add_right _ _) inBounds
      have short : part.length ≤ maxPayloadLen := partLength ▸ fits.short
      refine ⟨_, by
        simp only [emitPacket, PacketWithMeta.setOffset, PacketWithMeta.setLength,
          PacketWithMeta.setPayload, PacketStruct.setPayload, sub_of_le nonempty, ok_bind,
          pure_eq_ok]
        rw [sliced, ok_bind, dif_pos short, ok_bind], ?_⟩
      exact {
        seq_eq := rfl
        num_eq := rfl
        offset_eq := rfl
        length_eq := rfl
        lastOne_eq := rfl
        content_eq := by
          intro other equal
          cases equal
          change List.take length.toNat (part ++ _) = part
          rw [← partLength, List.take_left] }

theorem emitPackets_spec {remains : Nat} {buffer : Option (List UInt8)}
    (template : PacketWithMeta) {offsets : List UInt16}
    (nonempty : offsets ≠ [] → 1 ≤ template.num)
    (fits : ∀ offset ∈ offsets, Fits template.num remains buffer offset) :
    ∃ packets final, emitPackets remains buffer template offsets = .ok (packets, final) ∧
      final.packet.seq = template.packet.seq ∧ final.num = template.num ∧
      List.Forall₂ (Emitted template.packet.seq template.num remains buffer)
        offsets packets := by
  induction offsets generalizing template with
  | nil => exact ⟨[], template, rfl, rfl, rfl, .nil⟩
  | cons offset offsets ih =>
      have numPos : 1 ≤ template.num := nonempty (by simp)
      rcases emitPacket_spec numPos (fits offset (by simp)) with ⟨packet, emitted, holds⟩
      have restFits : ∀ other ∈ offsets, Fits packet.num remains buffer other := by
        intro other member
        rw [holds.num_eq]
        exact fits other (by simp [member])
      obtain ⟨packets, final, rest, seqEq, numEq, every⟩ :=
        ih packet (by simp [holds.num_eq, numPos]) restFits
      rw [holds.seq_eq] at seqEq every
      rw [holds.num_eq] at numEq every
      refine ⟨packet :: packets, final, ?_, seqEq, numEq, .cons holds every⟩
      rw [emitPackets, emitted, ok_bind, rest]
      rfl

/-! ## What every result holds -/

/-- The fields by which a packet is scheduled, whatever the loop copies. -/
structure Indexed (num : Nat) (offset : UInt16) (packet : PacketWithMeta) : Prop where
  num_eq : packet.num = num
  offset_eq : packet.packet.offset = offset
  lastOne_eq : packet.lastOne = (offset == UInt16.ofNat (num - 1))

theorem indexed_of_emitPacket {remains : Nat} {buffer : Option (List UInt8)}
    {template packet : PacketWithMeta} {offset : UInt16}
    (emitted : emitPacket remains buffer template offset = .ok packet) :
    Indexed template.num offset packet := by
  rcases bind_eq_ok.mp emitted with ⟨last, _, rest⟩
  rcases bind_eq_ok.mp rest with ⟨indexed, offsetSet, rest⟩
  rcases bind_eq_ok.mp offsetSet with ⟨index, indexEq, equal⟩
  rcases sub_eq_ok.mp indexEq with ⟨_, rfl⟩
  cases equal
  cases buffer with
  | none =>
      cases rest
      exact ⟨rfl, rfl, rfl⟩
  | some bytes =>
      rcases bind_eq_ok.mp rest with ⟨part, _, filled⟩
      rcases bind_eq_ok.mp filled with ⟨inner, copied, equal⟩
      cases equal
      unfold PacketStruct.setPayload at copied
      split at copied
      next =>
        cases copied
        exact ⟨rfl, rfl, rfl⟩
      next => cases copied

theorem indexed_of_emitPackets {remains : Nat} {buffer : Option (List UInt8)}
    {template final : PacketWithMeta} {offsets : List UInt16} {packets : List PacketWithMeta}
    (emitted : emitPackets remains buffer template offsets = .ok (packets, final)) :
    List.Forall₂ (Indexed template.num) offsets packets := by
  induction offsets generalizing template packets with
  | nil =>
      cases emitted
      exact .nil
  | cons offset offsets ih =>
      rcases bind_eq_ok.mp emitted with ⟨packet, first, rest⟩
      rcases bind_eq_ok.mp rest with ⟨⟨later, last⟩, others, equal⟩
      cases equal
      have head := indexed_of_emitPacket first
      have tail := ih others
      rw [head.num_eq] at tail
      exact .cons head tail

/-! ## Whole frames -/

/-- The offsets as numbers. -/
theorem map_toNat_offsetRange (num : Nat) :
    (offsetRange num).map UInt16.toNat = List.range (num % 2 ^ 16) := by
  rw [offsetRange, List.map_map, UInt16.toNat_ofNat']
  conv_rhs => rw [← List.map_id (List.range _)]
  apply List.map_congr_left
  intro index member
  rw [List.mem_range] at member
  simp only [Function.comp_apply, UInt16.toNat_ofNat', id_eq]
  omega

theorem mem_offsetRange {num : Nat} {offset : UInt16} :
    offset ∈ offsetRange num ↔ offset.toNat < num % 2 ^ 16 := by
  simp only [offsetRange, List.mem_map, List.mem_range, UInt16.toNat_ofNat']
  constructor
  · rintro ⟨index, below, rfl⟩
    rw [UInt16.toNat_ofNat']
    omega
  · intro below
    exact ⟨offset.toNat, below, UInt16.ofNat_toNat⟩

theorem ofNat_mem_offsetRange {num index : Nat} (below : index < num % 2 ^ 16) :
    (UInt16.ofNat index).toNat = index ∧ UInt16.ofNat index ∈ offsetRange num := by
  have offsetEq : (UInt16.ofNat index).toNat = index := by
    rw [UInt16.toNat_ofNat']
    omega
  rw [mem_offsetRange, offsetEq]
  exact ⟨rfl, below⟩

theorem offsetRange_pairwise (num : Nat) : (offsetRange num).Pairwise (· < ·) := by
  unfold offsetRange
  rw [List.pairwise_map]
  refine List.pairwise_lt_range.imp_of_mem fun firstMem secondMem ordered => ?_
  have first := List.mem_range.mp firstMem
  have second := List.mem_range.mp secondMem
  rw [UInt16.toNat_ofNat'] at first second
  rw [UInt16.lt_iff_toNat_lt, UInt16.toNat_ofNat', UInt16.toNat_ofNat']
  omega

/-- The length field as a number, for the count and the remainder the source
threads compute. -/
theorem toNat_packetLength (size : Nat) (offset : UInt16) :
    (packetLength (frameNum size - 1) (frameRemains size) offset).toNat =
      if offset.toNat = (frameNum size - 1) % 2 ^ 16 then size % 1463 else 1463 := by
  have lastIff : offset = UInt16.ofNat (frameNum size - 1) ↔
      offset.toNat = (frameNum size - 1) % 2 ^ 16 := by
    rw [← UInt16.toNat_inj, UInt16.toNat_ofNat']
  have remainsShort : frameRemains size < 2 ^ 16 :=
    (Nat.mod_lt _ (by decide)).trans (by decide)
  simp only [packetLength, beq_iff_eq, lastIff]
  split
  next => rw [UInt16.toNat_ofNat', Nat.mod_eq_of_lt remainsShort]; rfl
  next => rfl

/-- With that count and remainder no packet reads outside its buffer. -/
theorem fits_of_mem_offsetRange {size : Nat} {buffer : Option (List UInt8)}
    (sized : ∀ bytes, buffer = some bytes → bytes.length = size) {offset : UInt16}
    (member : offset ∈ offsetRange (frameNum size)) :
    Fits (frameNum size) (frameRemains size) buffer offset := by
  have below := mem_offsetRange.mp member
  constructor
  · rw [toNat_packetLength, maxPayloadLen_eq]
    split <;> omega
  · intro bytes equal
    rw [sized bytes equal, toNat_packetLength, maxPayloadLen_eq]
    rcases frameNum_cases size with ⟨exact, count⟩ | ⟨partly, count⟩ <;>
      rw [count] at below ⊢ <;> split <;> omega

/-- A frame is packetised unless its sequence number overflows, and the packets
are the emitted ones. -/
theorem packetise_spec (now : ℚ) (template : PacketWithMeta) {size : Nat}
    {buffer : Option (List UInt8)}
    (sized : ∀ bytes, buffer = some bytes → bytes.length = size)
    (seqFits : template.packet.seq.toNat + 1 < 2 ^ 32) :
    ∃ packets final, packetise now template size buffer = .ok (packets, final) ∧
      final.packet.seq = template.packet.seq + 1 ∧ final.num = frameNum size ∧
      List.Forall₂
        (Emitted (template.packet.seq + 1) (frameNum size) (frameRemains size) buffer)
        (offsetRange (frameNum size)) packets := by
  have next : add32 template.packet.seq 1 = .ok (template.packet.seq + 1) :=
    add32_eq_ok.mpr ⟨seqFits, rfl⟩
  let fresh : PacketWithMeta := { template with
    packet := { template.packet with
      seq := template.packet.seq + 1, offset := UInt16.ofNat (frameNum size) }
    num := frameNum size
    arrivalTime := now }
  have numPos : offsetRange (frameNum size) ≠ [] → 1 ≤ fresh.num := by
    intro nonempty
    rcases List.exists_mem_of_ne_nil _ nonempty with ⟨offset, member⟩
    have below := mem_offsetRange.mp member
    change 1 ≤ frameNum size
    omega
  obtain ⟨packets, final, emitted, seqEq, numEq, every⟩ :=
    emitPackets_spec fresh
      numPos (fun offset member => fits_of_mem_offsetRange sized member)
  refine ⟨packets, final, ?_, seqEq, numEq, every⟩
  simp only [packetise, PacketWithMeta.nextSeq, PacketStruct.nextSeq, next, ok_bind,
    pure_eq_ok]
  exact emitted

theorem packetise_returns_iff (now : ℚ) (template : PacketWithMeta) {size : Nat}
    {buffer : Option (List UInt8)}
    (sized : ∀ bytes, buffer = some bytes → bytes.length = size) :
    (∃ result, packetise now template size buffer = .ok result) ↔
      template.packet.seq.toNat + 1 < 2 ^ 32 := by
  constructor
  · rintro ⟨result, returned⟩
    unfold packetise at returned
    rcases bind_eq_ok.mp returned with ⟨fresh, next, _⟩
    unfold PacketWithMeta.nextSeq at next
    rcases bind_eq_ok.mp next with ⟨inner, innerNext, _⟩
    unfold PacketStruct.nextSeq at innerNext
    rcases bind_eq_ok.mp innerNext with ⟨seq, sum, _⟩
    exact (add32_eq_ok.mp sum).1
  · intro seqFits
    obtain ⟨packets, final, returned, _⟩ :=
      packetise_spec now template sized seqFits
    exact ⟨_, returned⟩

/-- The packets that packetisation returned are the emitted ones. -/
theorem emitted_of_packetise {now : ℚ} {template final : PacketWithMeta} {size : Nat}
    {buffer : Option (List UInt8)} {packets : List PacketWithMeta}
    (sized : ∀ bytes, buffer = some bytes → bytes.length = size)
    (returned : packetise now template size buffer = .ok (packets, final)) :
    final.packet.seq = template.packet.seq + 1 ∧
      template.packet.seq.toNat < final.packet.seq.toNat ∧
      List.Forall₂
        (Emitted (template.packet.seq + 1) (frameNum size) (frameRemains size) buffer)
        (offsetRange (frameNum size)) packets := by
  have seqFits := (packetise_returns_iff now template sized).mp ⟨_, returned⟩
  obtain ⟨others, otherFinal, emitted, seqEq, _, every⟩ :=
    packetise_spec now template sized seqFits
  rw [returned] at emitted
  cases emitted
  refine ⟨seqEq, ?_, every⟩
  rw [seqEq, UInt32.toNat_add]
  change _ < (_ + 1) % 2 ^ 32
  omega

end StreamReplay
