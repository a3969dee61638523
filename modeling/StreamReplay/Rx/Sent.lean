import StreamReplay.Rx.Frame
import StreamReplay.Tx.Packetise
import StreamReplay.Tx.EndFlag

/-!
# What the sender puts on the wire

A frame of any size, as the packetiser cuts it and the policies mark it.  Offsets
are counted in `u16` and the last packet is found in `usize`, so a frame of more than
65535 packets is cut short and none of its packets is marked; an empty frame takes a
sequence number and has no packets.
-/

namespace StreamReplay

open Checked

/-- The packets of one frame that are sent, in offset order; `num` is the count in the
sender's books. -/
structure SentFrame (seq : UInt32) where
  num : Nat
  packets : List PacketStruct
  count_eq : packets.length = num % 2 ^ 16
  seq_eq : ∀ packet ∈ packets, packet.seq = seq
  offset_eq : ∀ index (below : index < packets.length),
    packets[index].offset = UInt16.ofNat index
  length_le : ∀ packet ∈ packets, packet.length.toNat ≤ maxPayloadLen
  indicator_eq : ∀ index (below : index < packets.length), ∃ packetType,
    packets[index].indicators = toIndicator packetType ∧
      (packetType.isLast = true ↔ index + 1 = num)

namespace SentFrame

variable {seq : UInt32}

/-- The last packet of the frame is sent, with its mark. -/
def Marked (frame : SentFrame seq) : Prop := 1 ≤ frame.num ∧ frame.num ≤ 65535

theorem length_eq {frame : SentFrame seq} (marked : frame.Marked) :
    frame.packets.length = frame.num := by
  rcases marked with ⟨some, small⟩
  rw [frame.count_eq]
  omega

/-- A marked frame can be reassembled. -/
def toFrame (frame : SentFrame seq) (marked : frame.Marked) : Frame seq where
  packets := frame.packets
  count_pos := length_eq marked ▸ marked.1
  count_le := length_eq marked ▸ marked.2
  seq_eq := frame.seq_eq
  offset_eq := frame.offset_eq
  length_le := frame.length_le
  indicator_eq := by
    intro index below
    rcases frame.indicator_eq index below with ⟨packetType, indicator, isLast⟩
    exact ⟨packetType, indicator, by rw [isLast, length_eq marked]⟩

/-- Of a frame that is not marked, no packet says that it is the last. -/
theorem isLast_eq_false {frame : SentFrame seq} (unmarked : ¬frame.Marked) {index : Nat}
    (below : index < frame.packets.length) :
    ∃ packetType, frame.packets[index].indicators = toIndicator packetType ∧
      packetType.isLast = false := by
  rcases frame.indicator_eq index below with ⟨packetType, indicator, isLast⟩
  refine ⟨packetType, indicator, ?_⟩
  rw [← Bool.not_eq_true, isLast]
  intro last
  have countEq := frame.count_eq
  unfold Marked at unmarked
  omega

end SentFrame

/-! ## From the source to the wire -/

/-- The packet that goes out for one of the packetiser's, once it is scheduled. -/
def Wired (packet : PacketWithMeta) (sent : PacketStruct) : Prop :=
  ∃ (waiting : PacketWithMeta) (ctler : TxPartCtler) (message : SchedulingMessage)
    (packetType : PacketType), packet.Waiting waiting ∧
      ctler.Decides .binary32 waiting message packetType ∧
      sent = (waiting.setIndicator packetType).packet

/-- The fields of a sent packet. -/
theorem Emitted.wired {seq : UInt32} {size : Nat} {buffer : Option (List UInt8)}
    {offset : UInt16} {packet : PacketWithMeta} {sent : PacketStruct}
    (emitted : Emitted seq (frameNum size) (frameRemains size) buffer offset packet)
    (wired : Wired packet sent) :
    sent.seq = seq ∧ sent.offset = offset ∧ sent.length.toNat ≤ maxPayloadLen ∧
      ∃ packetType, sent.indicators = toIndicator packetType ∧
        (packetType.isLast = true ↔ offset.toNat = frameNum size - 1) := by
  rcases wired with ⟨waiting, ctler, message, packetType, waits, decides, rfl⟩
  rcases waits.fields packetType with ⟨replaced, offsetEq, numEq⟩
  rw [replaced]
  refine ⟨emitted.seq_eq, emitted.offset_eq, ?_, packetType, rfl, ?_⟩
  · change packet.packet.length.toNat ≤ maxPayloadLen
    rw [emitted.length_eq, toNat_packetLength, maxPayloadLen_eq]
    split <;> omega
  · rw [decides.isLast_eq, beq_iff_eq, offsetEq, numEq, emitted.num_eq, emitted.offset_eq]

section

variable {seq : UInt32} {size : Nat} {buffer : Option (List UInt8)}
  {packets : List PacketWithMeta} {wire : List PacketStruct}
  (emitted : List.Forall₂ (Emitted seq (frameNum size) (frameRemains size) buffer)
    (offsetRange (frameNum size)) packets)
  (wired : List.Forall₂ Wired packets wire)

include emitted wired

theorem length_wire : wire.length = frameNum size % 2 ^ 16 := by
  rw [← wired.length_eq, ← emitted.length_eq, offsetRange, List.length_map,
    List.length_range, UInt16.toNat_ofNat']

/-- The packets of a frame that was packetised and scheduled, by offset. -/
theorem wire_fields (index : Nat) (below : index < wire.length) :
    wire[index].seq = seq ∧ wire[index].offset = UInt16.ofNat index ∧
      wire[index].length.toNat ≤ maxPayloadLen ∧
      ∃ packetType, wire[index].indicators = toIndicator packetType ∧
        (packetType.isLast = true ↔ index + 1 = frameNum size) := by
  have inPackets : index < packets.length := wired.length_eq ▸ below
  have inRange : index < (offsetRange (frameNum size)).length :=
    emitted.length_eq ▸ inPackets
  rcases (emitted.get inRange inPackets).wired (wired.get inPackets below) with
    ⟨seqEq, offsetEq, short, packetType, indicator, isLast⟩
  have offset : (offsetRange (frameNum size)).get ⟨index, inRange⟩ = UInt16.ofNat index := by
    simp [offsetRange]
  rw [offset] at offsetEq isLast
  refine ⟨seqEq, offsetEq, short, packetType, indicator, ?_⟩
  rw [length_wire emitted wired] at below
  rw [isLast, UInt16.toNat_ofNat']
  omega

end

/-- A frame that was packetised and scheduled. -/
def SentFrame.ofEmitted {seq : UInt32} {size : Nat} {buffer : Option (List UInt8)}
    {packets : List PacketWithMeta} {wire : List PacketStruct}
    (emitted : List.Forall₂ (Emitted seq (frameNum size) (frameRemains size) buffer)
      (offsetRange (frameNum size)) packets)
    (wired : List.Forall₂ Wired packets wire) : SentFrame seq where
  num := frameNum size
  packets := wire
  count_eq := length_wire emitted wired
  seq_eq := by
    intro packet member
    rcases List.getElem_of_mem member with ⟨index, below, rfl⟩
    exact (wire_fields emitted wired index below).1
  offset_eq index below := (wire_fields emitted wired index below).2.1
  length_le := by
    intro packet member
    rcases List.getElem_of_mem member with ⟨index, below, rfl⟩
    exact (wire_fields emitted wired index below).2.2.1
  indicator_eq index below := (wire_fields emitted wired index below).2.2.2

/-! ## All frames of a stream -/

/-- The frames that a stream has sent, numbered from 1. -/
structure Emission where
  count : Nat
  frames : (seq : UInt32) → Option (SentFrame seq)
  numbered : ∀ seq, (frames seq).isSome = true ↔ 1 ≤ seq.toNat ∧ seq.toNat ≤ count

/-- The loop of `stream_thread` over the buffers it receives, each with the clock
reading of its packets: one frame for each. -/
def packetiseAll : PacketWithMeta → List (ℚ × List UInt8) →
    Except Panic (List (List PacketWithMeta))
  | _, [] => .ok []
  | template, (now, buffer) :: buffers => do
      let (packets, template) ← packetise now template buffer.length (some buffer)
      let rest ← packetiseAll template buffers
      return packets :: rest

/-- The frame of each buffer, counted from the template's sequence number. -/
theorem sentFrame_of_packetiseAll {buffers : List (ℚ × List UInt8)}
    {template : PacketWithMeta} {all : List (List PacketWithMeta)}
    {wires : List (List PacketStruct)}
    (returned : packetiseAll template buffers = .ok all)
    (wired : List.Forall₂ (List.Forall₂ Wired) all wires) {index : Nat}
    (below : index < buffers.length) {seq : UInt32}
    (seqEq : seq.toNat = template.packet.seq.toNat + 1 + index) :
    ∃ frame : SentFrame seq, frame.num = frameNum buffers[index].2.length ∧
      wires[index]? = some frame.packets := by
  induction buffers generalizing template all wires index with
  | nil => simp at below
  | cons head buffers ih =>
      rcases head with ⟨now, buffer⟩
      rcases bind_eq_ok.mp returned with ⟨⟨packets, final⟩, first, rest⟩
      rcases bind_eq_ok.mp rest with ⟨later, others, equal⟩
      cases equal
      rcases List.forall₂_cons_left_iff.mp wired with ⟨wire, laterWires, head, tail, rfl⟩
      have sized : ∀ bytes, some buffer = some bytes → bytes.length = buffer.length := by
        rintro _ ⟨⟩
        rfl
      rcases emitted_of_packetise sized first with ⟨finalSeq, _, emitted⟩
      have fits := (packetise_returns_iff now template sized).mp ⟨_, first⟩
      have nextNat : (template.packet.seq + 1).toNat = template.packet.seq.toNat + 1 := by
        rw [UInt32.toNat_add]
        exact Nat.mod_eq_of_lt fits
      cases index with
      | zero =>
          have same : template.packet.seq + 1 = seq := by
            rw [← UInt32.toNat_inj, seqEq, nextNat]
          subst same
          exact ⟨.ofEmitted emitted head, rfl, rfl⟩
      | succ index =>
          refine ih others tail (Nat.lt_of_succ_lt_succ below) ?_
          rw [seqEq, finalSeq, nextNat]
          omega

/-- What a new stream sends for its buffers is an emission, with one frame for each. -/
theorem exists_emission {buffers : List (ℚ × List UInt8)} {port : UInt16}
    {all : List (List PacketWithMeta)} {wires : List (List PacketStruct)}
    (returned : packetiseAll (.new port) buffers = .ok all)
    (wired : List.Forall₂ (List.Forall₂ Wired) all wires) :
    ∃ emission : Emission, emission.count = buffers.length ∧
      ∀ seq frame, emission.frames seq = some frame →
        ∃ index, ∃ below : index < buffers.length, seq.toNat = index + 1 ∧
          frame.num = frameNum buffers[index].2.length ∧
          wires[index]? = some frame.packets := by
  have known : ∀ seq : UInt32, 1 ≤ seq.toNat ∧ seq.toNat ≤ buffers.length →
      ∃ frame : SentFrame seq, ∃ index, ∃ below : index < buffers.length,
        seq.toNat = index + 1 ∧ frame.num = frameNum buffers[index].2.length ∧
        wires[index]? = some frame.packets := by
    rintro seq ⟨positive, bounded⟩
    have below : seq.toNat - 1 < buffers.length := by omega
    have seqEq : seq.toNat = (PacketWithMeta.new port).packet.seq.toNat + 1 +
        (seq.toNat - 1) := by
      change seq.toNat = 0 + 1 + _
      omega
    rcases sentFrame_of_packetiseAll returned wired below seqEq with ⟨frame, num, packets⟩
    exact ⟨frame, seq.toNat - 1, below, by omega, num, packets⟩
  choose frame source using known
  let frames (seq : UInt32) : Option (SentFrame seq) :=
    if inRange : 1 ≤ seq.toNat ∧ seq.toNat ≤ buffers.length then some (frame seq inRange)
    else none
  refine ⟨⟨buffers.length, frames, fun seq => ?_⟩, rfl, fun seq sent found => ?_⟩
  · by_cases inRange : 1 ≤ seq.toNat ∧ seq.toNat ≤ buffers.length
    · simp [frames, inRange]
    · simp [frames, inRange]
  · by_cases inRange : 1 ≤ seq.toNat ∧ seq.toNat ≤ buffers.length
    · obtain rfl : frame seq inRange = sent := by simpa [frames, inRange] using found
      exact source seq inRange
    · simp [frames, inRange] at found

/-! ## Sample streams -/

def SentFrame.sample (seq : UInt32) (num : UInt16) : SentFrame seq where
  num := num.toNat
  packets := samplePackets seq num
  count_eq := by rw [length_samplePackets, Nat.mod_eq_of_lt num.toNat_lt]
  seq_eq := seq_samplePackets seq num
  offset_eq := offset_samplePackets seq num
  length_le := length_le_samplePackets seq num
  indicator_eq := indicator_samplePackets seq num

/-- A stream of frames with so many packets each. -/
def Emission.sample (nums : List UInt16) : Emission where
  count := nums.length
  frames seq :=
    if 1 ≤ seq.toNat ∧ seq.toNat ≤ nums.length then some (.sample seq nums[seq.toNat - 1]!)
    else none
  numbered seq := by
    split
    next inRange => simp [inRange]
    next outside => simp [outside]

end StreamReplay
