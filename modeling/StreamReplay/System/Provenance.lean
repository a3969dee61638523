import StreamReplay.Rx.Sent
import StreamReplay.Tx.Lossless
import StreamReplay.Tx.SourceThread

/-!
# Where the datagrams come from

Whatever the control channel and the monitor do in between, and wherever the source
thread ends, the datagrams on the wire are packets of the frames that it has taken, in
the order in which they were cut, and none of them goes out twice.
-/

namespace StreamReplay

open Checked FallibleRun

/-- The order in which the packets of a stream are cut. -/
def PacketStruct.Before (left right : PacketStruct) : Prop :=
  left.seq.toNat < right.seq.toNat ∨
    (left.seq = right.seq ∧ left.offset.toNat < right.offset.toNat)

theorem PacketStruct.Before.key_ne {left right : PacketStruct} (before : left.Before right) :
    (left.seq, left.offset) ≠ (right.seq, right.offset) := by
  intro same
  rcases Prod.mk.inj same with ⟨seqEq, offsetEq⟩
  rcases before with older | ⟨_, earlier⟩
  · rw [seqEq] at older
    exact Nat.lt_irrefl _ older
  · rw [offsetEq] at earlier
    exact Nat.lt_irrefl _ earlier

/-- A packet of a frame as it goes out: it is numbered, it has the length and the bytes of
its part of the frame, and it is marked if it is the last one. -/
structure Carried (data : FrameData) (index : Nat) (sent : PacketStruct) : Prop where
  below : index < frameNum data.size % 2 ^ 16
  offset_eq : sent.offset = UInt16.ofNat index
  length_eq : sent.length =
    packetLength (frameNum data.size - 1) (frameRemains data.size) (UInt16.ofNat index)
  length_le : sent.length.toNat ≤ maxPayloadLen
  indicator_eq : ∃ packetType, sent.indicators = toIndicator packetType ∧
    (packetType.isLast = true ↔ index + 1 = frameNum data.size)
  content_eq : ∀ buffer, data.buffer = some buffer →
    sent.content = chunk buffer (UInt16.ofNat index)

/-- A packet was cut from one of the frames, numbered from 1. -/
def CutFrom (frames : List FrameData) (packet : PacketWithMeta) : Prop :=
  ∃ position data, frames[position]? = some data ∧ packet.seq.toNat = position + 1 ∧
    ∃ offset ∈ offsetRange (frameNum data.size),
      Emitted packet.seq (frameNum data.size) (frameRemains data.size) data.buffer offset packet

/-- A datagram carries a packet of one of the frames. -/
def SentFrom (frames : List FrameData) (sent : PacketStruct) : Prop :=
  ∃ position data, frames[position]? = some data ∧ sent.seq.toNat = position + 1 ∧
    Carried data sent.offset.toNat sent

theorem CutFrom.append {frames : List FrameData} {packet : PacketWithMeta}
    (cut : CutFrom frames packet) (more : List FrameData) :
    CutFrom (frames ++ more) packet := by
  rcases cut with ⟨position, data, found, rest⟩
  refine ⟨position, data, ?_, rest⟩
  rw [List.getElem?_append_left (List.getElem?_eq_some_iff.mp found).1, found]

theorem SentFrom.append {frames : List FrameData} {sent : PacketStruct}
    (known : SentFrom frames sent) (more : List FrameData) :
    SentFrom (frames ++ more) sent := by
  rcases known with ⟨position, data, found, rest⟩
  refine ⟨position, data, ?_, rest⟩
  rw [List.getElem?_append_left (List.getElem?_eq_some_iff.mp found).1, found]

/-- What a packet carries does not depend on the indicator it gets. -/
theorem Emitted.carried {data : FrameData} {seq : UInt32} {offset : UInt16}
    {packet : PacketWithMeta}
    (emitted : Emitted seq (frameNum data.size) (frameRemains data.size) data.buffer offset
      packet)
    (inRange : offset ∈ offsetRange (frameNum data.size)) {packetType : PacketType}
    (isLast : packetType.isLast = true ↔ offset.toNat + 1 = frameNum data.size) :
    Carried data offset.toNat (packet.setIndicator packetType).packet where
  below := mem_offsetRange.mp inRange
  offset_eq := by
    rw [UInt16.ofNat_toNat]
    exact emitted.offset_eq
  length_eq := by
    rw [UInt16.ofNat_toNat]
    exact emitted.length_eq
  length_le := by
    change packet.packet.length.toNat ≤ maxPayloadLen
    rw [emitted.length_eq]
    exact (fits_of_mem_offsetRange data.sized inRange).short
  indicator_eq := ⟨packetType, rfl, isLast⟩
  content_eq := by
    intro buffer known
    have sized := data.sized buffer known
    rw [UInt16.ofNat_toNat, chunk, sized, ← emitted.length_eq]
    exact emitted.content_eq buffer known

/-- What goes out for a packet that was cut from a frame. -/
theorem CutFrom.sentFrom {frames : List FrameData} {packet : PacketWithMeta}
    (cut : CutFrom frames packet) {ctler : TxPartCtler} {message : SchedulingMessage}
    {packetType : PacketType} (decides : ctler.Decides .binary32 packet message packetType) :
    SentFrom frames (packet.setIndicator packetType).packet := by
  rcases cut with ⟨position, data, found, seqEq, offset, inRange, emitted⟩
  refine ⟨position, data, found, seqEq, ?_⟩
  have below := mem_offsetRange.mp inRange
  have isLast : packetType.isLast = true ↔ offset.toNat + 1 = frameNum data.size := by
    rw [decides.isLast_eq, beq_iff_eq, emitted.num_eq, emitted.offset_eq]
    omega
  have offsetEq : (packet.setIndicator packetType).packet.offset = offset :=
    emitted.offset_eq
  rw [offsetEq]
  exact emitted.carried inRange isLast

namespace Sender

/-- The invariant of the sender: what is queued was cut from a frame, what is on the wire
carries it, and both are in order, the wire before the queue. -/
structure Produces (sender : Sender) : Prop where
  seq_eq : sender.source.template.seq.toNat = sender.frames.length
  queued_cut : ∀ packet ∈ sender.queued, CutFrom sender.frames packet
  wire_sent : ∀ sent ∈ sender.outlet.wire, SentFrom sender.frames sent
  wire_ordered : sender.outlet.wire.Pairwise PacketStruct.Before
  queued_ordered : sender.queued.Pairwise fun first second => first.packet.Before second.packet
  ahead : sender.phase ≠ .panicked → ∀ sent ∈ sender.outlet.wire, ∀ packet ∈ sender.queued,
    sent.Before packet.packet

namespace Produces

theorem new (port : UInt16) (throttle : ℚ) (windowSize : Nat) (ctler : TxPartCtler) :
    (Sender.new port throttle windowSize ctler).Produces where
  seq_eq := rfl
  queued_cut := fun _ member => absurd member List.not_mem_nil
  wire_sent := fun _ member => absurd member List.not_mem_nil
  wire_ordered := .nil
  queued_ordered := .nil
  ahead := fun _ _ member => absurd member List.not_mem_nil

variable {sender next : Sender}

/-- A step that touches neither the frames nor the packets keeps the invariant. -/
theorem congr (produces : sender.Produces)
    (template : next.source.template = sender.source.template)
    (queued : next.queued = sender.queued) (wire : next.outlet.wire = sender.outlet.wire)
    (frames : next.frames = sender.frames)
    (alive : next.phase ≠ .panicked → sender.phase ≠ .panicked) : next.Produces where
  seq_eq := by rw [template, frames, produces.seq_eq]
  queued_cut := by
    rw [queued, frames]
    exact produces.queued_cut
  wire_sent := by
    rw [wire, frames]
    exact produces.wire_sent
  wire_ordered := by
    rw [wire]
    exact produces.wire_ordered
  queued_ordered := by
    rw [queued]
    exact produces.queued_ordered
  ahead := by
    rw [wire, queued]
    exact fun running => produces.ahead (alive running)

/-- The numbers on the wire and in the queue are those of frames that were taken. -/
theorem seq_le (produces : sender.Produces) {sent : PacketStruct}
    (known : SentFrom sender.frames sent) :
    sent.seq.toNat ≤ sender.source.template.seq.toNat := by
  rcases known with ⟨position, data, found, seqEq, _⟩
  have below := (List.getElem?_eq_some_iff.mp found).1
  rw [seqEq, produces.seq_eq]
  exact below

theorem queued_seq_le (produces : sender.Produces) {packet : PacketWithMeta}
    (queued : packet ∈ sender.queued) :
    packet.seq.toNat ≤ sender.source.template.seq.toNat := by
  rcases produces.queued_cut packet queued with ⟨position, data, found, seqEq, _⟩
  have below := (List.getElem?_eq_some_iff.mp found).1
  rw [seqEq, produces.seq_eq]
  exact below

/-- The packets of a new frame, which has a number of its own behind the frames before. -/
theorem packets_of_frame (produces : sender.Produces) {arrival : ℚ} {data : FrameData}
    {packets : List PacketWithMeta} {final : PacketWithMeta}
    (generated : packetise arrival sender.source.template data.size data.buffer =
      .ok (packets, final)) :
    final.seq.toNat = sender.frames.length + 1 ∧
      (∀ packet ∈ packets, packet.seq = final.seq ∧
        CutFrom (sender.frames ++ [data]) packet) ∧
      packets.Pairwise fun first second => first.packet.Before second.packet := by
  rcases emitted_of_packetise data.sized generated with ⟨seqEq, _, every⟩
  have number : final.seq.toNat = sender.frames.length + 1 := by
    have fits := (packetise_returns_iff arrival sender.source.template data.sized).mp
      ⟨_, generated⟩
    change final.packet.seq.toNat = _
    rw [seqEq, UInt32.toNat_add, ← produces.seq_eq]
    exact Nat.mod_eq_of_lt fits
  rw [← seqEq] at every
  refine ⟨number, ?_, ?_⟩
  · intro packet member
    rcases Sequence.exists_related_of_mem every member with ⟨offset, inRange, emitted⟩
    have same : packet.seq = final.seq := emitted.seq_eq
    refine ⟨same, sender.frames.length, data, List.getElem?_concat_length, ?_, offset, inRange,
      ?_⟩
    · rw [same, number]
    · rw [same]
      exact emitted
  · refine Sequence.pairwise_of_forall₂ every (offsetRange_pairwise _) ?_
    intro first _ second _ packet other ordered emitted otherEmitted
    right
    rw [emitted.seq_eq, otherEmitted.seq_eq, emitted.offset_eq, otherEmitted.offset_eq]
    exact ⟨rfl, UInt16.lt_iff_toNat_lt.mp ordered⟩

/-- Taking a frame keeps the invariant: its packets come behind all others. -/
theorem takeFrame (produces : sender.Produces) (arrival : ℚ) (data : FrameData) (now : Time)
    (running : sender.phase ≠ .panicked) :
    (sender.takeFrame arrival data now).Produces := by
  unfold Sender.takeFrame
  split
  next => exact produces.congr rfl rfl rfl rfl fun alive => absurd rfl alive
  next out source taken =>
    rcases Source.frame_eq_ok taken with ⟨packets, generated, queuedEq, _⟩
    rcases produces.packets_of_frame generated with ⟨number, every, inFrame⟩
    have accepted := sender.source.throttler.buffer.accepted_sublist packets
    have newer : ∀ {seq : UInt32} {packet : PacketWithMeta},
        seq.toNat ≤ sender.source.template.seq.toNat →
        packet ∈ sender.source.throttler.buffer.accepted packets →
        seq.toNat < packet.seq.toNat := by
      intro seq packet bounded member
      rw [(every packet (accepted.mem member)).1, number, Nat.lt_succ_iff, ← produces.seq_eq]
      exact bounded
    constructor
    · change source.template.seq.toNat = (sender.frames ++ [data]).length
      rw [number, List.length_append, List.length_singleton]
    · intro packet member
      change packet ∈ source.queued at member
      rw [queuedEq] at member
      rcases List.mem_append.mp member with old | new
      · exact (produces.queued_cut packet old).append [data]
      · exact (every packet (accepted.mem new)).2
    · intro sent member
      exact (produces.wire_sent sent member).append [data]
    · exact produces.wire_ordered
    · change source.queued.Pairwise _
      rw [queuedEq, List.pairwise_append]
      refine ⟨produces.queued_ordered, inFrame.sublist accepted, ?_⟩
      intro old oldMember packet member
      exact .inl (newer (produces.queued_seq_le oldMember) member)
    · intro _ sent sentMember packet member
      change packet ∈ source.queued at member
      rw [queuedEq] at member
      rcases List.mem_append.mp member with old | new
      · exact produces.ahead running sent sentMember packet old
      · exact .inl (newer (produces.seq_le (produces.wire_sent sent sentMember)) new)

/-- A turn moves the head of the queue to the end of the wire. -/
theorem turn (socketInfos : SocketInfo) (produces : sender.Produces) (clock : Clock)
    (outcome : SendOutcome) (running : sender.phase ≠ .panicked) :
    (sender.turn socketInfos clock outcome).Produces := by
  rcases turn_cases socketInfos sender clock outcome with
    ⟨frames, template, ⟨wire, queued⟩ | ⟨_, packet, packetType, sends⟩⟩
  · exact produces.congr template queued wire frames fun _ => running
  · generalize sender.turn socketInfos clock outcome = next at *
    rcases sends with ⟨⟨rest, head, left⟩, ⟨message, decides⟩, wire⟩
    have first : packet ∈ sender.queued := by simp [head]
    have behind := List.pairwise_cons.mp (head ▸ produces.queued_ordered)
    have remaining : next.queued ⊆ sender.queued := by
      rcases left with ⟨queued, _⟩ | ⟨queued, _⟩
      · rw [queued, head]
        exact List.subset_cons_self _ _
      · rw [queued]
        exact List.Subset.refl _
    constructor
    · rw [template, frames, produces.seq_eq]
    · intro other member
      rw [frames]
      exact produces.queued_cut other (remaining member)
    · intro sent member
      rw [wire] at member
      rw [frames]
      rcases List.mem_append.mp member with old | new
      · exact produces.wire_sent sent old
      · rw [List.mem_singleton.mp new]
        exact (produces.queued_cut packet first).sentFrom decides
    · rw [wire, List.pairwise_append]
      refine ⟨produces.wire_ordered, List.pairwise_singleton _ _, ?_⟩
      intro old oldMember sent member
      rw [List.mem_singleton.mp member]
      exact produces.ahead running old oldMember packet first
    · rcases left with ⟨queued, _⟩ | ⟨queued, _⟩
      · rw [queued]
        exact behind.2
      · rw [queued]
        exact produces.queued_ordered
    · intro alive sent member other queuedMember
      rcases left with ⟨queued, _⟩ | ⟨_, gone⟩
      · rw [queued] at queuedMember
        rw [wire] at member
        rcases List.mem_append.mp member with old | new
        · exact produces.ahead running sent old other
            (head ▸ List.mem_cons_of_mem _ queuedMember)
        · rw [List.mem_singleton.mp new]
          exact behind.1 other queuedMember
      · exact absurd gone alive

/-- Step lemma: whatever the thread or another one does, the invariant is kept. -/
theorem apply (socketInfos : SocketInfo) (produces : sender.Produces) (op : SenderOp) :
    (sender.apply socketInfos op).Produces := by
  cases op with
  | frame arrival data now =>
      rw [Sender.apply]
      split
      next waiting => exact produces.takeFrame arrival data now (by simp [waiting])
      next => exact produces
  | register time =>
      rw [Sender.apply]
      split
      next queued => exact produces.congr rfl rfl rfl rfl fun _ => by simp [queued]
      next => exact produces
  | turn clock outcome =>
      rw [Sender.apply]
      split
      next sending => exact produces.turn socketInfos clock outcome (by simp [sending])
      next => exact produces
  | leave =>
      rw [Sender.apply]
      split
      next sending => exact produces.congr rfl rfl rfl rfl fun _ => by simp [sending]
      next => exact produces
  | finish =>
      rw [Sender.apply]
      split
      next =>
        exact {
          seq_eq := produces.seq_eq
          queued_cut := fun _ member => absurd member List.not_mem_nil
          wire_sent := produces.wire_sent
          wire_ordered := produces.wire_ordered
          queued_ordered := .nil
          ahead := fun _ _ _ _ member => absurd member List.not_mem_nil }
      next => exact produces
  | setThrottle throttle => exact produces.congr rfl rfl rfl rfl id
  | setPolicyParameters parameters => exact produces.congr rfl rfl rfl rfl id
  | publish snapshot => exact produces.congr rfl rfl rfl rfl id

end Produces

variable {socketInfos : SocketInfo} {start sender : Sender}
  {history : List (Event Sender SenderOp Unit)}

/-- Run lemma. -/
theorem Produces.of_run (run : Run (step socketInfos) start history sender)
    (initial : start.Produces) : sender.Produces := by
  refine run.invariant initial ?_
  intro state op out next produces taken
  cases taken
  exact produces.apply socketInfos op

end Sender

/-- In every run of a source thread, interleaved with the control channel and the monitor
in any way, the datagrams on the wire go out in the order in which the frames were taken
and cut, none twice, and each carries its part of the frame that its number names. -/
theorem wire_in_order {socketInfos : SocketInfo} {port : UInt16} {throttle : ℚ}
    {windowSize : Nat} {ctler : TxPartCtler} {history : List (Event Sender SenderOp Unit)}
    {sender : Sender}
    (run : Run (Sender.step socketInfos) (.new port throttle windowSize ctler) history
      sender) :
    sender.outlet.wire.Pairwise PacketStruct.Before ∧
      (sender.outlet.wire.map fun sent => (sent.seq, sent.offset)).Nodup ∧
      ∀ sent ∈ sender.outlet.wire, SentFrom sender.frames sent := by
  have produces := Sender.Produces.of_run run (.new port throttle windowSize ctler)
  refine ⟨produces.wire_ordered, ?_, produces.wire_sent⟩
  exact List.pairwise_map.mpr (produces.wire_ordered.imp PacketStruct.Before.key_ne)

/-- A source over two links, without monitoring. -/
def plainSender : Sender :=
  .new 5005 0 4 (.new .hardThreshold unitParameters ⟨false, ⟨0, ∅, ∅⟩⟩)

def twoSockets : SocketInfo := dispatch (fun _ => true) [busyLink, idleLink]

/-- Two frames of three bytes, of which the first is sent at the second attempt. -/
def twoFrames : List SenderOp :=
  [.frame 0 (.bytes [1, 2, 3]) 0, .register 0, .turn (.still 1) .failed, .turn (.still 2) .sent,
    .leave, .frame 1 (.bytes [4, 5, 6]) 3, .register 0, .turn (.still 4) .sent]

theorem wire_in_order_two :
    ∃ history sender, Run (Sender.step twoSockets) plainSender history sender ∧
      sender.outlet.wire.length = 2 ∧ sender.outlet.wire.Pairwise PacketStruct.Before := by
  rcases exists_run_of_any (Sender.step twoSockets) plainSender twoFrames
    (fun sender => sender.outlet.wire.length = 2) (by decide +kernel) with
    ⟨history, sender, run, _, two⟩
  exact ⟨history, sender, run, of_decide_eq_true two, (wire_in_order run).1⟩

/-! ## One call of `process_queue` -/

/-- What a call does that started from `sender`: a front of the queue has gone out in order,
no packet of it in a turn past the deadline, and the rest is still queued. -/
structure Sender.Drained (sender next : Sender) (stopTime : Time) (turns : List Turn)
    (sent rest : List PacketWithMeta) (out : List PacketStruct) : Prop where
  queued_eq : sender.queued = sent ++ rest
  wire_eq : next.outlet.wire = sender.outlet.wire ++ out
  wired : List.Forall₂ Wired sent out
  kept : next.phase ≠ .panicked → next.queued = rest
  timely : out.length ≤ turns.countP fun turn => turn.now < stopTime ∧ turn.outcome = .sent
  ended : next.phase = .waiting → rest = [] ∨ ∃ turn ∈ turns, stopTime ≤ turn.now

namespace Sender.Drained

variable {sender next last : Sender} {stopTime : Time} {turn : Turn} {turns : List Turn}
  {sent rest : List PacketWithMeta} {out : List PacketStruct}

/-- A turn that sends nothing, in front of a call. -/
theorem skip (drained : next.Drained last stopTime turns sent rest out)
    (queued : next.queued = sender.queued) (wire : next.outlet.wire = sender.outlet.wire) :
    sender.Drained last stopTime (turn :: turns) sent rest out where
  queued_eq := queued.symm.trans drained.queued_eq
  wire_eq := by rw [drained.wire_eq, wire]
  wired := drained.wired
  kept := drained.kept
  timely := drained.timely.trans (List.countP_cons ▸ Nat.le_add_right _ _)
  ended := fun waiting => (drained.ended waiting).imp_right
    fun ⟨turn, member, late⟩ => ⟨turn, List.mem_cons_of_mem _ member, late⟩

/-- A turn that sends the head of the queue, in front of a call. -/
theorem send (drained : next.Drained last stopTime turns sent rest out)
    {packet : PacketWithMeta} {first : PacketStruct}
    (queued : sender.queued = packet :: next.queued) (wired : Wired packet first)
    (wire : next.outlet.wire = sender.outlet.wire ++ [first])
    (early : turn.now < stopTime) (outcome : turn.outcome = .sent) :
    sender.Drained last stopTime (turn :: turns) (packet :: sent) rest (first :: out) where
  queued_eq := by rw [queued, drained.queued_eq, List.cons_append]
  wire_eq := by rw [drained.wire_eq, wire, List.append_assoc, List.singleton_append]
  wired := .cons wired drained.wired
  kept := drained.kept
  timely := by
    rw [List.countP_cons_of_pos (by simp [early, outcome]), List.length_cons]
    exact Nat.succ_le_succ drained.timely
  ended := fun waiting => (drained.ended waiting).imp_right
    fun ⟨turn, member, late⟩ => ⟨turn, List.mem_cons_of_mem _ member, late⟩

end Sender.Drained

/-- A call of `process_queue` sends a front of the queue in order, at most one packet for
each turn before the deadline that a socket takes, and keeps the rest; it comes back with
packets left only when the deadline has been reached. -/
theorem Sender.drained_of_processQueue (socketInfos : SocketInfo) (stopTime : Time)
    (turns : List Turn) (sender : Sender) (sending : sender.phase = .sending) :
    ∃ sent rest out, sender.Drained (sender.processQueue socketInfos stopTime turns) stopTime
      turns sent rest out := by
  induction turns generalizing sender with
  | nil =>
      refine ⟨[], sender.queued, [], rfl, by simp [Sender.processQueue], .nil, fun _ => rfl,
        le_refl _, ?_⟩
      intro waiting
      rw [Sender.processQueue, sending] at waiting
      cases waiting
  | cons turn turns ih =>
      rw [Sender.processQueue]
      split
      next early =>
        have ended : (sender.turn socketInfos turn.clock turn.outcome).phase = .waiting →
            sender.queued = [] := Sender.queued_of_turn_waiting
        rcases sender.turn_cases socketInfos turn.clock turn.outcome with
          ⟨_, _, ⟨wire, queued⟩ | ⟨outcome, packet, packetType, sends⟩⟩
        · generalize sender.turn socketInfos turn.clock turn.outcome = next at *
          simp only
          split
          next again =>
            rcases ih next again with ⟨sent, rest, out, drained⟩
            exact ⟨sent, rest, out, drained.skip queued wire⟩
          next =>
            refine ⟨[], sender.queued, [], rfl, by simp [wire], .nil, fun _ => queued,
              Nat.zero_le _, fun waiting => .inl (ended waiting)⟩
        · generalize sender.turn socketInfos turn.clock turn.outcome = next at *
          rcases sends with ⟨⟨rest, head, left⟩, ⟨message, decides⟩, wire⟩
          have wired : Wired packet (packet.setIndicator packetType).packet :=
            ⟨packet, _, message, packetType, .inl rfl, decides, rfl⟩
          simp only
          split
          next again =>
            rcases ih next again with ⟨sent, behind, out, drained⟩
            rcases left with ⟨queued, _⟩ | ⟨_, gone⟩
            · exact ⟨_, behind, _, drained.send (by rw [head, queued]) wired wire early outcome⟩
            · rw [again] at gone
              cases gone
          next other =>
            refine ⟨[packet], rest, _, head, wire, .cons wired .nil, ?_, ?_, ?_⟩
            · intro alive
              rcases left with ⟨_, again⟩ | ⟨_, gone⟩
              · exact absurd again other
              · exact absurd gone alive
            · rw [List.countP_cons_of_pos (by simp [early, outcome])]
              exact Nat.le_add_left 1 _
            · intro waiting
              rw [ended waiting] at head
              cases head
      next late =>
        refine ⟨[], sender.queued, [], rfl, by simp, .nil, fun _ => rfl, Nat.zero_le _, ?_⟩
        exact fun _ => .inr ⟨turn, List.mem_cons_self, Nat.not_lt.mp late⟩

end StreamReplay
