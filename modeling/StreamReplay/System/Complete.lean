import StreamReplay.System.Integrity

/-!
# A session without loss

As long as the queue has room and the throttler is not reset, every packet of a frame that
was taken is on the wire or in the queue.  When the queue has been sent and the network
delivers every datagram once, in whatever order, the decoder gets every frame once.
-/

namespace StreamReplay

open Checked FallibleRun Guarded

namespace Sender

/-- A packet of the frame at a position is on the wire or in the queue. -/
def Placed (sender : Sender) (position index : Nat) : Prop :=
  ∃ sent ∈ sender.outlet.wire ++ sender.queued.map PacketWithMeta.packet,
    sent.seq.toNat = position + 1 ∧ sent.offset.toNat = index

/-- The invariant of a sender whose queue has always had room. -/
structure Keeps (limit : Nat) (sender : Sender) : Prop where
  size_eq : sender.source.throttler.buffer.size = limit
  within : sender.source.throttler.buffer.Within
  placed : sender.phase ≠ .finished → ∀ position data,
    sender.frames[position]? = some data →
    ∀ index < frameNum data.size % 2 ^ 16, sender.Placed position index

/-- The queue has room for the frame that a step takes. -/
def HasRoom (limit : Nat) (sender : Sender) (op : SenderOp) : Prop :=
  ∀ arrival data now, op = .frame arrival data now →
    sender.queued.length + frameNum data.size ≤ limit

variable {socketInfos : SocketInfo} {limit : Nat} {sender next : Sender}

/-- A packet stays placed when what holds it is kept. -/
theorem Placed.mono {position index : Nat} (placed : sender.Placed position index)
    (kept : ∀ sent ∈ sender.outlet.wire ++ sender.queued.map PacketWithMeta.packet,
      ∃ other ∈ next.outlet.wire ++ next.queued.map PacketWithMeta.packet,
        other.seq = sent.seq ∧ other.offset = sent.offset) : next.Placed position index := by
  rcases placed with ⟨sent, member, seqEq, offsetEq⟩
  rcases kept sent member with ⟨other, otherMem, otherSeq, otherOffset⟩
  exact ⟨other, otherMem, by rw [otherSeq, seqEq], by rw [otherOffset, offsetEq]⟩

/-- A turn leaves the size of the buffer as it is. -/
theorem buffer_turn (socketInfos : SocketInfo) (clock : Clock) (outcome : SendOutcome)
    (within : sender.source.throttler.buffer.size = limit ∧
      sender.source.throttler.buffer.Within) :
    let after := sender.turn socketInfos clock outcome
    after.source.throttler.buffer.size = limit ∧ after.source.throttler.buffer.Within := by
  rcases sender.throttler_turn socketInfos clock outcome with
    ⟨_, same⟩ | ⟨sent, out, consumed, _⟩
  · simp only [same]
    exact within
  · have taken : sender.source.throttler.step (.tryConsume clock fun _ => sent) =
        .ok (out, (sender.turn socketInfos clock outcome).source.throttler) := consumed
    exact RateThrottler.buffer_within_of_step within taken

namespace Keeps

theorem new (port : UInt16) (throttle : ℚ) (windowSize : Nat) (ctler : TxPartCtler) :
    (Sender.new port throttle windowSize ctler).Keeps (cycledRatio * windowSize) where
  size_eq := rfl
  within := .inr (Nat.zero_le _)
  placed := fun _ position data found => absurd found (by simp [Sender.new])

/-- The head of the queue is on the wire when it has left the queue. -/
theorem turn (keeps : sender.Keeps limit) (clock : Clock) (outcome : SendOutcome)
    (sending : sender.phase = .sending) :
    (sender.turn socketInfos clock outcome).Keeps limit := by
  have buffer := buffer_turn socketInfos clock outcome
    ⟨keeps.size_eq, keeps.within⟩
  have running : sender.phase ≠ .finished := by simp [sending]
  rcases turn_cases socketInfos sender clock outcome with
    ⟨frames, _, effect⟩
  generalize sender.turn socketInfos clock outcome = next at *
  refine ⟨buffer.1, buffer.2, ?_⟩
  intro _ position data found index below
  rw [frames] at found
  refine (keeps.placed running position data found index below).mono ?_
  intro sent member
  rcases effect with ⟨wire, queued⟩ | ⟨_, packet, packetType, sends⟩
  · exact ⟨sent, by rwa [wire, queued], rfl, rfl⟩
  · rcases sends with ⟨⟨rest, head, left⟩, _, wire⟩
    rw [wire]
    rcases List.mem_append.mp member with onWire | inQueue
    · exact ⟨sent, by simp [onWire], rfl, rfl⟩
    · rw [head, List.map_cons] at inQueue
      rcases List.mem_cons.mp inQueue with rfl | behind
      · exact ⟨(packet.setIndicator packetType).packet, by simp, rfl, rfl⟩
      · refine ⟨sent, List.mem_append_right _ ?_, rfl, rfl⟩
        rcases left with ⟨queued, _⟩ | ⟨queued, _⟩
        · rwa [queued]
        · rw [queued, head, List.map_cons]
          exact List.mem_cons_of_mem _ behind

/-- With room for it, a new frame is queued with all its packets. -/
theorem takeFrame (keeps : sender.Keeps limit) (produces : sender.Produces)
    {arrival : ℚ} {data : FrameData} {now : Time} (waiting : sender.phase = .waiting)
    (room : sender.queued.length + frameNum data.size ≤ limit) :
    (sender.takeFrame arrival data now).Keeps limit := by
  have running : sender.phase ≠ .finished := by simp [waiting]
  unfold Sender.takeFrame
  split
  next =>
    exact ⟨keeps.size_eq, keeps.within, fun _ => keeps.placed running⟩
  next out source taken =>
    rcases bind_eq_ok.mp taken with ⟨⟨packets, template⟩, generated, rest⟩
    rcases bind_eq_ok.mp rest with ⟨throttler, prepared, equal⟩
    cases equal
    have stepped : sender.source.throttler.step (.prepare now packets) =
        .ok (none, throttler) := bind_eq_ok.mpr ⟨throttler, prepared, rfl⟩
    have buffer := RateThrottler.buffer_within_of_step ⟨keeps.size_eq, keeps.within⟩ stepped
    refine ⟨buffer.1, buffer.2, ?_⟩
    have queued : throttler.buffer.fifo = sender.queued ++ packets := by
      rcases RateThrottler.prepare_eq_ok.mp prepared with ⟨_, checked, _, rfl⟩
      have count := (packetise_frame generated).2.1
      have fits : sender.source.throttler.buffer.len + packets.length ≤
          sender.source.throttler.buffer.size := by
        rw [keeps.size_eq, count]
        exact (Nat.add_le_add_left (Nat.mod_le _ _) _).trans room
      have pushed := CycledVecDequeue.fifo_tryPushAll sender.source.throttler.buffer packets
      rwa [CycledVecDequeue.accepted_of_room fits] at pushed
    intro _ position frame found index below
    rcases Nat.lt_or_ge position sender.frames.length with old | new
    · rw [List.getElem?_append_left old] at found
      refine (keeps.placed running position frame found index below).mono fun sent member => ?_
      refine ⟨sent, ?_, rfl, rfl⟩
      rcases List.mem_append.mp member with onWire | inQueue
      · exact List.mem_append_left _ onWire
      · refine List.mem_append_right _ ?_
        change sent ∈ throttler.buffer.fifo.map PacketWithMeta.packet
        rw [queued, List.map_append]
        exact List.mem_append_left _ inQueue
    · have bound := (List.getElem?_eq_some_iff.mp found).1
      rw [List.length_append, List.length_singleton] at bound
      obtain rfl : position = sender.frames.length := by omega
      obtain rfl : data = frame := by simpa using found
      have number := (produces.packets_of_frame generated).1
      rcases emitted_of_packetise data.sized generated with ⟨seqEq, _, every⟩
      rcases ofNat_mem_offsetRange below with ⟨offsetEq, inRange⟩
      rcases Sequence.exists_related_of_mem_left every inRange with ⟨packet, member, emitted⟩
      refine ⟨packet.packet, List.mem_append_right _ ?_, ?_, ?_⟩
      · change packet.packet ∈ throttler.buffer.fifo.map PacketWithMeta.packet
        rw [queued]
        exact List.mem_map_of_mem (List.mem_append_right _ member)
      · rw [emitted.seq_eq, ← seqEq]
        exact number
      · rw [emitted.offset_eq, offsetEq]

/-- Step lemma: with room for the frames that are taken, nothing is lost before a reset. -/
theorem apply (keeps : sender.Keeps limit) (produces : sender.Produces) {op : SenderOp}
    (room : sender.HasRoom limit op) : (sender.apply socketInfos op).Keeps limit := by
  cases op with
  | frame arrival data now =>
      rw [Sender.apply]
      split
      next waiting => exact keeps.takeFrame produces waiting (room arrival data now rfl)
      next => exact keeps
  | turn clock outcome =>
      rw [Sender.apply]
      split
      next sending => exact keeps.turn clock outcome sending
      next => exact keeps
  | register time =>
      rw [Sender.apply]
      split
      next queued => exact ⟨keeps.size_eq, keeps.within, fun _ =>
        keeps.placed (by simp [queued])⟩
      next => exact keeps
  | leave =>
      rw [Sender.apply]
      split
      next sending => exact ⟨keeps.size_eq, keeps.within, fun _ =>
        keeps.placed (by simp [sending])⟩
      next => exact keeps
  | finish =>
      rw [Sender.apply]
      split
      next => exact ⟨keeps.size_eq, .inr (Nat.zero_le _), fun open_ => absurd rfl open_⟩
      next => exact keeps
  | setThrottle | setPolicyParameters | publish =>
      exact ⟨keeps.size_eq, keeps.within, keeps.placed⟩

end Keeps

end Sender

/-- The queue has room for the frame that a step of the session takes. -/
def SessionEvent.HasRoom (limit : Nat) (event : SessionEvent) : Prop :=
  ∀ op, event.op = .sender op → event.before.sender.HasRoom limit op

section Sessions

variable {setup : Setup} {throttle targetRtt : ℚ} {windowSize : Nat} {ctler : TxPartCtler}
  {history : List SessionEvent} {session : Session}

/-- Run lemma. -/
theorem Sender.Keeps.of_session
    (run : Run (Session.step setup) (.start setup throttle windowSize ctler targetRtt)
      history session)
    (room : ∀ event ∈ history, event.HasRoom (cycledRatio * windowSize)) :
    session.sender.Keeps (cycledRatio * windowSize) := by
  induction run with
  | nil => exact .new setup.args.port throttle windowSize ctler
  | @snoc history session next op out run taken ih =>
      cases taken
      rcases List.forall_mem_append.mp room with ⟨earlier, now⟩
      have keeps := ih earlier
      rcases session.sender_apply_cases setup op with ⟨inner, rfl, same⟩ | ⟨_, same⟩
      · rw [same]
        exact keeps.apply (.of_session run) (now _ (List.mem_singleton_self _) inner rfl)
      · exact same ▸ keeps

/-- When the queue has been sent and every datagram delivered, every frame has arrived. -/
theorem Sender.Keeps.allArrived {limit : Nat} {sender : Sender} (keeps : sender.Keeps limit)
    (unfinished : sender.phase ≠ .finished) (drained : sender.queued = [])
    {datagrams : List PacketStruct} (delivered : sender.outlet.wire ⊆ datagrams)
    {seq : UInt32} {position : Nat} {data : FrameData}
    (found : sender.frames[position]? = some data) (seqEq : seq.toNat = position + 1)
    (short : frameNum data.size ≤ 65535) : AllArrived datagrams seq data := by
  intro index below
  have inFrame : index < frameNum data.size % 2 ^ 16 := by omega
  rcases keeps.placed unfinished position data found index inFrame with
    ⟨sent, member, sentSeq, sentOffset⟩
  rw [drained, List.map_nil, List.append_nil] at member
  exact ⟨sent, delivered member, UInt32.toNat_inj.mp (sentSeq.trans seqEq.symm), sentOffset⟩

end Sessions

/-- The sequence numbers of the first frames. -/
def frameNumbers (count : Nat) : List UInt32 :=
  (List.range count).map fun position => UInt32.ofNat (position + 1)

theorem toNat_frameNumber {count position : Nat} (small : count < 2 ^ 32)
    (below : position < count) : (UInt32.ofNat (position + 1)).toNat = position + 1 := by
  rw [UInt32.toNat_ofNat']
  exact Nat.mod_eq_of_lt (by omega)

theorem nodup_frameNumbers {count : Nat} (small : count < 2 ^ 32) : (frameNumbers count).Nodup := by
  refine List.Nodup.map_on ?_ List.nodup_range
  intro left leftMem right rightMem same
  have equal := congrArg UInt32.toNat same
  rw [toNat_frameNumber small (List.mem_range.mp leftMem),
    toNat_frameNumber small (List.mem_range.mp rightMem)] at equal
  exact Nat.succ_injective equal

/-- If all frames have 1 to 65535 packets, the queue always has room and has been sent, and
the network delivers every datagram once, in whatever order, then the decoder of a running
receive loop that acknowledges every frame gets the bytes that the packets of each frame
carry, once for each frame, and nothing else.  These are the bytes of the frame, unless their
number is a multiple of the payload length. -/
theorem lossless_session {setup : Setup} {throttle targetRtt : ℚ} {windowSize : Nat}
    {ctler : TxPartCtler} {history : List SessionEvent} {session : Session}
    (run : Run (Session.step setup) (.start setup throttle windowSize ctler targetRtt)
      history session)
    (room : ∀ event ∈ history, event.HasRoom (cycledRatio * windowSize))
    (unfinished : session.sender.phase ≠ .finished) (drained : session.sender.queued = [])
    (delivered : (arrived history).Perm session.sender.outlet.wire)
    (alive : session.receiver.poisoned = false)
    (acknowledges : setup.args.calcRtt = true ∧ setup.args.sampleRate = 1 ∧
      setup.args.rxMode = true)
    {buffers : List (List UInt8)} (bytes : session.sender.frames = buffers.map .bytes)
    (sizes : ∀ buffer ∈ buffers, 1 ≤ frameNum buffer.length ∧ frameNum buffer.length ≤ 65535) :
    ∃ frames, session.receiver.value.data.tx = some frames ∧
      frames.Perm (buffers.map carriedBytes) ∧
      ∀ buffer ∈ buffers, buffer.length % maxPayloadLen ≠ 0 → carriedBytes buffer = buffer := by
  rcases acknowledges with ⟨calcRtt, every, rxMode⟩
  have produces := Sender.Produces.of_session run
  have keeps := Sender.Keeps.of_session run room
  rcases produces.exists_emission with ⟨emission, represents⟩
  rcases heard_of_run run represents.covers with ⟨heard, last, hears⟩
  obtain rfl := hears.alive_iff.mp alive
  have distinct : session.sender.outlet.wire.Nodup :=
    produces.wire_ordered.imp fun before same => before.key_ne (by rw [same])
  rcases hears.exact represents calcRtt (delivered.nodup_iff.mpr distinct) with ⟨once, exact⟩
  have known : ∀ {position : Nat} (below : position < buffers.length),
      session.sender.frames[position]? = some (.bytes buffers[position]) := by
    intro position below
    rw [bytes, List.getElem?_map, List.getElem?_eq_getElem below, Option.map_some]
  have small : buffers.length < 2 ^ 32 := by
    have bound := session.sender.source.template.seq.toNat_lt
    rwa [produces.seq_eq, bytes, List.length_map] at bound
  have deliverable : ∀ {position : Nat} (below : position < buffers.length),
      Deliverable setup.args (UInt32.ofNat (position + 1)) (.bytes buffers[position]) := by
    intro position below
    refine ⟨?_, sizes _ (List.getElem_mem below)⟩
    rw [every]
    exact UInt32.mod_one
  have acked : (acknowledged heard).Perm (frameNumbers buffers.length) := by
    refine (List.perm_ext_iff_of_nodup once (nodup_frameNumbers small)).mpr fun seq => ?_
    simp only [frameNumbers, List.mem_map, List.mem_range]
    constructor
    · intro member
      rcases whole_of_acknowledged hears.run member with ⟨completable, _⟩
      rcases represents.exists_data completable with ⟨position, _, found, seqEq, _⟩
      have below := (List.getElem?_eq_some_iff.mp found).1
      rw [bytes, List.length_map] at below
      refine ⟨position, below, ?_⟩
      rw [← UInt32.toNat_inj, toNat_frameNumber small below, seqEq]
    · rintro ⟨position, below, rfl⟩
      have number := toNat_frameNumber small below
      refine (exact (known below) number).mpr ⟨deliverable below, ?_⟩
      exact keeps.allArrived unfinished drained delivered.symm.subset (known below) number
        (deliverable below).2.2
  refine ⟨_, forwarded_of_run hears.run, ?_, fun _ _ => carriedBytes_eq_self⟩
  rw [rxMode, if_pos rfl]
  refine (acked.map emission.content).trans (List.Perm.of_eq ?_)
  apply List.ext_getElem
  · simp [frameNumbers]
  · intro position left right
    have below : position < buffers.length := by simpa using right
    have content := represents.content_eq (known below) (toNat_frameNumber small below)
      (deliverable below) rfl
    simpa [frameNumbers] using content

theorem bytes_of_buffers {frames : List FrameData} {buffers : List (List UInt8)}
    (same : frames.map FrameData.buffer = buffers.map some) :
    frames = buffers.map .bytes := by
  induction frames generalizing buffers with
  | nil =>
      rw [List.map_eq_nil_iff.mp same.symm, List.map_nil]
  | cons data frames ih =>
      cases buffers with
      | nil => simp at same
      | cons buffer buffers =>
          rw [List.map_cons, List.map_cons, List.cons.injEq] at same
          cases data with
          | bytes taken =>
              cases same.1
              rw [List.map_cons, ih same.2]
          | dummy sizeBytes => cases same.1

theorem lossless_session_two :
    ∃ history session frames, Run (Session.step plainSetup) plainSession history session ∧
      session.receiver.value.data.tx = some frames ∧
      frames.Perm ([[1, 2, 3], [4, 5, 6]].map carriedBytes) ∧
      ∀ buffer ∈ [[1, 2, 3], [4, 5, 6]],
        buffer.length % maxPayloadLen ≠ 0 → carriedBytes buffer = buffer := by
  rcases exists_run_of_trace (Session.step plainSetup) plainSession swappedDelivery
    (fun history session => (history.all fun event => event.before.sender.queued.length ≤ 9) ∧
      session.sender.phase = .sending ∧ session.sender.queued = [] ∧
      arrived history = session.sender.outlet.wire.reverse ∧
      session.receiver.poisoned = false ∧
      session.sender.frames.map FrameData.buffer = [some [1, 2, 3], some [4, 5, 6]])
    (by decide +kernel) with ⟨history, session, run, ops, passes⟩
  rcases of_decide_eq_true passes with ⟨short, sending, drained, delivered, alive, buffers⟩
  have room : ∀ event ∈ history, SessionEvent.HasRoom (cycledRatio * 4) event := by
    rintro event member op opEq arrival data now rfl
    have listed : event.op ∈ swappedDelivery := ops ▸ List.mem_map_of_mem member
    rw [opEq] at listed
    have count : frameNum data.size = 1 := by
      have either : data = .bytes [1, 2, 3] ∨ data = .bytes [4, 5, 6] := by
        simp [swappedDelivery, twoFrames] at listed
        tauto
      rcases either with rfl | rfl <;> decide
    have queued := of_decide_eq_true (List.all_eq_true.mp short event member)
    rw [count, cycledRatio]
    omega
  have bytes : session.sender.frames = [[1, 2, 3], [4, 5, 6]].map .bytes :=
    bytes_of_buffers buffers
  rcases lossless_session run room (by simp [sending]) drained
    (delivered ▸ List.reverse_perm _) alive ⟨rfl, rfl, rfl⟩ bytes (by decide) with
    ⟨frames, tx, perm, whole⟩
  exact ⟨history, session, frames, run, tx, perm, whole⟩

end StreamReplay
