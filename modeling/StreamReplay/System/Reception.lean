import StreamReplay.Rx.LinkTimes
import StreamReplay.System.Session

/-!
# What reaches the receiver

The packets of a session's frames, those on the wire and those that never got there, form
an emission, and whatever the network delivers is a copy of one of its packets.  The turns
of the receive loop in a session are therefore a run over such copies.
-/

namespace StreamReplay

open Checked FallibleRun Guarded

/-- The bytes of a buffer that its packets carry: all of them, unless the buffer fills its
last packet. -/
def carriedBytes (buffer : List UInt8) : List UInt8 :=
  buffer.take ((frameNum buffer.length - 1) * maxPayloadLen + frameRemains buffer.length)

theorem carriedBytes_eq_self {buffer : List UInt8}
    (partly : buffer.length % maxPayloadLen ≠ 0) : carriedBytes buffer = buffer := by
  apply List.take_of_length_le
  rw [frameRemains, maxPayloadLen_eq]
  rw [maxPayloadLen_eq] at partly
  rcases frameNum_cases buffer.length with ⟨exact, _⟩ | ⟨_, num⟩ <;> omega

/-! ## The emission of a session -/

/-- The packets of a frame as they go out, in offset order. -/
def SentFrame.ofCarried {data : FrameData} {seq : UInt32} (packets : List PacketStruct)
    (count : packets.length = frameNum data.size % 2 ^ 16)
    (carried : ∀ index (below : index < packets.length),
      packets[index].seq = seq ∧ Carried data index packets[index]) : SentFrame seq where
  num := frameNum data.size
  packets
  count_eq := count
  seq_eq := by
    intro packet member
    rcases List.getElem_of_mem member with ⟨index, below, rfl⟩
    exact (carried index below).1
  offset_eq index below := (carried index below).2.offset_eq
  length_le := by
    intro packet member
    rcases List.getElem_of_mem member with ⟨index, below, rfl⟩
    exact (carried index below).2.length_le
  indicator_eq index below := (carried index below).2.indicator_eq

/-- The bytes of a frame whose last packet is sent with its mark. -/
theorem content_of_carried {buffer : List UInt8} {packets : List PacketStruct}
    (some : 1 ≤ frameNum buffer.length) (short : frameNum buffer.length ≤ 65535)
    (count : packets.length = frameNum buffer.length % 2 ^ 16)
    (carried : ∀ index (below : index < packets.length),
      packets[index].content = chunk buffer (UInt16.ofNat index)) :
    packets.flatMap PacketStruct.content = carriedBytes buffer := by
  have nonempty : buffer ≠ [] := by
    rintro rfl
    exact absurd some (by decide)
  rw [carriedBytes, ← flatMap_chunk nonempty short, List.flatMap_def, List.flatMap_def]
  congr 1
  apply List.ext_getElem
  · simp [offsetRange, count]
  · intro index left right
    simpa [offsetRange] using carried index (by simpa using left)

/-- Any packet of a frame that has been taken could go out. -/
theorem exists_carried (data : FrameData) {seq : UInt32} (numbered : 1 ≤ seq.toNat)
    {index : Nat} (below : index < frameNum data.size % 2 ^ 16) :
    ∃ sent : PacketStruct, sent.seq = seq ∧ Carried data index sent := by
  let template : PacketWithMeta :=
    { PacketWithMeta.new 0 with packet := { PacketStruct.new with seq := seq - 1 } }
  have fits : template.packet.seq.toNat + 1 < 2 ^ 32 := by
    have one : (1 : UInt32) ≤ seq := UInt32.le_iff_toNat_le.mpr numbered
    have small := seq.toNat_lt
    change (seq - 1).toNat + 1 < 2 ^ 32
    rw [UInt32.toNat_sub_of_le _ _ one]
    exact lt_of_eq_of_lt (Nat.sub_add_cancel numbered) small
  obtain ⟨packets, _, _, _, _, every⟩ := packetise_spec 0 template data.sized fits
  have seqEq : template.packet.seq + 1 = seq := UInt32.sub_add_cancel seq 1
  rw [seqEq] at every
  rcases ofNat_mem_offsetRange below with ⟨offsetEq, inRange⟩
  rcases Sequence.exists_related_of_mem_left every inRange with ⟨packet, _, emitted⟩
  let isLast := decide (index + 1 = frameNum data.size)
  refine ⟨(packet.setIndicator (packetTypeFor true isLast)).packet, emitted.seq_eq, ?_⟩
  have marked : (packetTypeFor true isLast).isLast = true ↔
      (UInt16.ofNat index).toNat + 1 = frameNum data.size := by
    rw [offsetEq, isLast_packetTypeFor, decide_eq_true_eq]
  have carried := emitted.carried inRange marked
  rwa [offsetEq] at carried

/-- The datagrams are packets of the emission. -/
def Emission.Covers (emission : Emission) (wire : List PacketStruct) : Prop :=
  ∀ sent ∈ wire, ∃ frame, emission.frames sent.seq = some frame ∧
    ∃ below : sent.offset.toNat < frame.packets.length, frame.packets[sent.offset.toNat] = sent

/-- An emission holds the frames that a sender has taken, with what is on the wire among
their packets. -/
structure Emission.Represents (emission : Emission) (sender : Sender) : Prop where
  count_eq : emission.count = sender.frames.length
  frames : ∀ seq frame, emission.frames seq = some frame →
    ∃ position data, sender.frames[position]? = some data ∧ seq.toNat = position + 1 ∧
      frame.num = frameNum data.size ∧
      ∀ index (below : index < frame.packets.length), Carried data index frame.packets[index]
  covers : emission.Covers sender.outlet.wire

namespace Sender.Produces

variable {sender : Sender}

/-- Two datagrams of one number and offset are the same. -/
theorem eq_of_key (produces : sender.Produces) {left right : PacketStruct}
    (leftMem : left ∈ sender.outlet.wire) (rightMem : right ∈ sender.outlet.wire)
    (seqEq : left.seq = right.seq) (offsetEq : left.offset = right.offset) : left = right := by
  have nodup : (sender.outlet.wire.map fun sent => (sent.seq, sent.offset)).Nodup :=
    List.pairwise_map.mpr (produces.wire_ordered.imp PacketStruct.Before.key_ne)
  exact List.inj_on_of_nodup_map nodup leftMem rightMem (Prod.ext seqEq offsetEq)

/-- What is on the wire under a number carries the frame of that number. -/
theorem carried_of_mem (produces : sender.Produces) {sent : PacketStruct}
    (member : sent ∈ sender.outlet.wire) {position : Nat} {data : FrameData}
    (found : sender.frames[position]? = some data) (seqEq : sent.seq.toNat = position + 1) :
    Carried data sent.offset.toNat sent := by
  rcases produces.wire_sent sent member with ⟨other, otherData, otherFound, otherEq, carried⟩
  obtain rfl : other = position := Nat.succ_injective (otherEq.symm.trans seqEq)
  rw [found] at otherFound
  cases otherFound
  exact carried

/-- A frame with what is on the wire of it, filled up with the packets that are not. -/
theorem exists_frame (produces : sender.Produces) {seq : UInt32} {position : Nat}
    {data : FrameData} (found : sender.frames[position]? = some data)
    (seqEq : seq.toNat = position + 1) :
    ∃ frame : SentFrame seq, frame.num = frameNum data.size ∧
      (∀ index (below : index < frame.packets.length),
        Carried data index frame.packets[index]) ∧
      ∀ sent ∈ sender.outlet.wire, sent.seq = seq →
        ∃ below : sent.offset.toNat < frame.packets.length,
          frame.packets[sent.offset.toNat] = sent := by
  have pick : ∀ index : Fin (frameNum data.size % 2 ^ 16), ∃ sent : PacketStruct,
      (sent.seq = seq ∧ Carried data index sent) ∧
        ∀ other ∈ sender.outlet.wire, other.seq = seq → other.offset.toNat = index →
          other = sent := by
    intro index
    by_cases present : ∃ sent ∈ sender.outlet.wire, sent.seq = seq ∧ sent.offset.toNat = index
    · rcases present with ⟨sent, member, sentSeq, sentOffset⟩
      refine ⟨sent, ⟨sentSeq, ?_⟩, ?_⟩
      · rw [← sentOffset]
        exact produces.carried_of_mem member found (sentSeq ▸ seqEq)
      · intro other otherMem otherSeq otherOffset
        refine produces.eq_of_key otherMem member (otherSeq.trans sentSeq.symm) ?_
        rw [← UInt16.toNat_inj, otherOffset, sentOffset]
    · rcases exists_carried data (seqEq ▸ Nat.le_add_left 1 _) index.2 with
        ⟨sent, sentSeq, carried⟩
      refine ⟨sent, ⟨sentSeq, carried⟩, ?_⟩
      intro other member otherSeq otherOffset
      exact absurd ⟨other, member, otherSeq, otherOffset⟩ present
  choose packet fields unique using pick
  let packets := List.ofFn packet
  have count : packets.length = frameNum data.size % 2 ^ 16 := List.length_ofFn
  have carried : ∀ index (below : index < packets.length),
      packets[index].seq = seq ∧ Carried data index packets[index] := by
    intro index below
    rw [List.getElem_ofFn]
    exact fields _
  refine ⟨.ofCarried packets count carried, rfl, fun index below => (carried index below).2, ?_⟩
  intro sent member sentSeq
  have below := (produces.carried_of_mem member found (sentSeq ▸ seqEq)).below
  refine ⟨count.symm ▸ below, ?_⟩
  have same := unique ⟨_, below⟩ sent member sentSeq rfl
  exact (List.getElem_ofFn ..).trans same.symm

/-- The frames of a sender are an emission. -/
theorem exists_emission (produces : sender.Produces) :
    ∃ emission : Emission, emission.Represents sender := by
  have known : ∀ seq : UInt32, 1 ≤ seq.toNat ∧ seq.toNat ≤ sender.frames.length →
      ∃ position data, sender.frames[position]? = some data ∧ seq.toNat = position + 1 := by
    rintro seq ⟨positive, bounded⟩
    have below : seq.toNat - 1 < sender.frames.length := by omega
    exact ⟨seq.toNat - 1, _, List.getElem?_eq_getElem below, by omega⟩
  choose position data found seqEq using known
  choose frame num carried covers using fun seq inRange =>
    produces.exists_frame (found seq inRange) (seqEq seq inRange)
  let frames (seq : UInt32) : Option (SentFrame seq) :=
    if inRange : 1 ≤ seq.toNat ∧ seq.toNat ≤ sender.frames.length then some (frame seq inRange)
    else none
  have frames_eq : ∀ seq inRange, frames seq = some (frame seq inRange) :=
    fun seq inRange => dif_pos inRange
  refine ⟨⟨sender.frames.length, frames, fun seq => ?_⟩, rfl, fun seq sent kept => ?_, ?_⟩
  · by_cases inRange : 1 ≤ seq.toNat ∧ seq.toNat ≤ sender.frames.length
    · simp [frames, inRange]
    · simp [frames, inRange]
  · by_cases inRange : 1 ≤ seq.toNat ∧ seq.toNat ≤ sender.frames.length
    · obtain rfl : frame seq inRange = sent := by simpa [frames, inRange] using kept
      exact ⟨_, _, found seq inRange, seqEq seq inRange, num seq inRange, carried seq inRange⟩
    · simp [frames, inRange] at kept
  · intro sent member
    rcases produces.wire_sent sent member with ⟨place, _, present, number, _⟩
    have below := (List.getElem?_eq_some_iff.mp present).1
    have inRange : 1 ≤ sent.seq.toNat ∧ sent.seq.toNat ≤ sender.frames.length := by omega
    exact ⟨_, frames_eq _ inRange, covers _ inRange sent member rfl⟩

end Sender.Produces

/-! ## The receive loop in a session -/

/-- What was sent stays sent. -/
theorem Sender.wire_prefix (socketInfos : SocketInfo) (sender : Sender) (op : SenderOp) :
    sender.outlet.wire <+: (sender.apply socketInfos op).outlet.wire := by
  cases op with
  | turn clock outcome =>
      rw [Sender.apply]
      split
      next =>
        rcases sender.turn_cases socketInfos clock outcome with
          ⟨_, _, ⟨wire, _⟩ | ⟨_, packet, packetType, sends⟩⟩
        · exact wire ▸ List.prefix_refl _
        · exact sends.wire_eq ▸ List.prefix_append _ _
      next => exact List.prefix_refl _
  | frame arrival data now =>
      rw [Sender.apply, takeFrame]
      split
      next => split <;> exact List.prefix_refl _
      next => exact List.prefix_refl _
  | register | leave | finish =>
      rw [Sender.apply]
      split <;> exact List.prefix_refl _
  | setThrottle | setPolicyParameters | publish => exact List.prefix_refl _

section Hearing

variable {emission : Emission} {setup : Setup}

/-- A datagram that is delivered is a copy of a packet of the emission. -/
theorem Emission.Covers.exists_copy {wire : List PacketStruct} (covers : emission.Covers wire)
    {sent : PacketStruct} (member : sent ∈ wire) (env : RecvEnv) :
    ∃ copy : Copy emission, copy.delivery = (sent, env) ∧
      copy.received = sent.received env := by
  rcases covers sent member with ⟨frame, known, below, same⟩
  let copy : Copy emission := ⟨sent.seq, frame, known, sent.offset.toNat, below, env⟩
  have packetEq : copy.packet = sent := same
  refine ⟨copy, Prod.ext packetEq rfl, ?_⟩
  have whole : sent.datagram.take recvBufferSize = copy.packet.datagram := by
    rw [packetEq]
    apply List.take_of_length_le
    have short := copy.received.short
    change copy.packet.datagram.length ≤ _ at short
    rwa [packetEq] at short
  unfold Copy.received PacketStruct.received
  congr 1
  exact whole.symm

/-- An acknowledgement was sent in the turn on one of the copies. -/
def Answered (args : Args) (copies : List (Copy emission)) (pong : Pong) : Prop :=
  ∃ (past : List (Event RecvState (Copy emission) (Option Pong))) (state : RecvState)
    (copy : Copy emission) (record : RecvRecord) (later : List (Copy emission)),
    Run (recvCopy args) .start past state ∧ Completes args state copy pong record ∧
      copies = past.map Event.op ++ copy :: later

theorem Answered.append {args : Args} {copies : List (Copy emission)} {pong : Pong}
    (answered : Answered args copies pong) (more : List (Copy emission)) :
    Answered args (copies ++ more) pong := by
  rcases answered with ⟨past, state, copy, record, later, run, completes, rfl⟩
  exact ⟨past, state, copy, record, later ++ more, run, completes, by simp⟩

/-- The turns of the receive loop in a session, as a run over copies; `last` is the copy
on which the loop has panicked.  Its frame may have been acknowledged before. -/
structure Heard (args : Args) (session : Session) (delivered : List (PacketStruct × RecvEnv))
    (heard : List (Event RecvState (Copy emission) (Option Pong)))
    (last : Option (Copy emission)) : Prop where
  run : Run (recvCopy args) .start heard session.receiver.value
  alive_iff : session.receiver.poisoned = false ↔ last = none
  panics : ∀ copy, last = some copy →
    ∃ fault, recvCopy args session.receiver.value copy = .error fault
  delivered_eq : last = none → (heard.map Event.op).map Copy.delivery = delivered
  delivered_prefix : (heard.map Event.op ++ last.toList).map Copy.delivery <+: delivered
  pongs_eq : ∃ tail, session.pongs.map (fun pong => pong.bytes.seq) =
      acknowledged heard ++ tail ∧
    (tail = [] ∨ ∃ copy ack record, last = some copy ∧
      Completes args session.receiver.value copy ack record ∧ tail = [copy.seq])
  answered : ∀ pong ∈ session.pongs, Answered args (heard.map Event.op ++ last.toList) pong

namespace Heard

variable {args : Args} {session next : Session} {delivered : List (PacketStruct × RecvEnv)}
  {heard : List (Event RecvState (Copy emission) (Option Pong))} {last : Option (Copy emission)}

theorem congr (hears : Heard args session delivered heard last)
    (receiver : next.receiver = session.receiver) (pongs : next.pongs = session.pongs) :
    Heard args next delivered heard last where
  run := receiver ▸ hears.run
  alive_iff := receiver ▸ hears.alive_iff
  panics := receiver ▸ hears.panics
  delivered_eq := hears.delivered_eq
  delivered_prefix := hears.delivered_prefix
  pongs_eq := pongs ▸ receiver ▸ hears.pongs_eq
  answered := pongs ▸ hears.answered

/-- The running loop has made a turn on every datagram. -/
theorem packets_eq (hears : Heard args session delivered heard none) :
    (heard.map Event.op).map Copy.packet = delivered.map Prod.fst := by
  rw [← hears.delivered_eq rfl, List.map_map (f := Copy.delivery)]
  rfl

theorem packets_subset (hears : Heard args session delivered heard last) :
    (heard.map Event.op ++ last.toList).map Copy.packet ⊆ delivered.map Prod.fst := by
  have among := (hears.delivered_prefix.map Prod.fst).subset
  rwa [List.map_map] at among

/-- A datagram that comes when the loop has panicked changes nothing. -/
theorem ignore (hears : Heard args session delivered heard last)
    (gone : session.receiver.poisoned = true) (arrival : PacketStruct × RecvEnv) :
    Heard args session (delivered ++ [arrival]) heard last where
  run := hears.run
  alive_iff := hears.alive_iff
  panics := hears.panics
  delivered_eq := fun none => by
    rw [hears.alive_iff.mpr none] at gone
    cases gone
  delivered_prefix := hears.delivered_prefix.trans (List.prefix_append _ _)
  pongs_eq := hears.pongs_eq
  answered := hears.answered

/-- The acknowledgements after one more turn. -/
theorem answered_turn (hears : Heard args session delivered heard none)
    (copy : Copy emission) :
    ∀ pong ∈ session.pongs ++
        (match acknowledge args session.receiver.value copy.received with
          | .ok (some ack) => [ack]
          | _ => []),
      Answered args (heard.map Event.op ++ [copy]) pong := by
  intro pong member
  rcases List.mem_append.mp member with earlier | new
  · have answered := hears.answered pong earlier
    rw [Option.toList_none, List.append_nil] at answered
    exact answered.append [copy]
  · split at new
    next ack acked =>
      obtain rfl := List.mem_singleton.mp new
      rcases completes_of_acknowledge acked with ⟨record, completes⟩
      exact ⟨heard, _, copy, record, [], hears.run, completes, rfl⟩
    next => cases new

/-- A datagram that comes while the loop is running makes a turn. -/
theorem deliver (hears : Heard setup.args session delivered heard last)
    (alive : session.receiver.poisoned = false) {sent : PacketStruct} {env : RecvEnv}
    {copy : Copy emission} (deliveryEq : copy.delivery = (sent, env))
    (receivedEq : copy.received = sent.received env) :
    ∃ (turns : List (Event RecvState (Copy emission) (Option Pong)))
      (panicked : Option (Copy emission)), Heard setup.args (session.deliver setup sent env)
        (delivered ++ [(sent, env)]) turns panicked := by
  obtain rfl := hears.alive_iff.mp alive
  have before := hears.delivered_eq rfl
  rcases hears.pongs_eq with ⟨tail, pongs, rfl | ⟨_, _, _, none, _⟩⟩
  swap
  · cases none
  rw [List.append_nil] at pongs
  have answered := hears.answered_turn copy
  simp only [Session.deliver, Mutex.run, alive, Bool.false_eq_true, if_false, ← receivedEq]
  cases taken : recvStep setup.args session.receiver.value copy.received with
  | ok result =>
      rcases result with ⟨pong, state⟩
      have turn : recvCopy setup.args session.receiver.value copy = .ok (pong, state) := taken
      refine ⟨heard ++ [⟨session.receiver.value, copy, pong, state⟩], none, ?_⟩
      constructor
      · exact hears.run.snoc turn
      · simp
      · exact fun _ none => absurd none.symm (Option.some_ne_none _)
      · intro _
        rw [List.map_append, List.map_append, before, List.map_singleton, List.map_singleton,
          deliveryEq]
      · rw [Option.toList_none, List.append_nil, List.map_append, List.map_append, before,
          List.map_singleton, List.map_singleton, deliveryEq]
      · refine ⟨[], ?_, .inl rfl⟩
        rw [acknowledge_of_taken turn, List.map_append, pongs, acknowledged_snoc]
        cases pong with
        | none => simp
        | some ack =>
            rcases completes_of_acknowledge (acknowledge_of_taken turn) with ⟨_, completes⟩
            simp [completes.seq_eq]
      · rw [Option.toList_none, List.append_nil, List.map_append, List.map_singleton]
        exact answered
  | error fault =>
      refine ⟨heard, some copy, ?_⟩
      constructor
      · exact hears.run
      · simp [Mutex.poison]
      · rintro _ ⟨⟩
        exact ⟨fault, taken⟩
      · exact fun none => absurd none (Option.some_ne_none _)
      · rw [Option.toList_some, List.map_append, before, List.map_singleton, deliveryEq]
      · cases acked : acknowledge setup.args session.receiver.value copy.received with
        | error _ => exact ⟨[], by simp [pongs], .inl rfl⟩
        | ok pong =>
            cases pong with
            | none => exact ⟨[], by simp [pongs], .inl rfl⟩
            | some ack =>
                rcases completes_of_acknowledge acked with ⟨record, completes⟩
                refine ⟨[copy.seq], ?_, .inr ⟨copy, ack, record, rfl, completes, rfl⟩⟩
                simp [pongs, completes.seq_eq]
      · exact answered

end Heard

theorem Sender.Produces.of_session {throttle targetRtt : ℚ} {windowSize : Nat}
    {ctler : TxPartCtler} {history : List SessionEvent} {session : Session}
    (run : Run (Session.step setup) (.start setup throttle windowSize ctler targetRtt)
      history session) : session.sender.Produces := by
  induction run with
  | nil => exact .new setup.args.port throttle windowSize ctler
  | @snoc _ session _ op _ _ taken ih =>
      cases taken
      rcases session.sender_apply_cases setup op with ⟨inner, _, same⟩ | ⟨_, same⟩
      · exact same ▸ ih.apply setup.socketInfos inner
      · exact same ▸ ih

/-- Run lemma: what a session delivers are turns of the receive loop on copies of what it
has sent in the end. -/
theorem heard_of_run {throttle targetRtt : ℚ} {windowSize : Nat} {ctler : TxPartCtler}
    {history : List SessionEvent} {session : Session}
    (run : Run (Session.step setup) (.start setup throttle windowSize ctler targetRtt)
      history session) (covers : emission.Covers session.sender.outlet.wire) :
    ∃ (heard : List (Event RecvState (Copy emission) (Option Pong)))
      (last : Option (Copy emission)), Heard setup.args session (arrivals history) heard
        last := by
  induction run with
  | nil => exact ⟨[], none, .nil, by simp [Session.start, Mutex.new], by simp, fun _ => rfl,
      List.prefix_refl _, ⟨[], rfl, .inl rfl⟩, fun _ member => absurd member List.not_mem_nil⟩
  | @snoc history session next op out run taken ih =>
      cases taken
      rw [arrivals, Sequence.filterMap_snoc, ← arrivals]
      -- Only a delivery adds a datagram; every other step leaves the receive loop alone.
      cases op with
      | sender op =>
          have sooner := (session.sender.wire_prefix setup.socketInfos op).subset
          rcases ih fun sent member => covers sent (sooner member) with ⟨heard, last, hears⟩
          refine ⟨heard, last, ?_⟩
          rw [SessionEvent.arrival, Option.toList_none, List.append_nil]
          exact hears.congr rfl rfl
      | deliver position env =>
          cases found : session.sender.outlet.wire[position]? with
          | none =>
              have same : session.apply setup (.deliver position env) = session := by
                simp only [Session.apply, found]
              rw [same] at covers ⊢
              rcases ih covers with ⟨heard, last, hears⟩
              refine ⟨heard, last, ?_⟩
              have quiet : SessionEvent.arrival ⟨session, .deliver position env, (), session⟩ =
                none := by simp [SessionEvent.arrival, found]
              rw [quiet, Option.toList_none, List.append_nil]
              exact hears
          | some sent =>
              have same : session.apply setup (.deliver position env) =
                  session.deliver setup sent env := by
                simp only [Session.apply, found]
              rw [same] at covers ⊢
              rw [Session.sender_deliver] at covers
              rcases ih covers with ⟨heard, last, hears⟩
              have arrival : SessionEvent.arrival ⟨session, .deliver position env, (),
                session.deliver setup sent env⟩ = some (sent, env) := by
                  simp [SessionEvent.arrival, found]
              rw [arrival, Option.toList_some]
              rcases covers.exists_copy (List.mem_of_getElem? found) env with
                ⟨copy, deliveryEq, receivedEq⟩
              cases alive : session.receiver.poisoned with
              | true =>
                  refine ⟨heard, last, ?_⟩
                  rw [Session.deliver, if_pos alive]
                  exact hears.ignore alive (sent, env)
              | false => exact hears.deliver alive deliveryEq receivedEq
      | pong position time =>
          have same : (session.apply setup (.pong position time)).sender = session.sender ∧
              (session.apply setup (.pong position time)).receiver = session.receiver ∧
              (session.apply setup (.pong position time)).pongs = session.pongs := by
            simp only [Session.apply, Session.answer]
            split <;> exact ⟨rfl, rfl, rfl⟩
          rw [same.1] at covers
          rcases ih covers with ⟨heard, last, hears⟩
          refine ⟨heard, last, ?_⟩
          rw [SessionEvent.arrival, Option.toList_none, List.append_nil]
          exact hears.congr same.2.1 same.2.2
      | poll now =>
          rcases ih covers with ⟨heard, last, hears⟩
          refine ⟨heard, last, ?_⟩
          rw [SessionEvent.arrival, Option.toList_none, List.append_nil]
          exact hears.congr rfl rfl

end Hearing

end StreamReplay
