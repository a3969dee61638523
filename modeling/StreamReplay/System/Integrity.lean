import StreamReplay.System.Reception

/-!
# What a session gets across

Whatever the network does, an acknowledgement says that every packet of its frame was sent
and has arrived, and the decoder gets the acknowledged frames as the source has taken them.
On a network that repeats nothing, the frames that arrive whole are acknowledged once each,
and with nothing lost on the way that is all of them.
-/

namespace StreamReplay

open Checked FallibleRun Guarded

/-- The receiver samples the number of a frame, and its last packet goes out marked. -/
def Deliverable (args : Args) (seq : UInt32) (data : FrameData) : Prop :=
  seq % args.sampleRate = 0 ∧ 1 ≤ frameNum data.size ∧ frameNum data.size ≤ 65535

/-- Every packet of a frame is among the datagrams. -/
def AllArrived (datagrams : List PacketStruct) (seq : UInt32) (data : FrameData) : Prop :=
  ∀ index < frameNum data.size, ∃ sent ∈ datagrams, sent.seq = seq ∧ sent.offset.toNat = index

/-! ## Copies and datagrams -/

section Copies

variable {emission : Emission} {sender : Sender}

theorem Copy.seq_packet (copy : Copy emission) : copy.packet.seq = copy.seq :=
  copy.frame.seq_eq _ copy.packet_mem

theorem Copy.offset_packet (copy : Copy emission) : copy.packet.offset.toNat = copy.index := by
  have below := copy.below
  have count := copy.frame.count_eq
  have offsetEq : copy.packet.offset = UInt16.ofNat copy.index :=
    copy.frame.offset_eq _ copy.below
  rw [offsetEq, UInt16.toNat_ofNat']
  omega

/-- The index of a frame has arrived with a copy of it. -/
theorem mem_indicesOf {copies : List (Copy emission)} {seq : UInt32} {index : Nat} :
    index ∈ indicesOf copies seq ↔ ∃ sent ∈ copies.map Copy.packet,
      sent.seq = seq ∧ sent.offset.toNat = index := by
  simp only [indicesOf, List.mem_map, List.mem_filter, decide_eq_true_eq]
  constructor
  · rintro ⟨copy, ⟨member, seqEq⟩, rfl⟩
    exact ⟨_, ⟨copy, member, rfl⟩, copy.seq_packet.trans seqEq, copy.offset_packet⟩
  · rintro ⟨_, ⟨copy, member, rfl⟩, seqEq, offsetEq⟩
    exact ⟨copy, ⟨member, copy.seq_packet.symm.trans seqEq⟩,
      copy.offset_packet.symm.trans offsetEq⟩

/-- The frame of a number is the one that the sender has taken under it. -/
theorem Emission.Represents.frame_of_number (represents : emission.Represents sender)
    {seq : UInt32} {position : Nat} {data : FrameData}
    (found : sender.frames[position]? = some data) (seqEq : seq.toNat = position + 1)
    {frame : SentFrame seq} (known : emission.frames seq = some frame) :
    frame.num = frameNum data.size ∧ ∀ index (below : index < frame.packets.length),
      Carried data index frame.packets[index] := by
  rcases represents.frames seq frame known with ⟨other, _, otherFound, otherEq, taken⟩
  obtain rfl : other = position := Nat.succ_injective (otherEq.symm.trans seqEq)
  obtain rfl := Option.some.inj (found.symm.trans otherFound)
  exact taken

/-- Copies of one index of one frame are the same packet. -/
theorem Copy.packet_eq {left right : Copy emission} (seqEq : left.seq = right.seq)
    (indexEq : left.index = right.index) : left.packet = right.packet := by
  rcases left with ⟨seq, frame, known, index, below, env⟩
  rcases right with ⟨otherSeq, otherFrame, otherKnown, otherIndex, otherBelow, otherEnv⟩
  obtain rfl : seq = otherSeq := seqEq
  obtain rfl : index = otherIndex := indexEq
  obtain rfl : frame = otherFrame := Option.some.inj (known.symm.trans otherKnown)
  rfl

/-- Datagrams that are all different are not delivered twice. -/
theorem noRepeats_of_nodup {copies : List (Copy emission)}
    (distinct : (copies.map Copy.packet).Nodup) : NoRepeats copies := by
  refine List.pairwise_map.mpr ((List.pairwise_map.mp distinct).imp ?_)
  intro left right different same
  exact different (Copy.packet_eq (Prod.mk.inj same).1 (Prod.mk.inj same).2)

/-- A frame can be completed according to what the sender has taken. -/
theorem Emission.Represents.completable_iff (represents : emission.Represents sender)
    {args : Args} {seq : UInt32} {position : Nat} {data : FrameData}
    (found : sender.frames[position]? = some data) (seqEq : seq.toNat = position + 1) :
    Completable emission args seq ↔ Deliverable args seq data := by
  have inRange : (emission.frames seq).isSome = true := by
    have below := (List.getElem?_eq_some_iff.mp found).1
    rw [emission.numbered, represents.count_eq]
    omega
  rcases Option.isSome_iff_exists.mp inRange with ⟨frame, known⟩
  unfold Deliverable
  rw [← (represents.frame_of_number found seqEq known).1]
  constructor
  · rintro ⟨sampled, taken, takenKnown, marked⟩
    rw [known] at takenKnown
    cases takenKnown
    exact ⟨sampled, marked⟩
  · rintro ⟨sampled, marked⟩
    exact ⟨sampled, frame, known, marked⟩

/-- The frame of a number that can be completed. -/
theorem Emission.Represents.exists_data (represents : emission.Represents sender)
    {args : Args} {seq : UInt32} (completable : Completable emission args seq) :
    ∃ position data, sender.frames[position]? = some data ∧ seq.toNat = position + 1 ∧
      Deliverable args seq data := by
  rcases completable with ⟨sampled, frame, known, marked⟩
  rcases represents.frames seq frame known with ⟨position, data, found, seqEq, num, _⟩
  refine ⟨position, data, found, seqEq, ?_⟩
  exact (represents.completable_iff found seqEq).mp ⟨sampled, frame, known, marked⟩

/-- The indices of such a frame. -/
theorem Emission.Represents.indices_eq (represents : emission.Represents sender) {args : Args}
    {seq : UInt32} {position : Nat} {data : FrameData}
    (found : sender.frames[position]? = some data) (seqEq : seq.toNat = position + 1)
    (deliverable : Deliverable args seq data) :
    emission.indices seq = Finset.range (frameNum data.size) := by
  rcases (represents.completable_iff found seqEq).mpr deliverable with
    ⟨_, frame, known, marked⟩
  rw [Emission.indices_eq known, SentFrame.length_eq marked,
    (represents.frame_of_number found seqEq known).1]

/-- All packets of such a frame have arrived when all its indices have. -/
theorem Emission.Represents.whole_iff (represents : emission.Represents sender) {args : Args}
    {copies : List (Copy emission)} {seq : UInt32} {position : Nat} {data : FrameData}
    (found : sender.frames[position]? = some data) (seqEq : seq.toNat = position + 1)
    (deliverable : Deliverable args seq data) :
    Whole copies seq ↔ AllArrived (copies.map Copy.packet) seq data := by
  rw [Whole, represents.indices_eq found seqEq deliverable, AllArrived]
  simp only [Finset.subset_iff, Finset.mem_range, List.mem_toFinset, mem_indicesOf]

/-- The bytes of a frame that can be completed. -/
theorem Emission.Represents.content_eq (represents : emission.Represents sender) {args : Args}
    {seq : UInt32} {position : Nat} {data : FrameData} {buffer : List UInt8}
    (found : sender.frames[position]? = some data) (seqEq : seq.toNat = position + 1)
    (deliverable : Deliverable args seq data) (bytes : data.buffer = some buffer) :
    emission.content seq = carriedBytes buffer := by
  rcases (represents.completable_iff found seqEq).mpr deliverable with
    ⟨_, frame, known, marked⟩
  rcases represents.frame_of_number found seqEq known with ⟨num, carried⟩
  rcases deliverable with ⟨_, some, short⟩
  rw [← data.sized buffer bytes] at num some short
  rw [emission.content_eq known]
  refine content_of_carried some short ?_ fun index below => ?_
  · rw [frame.count_eq, num]
  · exact (carried index below).content_eq buffer bytes

end Copies

/-! ## What a session guarantees -/

section Sessions

variable {setup : Setup} {throttle targetRtt : ℚ} {windowSize : Nat} {ctler : TxPartCtler}
  {history : List SessionEvent} {session : Session}

/-- What a number on an acknowledgement stands for. -/
structure Acked (args : Args) (session : Session) (delivered : List PacketStruct)
    (seq : UInt32) (position : Nat) (data : FrameData) : Prop where
  found : session.sender.frames[position]? = some data
  seq_eq : seq.toNat = position + 1
  deliverable : Deliverable args seq data
  arrived : AllArrived delivered seq data

/-- Frames that are completed have arrived, in the turns that returned and in the one that
panicked. -/
theorem acked_of_whole {emission : Emission} (represents : emission.Represents session.sender)
    {args : Args} {copies : List (Copy emission)} {seq : UInt32}
    (completable : Completable emission args seq) (whole : Whole copies seq) :
    ∃ position data, Acked args session (copies.map Copy.packet) seq position data := by
  rcases represents.exists_data completable with ⟨position, data, found, seqEq, deliverable⟩
  exact ⟨position, data, found, seqEq, deliverable,
    (represents.whole_iff found seqEq deliverable).mp whole⟩

theorem AllArrived.mono {fewer more : List PacketStruct} {seq : UInt32} {data : FrameData}
    (all : AllArrived fewer seq data) (subset : fewer ⊆ more) : AllArrived more seq data :=
  fun index below => (all index below).imp fun _ sent => ⟨subset sent.1, sent.2⟩

theorem Acked.mono {args : Args} {fewer more : List PacketStruct} {seq : UInt32}
    {position : Nat} {data : FrameData} (acked : Acked args session fewer seq position data)
    (subset : fewer ⊆ more) : Acked args session more seq position data where
  found := acked.found
  seq_eq := acked.seq_eq
  deliverable := acked.deliverable
  arrived := acked.arrived.mono subset

/-- Copies of a frame that was acknowledged make it whole. -/
theorem whole_of_acknowledged {emission : Emission} {args : Args}
    {heard : List (Event RecvState (Copy emission) (Option Pong))} {state : RecvState}
    (run : Run (recvCopy args) .start heard state) {seq : UInt32}
    (acked : seq ∈ acknowledged heard) :
    Completable emission args seq ∧ Whole (heard.map Event.op) seq := by
  cases calcRtt : args.calcRtt with
  | false =>
      rw [(off_of_run calcRtt run).1] at acked
      exact absurd acked List.not_mem_nil
  | true =>
      have completable := completable_of_acknowledged calcRtt run acked
      refine ⟨completable, ?_⟩
      have once := List.count_pos_iff.mpr acked
      rw [count_acknowledged calcRtt run completable] at once
      exact (Rounds.one_le_rounds_iff completable.nonempty).mp once

/-- On a network that repeats nothing, the running receive loop acknowledges once the frames
of which every packet has arrived. -/
theorem Heard.exact {emission : Emission} (represents : emission.Represents session.sender)
    {args : Args} {delivered : List (PacketStruct × RecvEnv)}
    {heard : List (Event RecvState (Copy emission) (Option Pong))}
    (hears : Heard args session delivered heard none) (calcRtt : args.calcRtt = true)
    (noRepeats : (delivered.map Prod.fst).Nodup) :
    (acknowledged heard).Nodup ∧
      ∀ {seq : UInt32} {position : Nat} {data : FrameData},
        session.sender.frames[position]? = some data → seq.toNat = position + 1 →
        (seq ∈ acknowledged heard ↔
          Deliverable args seq data ∧ AllArrived (delivered.map Prod.fst) seq data) := by
  have packets := hears.packets_eq
  have counted := count_acknowledged_of_noRepeats calcRtt hears.run
    (noRepeats_of_nodup (packets ▸ noRepeats))
  refine ⟨List.nodup_iff_count_le_one.mpr fun seq => (counted seq).1, ?_⟩
  intro seq position data found seqEq
  rw [(counted seq).2, represents.completable_iff found seqEq]
  refine and_congr_right fun deliverable => ?_
  rw [represents.whole_iff found seqEq deliverable, packets]

end Sessions

/-- In every run of a session, an acknowledgement is that of a frame that the source has
taken, that the receiver samples and whose last packet is marked, and every packet of the
frame has arrived. -/
theorem acknowledgements_sound {setup : Setup} {throttle targetRtt : ℚ} {windowSize : Nat}
    {ctler : TxPartCtler} {history : List SessionEvent} {session : Session}
    (run : Run (Session.step setup) (.start setup throttle windowSize ctler targetRtt)
      history session) :
    ∀ pong ∈ session.pongs, ∃ position data,
      Acked setup.args session (arrived history) pong.bytes.seq position data := by
  intro pong member
  rcases (Sender.Produces.of_session run).exists_emission with ⟨emission, represents⟩
  rcases heard_of_run run represents.covers with ⟨heard, last, hears⟩
  rcases hears.pongs_eq with ⟨tail, pongs, ends⟩
  have among := List.mem_map_of_mem (f := fun pong : Pong => pong.bytes.seq) member
  rw [pongs] at among
  rcases List.mem_append.mp among with acked | isLast
  · rcases whole_of_acknowledged hears.run acked with ⟨completable, whole⟩
    rcases acked_of_whole represents completable whole with ⟨position, data, known⟩
    refine ⟨position, data, known.mono (List.Subset.trans ?_ hears.packets_subset)⟩
    rw [List.map_append]
    exact List.subset_append_left _ _
  · rcases ends with rfl | ⟨copy, ack, record, rfl, completes, rfl⟩
    · exact absurd isLast List.not_mem_nil
    · rw [List.mem_singleton.mp isLast]
      rcases completes.whole hears.run with ⟨completable, whole, _⟩
      rcases acked_of_whole represents completable whole with ⟨position, data, known⟩
      exact ⟨position, data, known.mono hears.packets_subset⟩

/-- A session over two links whose receiver acknowledges and forwards every frame. -/
def plainSetup : Setup where
  socketInfos := twoSockets
  args := ⟨5005, true, true, 1⟩
  seconds := fun _ => 0

def plainSession : Session :=
  .start plainSetup 0 4 (.new .hardThreshold unitParameters ⟨false, ⟨0, ∅, ∅⟩⟩) 1

/-- Two frames of three bytes are sent, and their datagrams change places on the way. -/
def swappedDelivery : List SessionOp :=
  twoFrames.map .sender ++ [.deliver 1 .still, .deliver 0 .still]

theorem acknowledgements_sound_two :
    ∃ history session, Run (Session.step plainSetup) plainSession history session ∧
      session.pongs.length = 2 ∧ ∀ pong ∈ session.pongs, ∃ position data,
        Acked plainSetup.args session (arrived history) pong.bytes.seq position data := by
  rcases exists_run_of_any (Session.step plainSetup) plainSession swappedDelivery
    (fun session => session.pongs.length = 2) (by decide +kernel) with
    ⟨history, session, run, _, two⟩
  exact ⟨history, session, run, of_decide_eq_true two, acknowledgements_sound run⟩

/-- What the decoder gets for a number: the bytes of the frame that the source has taken
under it. -/
def Delivers (session : Session) (seq : UInt32) (bytes : List UInt8) : Prop :=
  ∃ position data, session.sender.frames[position]? = some data ∧
    seq.toNat = position + 1 ∧ ∀ buffer, data.buffer = some buffer →
      bytes = carriedBytes buffer ∧ (buffer.length % maxPayloadLen ≠ 0 → bytes = buffer)

/-- In every run of a session, the decoder gets, with `rx_mode` on, the frames that were
acknowledged, in that order and each with the bytes that the source has taken; if the receive
loop panics, the last one acknowledged may be missing. -/
theorem forwards_intact {setup : Setup} {throttle targetRtt : ℚ} {windowSize : Nat}
    {ctler : TxPartCtler} {history : List SessionEvent} {session : Session}
    (run : Run (Session.step setup) (.start setup throttle windowSize ctler targetRtt)
      history session) :
    ∃ seqs frames, session.receiver.value.data.tx = some frames ∧
      (if setup.args.rxMode then List.Forall₂ (Delivers session) seqs frames
        else frames = []) ∧
      seqs <+: session.pongs.map (fun pong => pong.bytes.seq) ∧
      session.pongs.length ≤ seqs.length + 1 ∧
      (session.receiver.poisoned = false →
        seqs = session.pongs.map fun pong => pong.bytes.seq) := by
  rcases (Sender.Produces.of_session run).exists_emission with ⟨emission, represents⟩
  rcases heard_of_run run represents.covers with ⟨heard, last, hears⟩
  rcases hears.pongs_eq with ⟨tail, pongs, ends⟩
  refine ⟨acknowledged heard, _, forwarded_of_run hears.run, ?_, ?_, ?_, ?_⟩
  · cases setup.args.rxMode with
    | false => rfl
    | true =>
        simp only [if_true]
        rw [List.forall₂_map_right_iff, List.forall₂_same]
        intro seq acked
        rcases whole_of_acknowledged hears.run acked with ⟨completable, _⟩
        rcases represents.exists_data completable with
          ⟨position, data, found, seqEq, deliverable⟩
        refine ⟨position, data, found, seqEq, fun buffer bytes => ?_⟩
        have content := represents.content_eq found seqEq deliverable bytes
        exact ⟨content, fun partly => content.trans (carriedBytes_eq_self partly)⟩
  · rw [pongs]
    exact List.prefix_append _ _
  · have total := congrArg List.length pongs
    rw [List.length_map, List.length_append] at total
    have short : tail.length ≤ 1 := by
      rcases ends with rfl | ⟨_, _, _, _, _, rfl⟩
      · exact Nat.zero_le _
      · exact le_refl _
    omega
  · intro alive
    rcases ends with rfl | ⟨_, _, _, some, _⟩
    · rw [pongs, List.append_nil]
    · rw [hears.alive_iff.mp alive] at some
      cases some

theorem forwards_intact_two :
    ∃ history session, Run (Session.step plainSetup) plainSession history session ∧
      session.receiver.value.data.tx = some [[4, 5, 6], [1, 2, 3]] ∧
      ∃ seqs, List.Forall₂ (Delivers session) seqs [[4, 5, 6], [1, 2, 3]] := by
  rcases exists_run_of_any (Session.step plainSetup) plainSession swappedDelivery
    (fun session => session.receiver.value.data.tx = some [[4, 5, 6], [1, 2, 3]])
    (by decide +kernel) with ⟨history, session, run, _, forwarded⟩
  have sent := of_decide_eq_true forwarded
  obtain ⟨seqs, frames, tx, delivers, _⟩ := forwards_intact run
  obtain rfl := Option.some.inj (tx.symm.trans sent)
  exact ⟨history, session, run, sent, seqs, by simpa [plainSetup] using delivers⟩

/-- While the receive loop is running on a network that repeats nothing, no frame is
acknowledged twice, and those acknowledged are, with `calc_rtt` on, the sampled ones with a
marked last packet of which every packet has arrived. -/
theorem delivered_exactly {setup : Setup} {throttle targetRtt : ℚ} {windowSize : Nat}
    {ctler : TxPartCtler} {history : List SessionEvent} {session : Session}
    (run : Run (Session.step setup) (.start setup throttle windowSize ctler targetRtt)
      history session)
    (alive : session.receiver.poisoned = false) (noRepeats : (arrived history).Nodup) :
    (session.pongs.map fun pong => pong.bytes.seq).Nodup ∧
      ∀ (seq : UInt32) position data, session.sender.frames[position]? = some data →
        seq.toNat = position + 1 →
        (seq ∈ session.pongs.map (fun pong => pong.bytes.seq) ↔
          setup.args.calcRtt = true ∧ Deliverable setup.args seq data ∧
            AllArrived (arrived history) seq data) := by
  rcases (Sender.Produces.of_session run).exists_emission with ⟨emission, represents⟩
  rcases heard_of_run run represents.covers with ⟨heard, last, hears⟩
  obtain rfl := hears.alive_iff.mp alive
  rcases hears.pongs_eq with ⟨tail, pongs, rfl | ⟨_, _, _, none, _⟩⟩
  swap
  · cases none
  rw [pongs, List.append_nil]
  cases calcRtt : setup.args.calcRtt with
  | false =>
      rw [(off_of_run calcRtt hears.run).1]
      exact ⟨List.nodup_nil, by simp⟩
  | true =>
      rcases hears.exact represents calcRtt noRepeats with ⟨once, exact⟩
      refine ⟨once, fun seq position data found seqEq => ?_⟩
      rw [exact found seqEq, arrived]
      simp

theorem delivered_exactly_two :
    ∃ history session, Run (Session.step plainSetup) plainSession history session ∧
      session.receiver.poisoned = false ∧ (arrived history).length = 2 ∧
      (session.pongs.map fun pong => pong.bytes.seq).Nodup := by
  rcases exists_run_of_trace (Session.step plainSetup) plainSession swappedDelivery
    (fun history session => session.receiver.poisoned = false ∧
      (arrived history).length = 2 ∧ (arrived history).Nodup) (by decide +kernel) with
    ⟨history, session, run, _, passes⟩
  rcases of_decide_eq_true passes with ⟨alive, two, distinct⟩
  exact ⟨history, session, run, alive, two, (delivered_exactly run alive distinct).1⟩

end StreamReplay
