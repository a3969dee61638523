import StreamReplay.System.Endurance

/-!
# What a session measures

The receiver notes when the two links have delivered their latest packet of a frame, sends
the difference back with the acknowledgement, and the pong thread stores it with the round
trip.  Loss, repetition and reordering do not mix the frames up, nor the rounds in which a
repeated frame arrives.
-/

namespace StreamReplay

open Checked FallibleRun Guarded

/-- The datagrams of a frame in the round under way. -/
def roundUnderWay (count : Nat) (seq : UInt32) (delivered : List (PacketStruct × RecvEnv)) :
    List (PacketStruct × RecvEnv) :=
  Rounds.pending (Finset.range count) (fun arrival => arrival.1.offset.toNat)
    (delivered.filter fun arrival => arrival.1.seq = seq)

/-- The acknowledgement carries the difference between the links for the datagrams of its
frame, from those behind its last completion to the one that completes it now. -/
def Measures (args : Args) (sender : Sender) (delivered : List (PacketStruct × RecvEnv))
    (pong : Pong) : Prop :=
  ∃ earlier sent env later position data,
    delivered = earlier ++ (sent, env) :: later ∧ sent.seq = pong.bytes.seq ∧
    sender.CompletedBy args (earlier.map Prod.fst) sent ∧
    sender.frames[position]? = some data ∧ sent.seq.toNat = position + 1 ∧
    pong.bytes.deltaBytes = (env.deltaBytes (linkDelta
      (roundUnderWay (frameNum data.size) sent.seq earlier ++ [(sent, env)]))).1

section Copies

variable {emission : Emission} {sender : Sender} {args : Args}

/-- The round of a frame, in terms of the datagrams. -/
theorem Emission.Represents.delivery_roundOf (represents : emission.Represents sender)
    {seq : UInt32} {position : Nat} {data : FrameData}
    (found : sender.frames[position]? = some data) (seqEq : seq.toNat = position + 1)
    (deliverable : Deliverable args seq data) (copies : List (Copy emission)) :
    (roundOf copies seq).map Copy.delivery =
      roundUnderWay (frameNum data.size) seq (copies.map Copy.delivery) := by
  have seqs : ((fun arrival : PacketStruct × RecvEnv => decide (arrival.1.seq = seq)) ∘
      Copy.delivery) = fun copy : Copy emission => decide (copy.seq = seq) := by
    funext copy
    exact decide_eq_decide.mpr (by rw [← copy.seq_packet]; rfl)
  have offsets : ((fun arrival : PacketStruct × RecvEnv => arrival.1.offset.toNat) ∘
      Copy.delivery) = (Copy.index : Copy emission → Nat) := by
    funext copy
    exact copy.offset_packet
  rw [roundUnderWay, List.filter_map, seqs, Rounds.pending_map, offsets, roundOf,
    represents.indices_eq found seqEq deliverable]

theorem Measures.append {delivered : List (PacketStruct × RecvEnv)} {pong : Pong}
    (measures : Measures args sender delivered pong) (more : List (PacketStruct × RecvEnv)) :
    Measures args sender (delivered ++ more) pong := by
  rcases measures with ⟨earlier, sent, env, later, position, data, rfl, facts⟩
  exact ⟨earlier, sent, env, later ++ more, position, data, by simp, facts⟩

/-- A turn that acknowledges a frame measures it. -/
theorem Answered.measures (represents : emission.Represents sender)
    {copies : List (Copy emission)} {pong : Pong} (answered : Answered args copies pong) :
    Measures args sender (copies.map Copy.delivery) pong := by
  rcases answered with ⟨past, state, copy, record, later, run, completes, rfl⟩
  rcases completes.deltaBytes_eq run with ⟨finishes, delta⟩
  rcases represents.exists_data finishes.1 with ⟨position, data, found, seqEq, deliverable⟩
  have packets : ((past.map Event.op).map Copy.delivery).map Prod.fst =
      (past.map Event.op).map Copy.packet := List.map_map
  refine ⟨(past.map Event.op).map Copy.delivery, copy.packet, copy.env,
    later.map Copy.delivery, position, data, ?_, ?_, ?_, found, ?_, ?_⟩
  · rw [List.map_append, List.map_cons]
    rfl
  · rw [copy.seq_packet, completes.seq_eq]
  · rw [packets]
    exact (represents.finishes_iff _ copy).mp finishes
  · rw [copy.seq_packet, seqEq]
  · rw [copy.seq_packet, ← represents.delivery_roundOf found seqEq deliverable]
    exact delta

end Copies

/-! ## The pong thread -/

/-- What the pong thread has stored came with an acknowledgement. -/
def Session.Stored (setup : Setup) (session : Session) : Prop :=
  ∀ position entry, session.rtt.value.slot position = some entry →
    entry.pongTime.isSome = true → ∃ pong ∈ session.pongs,
      pong.bytes.seq.toNat = entry.seq ∧ entry.delta = setup.seconds pong.bytes.deltaBytes

namespace Session.Stored

variable {setup : Setup} {session next : Session}

/-- A step after which there are no other measured entries. -/
theorem mono (stored : session.Stored setup) (pongs : session.pongs ⊆ next.pongs)
    (kept : ∀ position entry, next.rtt.value.slot position = some entry →
      entry.pongTime.isSome = true → session.rtt.value.slot position = some entry) :
    next.Stored setup := by
  intro position entry found measured
  rcases stored position entry (kept position entry found measured) measured with
    ⟨pong, member, facts⟩
  exact ⟨pong, pongs member, facts⟩

/-- A report of an arrival leaves no other measured entry in its slot. -/
theorem sender (stored : session.Stored setup) (op : SenderOp) :
    (session.apply setup (.sender op)).Stored setup := by
  refine stored.mono (List.Subset.refl _) fun position entry found measured => ?_
  simp only [Session.apply, Session.reported] at found
  split at found
  next =>
    split at found
    next =>
      unfold Mutex.modify at found
      split at found
      next => exact found
      next =>
        simp only [RttRecords.updateArrival, RttRecords.slot_setSlot] at found
        split at found
        next =>
          cases found
          cases measured
        next => exact found
    next => exact found
  next => exact found

/-- An acknowledgement is stored in the slot of its frame. -/
theorem answer (stored : session.Stored setup) {pong : Pong} (member : pong ∈ session.pongs)
    (time : ℚ) : (session.answer setup pong time).Stored setup := by
  let holds (records : RttRecords rttSlots) : Prop := ∀ position entry,
    records.slot position = some entry → entry.pongTime.isSome = true →
      ∃ pong ∈ session.pongs, pong.bytes.seq.toNat = entry.seq ∧
        entry.delta = setup.seconds pong.bytes.deltaBytes
  refine Mutex.run_keeps holds stored fun records elapsed next kept updated => ?_
  rcases RttRecords.update_eq_ok.mp updated with ⟨old, _, same, _, rfl⟩
  intro position entry found measured
  rw [RttRecords.slot_setSlot] at found
  split at found
  next =>
    cases found
    exact ⟨pong, member, same.symm, rfl⟩
  next => exact kept position entry found measured

/-- Step lemma: a poll empties the slots that are measured. -/
theorem apply (stored : session.Stored setup) (op : SessionOp) :
    (session.apply setup op).Stored setup := by
  cases op with
  | sender op => exact stored.sender op
  | deliver position env =>
      refine stored.mono ?_ fun slot entry found _ => ?_
      · simp only [Session.apply, Session.deliver]
        split
        next => exact List.Subset.refl _
        next =>
          split
          next => exact List.Subset.refl _
          next => exact List.subset_append_left _ _
      · rwa [session.rtt_apply_deliver] at found
  | pong position time =>
      simp only [Session.apply]
      split
      next => exact stored
      next pong found => exact stored.answer (List.mem_of_getElem? found) time
  | poll now =>
      refine stored.mono (List.Subset.refl _) fun position entry found measured => ?_
      simp only [Session.apply, Mutex.modify] at found
      split at found
      next => exact found
      next =>
        rw [RttRecords.slot_statistic] at found
        rw [(RttRecords.pollSlot_eq_some found).1] at measured
        cases measured

theorem of_run {throttle targetRtt : ℚ} {windowSize : Nat} {ctler : TxPartCtler}
    {history : List SessionEvent}
    (run : Run (Session.step setup) (.start setup throttle windowSize ctler targetRtt)
      history session) : session.Stored setup := by
  induction run with
  | nil =>
      intro position entry found
      cases (RttRecords.slot_new targetRtt position).symm.trans found
  | @snoc history state next op out run taken ih =>
      cases taken
      exact ih.apply op

end Session.Stored

/-- In every run of a session, each acknowledgement carries the difference between the last
arrivals of its frame on the two links, in the round that completed the frame, and each
round trip that the pong thread has measured is stored with the difference that came back
for its frame. -/
theorem differences_measured {setup : Setup} {throttle targetRtt : ℚ} {windowSize : Nat}
    {ctler : TxPartCtler} {history : List SessionEvent} {session : Session}
    (run : Run (Session.step setup) (.start setup throttle windowSize ctler targetRtt)
      history session) :
    (∀ pong ∈ session.pongs, Measures setup.args session.sender (arrivals history) pong) ∧
      session.Stored setup := by
  refine ⟨fun pong member => ?_, .of_run run⟩
  rcases (Sender.Produces.of_session run).exists_emission with ⟨emission, represents⟩
  rcases heard_of_run run represents.covers with ⟨heard, last, hears⟩
  obtain ⟨rest, whole⟩ := hears.delivered_prefix
  rw [← whole]
  exact ((hears.answered pong member).measures represents).append rest

/-- The first byte counts the seconds. -/
def splitSetup : Setup where
  socketInfos := twoSockets
  args := ⟨5005, true, true, 1⟩
  seconds := fun bytes => (bytes.headD 0).toNat

/-- Each link carries half of a frame. -/
def splitSession : Session :=
  .start splitSetup 0 4 (.new .hardThreshold
    ⟨.ofRat .binary32 (1 / 2), 0, 0, 0⟩ ⟨false, ⟨0, ∅, ∅⟩⟩) 1

/-- A datagram arrives at this time; a difference is a whole number of seconds. -/
def arrivesAt (rxTime : ℚ) : RecvEnv :=
  ⟨0, rxTime, 0, fun delta => ⟨UInt8.ofNat delta.num.toNat :: List.replicate 7 0, rfl⟩, true⟩

/-- Two frames of two packets: the links of the first are two seconds apart, and those of the
second, which has a datagram repeated, three. -/
def splitDelivery : List SessionOp :=
  [.frame 0 (.dummy 1500) 0, .register 0, .turn (.still 1) .sent, .turn (.still 1) .sent, .leave,
    .frame 1 (.dummy 1500) 2, .register 1, .turn (.still 3) .sent,
    .turn (.still 3) .sent].map .sender ++
  [.deliver 0 (arrivesAt 5), .deliver 3 (arrivesAt 6), .deliver 1 (arrivesAt 7),
    .deliver 3 (arrivesAt 12), .deliver 2 (arrivesAt 9), .pong 1 13, .pong 0 14]

theorem differences_measured_split :
    ∃ history session, Run (Session.step splitSetup) splitSession history session ∧
      session.pongs.map (fun pong => pong.bytes.deltaBytes.head?) = [some 2, some 3] ∧
      (∃ entry, session.rtt.value.slot (RttRecords.index rttSlots 2) = some entry ∧
        entry.pongTime = some 13 ∧ entry.delta = 3) ∧
      (∀ pong ∈ session.pongs,
        Measures splitSetup.args session.sender (arrivals history) pong) ∧
      session.Stored splitSetup := by
  rcases exists_run_of_any (Session.step splitSetup) splitSession splitDelivery (fun session =>
      session.pongs.map (fun pong => pong.bytes.deltaBytes.head?) = [some 2, some 3] ∧
      (session.rtt.value.slot (RttRecords.index rttSlots 2)).map (fun entry =>
        (entry.pongTime, entry.delta)) = some (some 13, 3)) (by decide +kernel) with
    ⟨history, session, run, _, passes⟩
  rcases of_decide_eq_true passes with ⟨deltas, answered⟩
  rcases Option.map_eq_some_iff.mp answered with ⟨entry, found, measured⟩
  exact ⟨history, session, run, deltas, ⟨entry, found, Prod.ext_iff.mp measured⟩,
    differences_measured run⟩

end StreamReplay
