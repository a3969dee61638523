import StreamReplay.Rx.Acceptance

/-!
# The link time difference

A record keeps the arrival time of the latest packet on each link, and an acknowledgement
carries their difference.  A completed frame is forgotten, so the times are those of the
round under way.
-/

namespace StreamReplay

open Checked FallibleRun

/-- When the latest datagram of a link has arrived. -/
def rxTimeOn (link : UInt8) (round : List (PacketStruct × RecvEnv)) : Option ℚ :=
  (round.filter fun arrival => channelInfo arrival.1.indicators = link).getLast?.map
    fun arrival => arrival.2.rxTime

/-- The times that a record of these datagrams keeps. -/
def RecvOffsets.of (round : List (PacketStruct × RecvEnv)) : RecvOffsets :=
  ⟨rxTimeOn 0 round, rxTimeOn 1 round⟩

/-- How much later the second link was; one without a datagram counts as zero. -/
def linkDelta (round : List (PacketStruct × RecvEnv)) : ℚ :=
  (rxTimeOn 1 round).getD 0 - (rxTimeOn 0 round).getD 0

theorem rxTimeOn_snoc (link : UInt8) (round : List (PacketStruct × RecvEnv))
    (arrival : PacketStruct × RecvEnv) :
    rxTimeOn link (round ++ [arrival]) =
      if channelInfo arrival.1.indicators = link then some arrival.2.rxTime
      else rxTimeOn link round := by
  by_cases here : channelInfo arrival.1.indicators = link
  · simp [rxTimeOn, here]
  · simp [rxTimeOn, here]

/-- Recording a packet notes its arrival on its link. -/
theorem recordPacket_offsets {record updated : RecvRecord} {packet sent : PacketStruct}
    {env : RecvEnv} {round : List (PacketStruct × RecvEnv)}
    (recorded : record.recordPacket env.rxTime packet = .ok updated)
    (same : packet.indicators = sent.indicators) (offsets : record.offsets = .of round) :
    updated.offsets = .of (round ++ [(sent, env)]) := by
  rcases bind_eq_ok.mp recorded with ⟨packetType, known, equal⟩
  have indicator := getPacketType_eq_ok.mp known
  rw [same] at indicator
  cases equal
  rw [RecvOffsets.of, rxTimeOn_snoc, rxTimeOn_snoc, indicator]
  change (record.noteIndicator env.rxTime packet.offset packetType).offsets = _
  cases packetType with
  | firstLink | lastPacketInFirstLink =>
      rw [if_pos (by decide), if_neg (by decide)]
      simp [RecvRecord.noteIndicator, offsets, RecvOffsets.of]
  | secondLink | lastPacketInSecondLink =>
      rw [if_neg (by decide), if_pos (by decide)]
      simp [RecvRecord.noteIndicator, offsets, RecvOffsets.of]

section Runs

variable {emission : Emission} {args : Args}
  {history : List (Event RecvState (Copy emission) (Option Pong))} {state : RecvState}

/-- What is delivered with a copy. -/
def Copy.delivery (copy : Copy emission) : PacketStruct × RecvEnv := (copy.packet, copy.env)

/-- The copies of a frame in the round under way. -/
def roundOf (copies : List (Copy emission)) (seq : UInt32) : List (Copy emission) :=
  Rounds.pending (emission.indices seq) Copy.index (copies.filter fun copy => copy.seq = seq)

theorem roundOf_other (copies : List (Copy emission)) (copy : Copy emission) {seq : UInt32}
    (other : copy.seq ≠ seq) : roundOf (copies ++ [copy]) seq = roundOf copies seq := by
  simp [roundOf, other]

/-- A copy ends the round of its frame when it finishes the frame. -/
theorem roundOf_self {copies : List (Copy emission)} {copy : Copy emission}
    (completable : Completable emission args copy.seq) [Decidable (Finishes args copies copy)] :
    roundOf (copies ++ [copy]) copy.seq =
      if Finishes args copies copy then [] else roundOf copies copy.seq ++ [copy] := by
  have finishes : Finishes args copies copy ↔ emission.indices copy.seq ⊆
      insert copy.index ((roundOf copies copy.seq).map Copy.index).toFinset := by
    rw [Finishes, indicesOf, Rounds.held_collect_map]
    exact and_iff_right completable
  have filtered : (copies ++ [copy]).filter (fun other => other.seq = copy.seq) =
      copies.filter (fun other => other.seq = copy.seq) ++ [copy] := by simp
  rw [roundOf, filtered, Rounds.pending_snoc]
  exact if_congr finishes.symm rfl rfl

/-- The record of a copy after a run has the times of its round. -/
theorem record_offsets {copy : Copy emission} {entry record : RecvRecord}
    (recorded : entry.record copy.env.rxTime (copy.buffer state).1 (copy.buffer state).large =
      .ok record)
    {round : List (PacketStruct × RecvEnv)} (offsets : entry.offsets = .of round) :
    record.offsets = .of (round ++ [copy.delivery]) := by
  obtain ⟨_, _, _, indicators, _⟩ :=
    fromBuffer_datagram copy.length_le (copy.buffer state).large
  exact recordPacket_offsets recorded indicators offsets

/-- Run lemma: the record of a frame has the times of the round under way. -/
theorem offsets_of_run (calcRtt : args.calcRtt = true)
    (run : Run (recvCopy args) .start history state) {seq : UInt32}
    (completable : Completable emission args seq) :
    ((state.data.recvRecords.lookup seq).getD .new).offsets =
      .of ((roundOf (history.map Event.op) seq).map Copy.delivery) := by
  induction run with
  | nil =>
      have none : RecvState.start.data.recvRecords.lookup seq = none := Finmap.lookup_empty seq
      rw [none]
      rfl
  | @snoc history state next copy pong run taken ih =>
      have handles := handles_of_taken calcRtt taken
      rw [List.map_append, List.map_singleton]
      by_cases same : copy.seq = seq
      · subst same
        classical
        rcases handles.sampled completable.1 with ⟨record, recorded, _, lookup⟩
        have finishes := finishes_iff_isComplete calcRtt run completable.1 recorded
        rw [lookup, roundOf_self completable, ← finishes]
        split
        next => rfl
        next =>
          rw [List.map_append]
          exact record_offsets recorded ih
      · rw [roundOf_other _ _ same, handles.others seq (Ne.symm same)]
        exact ih

/-- The acknowledgement of a frame carries the difference in the round that completes it. -/
theorem Completes.deltaBytes_eq (run : Run (recvCopy args) .start history state)
    {copy : Copy emission} {ack : Pong} {record : RecvRecord}
    (completes : Completes args state copy ack record) :
    Finishes args (history.map Event.op) copy ∧
      ack.bytes.deltaBytes = (copy.env.deltaBytes (linkDelta ((roundOf
        (history.map Event.op) copy.seq).map Copy.delivery ++ [copy.delivery]))).1 := by
  have completable := (completes.whole run).1
  refine ⟨(finishes_iff_isComplete completes.calcRtt run completes.sampled
    completes.recorded).mp completes.complete, ?_⟩
  have offsets := record_offsets completes.recorded
    (offsets_of_run completes.calcRtt run completable)
  rw [completes.delta_eq, RecvRecord.delta, offsets]
  rfl

end Runs

end StreamReplay
