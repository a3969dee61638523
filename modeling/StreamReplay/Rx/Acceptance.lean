import StreamReplay.Rx.Forwarding

/-!
# Turns on what was sent

A packet of a source has a known indicator, its frame is complete only without a gap, and
its length fits the payload array.  A turn of the receive loop on a copy of it can
therefore fail in three ways only: the byte counter has no room, no port is left for the
acknowledgement, or the decoder is gone.
-/

namespace StreamReplay

open Checked FallibleRun

variable {emission : Emission} {args : Args}

/-- The copy brings the last index that is missing of its frame. -/
def Finishes (args : Args) (earlier : List (Copy emission)) (copy : Copy emission) : Prop :=
  Completable emission args copy.seq ∧ emission.indices copy.seq ⊆ insert copy.index
    (Rounds.collect (emission.indices copy.seq) (indicesOf earlier copy.seq)).held

/-- A record becomes complete with the last missing index of a marked frame. -/
theorem Collects.isComplete_iff {seq : UInt32} {frame : SentFrame seq} {indices : List Nat}
    {record updated : RecvRecord} {times : Nat} (collects : Collects frame indices record times)
    {index : Nat} (below : index < frame.packets.length) {rxTime : ℚ} {stale : List UInt8}
    {large : packetSize ≤ (frame.packets[index].datagram ++ stale).length}
    (recorded : record.record rxTime (frame.packets[index].datagram ++ stale) large =
      .ok updated) :
    updated.isComplete = true ↔ frame.Marked ∧ Finset.range frame.packets.length ⊆
      insert index (Rounds.collect (Finset.range frame.packets.length) indices).held := by
  have after := collects.step below recorded
  by_cases marked : frame.Marked
  · have before := (collects.marked marked).2
    have counted := (after.marked marked).2
    rw [Rounds.collect_snoc, Rounds.take] at counted
    simp only [marked, true_and]
    by_cases done : updated.isComplete = true
    · rw [if_pos done] at counted
      refine iff_of_true done ?_
      by_contra short
      rw [if_neg short] at counted
      simp only at counted
      omega
    · rw [if_neg done] at counted
      refine iff_of_false done fun full => ?_
      rw [if_pos full] at counted
      simp only at counted
      omega
  · have before := (collects.unmarked marked).2
    have counted := (after.unmarked marked).2
    refine iff_of_false (fun done => ?_) fun both => marked both.1
    rw [if_pos done, before] at counted
    cases counted

/-- Recording what a source has sent does not panic. -/
theorem Copy.exists_record (copy : Copy emission) (state : RecvState) (entry : RecvRecord) :
    ∃ record, entry.record copy.env.rxTime (copy.buffer state).1 (copy.buffer state).large =
      .ok record := by
  refine (RecvRecord.recordPacket_returns_iff ..).mpr ?_
  obtain ⟨_, _, _, indicators, _⟩ :=
    fromBuffer_datagram copy.length_le (copy.buffer state).large
  rcases copy.frame.indicator_eq copy.index copy.below with ⟨packetType, indicator, _⟩
  have same : copy.packet.indicators = toIndicator packetType := indicator
  rw [same] at indicators
  refine le_of_eq_of_le indicators ?_
  cases packetType <;> decide

variable {history : List (Event RecvState (Copy emission) (Option Pong))}
  {state next : RecvState} {copy : Copy emission} {pong : Option Pong}

theorem recvCopy_dataLen (taken : recvCopy args state copy = .ok (pong, next)) :
    next.data.dataLen.toNat = state.data.dataLen.toNat + copy.packet.datagram.length := by
  rcases bind_eq_ok.mp taken with ⟨dataLen, sum, rest⟩
  have total := toNat_of_add32 sum
  rw [toNat_length] at total
  refine Eq.trans ?_ total
  cases calcRtt : args.calcRtt with
  | true =>
      obtain ⟨_, handled, _⟩ := (recvStep_eq_ok calcRtt).mp taken
      rw [(handleRtt_counters handled).1, (add32_eq_ok.mp sum).2]
      rfl
  | false =>
      rw [calcRtt] at rest
      cases rest
      cases state.started <;> rfl

/-- Run lemma: the byte counter has counted every byte. -/
theorem dataLen_of_run (run : Run (recvCopy args) .start history state) :
    state.data.dataLen.toNat =
      ((history.map Event.op).map fun copy => copy.packet.datagram.length).sum := by
  induction run with
  | nil => rfl
  | snoc run taken ih => simp [recvCopy_dataLen taken, ih]

/-- Every turn counts at least the header of its datagram, so fewer frames are acknowledged
than bytes are counted. -/
theorem acknowledged_le_dataLen (run : Run (recvCopy args) .start history state) :
    (acknowledged history).length ≤ state.data.dataLen.toNat := by
  rw [dataLen_of_run run, acknowledged, List.length_map]
  refine (List.length_filter_le ..).trans ?_
  rw [← List.length_map (f := fun event => event.op.packet.datagram.length), List.map_map]
  refine List.length_le_sum_of_one_le _ fun length member => ?_
  rcases List.mem_map.mp member with ⟨event, _, rfl⟩
  have header := PacketStruct.length_datagram event.op.length_le
  unfold appHeaderLength at header
  change 1 ≤ event.op.packet.datagram.length
  omega

/-- What lets a turn with `calc_rtt` on return. -/
structure Accepts (args : Args) (finishes : Prop) (env : RecvEnv) : Prop where
  rate : args.sampleRate ≠ 0
  finish : finishes → args.port.toNat + pongPortInc < 2 ^ 16 ∧
    (args.rxMode = true → env.receiverAlive = true)

/-- The record of a copy after a run is complete when the copy finishes its frame. -/
theorem finishes_iff_isComplete (calcRtt : args.calcRtt = true)
    (run : Run (recvCopy args) .start history state)
    (sampled : copy.seq % args.sampleRate = 0) {record : RecvRecord}
    (recorded : ((state.data.recvRecords.lookup copy.seq).getD .new).record copy.env.rxTime
      (copy.buffer state).1 (copy.buffer state).large = .ok record) :
    record.isComplete = true ↔ Finishes args (history.map Event.op) copy := by
  rw [(collects_of_run calcRtt run copy.known sampled).isComplete_iff copy.below recorded,
    Finishes, Emission.indices_eq copy.known]
  refine and_congr_left fun _ => ⟨fun marked => ⟨sampled, _, copy.known, marked⟩, ?_⟩
  rintro ⟨_, frame, known, marked⟩
  rw [copy.known] at known
  cases known
  exact marked

/-- A complete record of a copy can be finished when there is a port, and a decoder if the
frame is forwarded. -/
theorem finishFrame_copy_iff (calcRtt : args.calcRtt = true)
    (run : Run (recvCopy args) .start history state)
    (fits : state.data.dataLen.toNat + copy.packet.datagram.length < 2 ^ 32)
    (sampled : copy.seq % args.sampleRate = 0) {record : RecvRecord}
    (recorded : ((state.data.recvRecords.lookup copy.seq).getD .new).record copy.env.rxTime
      (copy.buffer state).1 (copy.buffer state).large = .ok record)
    (complete : record.isComplete = true) :
    (∃ result, finishFrame args copy.env (copy.buffer state) copy.seq record
        (copy.file state record) = .ok result) ↔
      args.port.toNat + pongPortInc < 2 ^ 16 ∧
        (args.rxMode = true → copy.env.receiverAlive = true) := by
  let ack : Pong := ⟨0, (copy.buffer state).setDelta (copy.env.deltaBytes record.delta)⟩
  have completes : Completes args state copy ack record :=
    { calcRtt, sampled, recorded, complete
      seq_eq := (RecvBuffer.seq_setDelta ..).trans (copy.buffer_seq state)
      delta_eq := RecvBuffer.deltaBytes_setDelta .. }
  have gathered := (completes.whole run).2.2
  have installed : (copy.file state record).tx.isSome = true := by
    change state.data.tx.isSome = true
    rw [forwarded_of_run run]
    rfl
  have counted : (copy.file state record).recevied.toNat + 1 < 2 ^ 32 := by
    change state.data.recevied.toNat + 1 < 2 ^ 32
    rw [(tallies_of_run calcRtt run).recevied]
    have fewer := acknowledged_le_dataLen run
    have header := PacketStruct.length_datagram copy.length_le
    unfold appHeaderLength at header
    omega
  rw [finishFrame_returns_iff, forwardFrame_returns_iff]
  simp only [gathered, installed, counted, forall_const, and_true]
  simp

/-- With `calc_rtt` on, a turn returns when the byte counter has room and `handle_rtt`
returns. -/
theorem recvCopy_returns_iff_handleRtt (calcRtt : args.calcRtt = true) (state : RecvState)
    (copy : Copy emission) :
    (∃ taken, recvCopy args state copy = .ok taken) ↔
      state.data.dataLen.toNat + copy.packet.datagram.length < 2 ^ 32 ∧
        ∃ result, handleRtt args copy.env (copy.buffer state)
          (accountBytes state copy.received) = .ok result := by
  constructor
  · rintro ⟨⟨pong, next⟩, taken⟩
    rcases (recvStep_eq_ok calcRtt).mp taken with ⟨fits, handled, _⟩
    exact ⟨fits, _, handled⟩
  · rintro ⟨fits, ⟨⟨pong, left⟩, data⟩, handled⟩
    exact ⟨(pong, ⟨left, data, true⟩), (recvStep_eq_ok calcRtt).mpr ⟨fits, handled, rfl⟩⟩

/-- Step lemma: a turn on a copy returns exactly when the byte counter has room and the
datagram is accepted. -/
theorem recvCopy_returns_iff (run : Run (recvCopy args) .start history state)
    (copy : Copy emission) :
    (∃ taken, recvCopy args state copy = .ok taken) ↔
      state.data.dataLen.toNat + copy.packet.datagram.length < 2 ^ 32 ∧
        (args.calcRtt = true →
          Accepts args (Finishes args (history.map Event.op) copy) copy.env) := by
  have lengthEq : (UInt32.ofNat copy.received.bytes.length).toNat =
      copy.packet.datagram.length := toNat_length copy.received
  cases calcRtt : args.calcRtt with
  | false => simp [recvCopy, recvStep, calcRtt, bind_eq_ok, add32_eq_ok, lengthEq]
  | true =>
      have seqEq := copy.buffer_seq state
      rw [recvCopy_returns_iff_handleRtt calcRtt]
      refine and_congr_right fun fits => ?_
      simp only [forall_const]
      by_cases rate : args.sampleRate = 0
      · refine iff_of_false ?_ fun accepts => accepts.rate rate
        rintro ⟨result, handled⟩
        rw [handleRtt, if_pos rate] at handled
        cases handled
      rw [handleRtt_returns_iff rate, seqEq]
      constructor
      · intro handled
        refine ⟨rate, fun finishes => ?_⟩
        have sampled := finishes.1.1
        rcases handled sampled with ⟨record, recorded, finish⟩
        rw [recordBuffer, seqEq] at recorded
        have complete := (finishes_iff_isComplete calcRtt run sampled recorded).mpr finishes
        exact (finishFrame_copy_iff calcRtt run fits sampled recorded complete).mp
          (finish complete)
      · intro accepts sampled
        rcases copy.exists_record state ((state.data.recvRecords.lookup copy.seq).getD .new)
          with ⟨record, recorded⟩
        refine ⟨record, by rwa [recordBuffer, seqEq], fun complete => ?_⟩
        have finishes := (finishes_iff_isComplete calcRtt run sampled recorded).mp complete
        exact (finishFrame_copy_iff calcRtt run fits sampled recorded complete).mpr
          (accepts.finish finishes)

end StreamReplay
