import StreamReplay.Foundation.Rounds
import StreamReplay.Rx.Sent
import StreamReplay.Rx.Survival

/-!
# Copies of sent packets at the receiver

The network delivers copies of the packets of an emission, in any order, with losses
and repetitions.  The receive loop collects the indices of a frame in rounds: it
forgets a frame when it completes it, so a later copy starts the frame over.  The
frames that are sampled and have a marked last packet are the ones it can complete.
-/

namespace StreamReplay

open Checked FallibleRun

/-- A copy of one packet of a frame that was sent, when it arrives. -/
structure Copy (emission : Emission) where
  seq : UInt32
  frame : SentFrame seq
  known : emission.frames seq = some frame
  index : Nat
  below : index < frame.packets.length
  env : RecvEnv

namespace Copy

variable {emission : Emission}

def packet (copy : Copy emission) : PacketStruct :=
  copy.frame.packets.get ⟨copy.index, copy.below⟩

theorem packet_mem (copy : Copy emission) : copy.packet ∈ copy.frame.packets :=
  List.get_mem ..

theorem length_le (copy : Copy emission) : copy.packet.length.toNat ≤ maxPayloadLen :=
  copy.frame.length_le _ copy.packet_mem

theorem short (copy : Copy emission) : copy.packet.datagram.length ≤ recvBufferSize :=
  PacketStruct.length_datagram_le copy.length_le

/-- The datagram as `recv_from` delivers it. -/
def received (copy : Copy emission) : Received where
  bytes := copy.packet.datagram
  short := copy.short
  env := copy.env

/-- The buffer that holds the copy, in front of what was received before. -/
def buffer (copy : Copy emission) (state : RecvState) : RecvBuffer :=
  state.buffer.receive copy.received.bytes copy.received.short

theorem buffer_seq (copy : Copy emission) (state : RecvState) :
    (copy.buffer state).seq = copy.seq := by
  have decoded := (fromBuffer_datagram copy.length_le (copy.buffer state).large).1
  rw [copy.frame.seq_eq _ copy.packet_mem] at decoded
  exact decoded

/-- The number of a sent frame is between 1 and the number of frames. -/
theorem seq_bounds (copy : Copy emission) :
    1 ≤ copy.seq.toNat ∧ copy.seq.toNat ≤ emission.count :=
  (emission.numbered copy.seq).mp (by rw [copy.known]; rfl)

end Copy

/-- A copy of a packet of a sample stream. -/
def Copy.sample {nums : List UInt16} (seq : UInt32) (index : Nat)
    (sent : 1 ≤ seq.toNat ∧ seq.toNat ≤ nums.length)
    (below : index < nums[seq.toNat - 1]!.toNat) : Copy (.sample nums) where
  seq
  frame := .sample seq nums[seq.toNat - 1]!
  known := if_pos sent
  index
  below := by simpa [SentFrame.sample] using below
  env := .still

/-- Copies of these packets, by the numbers of their frames and their indices. -/
def Copy.samples (nums : List UInt16) (places : List (UInt32 × Nat)) :
    List (Copy (.sample nums)) :=
  places.filterMap fun (seq, index) =>
    if sent : (1 ≤ seq.toNat ∧ seq.toNat ≤ nums.length) ∧ index < nums[seq.toNat - 1]!.toNat then
      some (.sample seq index sent.1 sent.2)
    else none

/-- One turn of the loop in `recv_thread` on a copy. -/
def recvCopy {emission : Emission} (args : Args) :
    Step RecvState (Copy emission) (Option Pong) Panic :=
  fun state copy => recvStep args state copy.received

/-! ## What has arrived -/

section Arrived

variable {emission : Emission}

/-- The indices that have arrived of one frame, in order. -/
def indicesOf (copies : List (Copy emission)) (seq : UInt32) : List Nat :=
  (copies.filter fun copy => copy.seq = seq).map Copy.index

/-- The indices of the packets that were sent of a frame. -/
def Emission.indices (emission : Emission) (seq : UInt32) : Finset Nat :=
  match emission.frames seq with
  | some frame => Finset.range frame.packets.length
  | none => ∅

/-- No packet of the frame is missing. -/
abbrev Whole (copies : List (Copy emission)) (seq : UInt32) : Prop :=
  emission.indices seq ⊆ (indicesOf copies seq).toFinset

/-- The receiver samples the frame, and the sender marked its last packet. -/
def Completable (emission : Emission) (args : Args) (seq : UInt32) : Prop :=
  seq % args.sampleRate = 0 ∧ ∃ frame, emission.frames seq = some frame ∧ frame.Marked

theorem Emission.indices_eq {seq : UInt32} {frame : SentFrame seq}
    (known : emission.frames seq = some frame) :
    emission.indices seq = Finset.range frame.packets.length := by
  simp only [indices, known]

/-- A frame that can be completed has packets. -/
theorem Completable.nonempty {args : Args} {seq : UInt32}
    (completable : Completable emission args seq) : (emission.indices seq).Nonempty := by
  rcases completable with ⟨_, frame, known, marked⟩
  rw [Emission.indices_eq known, SentFrame.length_eq marked, Finset.nonempty_range_iff]
  exact Nat.one_le_iff_ne_zero.mp marked.1

theorem indicesOf_self (copies : List (Copy emission)) (copy : Copy emission) :
    indicesOf (copies ++ [copy]) copy.seq = indicesOf copies copy.seq ++ [copy.index] := by
  simp [indicesOf]

theorem indicesOf_other (copies : List (Copy emission)) (copy : Copy emission)
    {seq : UInt32} (other : copy.seq ≠ seq) :
    indicesOf (copies ++ [copy]) seq = indicesOf copies seq := by
  simp [indicesOf, other]

theorem indicesOf_append (earlier later : List (Copy emission)) (seq : UInt32) :
    indicesOf (earlier ++ later) seq = indicesOf earlier seq ++ indicesOf later seq := by
  simp [indicesOf]

/-- The copies can be cut wherever the indices of one frame can. -/
theorem exists_cut {copies : List (Copy emission)} {seq : UInt32} {front back : List Nat}
    (cut : indicesOf copies seq = front ++ back) :
    ∃ earlier later, copies = earlier ++ later ∧ indicesOf earlier seq = front ∧
      indicesOf later seq = back := by
  rcases List.map_eq_append_iff.mp cut with ⟨frontCopies, backCopies, filtered, rfl, rfl⟩
  rcases List.filter_eq_append_iff.mp filtered with ⟨earlier, later, rfl, rfl, rfl⟩
  exact ⟨earlier, later, rfl, rfl, rfl⟩

end Arrived

/-! ## Collecting one frame -/

/-- The record of a frame and the number of times it was completed, after the indices
that arrived. -/
structure Collects {seq : UInt32} (frame : SentFrame seq) (indices : List Nat)
    (record : RecvRecord) (times : Nat) : Prop where
  marked : ∀ marked : frame.Marked,
    let progress := Rounds.collect (Finset.range frame.packets.length) indices
    (frame.toFrame marked).Holds progress.held record ∧ times = progress.rounds
  unmarked : ¬frame.Marked → record.lastPacketId = none ∧ times = 0

namespace Collects

variable {seq : UInt32} {frame : SentFrame seq}

theorem new : Collects frame [] .new 0 where
  marked _ := ⟨Frame.holds_new, rfl⟩
  unmarked _ := ⟨rfl, rfl⟩

/-- Step lemma: a completed frame is forgotten, so its next copy starts a new round. -/
theorem step {indices : List Nat} {record updated : RecvRecord} {times : Nat}
    (collects : Collects frame indices record times) {index : Nat}
    (below : index < frame.packets.length) {rxTime : ℚ} {stale : List UInt8}
    {large : packetSize ≤ (frame.packets[index].datagram ++ stale).length}
    (recorded : record.record rxTime (frame.packets[index].datagram ++ stale) large =
      .ok updated) :
    Collects frame (indices ++ [index]) (if updated.isComplete then .new else updated)
      (if updated.isComplete then times + 1 else times) := by
  constructor
  · intro marked progress
    rcases collects.marked marked with ⟨holds, timesEq⟩
    obtain ⟨other, otherRecorded, after, complete⟩ := holds.record below rxTime stale large
    obtain rfl : updated = other := Except.ok.inj (recorded.symm.trans otherRecorded)
    have full : updated.isComplete = true ↔ Finset.range frame.packets.length ⊆ insert index
        (Rounds.collect (Finset.range frame.packets.length) indices).held := by
      rw [complete]
      simp only [Frame.Covered, Finset.subset_iff, Finset.mem_range]
      rfl
    simp only [progress, Rounds.collect_snoc, Rounds.take]
    by_cases done : updated.isComplete = true
    · rw [if_pos (full.mp done), if_pos done, if_pos done, timesEq]
      exact ⟨Frame.holds_new, rfl⟩
    · rw [if_neg (mt full.mpr done), if_neg done, if_neg done]
      exact ⟨after, timesEq⟩
  · intro unmarked
    rcases collects.unmarked unmarked with ⟨noLast, timesEq⟩
    rcases SentFrame.isLast_eq_false unmarked below with ⟨packetType, indicator, notLast⟩
    have indicators := (fromBuffer_datagram
      (frame.length_le _ (List.getElem_mem below)) large).2.2.2.1
    rw [indicator] at indicators
    rcases RecvRecord.recordPacket_fields indicators recorded with ⟨_, lastId, complete⟩
    rw [RecvRecord.lastIdWith, notLast, if_neg Bool.false_ne_true, noLast] at lastId
    have incomplete : updated.isComplete = false := by
      rw [complete, RecvRecord.determineComplete, lastId]
    rw [incomplete, if_neg Bool.false_ne_true, if_neg Bool.false_ne_true]
    exact ⟨lastId, timesEq⟩

end Collects

/-! ## One turn of the loop -/

section Steps

variable {emission : Emission} {args : Args}

/-- What one turn of the loop does with `calc_rtt` on, in terms of the record that it
computes for a sampled frame. -/
structure Handles (args : Args) (state : RecvState) (copy : Copy emission)
    (pong : Option Pong) (next : RecvState) : Prop where
  lastSeq : next.data.lastSeq.toNat = max state.data.lastSeq.toNat copy.seq.toNat
  recevied : next.data.recevied.toNat = state.data.recevied.toNat + pong.toList.length
  tx : pong = none → next.data.tx = state.data.tx
  others : ∀ seq, seq ≠ copy.seq →
    next.data.recvRecords.lookup seq = state.data.recvRecords.lookup seq
  skipped : copy.seq % args.sampleRate ≠ 0 → pong = none
  sampled : copy.seq % args.sampleRate = 0 → ∃ record,
    ((state.data.recvRecords.lookup copy.seq).getD .new).record copy.env.rxTime
      (copy.buffer state).1 (copy.buffer state).large = .ok record ∧
    pong.isSome = record.isComplete ∧
    next.data.recvRecords.lookup copy.seq = if record.isComplete then none else some record

theorem toNat_lastSeq (last seq : UInt32) :
    (if seq > last then seq else last).toNat = max last.toNat seq.toNat := by
  simp only [gt_iff_lt, UInt32.lt_iff_toNat_lt]
  split
  next => omega
  next => omega

/-- The receiver state with the record of a copy filed. -/
def Copy.file (copy : Copy emission) (state : RecvState) (record : RecvRecord) : RecvData :=
  fileRecord (copy.buffer state) record (accountBytes state copy.received)

theorem Copy.lastSeq_file (copy : Copy emission) (state : RecvState) (record : RecvRecord) :
    (copy.file state record).lastSeq.toNat =
      max state.data.lastSeq.toNat copy.seq.toNat := by
  rw [← copy.buffer_seq state]
  exact toNat_lastSeq _ _

theorem Copy.lookup_file (copy : Copy emission) (state : RecvState) (record : RecvRecord)
    (seq : UInt32) :
    (copy.file state record).recvRecords.lookup seq =
      if seq = copy.seq then some record else state.data.recvRecords.lookup seq := by
  change (state.data.recvRecords.insert (copy.buffer state).seq record).lookup seq = _
  rw [copy.buffer_seq]
  split
  next same => rw [same, Finmap.lookup_insert]
  next other => exact Finmap.lookup_insert_of_ne _ other

section Cases

variable {state next : RecvState} {copy : Copy emission} {pong : Option Pong}

/-- A copy that is not sampled is only noted. -/
theorem handles_of_skipped (skipped : copy.seq % args.sampleRate ≠ 0)
    (noted : next.data = { accountBytes state copy.received with
      lastSeq := if copy.seq > state.data.lastSeq then copy.seq else state.data.lastSeq }) :
    Handles args state copy none next := by
  constructor
  · rw [noted]
    exact toNat_lastSeq _ _
  · rw [noted]
    rfl
  · intro _
    rw [noted]
    rfl
  · intro seq _
    rw [noted]
    rfl
  · intro _
    rfl
  · exact fun zero => absurd zero skipped

/-- A sampled copy that does not complete its frame is filed. -/
theorem handles_of_filed {record : RecvRecord} (sampled : copy.seq % args.sampleRate = 0)
    (recorded : ((state.data.recvRecords.lookup copy.seq).getD .new).record copy.env.rxTime
      (copy.buffer state).1 (copy.buffer state).large = .ok record)
    (incomplete : record.isComplete = false)
    (filed : next.data = copy.file state record) : Handles args state copy none next := by
  have lookup := copy.lookup_file state record
  constructor
  · rw [filed]
    exact copy.lastSeq_file state record
  · rw [filed]
    rfl
  · intro _
    rw [filed]
    rfl
  · intro seq other
    rw [filed]
    exact (lookup seq).trans (if_neg other)
  · exact absurd sampled
  · intro _
    refine ⟨record, recorded, by rw [incomplete]; rfl, ?_⟩
    rw [filed, incomplete, if_neg Bool.false_ne_true]
    exact (lookup copy.seq).trans (if_pos rfl)

/-- A sampled copy that completes its frame finishes it. -/
theorem handles_of_finished {record : RecvRecord}
    (sampled : copy.seq % args.sampleRate = 0)
    (recorded : ((state.data.recvRecords.lookup copy.seq).getD .new).record copy.env.rxTime
      (copy.buffer state).1 (copy.buffer state).large = .ok record)
    (complete : record.isComplete = true)
    (recevied : next.data.recevied.toNat = state.data.recevied.toNat + pong.toList.length)
    (finished : finishFrame args copy.env (copy.buffer state) copy.seq record
      (copy.file state record) = .ok ((pong, next.buffer), next.data)) :
    Handles args state copy pong next := by
  have lookup := copy.lookup_file state record
  rcases finishFrame_fields finished with ⟨acked, erased, _, lastSeq, _, _⟩
  constructor
  · rw [lastSeq]
    exact copy.lastSeq_file state record
  · exact recevied
  · intro noPong
    rw [noPong] at acked
    cases acked
  · intro seq other
    rw [erased, Finmap.lookup_erase_ne other]
    exact (lookup seq).trans (if_neg other)
  · exact absurd sampled
  · intro _
    refine ⟨record, recorded, by rw [acked, complete], ?_⟩
    rw [erased, complete, Finmap.lookup_erase, if_pos rfl]

theorem handles_of_taken (calcRtt : args.calcRtt = true)
    (taken : recvCopy args state copy = .ok (pong, next)) :
    Handles args state copy pong next := by
  obtain ⟨_, handled, _⟩ := (recvStep_eq_ok calcRtt).mp taken
  change handleRtt args copy.env (copy.buffer state) (accountBytes state copy.received) =
    .ok ((pong, next.buffer), next.data) at handled
  have recevied := (handleRtt_counters handled).2.1
  have seqEq := copy.buffer_seq state
  rcases handleRtt_cases handled with ⟨skipped, rfl, noted⟩ |
    ⟨sampled, record, recorded, incomplete, rfl, filed⟩ |
    ⟨sampled, record, recorded, complete, finished⟩
  · rw [seqEq] at skipped noted
    exact handles_of_skipped skipped noted
  · rw [seqEq] at sampled
    rw [recordBuffer, seqEq] at recorded
    exact handles_of_filed sampled recorded incomplete filed
  · rw [seqEq] at sampled finished
    rw [recordBuffer, seqEq] at recorded
    exact handles_of_finished sampled recorded complete recevied finished

end Cases

/-- Without `calc_rtt` a turn of the loop only counts bytes. -/
theorem recvStep_off (calcRtt : args.calcRtt = false) {state next : RecvState}
    {received : Received} {pong : Option Pong}
    (taken : recvStep args state received = .ok (pong, next)) :
    pong = none ∧ next.data.lastSeq = state.data.lastSeq ∧
      next.data.recevied = state.data.recevied ∧ next.data.tx = state.data.tx := by
  simp only [recvStep, calcRtt] at taken
  rcases bind_eq_ok.mp taken with ⟨dataLen, _, rest⟩
  cases rest
  cases state.started with
  | true => exact ⟨rfl, rfl, rfl, rfl⟩
  | false => exact ⟨rfl, rfl, rfl, rfl⟩

end Steps

/-! ## Runs -/

section Runs

variable {emission : Emission} {args : Args}

/-- The frames that were acknowledged, in order. -/
def acknowledged (history : List (Event RecvState (Copy emission) (Option Pong))) :
    List UInt32 :=
  (history.filter fun event => event.out.isSome).map fun event => event.op.seq

theorem acknowledged_snoc (history : List (Event RecvState (Copy emission) (Option Pong)))
    (before after : RecvState) (copy : Copy emission) (pong : Option Pong) :
    acknowledged (history ++ [⟨before, copy, pong, after⟩]) =
      acknowledged history ++ if pong.isSome then [copy.seq] else [] := by
  cases pong with
  | none => simp [acknowledged]
  | some _ => simp [acknowledged]

theorem count_acknowledged_self
    (history : List (Event RecvState (Copy emission) (Option Pong)))
    (before after : RecvState) (copy : Copy emission) (pong : Option Pong) :
    (acknowledged (history ++ [⟨before, copy, pong, after⟩])).count copy.seq =
      if pong.isSome then (acknowledged history).count copy.seq + 1
      else (acknowledged history).count copy.seq := by
  rw [acknowledged_snoc, List.count_append]
  split
  next => rw [List.count_singleton_self]
  next => rfl

theorem count_acknowledged_other
    (history : List (Event RecvState (Copy emission) (Option Pong)))
    (before after : RecvState) (copy : Copy emission) (pong : Option Pong) {seq : UInt32}
    (other : copy.seq ≠ seq) :
    (acknowledged (history ++ [⟨before, copy, pong, after⟩])).count seq =
      (acknowledged history).count seq := by
  rw [acknowledged_snoc, List.count_append]
  split
  next => rw [List.count_singleton, if_neg (by simpa using other), Nat.add_zero]
  next => rfl

variable {history : List (Event RecvState (Copy emission) (Option Pong))} {state : RecvState}

/-- Run lemma: the record of every sampled frame collects in rounds. -/
theorem collects_of_run (calcRtt : args.calcRtt = true)
    (run : Run (recvCopy args) .start history state) {seq : UInt32} {frame : SentFrame seq}
    (known : emission.frames seq = some frame) (sampled : seq % args.sampleRate = 0) :
    Collects frame (indicesOf (history.map Event.op) seq)
      ((state.data.recvRecords.lookup seq).getD .new) ((acknowledged history).count seq) := by
  induction run with
  | nil =>
      have none : RecvState.start.data.recvRecords.lookup seq = none := Finmap.lookup_empty seq
      rw [none]
      exact .new
  | @snoc history state next copy pong run taken ih =>
      have handles := handles_of_taken calcRtt taken
      simp only [List.map_append, List.map_cons, List.map_nil]
      by_cases same : copy.seq = seq
      · subst same
        obtain rfl : copy.frame = frame := by
          rw [copy.known] at known
          exact Option.some.inj known
        rcases handles.sampled sampled with ⟨record, recorded, pongEq, lookup⟩
        have collects := ih.step copy.below recorded
        rw [indicesOf_self, count_acknowledged_self, pongEq, lookup]
        cases done : record.isComplete with
        | true => simpa [done] using collects
        | false => simpa [done] using collects
      · rw [indicesOf_other _ _ same, count_acknowledged_other _ _ _ _ _ same,
          handles.others seq (Ne.symm same)]
        exact ih

/-- The frames that were acknowledged have arrived. -/
theorem exists_of_acknowledged {seq : UInt32} (acked : seq ∈ acknowledged history) :
    ∃ event ∈ history, event.op.seq = seq ∧ event.out.isSome = true := by
  rcases List.mem_map.mp acked with ⟨event, member, seqEq⟩
  rcases List.mem_filter.mp member with ⟨inHistory, some⟩
  exact ⟨event, inHistory, seqEq, some⟩

/-- A frame is acknowledged once for each round in which its packets arrive. -/
theorem count_acknowledged (calcRtt : args.calcRtt = true)
    (run : Run (recvCopy args) .start history state) {seq : UInt32}
    (completable : Completable emission args seq) :
    (acknowledged history).count seq = (Rounds.collect (emission.indices seq)
      (indicesOf (history.map Event.op) seq)).rounds := by
  rcases completable with ⟨sampled, frame, known, marked⟩
  rw [Emission.indices_eq known]
  exact ((collects_of_run calcRtt run known sampled).marked marked).2

/-- The other frames are never acknowledged. -/
theorem completable_of_acknowledged (calcRtt : args.calcRtt = true)
    (run : Run (recvCopy args) .start history state) {seq : UInt32}
    (acked : seq ∈ acknowledged history) : Completable emission args seq := by
  obtain ⟨⟨before, copy, pong, after⟩, member, rfl, some⟩ := exists_of_acknowledged acked
  have handles := handles_of_taken calcRtt (run.event_step member)
  have sampled : copy.seq % args.sampleRate = 0 := by
    by_contra skipped
    obtain rfl : pong = none := handles.skipped skipped
    cases some
  refine ⟨sampled, copy.frame, copy.known, ?_⟩
  by_contra unmarked
  have never := ((collects_of_run calcRtt run copy.known sampled).unmarked unmarked).2
  exact List.count_eq_zero.mp never acked

/-- What the counters of the receiver say about a run with `calc_rtt` on. -/
structure Tallies (history : List (Event RecvState (Copy emission) (Option Pong)))
    (data : RecvData) : Prop where
  recevied : data.recevied.toNat = (acknowledged history).length
  bounded : ∀ copy ∈ history.map Event.op, copy.seq.toNat ≤ data.lastSeq.toNat
  reached : data.lastSeq.toNat = 0 ∨
    ∃ copy ∈ history.map Event.op, copy.seq.toNat = data.lastSeq.toNat

theorem tallies_of_run (calcRtt : args.calcRtt = true)
    (run : Run (recvCopy args) .start history state) : Tallies history state.data := by
  induction run with
  | nil => exact ⟨rfl, by simp, Or.inl rfl⟩
  | @snoc history state next copy pong run taken ih =>
      have handles := handles_of_taken calcRtt taken
      constructor
      · rw [handles.recevied, ih.recevied, acknowledged_snoc, List.length_append]
        cases pong with
        | none => rfl
        | some _ => rfl
      · intro other member
        rw [List.map_append] at member
        rw [handles.lastSeq]
        rcases List.mem_append.mp member with earlier | last
        · exact (ih.bounded other earlier).trans (le_max_left _ _)
        · obtain rfl : other = copy := by simpa using last
          exact le_max_right _ _
      · rw [handles.lastSeq]
        rcases le_total copy.seq.toNat state.data.lastSeq.toNat with old | new
        · rw [max_eq_left old]
          refine ih.reached.imp_right ?_
          rintro ⟨other, member, seqEq⟩
          exact ⟨other, by simp_all, seqEq⟩
        · rw [max_eq_right new]
          exact Or.inr ⟨copy, by simp, rfl⟩

/-- Run lemma: without `calc_rtt` no counter but that of the bytes moves. -/
theorem off_of_run (calcRtt : args.calcRtt = false)
    (run : Run (recvCopy args) .start history state) :
    acknowledged history = [] ∧ state.data.lastSeq = 0 ∧ state.data.recevied = 0 := by
  induction run with
  | nil => exact ⟨rfl, rfl, rfl⟩
  | @snoc history state next copy pong run taken ih =>
      rcases recvStep_off calcRtt taken with ⟨rfl, lastSeq, recevied, _⟩
      rcases ih with ⟨none, zero, nothing⟩
      exact ⟨by simp [acknowledged_snoc, none], by rw [lastSeq, zero],
        by rw [recevied, nothing]⟩

end Runs

end StreamReplay
