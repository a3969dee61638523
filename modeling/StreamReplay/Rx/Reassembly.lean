import StreamReplay.Rx.Frame
import StreamReplay.Rx.Receiver

/-!
# Reassembly in any order

The datagrams of many frames arrive interleaved, reordered, with losses, and
duplicated as long as their frame is not complete.  The receiver state is related
to the set of indices that have arrived of each frame, so the order plays no role.
-/

namespace StreamReplay

open Checked FallibleRun

/-- A set of frames with distinct sequence numbers. -/
abbrev Frames := (seq : UInt32) → Option (Frame seq)

/-- The arrival of one datagram of a frame in the reused buffer. -/
structure Arrival (frames : Frames) where
  seq : UInt32
  frame : Frame seq
  known : frames seq = some frame
  index : Nat
  below : index < frame.packets.length
  stale : List UInt8
  fills : (frame.packets[index].datagram ++ stale).length = recvBufferSize
  env : RecvEnv

namespace Arrival

variable {frames : Frames}

/-- The packet whose datagram arrives. -/
def packet (arrival : Arrival frames) : PacketStruct :=
  arrival.frame.packets.get ⟨arrival.index, arrival.below⟩

/-- The buffer in which `handle_rtt` finds the datagram. -/
def buffer (arrival : Arrival frames) : RecvBuffer :=
  ⟨arrival.packet.datagram ++ arrival.stale, arrival.fills⟩

theorem buffer_seq (arrival : Arrival frames) : arrival.buffer.seq = arrival.seq := by
  have member : arrival.packet ∈ arrival.frame.packets := List.get_mem ..
  have large : packetSize ≤ (arrival.packet.datagram ++ arrival.stale).length :=
    arrival.buffer.large
  have decoded := (fromBuffer_datagram (arrival.frame.length_le _ member) large).1
  rw [arrival.frame.seq_eq _ member] at decoded
  exact decoded

end Arrival

/-- `handle_rtt` on an arrival; the buffer it leaves becomes stale data. -/
def deliver {frames : Frames} (args : Args) :
    Step RecvData (Arrival frames) (Option Pong) Panic :=
  fun data arrival => do
    let ((pong, _), next) ← handleRtt args arrival.env arrival.buffer data
    return (pong, next)

/-- The receiver before the first arrival. -/
def RecvData.start (tx : Option (List (List UInt8))) : RecvData :=
  { RecvData.new with tx }

/-! ## What has arrived -/

section Arrived

variable {frames : Frames}

/-- The indices that have arrived under a sequence number. -/
def arrivedAt (arrivals : List (Arrival frames)) (seq : UInt32) : Finset Nat :=
  ((arrivals.filter fun arrival => arrival.seq = seq).map Arrival.index).toFinset

/-- No datagram arrives for a frame that is already complete. -/
def NoLateDuplicate (arrivals : List (Arrival frames)) : Prop :=
  ∀ earlier arrival later, arrivals = earlier ++ arrival :: later →
    ¬arrival.frame.Covered (arrivedAt earlier arrival.seq)

open Classical in
/-- The sequence numbers of the frames that have arrived completely. -/
noncomputable def completed (arrivals : List (Arrival frames)) : Finset UInt32 :=
  (arrivals.map Arrival.seq).toFinset.filter fun seq =>
    ∃ frame, frames seq = some frame ∧ frame.Covered (arrivedAt arrivals seq)

@[simp] theorem completed_nil : completed ([] : List (Arrival frames)) = ∅ := by
  classical
  exact Finset.filter_empty _

@[simp] theorem arrivedAt_nil (seq : UInt32) :
    arrivedAt ([] : List (Arrival frames)) seq = ∅ := rfl

theorem arrivedAt_self (arrivals : List (Arrival frames)) (arrival : Arrival frames) :
    arrivedAt (arrivals ++ [arrival]) arrival.seq =
      insert arrival.index (arrivedAt arrivals arrival.seq) := by
  ext index
  simp [arrivedAt, List.filter_append]

theorem arrivedAt_other (arrivals : List (Arrival frames)) (arrival : Arrival frames)
    {seq : UInt32} (other : arrival.seq ≠ seq) :
    arrivedAt (arrivals ++ [arrival]) seq = arrivedAt arrivals seq := by
  simp [arrivedAt, List.filter_append, other]

theorem NoLateDuplicate.of_append {arrivals : List (Arrival frames)}
    {arrival : Arrival frames} (fresh : NoLateDuplicate (arrivals ++ [arrival])) :
    NoLateDuplicate arrivals ∧ ¬arrival.frame.Covered (arrivedAt arrivals arrival.seq) := by
  refine ⟨?_, fresh arrivals arrival [] rfl⟩
  intro earlier other later split
  exact fresh earlier other (later ++ [arrival]) (by simp [split])

/-- A frame that is covered has been seen. -/
theorem mem_completed {arrivals : List (Arrival frames)} {seq : UInt32} :
    seq ∈ completed arrivals ↔
      ∃ frame, frames seq = some frame ∧ frame.Covered (arrivedAt arrivals seq) := by
  classical
  simp only [completed, Finset.mem_filter, List.mem_toFinset, List.mem_map]
  constructor
  · rintro ⟨_, covered⟩
    exact covered
  · rintro ⟨frame, known, covered⟩
    have first := covered 0 frame.count_pos
    simp only [arrivedAt, List.mem_toFinset, List.mem_map, List.mem_filter,
      decide_eq_true_eq] at first
    rcases first with ⟨arrival, ⟨member, seqEq⟩, _⟩
    exact ⟨⟨arrival, member, seqEq⟩, frame, known, covered⟩

/-- An arrival completes its own frame or none. -/
theorem completed_append {arrivals : List (Arrival frames)} {arrival : Arrival frames}
    (open_ : ¬arrival.frame.Covered (arrivedAt arrivals arrival.seq)) :
    arrival.seq ∉ completed arrivals ∧
      (arrival.frame.Covered (arrivedAt (arrivals ++ [arrival]) arrival.seq) →
        completed (arrivals ++ [arrival]) = insert arrival.seq (completed arrivals)) ∧
      (¬arrival.frame.Covered (arrivedAt (arrivals ++ [arrival]) arrival.seq) →
        completed (arrivals ++ [arrival]) = completed arrivals) := by
  have self : ∀ sofar : List (Arrival frames), arrival.seq ∈ completed sofar ↔
      arrival.frame.Covered (arrivedAt sofar arrival.seq) := by
    intro sofar
    rw [mem_completed, arrival.known]
    simp
  have others : ∀ seq, arrival.seq ≠ seq →
      (seq ∈ completed (arrivals ++ [arrival]) ↔ seq ∈ completed arrivals) := by
    intro seq other
    rw [mem_completed, mem_completed, arrivedAt_other _ _ other]
  refine ⟨fun member => open_ ((self _).mp member), ?_, ?_⟩
  · intro covered
    ext seq
    by_cases same : arrival.seq = seq
    · subst same
      simp [self, covered]
    · rw [others seq same, Finset.mem_insert]
      simp [Ne.symm same]
  · intro still
    ext seq
    by_cases same : arrival.seq = seq
    · subst same
      simp [self, still, open_]
    · rw [others seq same]

/-- Some sequence number missing from a set of them keeps its size below `2^32`. -/
theorem card_lt_of_notMem {seqs : Finset UInt32} {seq : UInt32} (missing : seq ∉ seqs) :
    seqs.card < 2 ^ 32 := by
  have image : (insert seq seqs).image UInt32.toNat ⊆ Finset.range (2 ^ 32) := by
    intro value member
    rcases Finset.mem_image.mp member with ⟨other, _, rfl⟩
    exact Finset.mem_range.mpr other.toNat_lt
  have injective : Function.Injective UInt32.toNat := fun _ _ equal =>
    UInt32.toNat_inj.mp equal
  have card := Finset.card_le_card image
  rw [Finset.card_image_of_injective _ injective, Finset.card_insert_of_notMem missing,
    Finset.card_range] at card
  exact card

end Arrived

/-! ## The receiver knows what has arrived -/

section Invariant

variable {frames : Frames} {args : Args}

/-- Every incomplete frame's record holds what has arrived of it, and the counter
counts the complete frames. -/
structure Knows (arrivals : List (Arrival frames)) (data : RecvData) : Prop where
  partly : ∀ seq frame, frames seq = some frame →
    ¬frame.Covered (arrivedAt arrivals seq) →
      frame.Holds (arrivedAt arrivals seq) ((data.recvRecords.lookup seq).getD .new)
  counted : data.recevied.toNat = (completed arrivals).card

theorem knows_start (tx : Option (List (List UInt8))) :
    Knows ([] : List (Arrival frames)) (.start tx) where
  partly := by
    intro seq frame _ _
    have none : (RecvData.start tx).recvRecords.lookup seq = none := Finmap.lookup_empty seq
    rw [none, arrivedAt_nil]
    exact Frame.holds_new
  counted := by
    rw [completed_nil]
    rfl

/-- What the receiver computes for an arrival of an incomplete frame. -/
theorem Knows.record {arrivals : List (Arrival frames)} {data : RecvData}
    (knows : Knows arrivals data) (arrival : Arrival frames)
    (incomplete : ¬arrival.frame.Covered (arrivedAt arrivals arrival.seq)) :
    ∃ record, recordBuffer arrival.env arrival.buffer data = .ok record ∧
      arrival.frame.Holds (arrivedAt (arrivals ++ [arrival]) arrival.seq) record ∧
      (record.isComplete = true ↔
        arrival.frame.Covered (arrivedAt (arrivals ++ [arrival]) arrival.seq)) := by
  have holds := knows.partly _ _ arrival.known incomplete
  obtain ⟨record, recorded, after, complete⟩ :=
    holds.record arrival.below arrival.env.rxTime arrival.stale arrival.buffer.large
  rw [arrivedAt_self]
  refine ⟨record, ?_, after, complete⟩
  rw [recordBuffer, arrival.buffer_seq]
  exact recorded

/-- `deliver` in terms of the record it computes. -/
theorem deliver_eq_ok {data next : RecvData} {arrival : Arrival frames}
    {record : RecvRecord} {pong : Option Pong} (rate : args.sampleRate = 1)
    (recorded : recordBuffer arrival.env arrival.buffer data = .ok record) :
    deliver args data arrival = .ok (pong, next) ↔
      if record.isComplete then
        ∃ left, finishFrame args arrival.env arrival.buffer arrival.seq record
          (fileRecord arrival.buffer record data) = .ok ((pong, left), next)
      else pong = none ∧ next = fileRecord arrival.buffer record data := by
  have sampled : arrival.buffer.seq % args.sampleRate = 0 := by
    rw [rate, ← UInt32.toNat_inj, UInt32.toNat_mod]
    exact Nat.mod_one _
  have rateNe : args.sampleRate ≠ 0 := by
    rw [rate]
    decide
  rw [deliver, handleRtt_of_record rateNe sampled recorded, arrival.buffer_seq]
  cases record.isComplete with
  | true =>
      rw [if_pos rfl, if_pos rfl, bind_eq_ok]
      constructor
      · rintro ⟨⟨⟨otherPong, left⟩, otherNext⟩, returned, same⟩
        cases same
        exact ⟨left, returned⟩
      · rintro ⟨left, returned⟩
        exact ⟨_, returned, rfl⟩
  | false =>
      rw [if_neg (by simp), if_neg (by simp), ok_bind]
      constructor
      · intro same
        cases same
        exact ⟨rfl, rfl⟩
      · rintro ⟨rfl, rfl⟩
        rfl

/-- A delivery leaves every other record as it is. -/
theorem deliver_frame {data next : RecvData} {arrival : Arrival frames}
    {record : RecvRecord} {pong : Option Pong} (rate : args.sampleRate = 1)
    (recorded : recordBuffer arrival.env arrival.buffer data = .ok record)
    (delivered : deliver args data arrival = .ok (pong, next)) {seq : UInt32}
    (other : seq ≠ arrival.seq) :
    next.recvRecords.lookup seq = data.recvRecords.lookup seq := by
  have filed : (fileRecord arrival.buffer record data).recvRecords.lookup seq =
      data.recvRecords.lookup seq := by
    rw [fileRecord, arrival.buffer_seq]
    exact Finmap.lookup_insert_of_ne _ other
  rw [deliver_eq_ok rate recorded] at delivered
  split at delivered
  next =>
    rcases delivered with ⟨left, returned⟩
    rw [(finishFrame_fields returned).2.1, Finmap.lookup_erase_ne other, filed]
  next =>
    rw [delivered.2, filed]

/-- Step lemma: a delivery that returns keeps the receiver's knowledge. -/
theorem Knows.deliver {arrivals : List (Arrival frames)} {data next : RecvData}
    (knows : Knows arrivals data) {arrival : Arrival frames} {pong : Option Pong}
    (rate : args.sampleRate = 1)
    (incomplete : ¬arrival.frame.Covered (arrivedAt arrivals arrival.seq))
    (delivered : deliver args data arrival = .ok (pong, next)) :
    Knows (arrivals ++ [arrival]) next := by
  rcases knows.record arrival incomplete with ⟨record, recorded, holds, complete⟩
  rcases completed_append incomplete with ⟨fresh, covered, uncovered⟩
  have taken := (deliver_eq_ok rate recorded).mp delivered
  constructor
  · intro seq frame known still
    by_cases same : seq = arrival.seq
    · -- The frame's own record is the one just filed, as the frame is incomplete.
      subst same
      obtain rfl : arrival.frame = frame := by
        rw [arrival.known] at known
        exact Option.some.inj known
      rw [if_neg (fun done => still (complete.mp done))] at taken
      rw [taken.2, fileRecord, arrival.buffer_seq]
      rw [Finmap.lookup_insert, Option.getD_some]
      exact holds
    · rw [deliver_frame rate recorded delivered same]
      rw [arrivedAt_other _ _ (Ne.symm same)] at still ⊢
      exact knows.partly seq frame known still
  · by_cases done : record.isComplete = true
    · rw [if_pos done] at taken
      rcases taken with ⟨left, returned⟩
      rw [(finishFrame_fields returned).2.2.2.2.1, covered (complete.mp done),
        Finset.card_insert_of_notMem fresh, ← knows.counted]
      rfl
    · rw [if_neg done] at taken
      rw [uncovered (fun all => done (complete.mpr all)), ← knows.counted, taken.2]
      rfl

/-- Run lemma: as long as no frame is repeated after its completion, the receiver
knows what has arrived. -/
theorem knows_of_exec {tx : Option (List (List UInt8))} {arrivals : List (Arrival frames)}
    {data : RecvData} (rate : args.sampleRate = 1) (fresh : NoLateDuplicate arrivals)
    (executed : exec (deliver args) (.start tx) arrivals = .ok data) :
    Knows arrivals data := by
  induction arrivals using List.reverseRecOn generalizing data with
  | nil =>
      cases executed
      exact knows_start tx
  | append_singleton arrivals arrival ih =>
      rcases fresh.of_append with ⟨before, incomplete⟩
      rcases exec_split_eq_ok.mp executed with ⟨middle, pong, next, reached, delivered, rest⟩
      cases rest
      exact (ih before reached).deliver rate incomplete delivered

/-- The acknowledgement port exists and the decoder listens to every arrival. -/
def Serviceable (args : Args) (arrivals : List (Arrival frames)) : Prop :=
  args.port.toNat + pongPortInc < 2 ^ 16 ∧
    ∀ arrival ∈ arrivals, arrival.env.receiverAlive = true

/-- A serviceable run that leaves some frame incomplete returns. -/
theorem exec_returns {tx : Option (List (List UInt8))} {arrivals : List (Arrival frames)}
    (rate : args.sampleRate = 1) (fresh : NoLateDuplicate arrivals)
    (serviceable : Serviceable args arrivals) {seq : UInt32}
    (missing : seq ∉ completed arrivals) :
    ∃ data, exec (deliver args) (.start tx) arrivals = .ok data := by
  induction arrivals using List.reverseRecOn with
  | nil => exact ⟨_, rfl⟩
  | append_singleton arrivals arrival ih =>
      rcases fresh.of_append with ⟨before, incomplete⟩
      rcases completed_append incomplete with ⟨new, covered, uncovered⟩
      have earlierMissing : seq ∉ completed arrivals := by
        by_cases done :
            arrival.frame.Covered (arrivedAt (arrivals ++ [arrival]) arrival.seq)
        · rw [covered done] at missing
          exact fun member => missing (Finset.mem_insert_of_mem member)
        · rwa [uncovered done] at missing
      obtain ⟨data, reached⟩ := ih before
        ⟨serviceable.1, fun other member => serviceable.2 other (by simp [member])⟩
        earlierMissing
      have knows := knows_of_exec rate before reached
      rcases knows.record arrival incomplete with ⟨record, recorded, holds, complete⟩
      have step : ∃ taken, StreamReplay.deliver args data arrival = .ok taken := by
        by_cases done : record.isComplete = true
        · have all := complete.mp done
          have counter : (fileRecord arrival.buffer record data).recevied.toNat + 1 <
              2 ^ 32 := by
            change data.recevied.toNat + 1 < 2 ^ 32
            have room := card_lt_of_notMem missing
            rw [covered all, Finset.card_insert_of_notMem new] at room
            rw [knows.counted]
            exact room
          have forwarded : ∃ sent, forwardFrame args arrival.env record
              (fileRecord arrival.buffer record data).tx = .ok sent :=
            (forwardFrame_returns_iff _).mpr
              fun _ _ => ⟨⟨_, holds.gather all⟩, serviceable.2 arrival (by simp)⟩
          obtain ⟨⟨⟨pong, left⟩, next⟩, returned⟩ := finishFrame_returns_iff.mpr
            ⟨serviceable.1, forwarded, counter⟩
          exact ⟨(pong, next), (deliver_eq_ok rate recorded).mpr (by
            rw [if_pos done]
            exact ⟨left, returned⟩)⟩
        · exact ⟨(none, fileRecord arrival.buffer record data),
            (deliver_eq_ok rate recorded).mpr (by
              rw [if_neg done]
              exact ⟨rfl, rfl⟩)⟩
      rcases step with ⟨⟨pong, next⟩, delivered⟩
      exact ⟨next, exec_split_eq_ok.mpr ⟨data, pong, next, reached, delivered, rfl⟩⟩

/-- What a delivery that returns does with the record it computed. -/
theorem deliver_outcome {data next : RecvData} {arrival : Arrival frames}
    {record : RecvRecord} {pong : Option Pong} (rate : args.sampleRate = 1)
    (recorded : recordBuffer arrival.env arrival.buffer data = .ok record)
    (delivered : deliver args data arrival = .ok (pong, next)) :
    (record.isComplete = true →
      pong.isSome = true ∧ next.recvRecords.lookup arrival.seq = none ∧
        forwardFrame args arrival.env record data.tx = .ok next.tx) ∧
    (record.isComplete = false →
      pong = none ∧ next.recvRecords.lookup arrival.seq = some record) := by
  rw [deliver_eq_ok rate recorded] at delivered
  constructor
  · intro done
    rw [if_pos done] at delivered
    rcases delivered with ⟨left, returned⟩
    rcases finishFrame_fields returned with ⟨acked, erased, _, _, _, forwarded⟩
    exact ⟨acked, by rw [erased, Finmap.lookup_erase], forwarded⟩
  · intro still
    rw [if_neg (by simp [still])] at delivered
    rcases delivered with ⟨rfl, rfl⟩
    refine ⟨rfl, ?_⟩
    rw [fileRecord, arrival.buffer_seq]
    exact Finmap.lookup_insert _

end Invariant

/-- Reassembly does not depend on the order of arrival.  In every run without late
duplicates, the next datagram completes its frame's record exactly when it is the
last of the frame's packets to arrive; the gathered bytes are then the frame's, and
no other record changes.  Runs return as long as acknowledging and forwarding do, the
last step included while some sequence number is left to be completed. -/
theorem reassembly_order_independent {frames : Frames} (args : Args)
    (rate : args.sampleRate = 1) (tx : Option (List (List UInt8)))
    (arrivals : List (Arrival frames)) (last : Arrival frames)
    (fresh : NoLateDuplicate (arrivals ++ [last])) :
    (Serviceable args arrivals →
      ∃ data, exec (deliver args) (.start tx) arrivals = .ok data) ∧
    (Serviceable args (arrivals ++ [last]) →
      (∃ seq, ∀ frame, frames seq = some frame →
        ¬frame.Covered (arrivedAt (arrivals ++ [last]) seq)) →
      ∃ data, exec (deliver args) (.start tx) (arrivals ++ [last]) = .ok data) ∧
    ∀ data, exec (deliver args) (.start tx) arrivals = .ok data →
      ∃ record, recordBuffer last.env last.buffer data = .ok record ∧
        (record.isComplete = true ↔
          last.frame.Covered (arrivedAt (arrivals ++ [last]) last.seq)) ∧
        (record.isComplete = true → record.gather = .ok last.frame.content) ∧
        ∀ pong next, deliver args data last = .ok (pong, next) →
          (record.isComplete = true → pong.isSome = true) ∧
          (record.isComplete = false →
            pong = none ∧ next.recvRecords.lookup last.seq = some record) ∧
          ∀ seq, seq ≠ last.seq →
            next.recvRecords.lookup seq = data.recvRecords.lookup seq := by
  rcases fresh.of_append with ⟨before, incomplete⟩
  refine ⟨?_, ?_, ?_⟩
  · intro serviceable
    exact exec_returns rate before serviceable (completed_append incomplete).1
  · rintro serviceable ⟨seq, still⟩
    have missing : seq ∉ completed (arrivals ++ [last]) := by
      rw [mem_completed]
      rintro ⟨frame, known, covered⟩
      exact still frame known covered
    exact exec_returns rate fresh serviceable missing
  · intro data reached
    have knows := knows_of_exec rate before reached
    rcases knows.record last incomplete with ⟨record, recorded, holds, complete⟩
    refine ⟨record, recorded, complete, fun done => holds.gather (complete.mp done), ?_⟩
    intro pong next delivered
    rcases deliver_outcome rate recorded delivered with ⟨whenDone, whenOpen⟩
    exact ⟨fun done => (whenDone done).1, whenOpen,
      fun seq other => deliver_frame rate recorded delivered other⟩

/-! ## Two frames interleaved -/

/-- The invariant of a run without late duplicates, position by position. -/
theorem noLateDuplicate_of_positions {frames : Frames} {arrivals : List (Arrival frames)}
    (incomplete : ∀ position (below : position < arrivals.length),
      ¬arrivals[position].frame.Covered
        (arrivedAt (arrivals.take position) arrivals[position].seq)) :
    NoLateDuplicate arrivals := by
  rintro earlier arrival later rfl
  have below : earlier.length < (earlier ++ arrival :: later).length := by simp
  have here : getElem (earlier ++ arrival :: later) earlier.length below = arrival := by simp
  have still := incomplete earlier.length below
  rwa [here, List.take_left] at still

instance {seq : UInt32} (frame : Frame seq) (arrived : Finset Nat) :
    Decidable (frame.Covered arrived) :=
  inferInstanceAs (Decidable (∀ index < frame.packets.length, index ∈ arrived))

/-- A frame of so many packets. -/
def Frame.sample (seq : UInt32) (num : UInt16) (some : 0 < num.toNat) : Frame seq where
  packets := samplePackets seq num
  count_pos := by rwa [length_samplePackets]
  count_le := by
    rw [length_samplePackets]
    exact Nat.le_of_lt_succ num.toNat_lt
  seq_eq := seq_samplePackets seq num
  offset_eq := offset_samplePackets seq num
  length_le := length_le_samplePackets seq num
  indicator_eq index below := by
    rw [length_samplePackets]
    exact indicator_samplePackets seq num index below

/-- Frame 7 has three packets, frame 8 two. -/
def interleavedFrames : Frames := fun seq =>
  if seq = 7 then some (.sample seq 3 (by decide))
  else if seq = 8 then some (.sample seq 2 (by decide))
  else none

/-- The arrival of a packet, in a buffer that holds other bytes behind it. -/
def interleavedArrival (seq : UInt32) (frame : Frame seq)
    (known : interleavedFrames seq = some frame) (index : Nat)
    (below : index < frame.packets.length) : Arrival interleavedFrames where
  seq
  frame
  known
  index
  below
  stale := List.replicate (recvBufferSize - frame.packets[index].datagram.length) 255
  fills := by
    have short := frame.length_le _ (List.getElem_mem below)
    rw [List.length_append, List.length_replicate]
    exact Nat.add_sub_of_le (PacketStruct.length_datagram_le short)
  env := .still

def arrivalOfSeven (index : Nat) (below : index < 3) : Arrival interleavedFrames :=
  interleavedArrival 7 (.sample 7 3 (by decide)) rfl index (by simpa [Frame.sample] using below)

def arrivalOfEight (index : Nat) (below : index < 2) : Arrival interleavedFrames :=
  interleavedArrival 8 (.sample 8 2 (by decide)) rfl index (by simpa [Frame.sample] using below)

/-- The frames interleaved and backwards, with one packet of frame 7 twice before its last. -/
def interleaved : List (Arrival interleavedFrames) :=
  [arrivalOfEight 1 (by decide), arrivalOfSeven 2 (by decide), arrivalOfSeven 0 (by decide),
    arrivalOfSeven 2 (by decide), arrivalOfEight 0 (by decide)]

theorem reassembly_order_independent_interleaved :
    let last := arrivalOfSeven 1 (by decide)
    ∃ data record, exec (deliver ⟨5005, true, true, 1⟩) (.start none) interleaved = .ok data ∧
      recordBuffer last.env last.buffer data = .ok record ∧
      record.isComplete = true ∧ record.gather = .ok last.frame.content ∧
      last.frame.content = [0, 0, 0, 1, 1, 1, 2, 2, 2] := by
  intro last
  have fresh : NoLateDuplicate (interleaved ++ [last]) :=
    noLateDuplicate_of_positions (by decide +kernel)
  have serviceable : Serviceable ⟨5005, true, true, 1⟩ interleaved := by
    refine ⟨by decide, fun arrival member => ?_⟩
    simp only [interleaved, List.mem_cons, List.not_mem_nil, or_false] at member
    rcases member with rfl | rfl | rfl | rfl | rfl <;> rfl
  rcases reassembly_order_independent ⟨5005, true, true, 1⟩ rfl none interleaved last fresh with
    ⟨returns, _, completes⟩
  rcases returns serviceable with ⟨data, reached⟩
  rcases completes data reached with ⟨record, recorded, complete, gathered, _⟩
  have covered : last.frame.Covered (arrivedAt (interleaved ++ [last]) last.seq) := by
    decide +kernel
  exact ⟨data, record, reached, recorded, complete.mpr covered,
    gathered (complete.mpr covered), by decide +kernel⟩

end StreamReplay
