import StreamReplay.Rx.Loss

/-!
# What the decoder gets

A frame is forwarded when it is acknowledged, as the bytes of its packets in offset
order.  The acknowledgement goes out first, so a turn that panics behind it has
acknowledged a frame that the decoder does not get.
-/

namespace StreamReplay

open Checked FallibleRun

/-- The bytes that a frame has on the wire. -/
def Emission.content (emission : Emission) (seq : UInt32) : List UInt8 :=
  match emission.frames seq with
  | some frame => frame.packets.flatMap PacketStruct.content
  | none => []

theorem Emission.content_eq {emission : Emission} {seq : UInt32} {frame : SentFrame seq}
    (known : emission.frames seq = some frame) :
    emission.content seq = frame.packets.flatMap PacketStruct.content := by
  simp only [content, known]

namespace RecvBuffer

theorem seq_setDelta (buffer : RecvBuffer) (delta : Float64Bytes) :
    (buffer.setDelta delta).seq = buffer.seq := by
  have front : (buffer.setDelta delta).1.take 4 = buffer.1.take 4 := by
    have long : 4 ≤ (buffer.1.take 19 ++ delta.1).length := by
      rw [List.length_append, List.length_take, buffer.2, delta.2]
      decide
    have longer : 4 ≤ (buffer.1.take 19).length := by
      rw [List.length_take, buffer.2]
      decide
    change ((buffer.1.take 19 ++ delta.1) ++ buffer.1.drop 27).take 4 = _
    rw [List.take_append_of_le_length long, List.take_append_of_le_length longer,
      List.take_take]
    rfl
  simp only [seq, readField, front]

/-- The bytes of the link time difference. -/
def deltaBytes (buffer : RecvBuffer) : List UInt8 := (buffer.1.take 27).drop 19

theorem deltaBytes_setDelta (buffer : RecvBuffer) (delta : Float64Bytes) :
    (buffer.setDelta delta).deltaBytes = delta.1 := by
  have front : (buffer.1.take 19).length = 19 := by
    rw [List.length_take, buffer.2]
    decide
  have both : (buffer.1.take 19 ++ delta.1).length = 27 := by
    rw [List.length_append, front, delta.2]
  change (((buffer.1.take 19 ++ delta.1) ++ buffer.1.drop 27).take 27).drop 19 = _
  rw [List.take_left' both, List.drop_left' front]

end RecvBuffer

/-- The acknowledgement that a turn of the loop sends, also if what comes behind
`send_ack` panics. -/
def acknowledge (args : Args) (state : RecvState) (received : Received) :
    Except Panic (Option Pong) := do
  let buffer := state.buffer.receive received.bytes received.short
  let _ ← add32 state.data.dataLen (UInt32.ofNat received.bytes.length)
  if args.calcRtt = true ∧ args.sampleRate ≠ 0 ∧ buffer.seq % args.sampleRate = 0 then
    let record ← recordBuffer received.env buffer state.data
    if record.isComplete then
      let port ← add 16 args.port.toNat pongPortInc
      return some ⟨port, buffer.setDelta (received.env.deltaBytes record.delta)⟩
    else return none
  else return none

section Turns

variable {emission : Emission} {args : Args} {state next : RecvState} {copy : Copy emission}
  {pong : Option Pong}

/-- A record that a copy completes, and the acknowledgement of its frame. -/
structure Completes (args : Args) (state : RecvState) (copy : Copy emission) (pong : Pong)
    (record : RecvRecord) : Prop where
  calcRtt : args.calcRtt = true
  sampled : copy.seq % args.sampleRate = 0
  recorded : ((state.data.recvRecords.lookup copy.seq).getD .new).record copy.env.rxTime
    (copy.buffer state).1 (copy.buffer state).large = .ok record
  complete : record.isComplete = true
  seq_eq : pong.bytes.seq = copy.seq
  delta_eq : pong.bytes.deltaBytes = (copy.env.deltaBytes record.delta).1

/-- An acknowledgement is sent for a frame that the copy completes. -/
theorem completes_of_acknowledge {ack : Pong}
    (acked : acknowledge args state copy.received = .ok (some ack)) :
    ∃ record, Completes args state copy ack record := by
  rcases bind_eq_ok.mp acked with ⟨_, _, acked⟩
  split at acked
  next guards =>
    rcases guards with ⟨calcRtt, _, sampled⟩
    rcases bind_eq_ok.mp acked with ⟨record, recorded, acked⟩
    have seqEq := copy.buffer_seq state
    change (copy.buffer state).seq % args.sampleRate = 0 at sampled
    change recordBuffer copy.env (copy.buffer state) state.data = .ok record at recorded
    rw [seqEq] at sampled
    rw [recordBuffer, seqEq] at recorded
    split at acked
    next complete =>
      rcases bind_eq_ok.mp acked with ⟨port, _, equal⟩
      cases equal
      refine ⟨record, calcRtt, sampled, recorded, complete, ?_,
        RecvBuffer.deltaBytes_setDelta ..⟩
      rw [RecvBuffer.seq_setDelta]
      exact seqEq
    next => cases acked
  next => cases acked

/-- A turn that returns has sent that acknowledgement. -/
theorem acknowledge_of_taken (taken : recvCopy args state copy = .ok (pong, next)) :
    acknowledge args state copy.received = .ok pong := by
  cases calcRtt : args.calcRtt with
  | false =>
      rcases recvStep_off calcRtt taken with ⟨rfl, _⟩
      rcases bind_eq_ok.mp taken with ⟨dataLen, sum, _⟩
      exact bind_eq_ok.mpr ⟨dataLen, sum, if_neg (by simp [calcRtt])⟩
  | true =>
      rcases bind_eq_ok.mp taken with ⟨dataLen, sum, _⟩
      obtain ⟨_, handled, _⟩ := (recvStep_eq_ok calcRtt).mp taken
      change handleRtt args copy.env (copy.buffer state) (accountBytes state copy.received) =
        .ok ((pong, next.buffer), next.data) at handled
      have rate : args.sampleRate ≠ 0 := by
        intro zero
        rw [handleRtt, if_pos zero] at handled
        cases handled
      refine bind_eq_ok.mpr ⟨dataLen, sum, ?_⟩
      rcases handleRtt_cases handled with ⟨skipped, rfl, _⟩ |
        ⟨sampled, record, recorded, incomplete, rfl, _⟩ |
        ⟨sampled, record, recorded, complete, finished⟩
      · exact if_neg fun guards => skipped guards.2.2
      · rw [if_pos ⟨calcRtt, rate, sampled⟩]
        refine bind_eq_ok.mpr ⟨record, recorded, ?_⟩
        simp [incomplete]
      · rw [if_pos ⟨calcRtt, rate, sampled⟩]
        refine bind_eq_ok.mpr ⟨record, recorded, ?_⟩
        rcases bind_eq_ok.mp finished with ⟨port, portSum, rest⟩
        rcases bind_eq_ok.mp rest with ⟨_, _, rest⟩
        rcases bind_eq_ok.mp rest with ⟨_, _, equal⟩
        obtain rfl := congrArg (fun result => result.1.1) (Except.ok.inj equal)
        rw [if_pos complete]
        exact bind_eq_ok.mpr ⟨port, portSum, rfl⟩

/-- A turn that acknowledges a frame gathers and forwards it, if there is a decoder to
forward it to. -/
theorem forwards_of_taken (taken : recvCopy args state copy = .ok (pong, next)) :
    (pong = none ∧ next.data.tx = state.data.tx) ∨
      ∃ ack record, pong = some ack ∧ Completes args state copy ack record ∧
        forwardFrame args copy.env record state.data.tx = .ok next.data.tx := by
  cases acked : pong with
  | none =>
      left
      refine ⟨rfl, ?_⟩
      cases calcRtt : args.calcRtt with
      | false => exact (recvStep_off calcRtt taken).2.2.2
      | true => exact (handles_of_taken calcRtt taken).tx acked
  | some ack =>
      right
      subst acked
      rcases completes_of_acknowledge (acknowledge_of_taken taken) with ⟨record, completes⟩
      refine ⟨ack, record, rfl, completes, ?_⟩
      obtain ⟨_, handled, _⟩ := (recvStep_eq_ok completes.calcRtt).mp taken
      change handleRtt args copy.env (copy.buffer state) (accountBytes state copy.received) =
        .ok ((some ack, next.buffer), next.data) at handled
      have recordedEq : recordBuffer copy.env (copy.buffer state)
          (accountBytes state copy.received) = .ok record := by
        rw [recordBuffer, copy.buffer_seq]
        exact completes.recorded
      rcases handleRtt_cases handled with ⟨_, none, _⟩ | ⟨_, _, _, _, none, _⟩ |
        ⟨_, other, recorded, _, finished⟩
      · cases none
      · cases none
      · rw [recordedEq] at recorded
        cases recorded
        exact (finishFrame_fields finished).2.2.2.2.2

end Turns

section Runs

variable {emission : Emission} {args : Args}
  {history : List (Event RecvState (Copy emission) (Option Pong))} {state : RecvState}

/-- A copy that completes a record comes when all other packets of its frame have arrived;
the record then holds the frame's bytes. -/
theorem Completes.whole (run : Run (recvCopy args) .start history state)
    {copy : Copy emission} {ack : Pong} {record : RecvRecord}
    (completes : Completes args state copy ack record) :
    Completable emission args copy.seq ∧
      Whole (history.map Event.op ++ [copy]) copy.seq ∧
      record.gather = .ok (emission.content copy.seq) := by
  have collects := collects_of_run completes.calcRtt run copy.known completes.sampled
  have marked : copy.frame.Marked := by
    by_contra unmarked
    have after := (collects.step copy.below completes.recorded).unmarked unmarked
    rw [completes.complete, if_pos rfl] at after
    exact absurd after.2 (Nat.succ_ne_zero _)
  rcases collects.marked marked with ⟨holds, _⟩
  obtain ⟨updated, recorded, after, complete⟩ :=
    holds.record copy.below copy.env.rxTime _ (copy.buffer state).large
  obtain rfl : record = updated := Except.ok.inj (completes.recorded.symm.trans recorded)
  have covered := complete.mp completes.complete
  refine ⟨⟨completes.sampled, copy.frame, copy.known, marked⟩, ?_, ?_⟩
  · rw [Whole, Emission.indices_eq copy.known, indicesOf_self]
    intro index member
    rcases Finset.mem_insert.mp (covered index (Finset.mem_range.mp member)) with rfl | held
    · simp
    · have arrived := List.mem_toFinset.mp (Rounds.held_subset _ _ held)
      exact List.mem_toFinset.mpr (List.mem_append_left _ arrived)
  · rw [emission.content_eq copy.known]
    exact after.gather covered

/-- Run lemma: the decoder gets the frames that are acknowledged, in that order. -/
theorem forwarded_of_run (run : Run (recvCopy args) .start history state) :
    state.data.tx = some (if args.rxMode then
      (acknowledged history).map emission.content else []) := by
  induction run with
  | nil => simp [RecvState.start, acknowledged]
  | @snoc history state next copy pong run taken ih =>
      rcases forwards_of_taken taken with ⟨rfl, same⟩ | ⟨ack, record, rfl, completes, forwarded⟩
      · rw [same, ih, acknowledged_snoc]
        simp
      · rw [ih] at forwarded
        rw [acknowledged_snoc]
        cases mode : args.rxMode with
        | false =>
            simp only [forwardFrame, mode] at forwarded
            exact (Except.ok.inj forwarded).symm
        | true =>
            have gathered := (completes.whole run).2.2
            simp only [forwardFrame, mode, if_true, gathered, ok_bind] at forwarded
            rcases bind_eq_ok.mp forwarded with ⟨sent, delivered, equal⟩
            rw [← Except.ok.inj equal, Option.isSome_some, if_pos rfl, List.map_append]
            unfold sendFrame at delivered
            split at delivered
            next => exact congrArg some (Except.ok.inj delivered).symm
            next => cases delivered

end Runs

end StreamReplay
