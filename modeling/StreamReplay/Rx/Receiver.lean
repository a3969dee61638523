import StreamReplay.Foundation.Run
import StreamReplay.Rx.Record

/-!
# The receive loop

`rx/src/destination.rs`: one datagram is received into a buffer that is never
cleared, accounted, filed under its sequence number and, when it completes its
frame, acknowledged and forwarded to the decoder.
-/

namespace StreamReplay

open Checked FallibleRun

def pongPortInc : Nat := 1024

/-- The size of the receive buffer. -/
def recvBufferSize : Nat := 2048

abbrev RecvBuffer := { bytes : List UInt8 // bytes.length = recvBufferSize }

theorem PacketStruct.length_datagram_le {packet : PacketStruct}
    (short : packet.length.toNat ≤ maxPayloadLen) : packet.datagram.length ≤ recvBufferSize := by
  rw [PacketStruct.length_datagram short]
  simp only [appHeaderLength, recvBufferSize, maxPayloadLen_eq] at short ⊢
  omega

/-- The little-endian bytes of an `f64`; their value plays no role here. -/
abbrev Float64Bytes := { bytes : List UInt8 // bytes.length = 8 }

/-- The command-line arguments that the receive loop reads. -/
structure Args where
  port : UInt16
  calcRtt : Bool
  rxMode : Bool
  sampleRate : UInt32

/-- Acknowledgement times of the frames, for the stuttering rate. -/
structure Stutter where
  startTime : ℚ
  endTime : ℚ
  ackTimes : List ℚ

namespace Stutter

def new : Stutter := ⟨0, 0, []⟩

/-- Zero is the sentinel for a start time that is not set. -/
def update (stutter : Stutter) (time : ℚ) : Stutter :=
  if stutter.startTime = 0 then
    { stutter with startTime := time, ackTimes := stutter.ackTimes ++ [time] }
  else { stutter with endTime := time, ackTimes := stutter.ackTimes ++ [time] }

end Stutter

/-- The shared receiver state.  `tx` holds the frames sent to the decoder, once a
sender is installed. -/
structure RecvData where
  recvRecords : Finmap fun _ : UInt32 => RecvRecord
  lastSeq : UInt32
  recevied : UInt32
  dataLen : UInt32
  rxStartTime : ℚ
  stutter : Stutter
  tx : Option (List (List UInt8))

def RecvData.new : RecvData where
  recvRecords := ∅
  lastSeq := 0
  recevied := 0
  dataLen := 0
  rxStartTime := 0
  stutter := .new
  tx := none

/-- What the surroundings contribute while one datagram is handled: the clock
readings, the bytes of the link time difference, and whether the decoder still
holds its end of the channel. -/
structure RecvEnv where
  startTime : ℚ
  rxTime : ℚ
  ackTime : ℚ
  deltaBytes : ℚ → Float64Bytes
  receiverAlive : Bool

/-- All clocks at zero and the decoder listening. -/
def RecvEnv.still : RecvEnv := ⟨0, 0, 0, fun _ => ⟨List.replicate 8 0, rfl⟩, true⟩

/-- An acknowledgement: the destination port and the bytes sent back. -/
structure Pong where
  port : Nat
  bytes : RecvBuffer

namespace RecvBuffer

theorem large (buffer : RecvBuffer) : packetSize ≤ buffer.1.length := by
  rw [buffer.2]
  decide

/-- `recv_from`: the datagram overwrites the front of the buffer. -/
def receive (buffer : RecvBuffer) (datagram : List UInt8)
    (short : datagram.length ≤ recvBufferSize) : RecvBuffer :=
  ⟨datagram ++ buffer.1.drop datagram.length, by
    rw [List.length_append, List.length_drop, buffer.2]
    omega⟩

/-- Overwrite the bytes `19..27`. -/
def setDelta (buffer : RecvBuffer) (delta : Float64Bytes) : RecvBuffer :=
  ⟨buffer.1.take 19 ++ delta.1 ++ buffer.1.drop 27, by
    rw [List.length_append, List.length_append, List.length_take, List.length_drop,
      buffer.2, delta.2]
    decide⟩

/-- The sequence number in the first four bytes. -/
def seq (buffer : RecvBuffer) : UInt32 :=
  UInt32.ofNat (readField buffer.1 0 4)

end RecvBuffer

/-- `tx.send(..).unwrap()`: a send fails once the receiving end is dropped. -/
def sendFrame (receiverAlive : Bool) (sent : List (List UInt8)) (frame : List UInt8) :
    Except Panic (List (List UInt8)) :=
  if receiverAlive then .ok (sent ++ [frame]) else .error .unwrapErr

/-- Forward a complete frame when a decoder is attached. -/
def forwardFrame (args : Args) (env : RecvEnv) (record : RecvRecord)
    (tx : Option (List (List UInt8))) : Except Panic (Option (List (List UInt8))) :=
  match args.rxMode, tx with
  | true, some sent => do
      let frame ← record.gather
      let sent ← sendFrame env.receiverAlive sent frame
      return some sent
  | _, _ => .ok tx

/-- The branch of `handle_rtt` for a frame that has just become complete. -/
def finishFrame (args : Args) (env : RecvEnv) (buffer : RecvBuffer) (seq : UInt32)
    (record : RecvRecord) (data : RecvData) :
    Except Panic ((Option Pong × RecvBuffer) × RecvData) := do
  let stutter := data.stutter.update env.ackTime
  let buffer := buffer.setDelta (env.deltaBytes record.delta)
  let port ← add 16 args.port.toNat pongPortInc
  let tx ← forwardFrame args env record data.tx
  let recevied ← add32 data.recevied 1
  return ((some ⟨port, buffer⟩, buffer),
    { data with recvRecords := data.recvRecords.erase seq, stutter, tx, recevied })

/-- `handle_rtt`, with the acknowledgement it sends and the buffer it leaves. -/
def handleRtt (args : Args) (env : RecvEnv) (buffer : RecvBuffer) (data : RecvData) :
    Except Panic ((Option Pong × RecvBuffer) × RecvData) :=
  let seq := buffer.seq
  let data := { data with lastSeq := if seq > data.lastSeq then seq else data.lastSeq }
  if args.sampleRate = 0 then .error (.message "remainder with a divisor of zero")
  else if seq % args.sampleRate ≠ 0 then .ok ((none, buffer), data)
  else do
    let entry := (data.recvRecords.lookup seq).getD .new
    let record ← entry.record env.rxTime buffer.1 buffer.large
    let data := { data with recvRecords := data.recvRecords.insert seq record }
    if record.isComplete then finishFrame args env buffer seq record data
    else return ((none, buffer), data)

/-- One datagram as `recv_from` delivers it, with the surroundings at that time. -/
structure Received where
  bytes : List UInt8
  short : bytes.length ≤ recvBufferSize
  env : RecvEnv

/-- The state that the receive loop carries from datagram to datagram. -/
structure RecvState where
  buffer : RecvBuffer
  data : RecvData
  started : Bool

/-- One successful turn of the loop in `recv_thread`. -/
def recvStep (args : Args) : Step RecvState Received (Option Pong) Panic :=
  fun state received => do
    let buffer := state.buffer.receive received.bytes received.short
    let dataLen ← add32 state.data.dataLen (UInt32.ofNat received.bytes.length)
    let data := { state.data with dataLen }
    let data := if state.started then data
      else { data with rxStartTime := received.env.startTime }
    if args.calcRtt then
      let ((pong, buffer), data) ← handleRtt args received.env buffer data
      return (pong, { buffer, data, started := true })
    else return (none, { buffer, data, started := true })

/-- The loop before the first datagram, with a decoder channel installed. -/
def RecvState.start : RecvState where
  buffer := ⟨List.replicate recvBufferSize 0, by simp⟩
  data := { RecvData.new with tx := some [] }
  started := false

/-! ## Handling one datagram -/

section Handling

variable {args : Args} {env : RecvEnv} {buffer : RecvBuffer} {seq : UInt32}
variable {record : RecvRecord} {data : RecvData}

/-- Forwarding returns when the frame can be gathered and the decoder listens. -/
theorem forwardFrame_returns_iff (tx : Option (List (List UInt8))) :
    (∃ sent, forwardFrame args env record tx = .ok sent) ↔
      (args.rxMode = true → tx.isSome = true →
        (∃ frame, record.gather = .ok frame) ∧ env.receiverAlive = true) := by
  cases mode : args.rxMode with
  | false => simp [forwardFrame, mode]
  | true =>
      cases tx with
      | none => simp [forwardFrame, mode]
      | some sent =>
          simp only [forwardFrame, mode, Option.isSome_some, forall_const]
          constructor
          · rintro ⟨result, returned⟩
            rcases bind_eq_ok.mp returned with ⟨frame, gathered, rest⟩
            rcases bind_eq_ok.mp rest with ⟨_, delivered, _⟩
            refine ⟨⟨frame, gathered⟩, ?_⟩
            cases alive : env.receiverAlive with
            | true => rfl
            | false => simp [sendFrame, alive] at delivered
          · rintro ⟨⟨frame, gathered⟩, alive⟩
            exact ⟨some (sent ++ [frame]), by simp [gathered, sendFrame, alive]⟩

/-- Forwarding keeps an installed sender. -/
theorem forwardFrame_isSome {tx sent : Option (List (List UInt8))}
    (forwarded : forwardFrame args env record tx = .ok sent)
    (installed : tx.isSome = true) : sent.isSome = true := by
  rcases Option.isSome_iff_exists.mp installed with ⟨frames, rfl⟩
  cases mode : args.rxMode with
  | false =>
      simp only [forwardFrame, mode, Except.ok.injEq] at forwarded
      subst forwarded
      rfl
  | true =>
      simp only [forwardFrame, mode] at forwarded
      rcases bind_eq_ok.mp forwarded with ⟨_, _, rest⟩
      rcases bind_eq_ok.mp rest with ⟨_, _, rest⟩
      cases rest
      rfl

/-- Completing a frame returns when the acknowledgement port exists, forwarding
returns and the counter of received frames does not wrap. -/
theorem finishFrame_returns_iff :
    (∃ result, finishFrame args env buffer seq record data = .ok result) ↔
      args.port.toNat + pongPortInc < 2 ^ 16 ∧
        (∃ sent, forwardFrame args env record data.tx = .ok sent) ∧
        data.recevied.toNat + 1 < 2 ^ 32 := by
  constructor
  · rintro ⟨result, returned⟩
    rcases bind_eq_ok.mp returned with ⟨port, portSum, rest⟩
    rcases bind_eq_ok.mp rest with ⟨sent, forwarded, rest⟩
    rcases bind_eq_ok.mp rest with ⟨recevied, sum, _⟩
    refine ⟨?_, ⟨sent, forwarded⟩, (add32_eq_ok.mp sum).1⟩
    unfold add at portSum
    split at portSum
    next fits => exact fits
    next => cases portSum
  · rintro ⟨portFits, ⟨sent, forwarded⟩, counterFits⟩
    have sum : add32 data.recevied 1 = .ok (data.recevied + 1) :=
      add32_eq_ok.mpr ⟨counterFits, rfl⟩
    exact ⟨_, by
      simp only [finishFrame, add, portFits, if_true, forwarded, sum, ok_bind, pure_eq_ok]
      rfl⟩

/-- What completing a frame does to the receiver state. -/
theorem finishFrame_fields {pong : Option Pong} {left : RecvBuffer} {next : RecvData}
    (returned : finishFrame args env buffer seq record data = .ok ((pong, left), next)) :
    pong.isSome = true ∧ next.recvRecords = data.recvRecords.erase seq ∧
      next.dataLen = data.dataLen ∧ next.lastSeq = data.lastSeq ∧
      next.recevied.toNat = data.recevied.toNat + 1 ∧
      forwardFrame args env record data.tx = .ok next.tx := by
  rcases bind_eq_ok.mp returned with ⟨port, portSum, rest⟩
  rcases bind_eq_ok.mp rest with ⟨sent, forwarded, rest⟩
  rcases bind_eq_ok.mp rest with ⟨recevied, sum, rest⟩
  cases rest
  exact ⟨rfl, rfl, rfl, rfl, toNat_of_add32 sum, forwarded⟩

/-- The record that `handle_rtt` computes for the datagram in the buffer. -/
def recordBuffer (env : RecvEnv) (buffer : RecvBuffer) (data : RecvData) :
    Except Panic RecvRecord :=
  ((data.recvRecords.lookup buffer.seq).getD .new).record env.rxTime buffer.1 buffer.large

/-- The receiver state after a record has been filed. -/
def fileRecord (buffer : RecvBuffer) (record : RecvRecord) (data : RecvData) : RecvData :=
  { data with
    lastSeq := if buffer.seq > data.lastSeq then buffer.seq else data.lastSeq
    recvRecords := data.recvRecords.insert buffer.seq record }

/-- `handle_rtt` on a sampled datagram whose record is known. -/
theorem handleRtt_of_record (rate : args.sampleRate ≠ 0)
    (sampled : buffer.seq % args.sampleRate = 0)
    (recorded : recordBuffer env buffer data = .ok record) :
    handleRtt args env buffer data =
      if record.isComplete then
        finishFrame args env buffer buffer.seq record (fileRecord buffer record data)
      else .ok ((none, buffer), fileRecord buffer record data) := by
  unfold recordBuffer at recorded
  simp only [handleRtt, rate, if_false, sampled, ne_eq, not_true_eq_false, recorded, ok_bind,
    pure_eq_ok, fileRecord]

/-- `handle_rtt` on a datagram that is not sampled only notes its number. -/
theorem handleRtt_of_not_sampled (rate : args.sampleRate ≠ 0)
    (skipped : buffer.seq % args.sampleRate ≠ 0) :
    handleRtt args env buffer data = .ok ((none, buffer), { data with
      lastSeq := if buffer.seq > data.lastSeq then buffer.seq else data.lastSeq }) := by
  simp only [handleRtt, rate, if_false, skipped, ne_eq, not_false_eq_true, if_true]

/-- `handle_rtt` returns when the record of a sampled datagram can be computed
and, if that completes its frame, the frame can be finished. -/
theorem handleRtt_returns_iff (rate : args.sampleRate ≠ 0) :
    (∃ result, handleRtt args env buffer data = .ok result) ↔
      (buffer.seq % args.sampleRate = 0 →
        ∃ record, recordBuffer env buffer data = .ok record ∧
          (record.isComplete = true → ∃ result,
            finishFrame args env buffer buffer.seq record (fileRecord buffer record data) =
              .ok result)) := by
  by_cases sampled : buffer.seq % args.sampleRate = 0
  · cases recorded : recordBuffer env buffer data with
    | error fault =>
        have failed : handleRtt args env buffer data = .error fault := by
          unfold recordBuffer at recorded
          simp only [handleRtt, rate, if_false, sampled, ne_eq, not_true_eq_false, recorded,
            error_bind]
        simp [failed, sampled]
    | ok record =>
        rw [handleRtt_of_record rate sampled recorded]
        cases complete : record.isComplete with
        | true => simp [sampled, complete]
        | false => simp [sampled, complete]
  · rw [handleRtt_of_not_sampled rate sampled]
    simp [sampled]

/-- What a call of `handle_rtt` that returned has done: passed over a datagram that is
not sampled, filed the record of an incomplete frame, or finished a complete one. -/
theorem handleRtt_cases {pong : Option Pong} {left : RecvBuffer} {next : RecvData}
    (returned : handleRtt args env buffer data = .ok ((pong, left), next)) :
    (buffer.seq % args.sampleRate ≠ 0 ∧ pong = none ∧ next = { data with
      lastSeq := if buffer.seq > data.lastSeq then buffer.seq else data.lastSeq }) ∨
    (buffer.seq % args.sampleRate = 0 ∧ ∃ record,
      recordBuffer env buffer data = .ok record ∧ record.isComplete = false ∧
        pong = none ∧ next = fileRecord buffer record data) ∨
    (buffer.seq % args.sampleRate = 0 ∧ ∃ record,
      recordBuffer env buffer data = .ok record ∧ record.isComplete = true ∧
        finishFrame args env buffer buffer.seq record (fileRecord buffer record data) =
          .ok ((pong, left), next)) := by
  have rate : args.sampleRate ≠ 0 := by
    intro zero
    rw [handleRtt, if_pos zero] at returned
    cases returned
  by_cases sampled : buffer.seq % args.sampleRate = 0
  · rcases (handleRtt_returns_iff rate).mp ⟨_, returned⟩ sampled with ⟨record, recorded, _⟩
    rw [handleRtt_of_record rate sampled recorded] at returned
    cases complete : record.isComplete with
    | true =>
        rw [complete, if_pos rfl] at returned
        exact .inr (.inr ⟨sampled, record, recorded, complete, returned⟩)
    | false =>
        rw [complete, if_neg Bool.false_ne_true] at returned
        cases returned
        exact .inr (.inl ⟨sampled, record, recorded, complete, rfl, rfl⟩)
  · rw [handleRtt_of_not_sampled rate sampled] at returned
    cases returned
    exact .inl ⟨sampled, rfl, rfl⟩

/-- What `handle_rtt` does to the counters. -/
theorem handleRtt_counters {pong : Option Pong} {left : RecvBuffer} {next : RecvData}
    (returned : handleRtt args env buffer data = .ok ((pong, left), next)) :
    next.dataLen = data.dataLen ∧
      next.recevied.toNat = data.recevied.toNat + pong.toList.length ∧
      (data.tx.isSome = true → next.tx.isSome = true) := by
  rcases handleRtt_cases returned with
    ⟨_, rfl, rfl⟩ | ⟨_, record, _, _, rfl, rfl⟩ | ⟨_, record, _, _, finished⟩
  · exact ⟨rfl, rfl, id⟩
  · exact ⟨rfl, rfl, id⟩
  · rcases finishFrame_fields finished with ⟨acked, _, dataLen, _, recevied, forwarded⟩
    rcases Option.isSome_iff_exists.mp acked with ⟨ack, rfl⟩
    exact ⟨dataLen, recevied, forwardFrame_isSome forwarded⟩

end Handling

end StreamReplay
