import StreamReplay.System.Provenance
import StreamReplay.Tx.Replay

/-!
# Trace replay

`source_thread` of `tx/src/source.rs` from the array of the trace to the wire.  Each turn of
its loop takes the next row as a frame without bytes, going around the trace, until the
configured number of loops is reached; from then on a turn only serves the queue.
-/

namespace StreamReplay

open Checked FallibleRun

/-- A source thread that replays a trace. -/
structure Replayer where
  cursor : TraceCursor
  sender : Sender

/-- The steps of the thread: a turn of its loop begins, or the queue is served. -/
inductive ReplayerOp where
  | turn (arrival : ℚ) (now : Time)
  | sender (op : SenderOp)

namespace Replayer

def start (recording : List TraceRow) (startOffset maxLoops : Nat) (port : UInt16)
    (throttle : ℚ) (windowSize : Nat) (ctler : TxPartCtler) : Replayer where
  cursor := .new recording startOffset maxLoops
  sender := .new port throttle windowSize ctler

/-- The thread ends with a panic. -/
def panic (replayer : Replayer) : Replayer :=
  { replayer with sender := { replayer.sender with phase := .panicked } }

/-- What is left of a panic is the sender alone. -/
def turn (replayer : Replayer) (arrival : ℚ) (now : Time) : Replayer :=
  match replayer.cursor.read with
  | .error _ => replayer.panic
  | .ok (none, cursor) => { cursor, sender := { replayer.sender with phase := .sending } }
  | .ok (some row, cursor) =>
      let sender := replayer.sender.takeFrame arrival row.frame now
      if sender.phase = .panicked then { replayer with sender } else { cursor, sender }

/-- Frames come from the trace alone. -/
def apply (socketInfos : SocketInfo) (replayer : Replayer) : ReplayerOp → Replayer
  | .turn arrival now =>
      if replayer.sender.phase = .waiting then replayer.turn arrival now else replayer
  | .sender (.frame _ _ _) => replayer
  | .sender op => { replayer with sender := replayer.sender.apply socketInfos op }

def step (socketInfos : SocketInfo) : FallibleRun.Step Replayer ReplayerOp Unit Panic :=
  fun replayer op => .ok ((), replayer.apply socketInfos op)

/-- A step of the sender that takes no frame is its own. -/
theorem apply_sender {socketInfos : SocketInfo} {replayer : Replayer} {op : SenderOp}
    (other : ∀ arrival data now, op ≠ .frame arrival data now) :
    replayer.apply socketInfos (.sender op) =
      { replayer with sender := replayer.sender.apply socketInfos op } := by
  cases op with
  | frame arrival data now => exact absurd rfl (other arrival data now)
  | _ => rfl

end Replayer

abbrev ReplayerEvent := Event Replayer ReplayerOp Unit

/-- A turn of the loop begins, and does not panic. -/
def ReplayerEvent.turned (event : ReplayerEvent) : Bool :=
  match event.op with
  | .turn _ _ => event.before.sender.phase == .waiting && event.after.sender.phase != .panicked
  | .sender _ => false

/-- The number of turns of the loop. -/
def turned (history : List ReplayerEvent) : Nat := history.countP ReplayerEvent.turned

/-! ## The invariant -/

/-- What the thread has done after some turns. -/
structure Retraces (recording : List TraceRow) (startOffset maxLoops count : Nat)
    (replayer : Replayer) : Prop where
  follows : ∃ log, replayer.sender.frames = log.map TraceRow.frame ∧
    TraceCursor.Follows recording startOffset maxLoops count log replayer.cursor
  produces : replayer.sender.Produces

namespace Retraces

variable {recording : List TraceRow} {startOffset maxLoops count : Nat} {replayer : Replayer}

theorem start (recording : List TraceRow) (startOffset maxLoops : Nat) (port : UInt16)
    (throttle : ℚ) (windowSize : Nat) (ctler : TxPartCtler) :
    Retraces recording startOffset maxLoops 0
      (.start recording startOffset maxLoops port throttle windowSize ctler) where
  follows := ⟨[], rfl, rfl, rfl, rfl, by simp [Replayer.start, TraceCursor.new],
    by simp [TraceCursor.rows]⟩
  produces := .new port throttle windowSize ctler

/-- A step of the sender that takes no frame. -/
theorem congr (retraces : Retraces recording startOffset maxLoops count replayer)
    {sender : Sender} (frames : sender.frames = replayer.sender.frames)
    (produces : sender.Produces) :
    Retraces recording startOffset maxLoops count { replayer with sender } :=
  ⟨frames ▸ retraces.follows, produces⟩

/-- A turn follows the cursor, unless it panics. -/
theorem turn (retraces : Retraces recording startOffset maxLoops count replayer)
    (waiting : replayer.sender.phase = .waiting) (arrival : ℚ) (now : Time) :
    let next := replayer.turn arrival now
    Retraces recording startOffset maxLoops
      (count + if next.sender.phase = .panicked then 0 else 1) next := by
  rcases retraces.follows with ⟨log, frames, follows⟩
  unfold Replayer.turn
  split
  next =>
    simp only [Replayer.panic, if_true, Nat.add_zero]
    exact retraces.congr rfl
      (retraces.produces.congr rfl rfl rfl rfl fun alive => absurd rfl alive)
  next cursor returned =>
    simp only [reduceCtorEq, if_false]
    have idle := follows.read returned
    rw [Option.toList_none, List.append_nil] at idle
    exact ⟨⟨log, frames, idle⟩,
      retraces.produces.congr rfl rfl rfl rfl fun _ => by simp [waiting]⟩
  next row cursor returned =>
    have produces := retraces.produces.takeFrame arrival row.frame now (by simp [waiting])
    have cases := replayer.sender.takeFrame_cases arrival row.frame now
    generalize replayer.sender.takeFrame arrival row.frame now = sender at *
    rcases cases with ⟨panicked, same⟩ | ⟨queued, taken⟩
    · simp only [panicked, if_true, Nat.add_zero]
      exact retraces.congr same produces
    · simp only [queued, reduceCtorEq, if_false]
      refine ⟨⟨log ++ [row], ?_, follows.read returned⟩, produces⟩
      rw [taken, frames, List.map_append, List.map_singleton]

/-- Step lemma. -/
theorem apply (retraces : Retraces recording startOffset maxLoops count replayer)
    (socketInfos : SocketInfo) (op : ReplayerOp) :
    let next := replayer.apply socketInfos op
    Retraces recording startOffset maxLoops
      (count + turned [⟨replayer, op, (), next⟩]) next := by
  cases op with
  | turn arrival now =>
      simp only [Replayer.apply]
      split
      next waiting =>
        have next := retraces.turn waiting arrival now
        have counted : turned [⟨replayer, .turn arrival now, (), replayer.turn arrival now⟩] =
            if (replayer.turn arrival now).sender.phase = .panicked then 0 else 1 := by
          by_cases panicked : (replayer.turn arrival now).sender.phase = .panicked <;>
            simp [turned, ReplayerEvent.turned, waiting, panicked]
        rwa [counted]
      next busy => simpa [turned, ReplayerEvent.turned, busy] using retraces
  | sender op =>
      by_cases frame : ∃ arrival data now, op = .frame arrival data now
      · rcases frame with ⟨_, _, _, rfl⟩
        exact retraces
      · have other : ∀ arrival data now, op ≠ .frame arrival data now :=
          fun arrival data now same => frame ⟨arrival, data, now, same⟩
        rw [Replayer.apply_sender other]
        exact retraces.congr (replayer.sender.frames_apply socketInfos other)
          (retraces.produces.apply socketInfos op)

/-- Run lemma. -/
theorem of_run {socketInfos : SocketInfo} {port : UInt16} {throttle : ℚ} {windowSize : Nat}
    {ctler : TxPartCtler} {history : List ReplayerEvent}
    (run : Run (Replayer.step socketInfos)
      (.start recording startOffset maxLoops port throttle windowSize ctler) history replayer) :
    Retraces recording startOffset maxLoops (turned history) replayer := by
  induction run with
  | nil => exact .start recording startOffset maxLoops port throttle windowSize ctler
  | snoc _ taken ih =>
      cases taken
      have snoc := ih.apply socketInfos
      simpa only [turned, List.countP_append] using snoc _

end Retraces

/-- In every run of the trace replay, the frames are the rows of the trace behind the start
offset, one for each turn of the loop and going around the trace, until there is one less
than the configured number.  The datagrams go out in that order, none twice, and each has the
length that its row gives the packet that it names. -/
theorem trace_replay_exact {recording : List TraceRow} {startOffset maxLoops : Nat}
    {socketInfos : SocketInfo} {port : UInt16} {throttle : ℚ} {windowSize : Nat}
    {ctler : TxPartCtler} {history : List ReplayerEvent} {replayer : Replayer}
    (run : Run (Replayer.step socketInfos)
      (.start recording startOffset maxLoops port throttle windowSize ctler) history replayer) :
    ∃ log : List TraceRow, replayer.sender.frames = log.map TraceRow.frame ∧
      log.map some = TraceCursor.rows recording (startOffset + 1)
        (min (turned history) (maxLoops - 1)) ∧
      replayer.sender.outlet.wire.Pairwise PacketStruct.Before ∧
      ∀ sent ∈ replayer.sender.outlet.wire, ∃ position row, log[position]? = some row ∧
        sent.seq.toNat = position + 1 ∧
        sent.offset.toNat < frameNum row.sizeBytes.toNat % 2 ^ 16 ∧
        sent.length = packetLength (frameNum row.sizeBytes.toNat - 1)
          (frameRemains row.sizeBytes.toNat) sent.offset := by
  have retraces := Retraces.of_run run
  rcases retraces.follows with ⟨log, frames, follows⟩
  refine ⟨log, frames, follows.log_eq, retraces.produces.wire_ordered, fun sent member => ?_⟩
  rcases retraces.produces.wire_sent sent member with ⟨position, data, found, seqEq, carried⟩
  rw [frames, List.getElem?_map] at found
  rcases Option.map_eq_some_iff.mp found with ⟨row, present, rfl⟩
  refine ⟨position, row, present, seqEq, carried.below, ?_⟩
  have length := carried.length_eq
  rwa [UInt16.ofNat_toNat] at length

/-- Two rows of a trace with four loops configured. -/
def replayedTwice : Replayer :=
  .start TraceCursor.twoRows 0 4 5005 0 4 (.new .hardThreshold unitParameters ⟨false, ⟨0, ∅, ∅⟩⟩)

/-- Two turns, the packet of each sent. -/
def twoTurns : List ReplayerOp :=
  [.turn 0 0, .sender (.register 0), .sender (.turn (.still 1) .sent), .sender .leave,
    .turn 2 2, .sender (.register 2), .sender (.turn (.still 3) .sent)]

theorem trace_replay_exact_two :
    ∃ history replayer, Run (Replayer.step twoSockets) replayedTwice history replayer ∧
      turned history = 2 ∧ replayer.sender.outlet.wire.map PacketStruct.length = [200, 100] ∧
      ∃ log : List TraceRow, replayer.sender.frames = log.map TraceRow.frame ∧
        log.map some = TraceCursor.rows TraceCursor.twoRows (0 + 1) (min 2 (4 - 1)) := by
  rcases exists_run_of_trace (Replayer.step twoSockets) replayedTwice twoTurns
    (fun history replayer => turned history = 2 ∧
      replayer.sender.outlet.wire.map PacketStruct.length = [200, 100])
    (by decide +kernel) with ⟨history, replayer, run, _, passes⟩
  rcases of_decide_eq_true passes with ⟨two, lengths⟩
  rcases trace_replay_exact run with ⟨log, frames, rows, _⟩
  rw [two] at rows
  exact ⟨history, replayer, run, two, lengths, log, frames, rows⟩

end StreamReplay
