import StreamReplay.Tx.Replay
import StreamReplay.Tx.TraceReader

/-!
# The video replay

`video_thread` replays one segment after another, each from `start_offset` on.
The segments are those that `read_packets` returns for the files chosen by the
version manager.  A segment is left when the index has reached its length, so a
start offset at or beyond that length is never noticed.
-/

namespace StreamReplay

open Checked FallibleRun

def TraceRecord.frame (record : TraceRecord) : FrameData := .bytes record.data

/-- The loop variables of `video_thread`.  `loads` counts the segments loaded so far. -/
structure VideoCursor where
  startOffset : Nat
  trace : List TraceRecord
  reload : Bool
  idx : Nat
  loads : Nat

/-- What the calls of `read_packets` return, in order. -/
abbrev Segments := Nat → List TraceRecord

namespace VideoCursor

variable (segments : Segments)

/-- The first segment is loaded before the loop. -/
def new (startOffset : Nat) : VideoCursor where
  startOffset
  trace := segments 0
  reload := false
  idx := startOffset
  loads := 1

/-- Load the next segment if the last one is exhausted. -/
def refresh (cursor : VideoCursor) : VideoCursor :=
  if cursor.reload then
    { cursor with
      reload := false
      idx := cursor.startOffset
      trace := segments cursor.loads
      loads := cursor.loads + 1 }
  else cursor

def read (cursor : VideoCursor) : Except Panic (Option TraceRecord × VideoCursor) := do
  let cursor := cursor.refresh segments
  let record ← index cursor.trace cursor.idx
  let idx ← add 64 cursor.idx 1
  let reload := if idx = cursor.trace.length then true else cursor.reload
  return (some record, { cursor with idx, reload })

variable {segments}

/-- The records of a segment that the replay is to enqueue. -/
def playable (segments : Segments) (startOffset load : Nat) : List TraceRecord :=
  (segments load).drop startOffset

/-- The records of the first `loads` segments, from the start offset on. -/
def complete (segments : Segments) (startOffset loads : Nat) : List TraceRecord :=
  (List.range loads).flatMap (playable segments startOffset)

theorem complete_succ (startOffset loads : Nat) :
    complete segments startOffset (loads + 1) =
      complete segments startOffset loads ++ playable segments startOffset loads := by
  simp [complete, List.range_succ]

/-- Where the cursor is within the segment it reads: `started` records of it have
been enqueued, behind all records of the segments before. -/
structure Within (segments : Segments) (startOffset : Nat) (log : List TraceRecord)
    (cursor : VideoCursor) (started : Nat) : Prop where
  reload_eq : cursor.reload = false
  startOffset_eq : cursor.startOffset = startOffset
  trace_eq : ∃ load, cursor.loads = load + 1 ∧ cursor.trace = segments load ∧
    log = complete segments startOffset load ++
      (playable segments startOffset load).take started
  idx_eq : cursor.idx = startOffset + started
  inside : started = 0 ∨ cursor.idx < cursor.trace.length

/-- The records enqueued are those of the segments loaded, each from the start offset
on; the segments before the last are complete, and so is the last one when the next
is to be loaded. -/
def Replays (segments : Segments) (startOffset : Nat) (log : List TraceRecord)
    (cursor : VideoCursor) : Prop :=
  (cursor.reload = true ∧ cursor.startOffset = startOffset ∧
      log = complete segments startOffset cursor.loads) ∨
    ∃ started, Within segments startOffset log cursor started

theorem Replays.new (startOffset : Nat) :
    Replays segments startOffset [] (.new segments startOffset) :=
  .inr ⟨0, rfl, rfl, ⟨0, rfl, rfl, by simp [complete]⟩, rfl, .inl rfl⟩

theorem Replays.refresh {startOffset : Nat} {log : List TraceRecord} {cursor : VideoCursor}
    (replays : Replays segments startOffset log cursor) :
    ∃ started, Within segments startOffset log (cursor.refresh segments) started := by
  rcases replays with ⟨exhausted, rfl, rfl⟩ | ⟨started, within⟩
  · refine ⟨0, ?_⟩
    rw [VideoCursor.refresh, if_pos exhausted]
    exact ⟨rfl, rfl, ⟨cursor.loads, rfl, rfl, by simp⟩, rfl, .inl rfl⟩
  · refine ⟨started, ?_⟩
    rw [VideoCursor.refresh, if_neg (by simp [within.reload_eq])]
    exact within

/-- A record read within a segment is the next one of its playable records. -/
theorem Within.advance {startOffset started : Nat} {log : List TraceRecord}
    {cursor : VideoCursor} {record : TraceRecord}
    (within : Within segments startOffset log cursor started)
    (found : cursor.trace[cursor.idx]? = some record) :
    Replays segments startOffset (log ++ [record]) { cursor with
      idx := cursor.idx + 1
      reload := if cursor.idx + 1 = cursor.trace.length then true else cursor.reload } := by
  rcases within with ⟨notReload, rfl, ⟨load, loadsEq, traceEq, rfl⟩, idxEq, _⟩
  rcases List.getElem?_eq_some_iff.mp found with ⟨below, _⟩
  have next : (playable segments cursor.startOffset load)[started]? = some record := by
    rw [playable, List.getElem?_drop, ← idxEq, ← traceEq]
    exact found
  have taken : (playable segments cursor.startOffset load).take started ++ [record] =
      (playable segments cursor.startOffset load).take (started + 1) := by
    rw [List.take_add_one, next, Option.toList_some]
  rw [List.append_assoc, taken]
  by_cases last : cursor.idx + 1 = cursor.trace.length
  · left
    have whole : (playable segments cursor.startOffset load).take (started + 1) =
        playable segments cursor.startOffset load := by
      refine List.take_of_length_le ?_
      rw [playable, List.length_drop, ← traceEq]
      omega
    refine ⟨if_pos last, rfl, ?_⟩
    rw [whole, loadsEq, complete_succ]
  · right
    refine ⟨started + 1, ?_, rfl, ⟨load, loadsEq, traceEq, rfl⟩, ?_, .inr ?_⟩
    · rw [if_neg last]
      exact notReload
    · change cursor.idx + 1 = cursor.startOffset + (started + 1)
      omega
    · change cursor.idx + 1 < cursor.trace.length
      omega

theorem Replays.read {startOffset : Nat} {log : List TraceRecord}
    {cursor next : VideoCursor} {record : Option TraceRecord}
    (replays : Replays segments startOffset log cursor)
    (returned : cursor.read segments = .ok (record, next)) :
    Replays segments startOffset (log ++ record.toList) next := by
  rcases replays.refresh with ⟨started, within⟩
  rcases bind_eq_ok.mp returned with ⟨value, indexed, returned⟩
  rcases bind_eq_ok.mp returned with ⟨idx, advanced, equal⟩
  rcases add_eq_ok.mp advanced with ⟨_, rfl⟩
  cases equal
  exact within.advance (index_eq_ok.mp indexed)

/-- The next turn reads in bounds exactly when the segment it reads from is longer
than the start offset. -/
theorem Replays.inBounds_iff {startOffset : Nat} {log : List TraceRecord}
    {cursor : VideoCursor} (replays : Replays segments startOffset log cursor) :
    cursor.read segments ≠ .error .outOfBounds ↔
      startOffset < (cursor.refresh segments).trace.length := by
  rcases replays.refresh with ⟨started, within⟩
  have idxEq := within.idx_eq
  have faults : cursor.read segments = .error .outOfBounds ↔
      (cursor.refresh segments).trace.length ≤ (cursor.refresh segments).idx := by
    simp only [VideoCursor.read, bind_eq_error, index_eq_error, and_true, pure_eq_ok,
      reduceCtorEq, and_false, exists_false, or_false, add, or_iff_left_iff_imp]
    rintro ⟨_, _, wraps⟩
    split at wraps
    · cases wraps
    · cases wraps
  rw [ne_eq, faults, not_le]
  rcases within.inside with rfl | inside
  · rw [idxEq, Nat.add_zero]
  · constructor
    · intro below
      omega
    · intro _
      exact inside

/-- In every run the next turn reads in bounds, and the records enqueued are those
of the segments loaded, each complete from the start offset on before the next one is
loaded, exactly when the segment to be read is longer than the start offset. -/
theorem video_replay_iff (segments : Segments) (startOffset : Nat) (source : Source)
    {history : List (Replay.ReplayEvent VideoCursor TraceRecord)}
    {final : VideoCursor × Source}
    (run : Run (Replay.step (VideoCursor.read segments) TraceRecord.frame)
      (.new segments startOffset, source) history final) :
    (final.1.read segments ≠ .error .outOfBounds ∧
        Replays segments startOffset (Replay.replayed history) final.1) ↔
      startOffset < (final.1.refresh segments).trace.length := by
  have replays : Replays segments startOffset (Replay.replayed history) final.1 :=
    Replay.invariant (fun _ log cursor => Replays segments startOffset log cursor)
      (.new startOffset) (fun _ _ _ _ _ replays returned => replays.read returned) run
  rw [replays.inBounds_iff]
  exact and_iff_left replays

/-- A segment of two records, then segments of one. -/
def shrinking : Segments
  | 0 => [⟨10, [1], by decide⟩, ⟨20, [2, 3], by decide⟩]
  | _ + 1 => [⟨30, [4], by decide⟩]

theorem video_replay_iff_shrinking :
    ∃ history final, Run (Replay.step (VideoCursor.read shrinking) TraceRecord.frame)
      (.new shrinking 0, Source.new 0 0 100 false) history final ∧
      ((final.1.read shrinking ≠ .error .outOfBounds ∧
          Replays shrinking 0 (Replay.replayed history) final.1) ↔
        0 < (final.1.refresh shrinking).trace.length) := by
  rcases exists_run_of_any (Replay.step (VideoCursor.read shrinking) TraceRecord.frame)
    (.new shrinking 0, Source.new 0 0 100 false) [.turn 0 0, .turn 0 0] (fun _ => true)
    (by decide +kernel) with ⟨history, final, run, _, _⟩
  exact ⟨history, final, run, video_replay_iff shrinking 0 _ run⟩

/-- From offset 1 the first segment is replayed, and reading the second one panics. -/
theorem second_segment_out_of_bounds :
    ∃ history final, Run (Replay.step (VideoCursor.read shrinking) TraceRecord.frame)
      (.new shrinking 1, Source.new 0 0 100 false) history final ∧
      history.length = 1 ∧ final.1.read shrinking = .error .outOfBounds := by
  rcases exists_run_of_trace (Replay.step (VideoCursor.read shrinking) TraceRecord.frame)
    (.new shrinking 1, Source.new 0 0 100 false) [.turn 0 0]
    (fun history final => history.length == 1 &&
      (match final.1.read shrinking with
        | .error .outOfBounds => true
        | _ => false))
    (by decide +kernel) with ⟨history, final, run, _, observed⟩
  rw [Bool.and_eq_true, beq_iff_eq] at observed
  refine ⟨history, final, run, observed.1, ?_⟩
  rcases observed with ⟨_, panics⟩
  split at panics
  next equal => exact equal
  next => cases panics

end VideoCursor

end StreamReplay
