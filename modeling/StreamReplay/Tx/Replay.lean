import StreamReplay.Tx.Backlog

/-!
# Replay threads

`source_thread` and `video_thread` of `tx/src/source.rs` replay recorded traces.
Both loops read the next record at a cursor, packetise it into the throttler,
serve the queue and wait for the record's interval; they differ in the cursor.
What they share is a step function with the cursor's `read` as a parameter.
-/

namespace StreamReplay

open Checked FallibleRun

/-- A turn of the loop, or what happens to the throttler between two turns. -/
inductive ReplayOp where
  | turn (arrival : ℚ) (now : Time)
  | tryConsume (clock : Clock) (callback : PacketWithMeta → Bool)
  | setThrottle (throttle : ℚ)

namespace Replay

variable {Cursor Record : Type}

/-- A turn enqueues the record that was read, if any, and returns it. -/
def step (read : Cursor → Except Panic (Option Record × Cursor))
    (frame : Record → FrameData) :
    Step (Cursor × Source) ReplayOp (Option Record) Panic
  | (cursor, source), .turn arrival now => do
      let (record, cursor) ← read cursor
      match record with
      | none => return (none, (cursor, source))
      | some record => do
          let (_, source) ← source.step (.frame arrival (frame record) now)
          return (some record, (cursor, source))
  | (cursor, source), .tryConsume clock callback => do
      let (_, source) ← source.step (.tryConsume clock callback)
      return (none, (cursor, source))
  | (cursor, source), .setThrottle throttle => do
      let (_, source) ← source.step (.setThrottle throttle)
      return (none, (cursor, source))

abbrev ReplayEvent (Cursor Record : Type) :=
  Event (Cursor × Source) ReplayOp (Option Record)

def ReplayEvent.isTurn (event : ReplayEvent Cursor Record) : Bool :=
  match event.op with
  | .turn _ _ => true
  | _ => false

/-- The number of turns of the loop. -/
def turns (history : List (ReplayEvent Cursor Record)) : Nat :=
  history.countP ReplayEvent.isTurn

/-- The records enqueued, in order. -/
def replayed (history : List (ReplayEvent Cursor Record)) : List Record :=
  history.filterMap Event.out

@[simp] theorem replayed_snoc (history : List (ReplayEvent Cursor Record))
    (event : ReplayEvent Cursor Record) :
    replayed (history ++ [event]) = replayed history ++ event.out.toList := by
  cases out : event.out <;> simp [replayed, out]

variable {read : Cursor → Except Panic (Option Record × Cursor)} {frame : Record → FrameData}

/-- A turn reads the cursor; what happens between two turns leaves it alone. -/
theorem step_cases {cursor next : Cursor} {source after : Source} {op : ReplayOp}
    {out : Option Record}
    (taken : step read frame (cursor, source) op = .ok (out, (next, after))) :
    (∃ arrival now, op = .turn arrival now ∧ read cursor = .ok (out, next)) ∨
      (∀ arrival now, op ≠ .turn arrival now) ∧ out = none ∧ next = cursor := by
  cases op with
  | turn arrival now =>
      rcases bind_eq_ok.mp taken with ⟨⟨record, cursor'⟩, readOk, taken⟩
      refine .inl ⟨arrival, now, rfl, ?_⟩
      cases record with
      | none =>
          cases taken
          exact readOk
      | some record =>
          rcases bind_eq_ok.mp taken with ⟨_, _, equal⟩
          cases equal
          exact readOk
  | tryConsume clock callback =>
      rcases bind_eq_ok.mp taken with ⟨_, _, equal⟩
      cases equal
      exact .inr ⟨by simp, rfl, rfl⟩
  | setThrottle throttle =>
      rcases bind_eq_ok.mp taken with ⟨_, _, equal⟩
      cases equal
      exact .inr ⟨by simp, rfl, rfl⟩

/-- Invariant rule for replays: what reading keeps holds of the records enqueued and
the cursor reached. -/
theorem invariant (inv : Nat → List Record → Cursor → Prop) {cursor : Cursor}
    {source : Source} (initial : inv 0 [] cursor)
    (preserved : ∀ count log cursor record next, inv count log cursor →
      read cursor = .ok (record, next) → inv (count + 1) (log ++ record.toList) next)
    {history : List (ReplayEvent Cursor Record)} {final : Cursor × Source}
    (run : Run (step read frame) (cursor, source) history final) :
    inv (turns history) (replayed history) final.1 := by
  induction run with
  | nil => exact initial
  | @snoc history state next op out run taken ih =>
      rcases step_cases taken with ⟨arrival, now, rfl, readOk⟩ | ⟨idle, rfl, same⟩
      · have counted : turns (history ++ [⟨state, .turn arrival now, out, next⟩]) =
            turns history + 1 := by simp [turns, ReplayEvent.isTurn]
        rw [replayed_snoc, counted]
        exact preserved _ _ _ _ _ ih readOk
      · have counted : turns (history ++ [⟨state, op, none, next⟩]) = turns history := by
          cases op with
          | turn arrival now => exact absurd rfl (idle arrival now)
          | tryConsume => simp [turns, ReplayEvent.isTurn]
          | setThrottle => simp [turns, ReplayEvent.isTurn]
        rw [replayed_snoc, counted, Option.toList_none, List.append_nil, same]
        exact ih

end Replay

/-! ## The trace replay -/

/-- A row of the trace array. -/
structure TraceRow where
  intervalNs : UInt64
  sizeBytes : UInt64
  deriving DecidableEq

def TraceRow.frame (row : TraceRow) : FrameData := .dummy row.sizeBytes.toNat

/-- The loop variables of `source_thread`, with its trace and `params.loops`. -/
structure TraceCursor where
  trace : List TraceRow
  maxLoops : Nat
  loops : Nat
  idx : Nat

namespace TraceCursor

def new (trace : List TraceRow) (startOffset maxLoops : Nat) : TraceCursor where
  trace
  maxLoops
  loops := 0
  idx := startOffset

/-- The remainder of unsigned integers. -/
def rem (left right : Nat) : Except Panic Nat :=
  if right = 0 then .error (.message "remainder with a divisor of zero")
  else .ok (left % right)

theorem rem_eq_ok {left right remainder : Nat} :
    rem left right = .ok remainder ↔ right ≠ 0 ∧ remainder = left % right := by
  unfold rem
  split
  next zero => simp [zero]
  next nonzero => simp [nonzero, eq_comm]

/-- The row of this turn, as long as the loop count stays below its maximum. -/
def read (cursor : TraceCursor) : Except Panic (Option TraceRow × TraceCursor) := do
  let loops ← add 64 cursor.loops 1
  if loops < cursor.maxLoops then
    let idx ← add 64 cursor.idx 1
    let idx ← rem idx cursor.trace.length
    let row ← index cursor.trace idx
    return (some row, { cursor with loops, idx })
  else return (none, { cursor with loops })

/-- The ways in which `read` returns. -/
theorem read_cases {cursor next : TraceCursor} {row : Option TraceRow}
    (returned : cursor.read = .ok (row, next)) :
    (cursor.loops + 1 < cursor.maxLoops ∧
      row = cursor.trace[(cursor.idx + 1) % cursor.trace.length]? ∧ row.isSome ∧
      next = { cursor with
        loops := cursor.loops + 1
        idx := (cursor.idx + 1) % cursor.trace.length }) ∨
    (cursor.maxLoops ≤ cursor.loops + 1 ∧ row = none ∧
      next = { cursor with loops := cursor.loops + 1 }) := by
  unfold read at returned
  rcases bind_eq_ok.mp returned with ⟨loops, counted, returned⟩
  rcases add_eq_ok.mp counted with ⟨_, rfl⟩
  split at returned
  next below =>
    rcases bind_eq_ok.mp returned with ⟨idx, advanced, returned⟩
    rcases add_eq_ok.mp advanced with ⟨_, rfl⟩
    rcases bind_eq_ok.mp returned with ⟨wrapped, remainder, returned⟩
    obtain rfl := rem_eq_ok.mp remainder |>.2
    rcases bind_eq_ok.mp returned with ⟨found, indexed, equal⟩
    cases equal
    exact .inl ⟨below, (index_eq_ok.mp indexed).symm, rfl, rfl⟩
  next above =>
    cases returned
    exact .inr ⟨Nat.not_lt.mp above, rfl, rfl⟩

/-- The rows that `count` turns read from `first` on, going around the trace. -/
def rows (recording : List TraceRow) (first count : Nat) : List (Option TraceRow) :=
  (List.range count).map fun turn => recording[(first + turn) % recording.length]?

theorem rows_succ (recording : List TraceRow) (first count : Nat) :
    rows recording first (count + 1) =
      rows recording first count ++ [recording[(first + count) % recording.length]?] := by
  simp [rows, List.range_succ]

@[simp] theorem length_rows (recording : List TraceRow) (first count : Nat) :
    (rows recording first count).length = count := by
  simp [rows]

/-- Where the cursor is after `count` turns that have enqueued `log`. -/
structure Follows (recording : List TraceRow) (startOffset maxLoops count : Nat)
    (log : List TraceRow) (cursor : TraceCursor) : Prop where
  trace_eq : cursor.trace = recording
  maxLoops_eq : cursor.maxLoops = maxLoops
  loops_eq : cursor.loops = count
  idx_eq : cursor.idx % recording.length =
    (startOffset + min count (maxLoops - 1)) % recording.length
  log_eq : log.map some = rows recording (startOffset + 1) (min count (maxLoops - 1))

theorem Follows.read {recording : List TraceRow} {startOffset maxLoops count : Nat}
    {log : List TraceRow} {cursor next : TraceCursor} {row : Option TraceRow}
    (follows : Follows recording startOffset maxLoops count log cursor)
    (returned : cursor.read = .ok (row, next)) :
    Follows recording startOffset maxLoops (count + 1) (log ++ row.toList) next := by
  rcases follows with ⟨rfl, rfl, rfl, idxEq, logEq⟩
  rcases read_cases returned with ⟨below, rowEq, found, rfl⟩ | ⟨above, rfl, rfl⟩
  · have before : min cursor.loops (cursor.maxLoops - 1) = cursor.loops := by omega
    have after : min (cursor.loops + 1) (cursor.maxLoops - 1) = cursor.loops + 1 := by omega
    rw [before] at idxEq logEq
    have position : (cursor.idx + 1) % cursor.trace.length =
        (startOffset + 1 + cursor.loops) % cursor.trace.length := by
      rw [Nat.add_right_comm, Nat.add_mod, idxEq, ← Nat.add_mod]
    refine ⟨rfl, rfl, rfl, ?_, ?_⟩
    · rw [after, Nat.mod_mod, position, Nat.add_assoc, Nat.add_comm 1]
    · rcases Option.isSome_iff_exists.mp found with ⟨value, rfl⟩
      rw [after, rows_succ, ← position, ← rowEq, ← logEq]
      simp
  · have stays : min (cursor.loops + 1) (cursor.maxLoops - 1) =
        min cursor.loops (cursor.maxLoops - 1) := by omega
    refine ⟨rfl, rfl, rfl, ?_, ?_⟩
    · rw [stays, idxEq]
    · rw [stays]
      simpa using logEq

/-- The configured replay: as many records as loops, from the start offset on. -/
def Replays (recording : List TraceRow) (startOffset maxLoops : Nat) (log : List TraceRow) :
    Prop :=
  log.map some = rows recording startOffset maxLoops

instance (recording : List TraceRow) (startOffset maxLoops : Nat) (log : List TraceRow) :
    Decidable (Replays recording startOffset maxLoops log) :=
  inferInstanceAs (Decidable (_ = _))

/-- No run is the configured replay.  The turns enqueue one record each until there
is one less than the configured number, from the row behind the start offset on. -/
theorem trace_replay_short {recording : List TraceRow} {startOffset maxLoops : Nat}
    (positive : 1 ≤ maxLoops) {source : Source}
    {history : List (Replay.ReplayEvent TraceCursor TraceRow)}
    {final : TraceCursor × Source}
    (run : Run (Replay.step TraceCursor.read TraceRow.frame)
      (.new recording startOffset maxLoops, source) history final) :
    ¬Replays recording startOffset maxLoops (Replay.replayed history) ∧
      (Replay.replayed history).map some =
        rows recording (startOffset + 1) (min (Replay.turns history) (maxLoops - 1)) := by
  have follows : Follows recording startOffset maxLoops (Replay.turns history)
      (Replay.replayed history) final.1 :=
    Replay.invariant (Follows recording startOffset maxLoops)
      ⟨rfl, rfl, rfl, by simp [new], by simp [rows]⟩
      (fun _ _ _ _ _ follows returned => follows.read returned) run
  refine ⟨fun replays => ?_, follows.log_eq⟩
  have tooMany := congrArg List.length (replays.symm.trans follows.log_eq)
  simp only [length_rows] at tooMany
  omega

def twoRows : List TraceRow := [⟨10, 100⟩, ⟨20, 200⟩]

def threeTurns : List ReplayOp := [.turn 0 0, .turn 0 0, .turn 0 0]

theorem trace_replay_short_two :
    ∃ history final, Run (Replay.step TraceCursor.read TraceRow.frame)
      (.new twoRows 0 3, Source.new 0 0 100 false) history final ∧
      ¬Replays twoRows 0 3 (Replay.replayed history) ∧
      (Replay.replayed history).map some =
        rows twoRows (0 + 1) (min (Replay.turns history) (3 - 1)) := by
  rcases exists_run_of_any (Replay.step TraceCursor.read TraceRow.frame)
    (.new twoRows 0 3, Source.new 0 0 100 false) threeTurns (fun _ => true)
    (by decide +kernel) with ⟨history, final, run, _, _⟩
  exact ⟨history, final, run, trace_replay_short (by decide) run⟩

/-- With two loops configured, three turns replay one record, the second one. -/
theorem one_record_replayed :
    ∃ history final, Run (Replay.step TraceCursor.read TraceRow.frame)
      (.new twoRows 0 2, Source.new 0 0 100 false) history final ∧
      Replay.turns history = 3 ∧ Replay.replayed history = [⟨20, 200⟩] ∧
      ¬Replays twoRows 0 2 (Replay.replayed history) := by
  rcases exists_run_of_trace (Replay.step TraceCursor.read TraceRow.frame)
    (.new twoRows 0 2, Source.new 0 0 100 false) threeTurns
    (fun history _ => Replay.turns history == 3 && Replay.replayed history == [⟨20, 200⟩])
    (by decide +kernel) with ⟨history, final, run, _, observed⟩
  rw [Bool.and_eq_true, beq_iff_eq, beq_iff_eq] at observed
  refine ⟨history, final, run, observed.1, observed.2, ?_⟩
  rw [observed.2]
  decide

end TraceCursor

end StreamReplay
