import StreamReplay.Foundation.Guarded
import StreamReplay.System.Provenance
import StreamReplay.Tx.Switching
import StreamReplay.Tx.TraceFormat
import StreamReplay.Tx.Video

/-!
# Playback

`video_thread` of `tx/src/source.rs` from the files to the wire.  The thread asks the version
manager for a path and reads the segment behind it, sends its records as frames, and asks
again when it has come to the end.  The control channel switches versions at any point in
between.

The path is asked for and its file is read under the lock of the version manager, so a
failure there leaves the lock poisoned.
-/

namespace StreamReplay

open Checked FallibleRun Guarded

/-- What the thread finds around it, and the offset at which it starts each segment. -/
structure VideoSetup where
  socketInfos : SocketInfo
  files : String → Option (List UInt8)
  memory : TraceReader.Memory
  startOffset : Nat

/-- A video thread with the version manager that it shares, and the segments that it has
loaded so far. -/
structure Player where
  versions : Mutex VersionManager
  cursor : VideoCursor
  loaded : List (String × List TraceRecord)
  sender : Sender

/-- The steps of the thread; `setVersion` is the control channel's. -/
inductive PlayerOp where
  | load
  | frame (arrival : ℚ) (now : Time)
  | sender (op : SenderOp)
  | setVersion (versionIndex : UInt32)

namespace Player

/-- The first segment is still to be loaded. -/
def start (setup : VideoSetup) (manager : VersionManager) (port : UInt16) (throttle : ℚ)
    (windowSize : Nat) (ctler : TxPartCtler) : Player where
  versions := .new manager
  cursor := ⟨setup.startOffset, [], true, 0, 0⟩
  loaded := []
  sender := .new port throttle windowSize ctler

/-- `read_packets(version_manager.next()).expect("loading failed.")` -/
def fetch (setup : VideoSetup) (manager : VersionManager) :
    Except Panic ((String × List TraceRecord) × VersionManager) := do
  let (path, manager) ← manager.next
  match setup.files path with
  | none => .error (.message "loading failed.")
  | some file =>
      match ← TraceReader.readPackets setup.memory file with
      | .error _ => .error (.message "loading failed.")
      | .ok trace => return ((path, trace), manager)

/-- The thread ends with a panic. -/
def panic (player : Player) : Player :=
  { player with sender := { player.sender with phase := .panicked } }

def load (setup : VideoSetup) (player : Player) : Player :=
  if player.versions.poisoned then player.panic
  else
    match fetch setup player.versions.value with
    | .error _ => { player.panic with versions := player.versions.poison }
    | .ok (segment, manager) =>
        { player with
          versions := { player.versions with value := manager }
          cursor := player.cursor.refresh fun _ => segment.2
          loaded := player.loaded ++ [segment] }

/-- The next record of the segment.  No segment is due, so none is asked for. -/
def takeRecord (player : Player) (arrival : ℚ) (now : Time) : Player :=
  match player.cursor.read fun _ => [] with
  | .ok (some record, cursor) =>
      let sender := player.sender.takeFrame arrival record.frame now
      if sender.phase = .panicked then { player with sender }
      else { player with cursor, sender }
  | _ => player.panic

/-- Frames come from the segments alone. -/
def apply (setup : VideoSetup) (player : Player) : PlayerOp → Player
  | .load =>
      if player.sender.phase = .waiting ∧ player.cursor.reload = true then player.load setup
      else player
  | .frame arrival now =>
      if player.sender.phase = .waiting ∧ player.cursor.reload = false then
        player.takeRecord arrival now
      else player
  | .sender (.frame _ _ _) => player
  | .sender op => { player with sender := player.sender.apply setup.socketInfos op }
  | .setVersion versionIndex =>
      { player with
        versions := player.versions.modify fun manager => manager.setVersion versionIndex }

def step (setup : VideoSetup) : FallibleRun.Step Player PlayerOp Unit Panic :=
  fun player op => .ok ((), player.apply setup op)

/-- A step of the sender that takes no frame is its own. -/
theorem apply_sender {setup : VideoSetup} {player : Player} {op : SenderOp}
    (other : ∀ arrival data now, op ≠ .frame arrival data now) :
    player.apply setup (.sender op) =
      { player with sender := player.sender.apply setup.socketInfos op } := by
  cases op with
  | frame arrival data now => exact absurd rfl (other arrival data now)
  | _ => rfl

@[simp] theorem loaded_apply_sender (setup : VideoSetup) (player : Player) (op : SenderOp) :
    (player.apply setup (.sender op)).loaded = player.loaded := by
  cases op <;> rfl

@[simp] theorem loaded_takeRecord (player : Player) (arrival : ℚ) (now : Time) :
    (player.takeRecord arrival now).loaded = player.loaded := by
  unfold takeRecord
  split
  next =>
    simp only
    split <;> rfl
  next => rfl

/-- The segments loaded, by their number. -/
def segments (player : Player) : Segments :=
  fun load => ((player.loaded[load]?).map Prod.snd).getD []

end Player

abbrev PlayerEvent := Event Player PlayerOp Unit

/-- The segment that a step loads. -/
def PlayerEvent.loads (event : PlayerEvent) (segment : String × List TraceRecord) : Prop :=
  event.after.loaded = event.before.loaded ++ [segment]

/-- The calls of the version manager in a step. -/
def PlayerEvent.versionOps (event : PlayerEvent) : List VersionOp :=
  match event.op with
  | .setVersion versionIndex => [.setVersion versionIndex]
  | _ => if event.after.loaded.length = event.before.loaded.length then [] else [.next]

def versionLog (history : List PlayerEvent) : List VersionOp :=
  history.flatMap PlayerEvent.versionOps

/-- A segment is what its file encodes, up to a few bytes at the end that are no header. -/
def VideoSetup.Decodes (setup : VideoSetup) (segment : String × List TraceRecord) : Prop :=
  ∃ file, setup.files segment.1 = some file ∧
    ∃ rest, file = encode segment.2 ++ rest ∧ rest.length < 16

/-- The records of a segment that are played. -/
def VideoSetup.playable (setup : VideoSetup) (segment : String × List TraceRecord) :
    List TraceRecord :=
  segment.2.drop setup.startOffset

/-! ## Loading and reading -/

theorem Player.fetch_eq_ok {setup : VideoSetup} {manager after : VersionManager}
    {segment : String × List TraceRecord}
    (fetched : fetch setup manager = .ok (segment, after)) :
    manager.next = .ok (segment.1, after) ∧ setup.Decodes segment := by
  rcases bind_eq_ok.mp fetched with ⟨⟨path, manager⟩, returned, rest⟩
  cases found : setup.files path with
  | none =>
      simp only [found] at rest
      cases rest
  | some file =>
      simp only [found] at rest
      rcases bind_eq_ok.mp rest with ⟨result, read, rest⟩
      cases result with
      | error fails => cases rest
      | ok trace =>
          cases rest
          rcases TraceReader.exists_of_readRecords read with ⟨records, left, rfl, same, short⟩
          exact ⟨returned, file, found, left, same, short⟩

namespace VideoCursor

/-- What has been replayed depends on the segments that have been loaded alone. -/
theorem complete_congr {first second : Segments} {startOffset loads : Nat}
    (same : ∀ load < loads, first load = second load) :
    complete first startOffset loads = complete second startOffset loads := by
  unfold complete
  rw [List.flatMap_def, List.flatMap_def]
  congr 1
  refine List.map_congr_left fun load member => ?_
  rw [playable, playable, same load (List.mem_range.mp member)]

theorem read_eq_of_loaded {cursor : VideoCursor} (loaded : cursor.reload = false)
    (first second : Segments) : cursor.read first = cursor.read second := by
  simp only [read, refresh, loaded, Bool.false_eq_true, if_false]

theorem loads_of_read {cursor next : VideoCursor} {segments : Segments}
    {record : Option TraceRecord} (loaded : cursor.reload = false)
    (returned : cursor.read segments = .ok (record, next)) : next.loads = cursor.loads := by
  rcases bind_eq_ok.mp returned with ⟨_, _, returned⟩
  rcases bind_eq_ok.mp returned with ⟨_, _, equal⟩
  cases equal
  simp [refresh, loaded]

/-- The next segment joins those that have been replayed. -/
theorem Replays.load {segments later : Segments} {startOffset : Nat}
    {log : List TraceRecord} {cursor : VideoCursor}
    (replays : Replays segments startOffset log cursor) (due : cursor.reload = true)
    (same : ∀ load < cursor.loads, segments load = later load) :
    Replays later startOffset log (cursor.refresh fun _ => later cursor.loads) := by
  rcases replays with ⟨_, offset, logEq⟩ | ⟨started, within⟩
  · have replays : Replays later startOffset log cursor :=
      .inl ⟨due, offset, logEq.trans (complete_congr same)⟩
    have next : (cursor.refresh fun _ => later cursor.loads) = cursor.refresh later := by
      simp only [VideoCursor.refresh, due, if_true]
    exact next ▸ .inr replays.refresh
  · rw [within.reload_eq] at due
    cases due

end VideoCursor

/-! ## The invariant -/

/-- What the thread has done after the calls `log` of its version manager. -/
structure Plays (setup : VideoSetup) (cfg : VersionManager.Config) (log : List VersionOp)
    (player : Player) : Prop where
  versions : player.versions.poisoned = false →
    VersionManager.Tracks cfg log player.versions.value
  count_eq : log.count .next = player.loaded.length
  loads_eq : player.cursor.loads = player.loaded.length
  decoded : ∀ segment ∈ player.loaded, setup.Decodes segment
  replays : ∃ records, player.sender.frames = records.map TraceRecord.frame ∧
    VideoCursor.Replays player.segments setup.startOffset records player.cursor
  produces : player.sender.Produces

namespace Plays

variable {setup : VideoSetup} {cfg : VersionManager.Config} {log : List VersionOp}
  {player next : Player}

theorem start {manager : VersionManager} (created : VersionManager.new cfg = .ok manager)
    (port : UInt16) (throttle : ℚ) (windowSize : Nat) (ctler : TxPartCtler) :
    Plays setup cfg [] (.start setup manager port throttle windowSize ctler) where
  versions := fun _ => .initial created
  count_eq := rfl
  loads_eq := rfl
  decoded := fun _ member => absurd member List.not_mem_nil
  replays := ⟨[], rfl, .inl ⟨rfl, rfl, rfl⟩⟩
  produces := .new port throttle windowSize ctler

/-- A step of the sender that takes no frame. -/
theorem congr (plays : Plays setup cfg log player) {sender : Sender}
    (frames : sender.frames = player.sender.frames) (produces : sender.Produces) :
    Plays setup cfg log { player with sender } :=
  ⟨plays.versions, plays.count_eq, plays.loads_eq, plays.decoded, frames ▸ plays.replays,
    produces⟩

theorem panic (plays : Plays setup cfg log player) : Plays setup cfg log player.panic :=
  plays.congr rfl (plays.produces.congr rfl rfl rfl rfl fun alive => absurd rfl alive)

/-- The segment that is loaded is the next one. -/
theorem load (plays : Plays setup cfg log player) (due : player.cursor.reload = true) :
    let next := player.load setup
    Plays setup cfg
      (log ++ if next.loaded.length = player.loaded.length then [] else [.next]) next := by
  unfold Player.load
  split
  next =>
    simp only [Player.panic, if_true, List.append_nil]
    exact plays.panic
  next alive =>
    split
    next =>
      have panicked := plays.panic
      simp only [Player.panic, if_true, List.append_nil]
      exact ⟨fun healthy => absurd healthy (by simp [Mutex.poison]), panicked.count_eq,
        panicked.loads_eq, panicked.decoded, panicked.replays, panicked.produces⟩
    next segment manager fetched =>
      rcases Player.fetch_eq_ok fetched with ⟨returned, decodes⟩
      have tracks := plays.versions (Bool.eq_false_iff.mpr alive)
      have longer : (player.loaded ++ [segment]).length ≠ player.loaded.length := by simp
      simp only [longer, if_false]
      rcases plays.replays with ⟨records, frames, replays⟩
      let later : Player := { player with loaded := player.loaded ++ [segment] }
      have same : ∀ load < player.cursor.loads, player.segments load = later.segments load := by
        intro load below
        rw [plays.loads_eq] at below
        simp only [Player.segments, later, List.getElem?_append_left below]
      have added : later.segments player.cursor.loads = segment.2 := by
        simp [Player.segments, later, plays.loads_eq]
      refine ⟨fun _ => ?_, ?_, ?_, ?_, ⟨records, frames, ?_⟩, plays.produces⟩
      · have taken : player.versions.value.step .next = .ok (.path segment.1, manager) :=
          bind_eq_ok.mpr ⟨_, returned, rfl⟩
        exact tracks.of_step taken
      · simp [List.count_append, plays.count_eq]
      · simp [VideoCursor.refresh, due, plays.loads_eq]
      · intro other member
        rcases List.mem_append.mp member with old | new
        · exact plays.decoded other old
        · exact List.mem_singleton.mp new ▸ decodes
      · have loaded := replays.load due same
        rwa [added] at loaded

/-- The record that is taken is the next one of its segment. -/
theorem takeRecord (plays : Plays setup cfg log player)
    (waiting : player.sender.phase = .waiting) (loaded : player.cursor.reload = false)
    (arrival : ℚ) (now : Time) : Plays setup cfg log (player.takeRecord arrival now) := by
  unfold Player.takeRecord
  split
  next record cursor returned =>
    have produces := plays.produces.takeFrame arrival record.frame now (by simp [waiting])
    have cases := player.sender.takeFrame_cases arrival record.frame now
    generalize player.sender.takeFrame arrival record.frame now = sender at *
    rcases cases with ⟨panicked, frames⟩ | ⟨queued, taken⟩
    · simp only [panicked, if_true]
      exact plays.congr frames produces
    · simp only [queued, reduceCtorEq, if_false]
      rcases plays.replays with ⟨records, frames, replays⟩
      rw [VideoCursor.read_eq_of_loaded loaded _ player.segments] at returned
      refine ⟨plays.versions, plays.count_eq, ?_, plays.decoded,
        ⟨records ++ [record], ?_, replays.read returned⟩, produces⟩
      · exact (VideoCursor.loads_of_read loaded returned).trans plays.loads_eq
      · rw [taken, List.map_append, frames, List.map_singleton]
  next => exact plays.panic

/-- Step lemma. -/
theorem apply (plays : Plays setup cfg log player) (op : PlayerOp) :
    Plays setup cfg (log ++ PlayerEvent.versionOps ⟨player, op, (), player.apply setup op⟩)
      (player.apply setup op) := by
  cases op with
  | load =>
      simp only [PlayerEvent.versionOps, Player.apply]
      split
      next now => exact plays.load now.2
      next => simpa using plays
  | frame arrival now =>
      simp only [PlayerEvent.versionOps, Player.apply]
      split
      next here =>
        rw [Player.loaded_takeRecord, if_pos rfl, List.append_nil]
        exact plays.takeRecord here.1 here.2 arrival now
      next => simpa using plays
  | sender op =>
      simp only [PlayerEvent.versionOps, Player.loaded_apply_sender, if_true, List.append_nil]
      by_cases frame : ∃ arrival data now, op = .frame arrival data now
      · rcases frame with ⟨_, _, _, rfl⟩
        exact plays
      · have other : ∀ arrival data now, op ≠ .frame arrival data now :=
          fun arrival data now same => frame ⟨arrival, data, now, same⟩
        rw [Player.apply_sender other]
        exact plays.congr (player.sender.frames_apply setup.socketInfos other)
          (plays.produces.apply setup.socketInfos op)
  | setVersion versionIndex =>
      refine ⟨fun alive => ?_, ?_, plays.loads_eq, plays.decoded, plays.replays, plays.produces⟩
      · simp only [Player.apply, Mutex.poisoned_modify] at alive
        have taken : player.versions.value.step (.setVersion versionIndex) =
          .ok (.done, _) := rfl
        simp only [Player.apply, Mutex.modify, alive]
        exact (plays.versions alive).of_step taken
      · simp [PlayerEvent.versionOps, Player.apply, List.count_append, plays.count_eq]

theorem of_run {manager : VersionManager} {port : UInt16} {throttle : ℚ} {windowSize : Nat}
    {ctler : TxPartCtler} {history : List PlayerEvent}
    (created : VersionManager.new cfg = .ok manager)
    (run : Run (Player.step setup) (.start setup manager port throttle windowSize ctler) history
      player) : Plays setup cfg (versionLog history) player := by
  induction run with
  | nil => exact .start created port throttle windowSize ctler
  | snoc _ taken ih =>
      cases taken
      have snoc := ih.apply
      simpa [versionLog] using snoc _

/-- The segments loaded are played in part, those before the last one whole. -/
theorem exists_records (plays : Plays setup cfg log player) :
    ∃ records, player.sender.frames = records.map TraceRecord.frame ∧
      records <+: player.loaded.flatMap setup.playable ∧
      player.loaded.dropLast.flatMap setup.playable <+: records := by
  have complete : ∀ loads, loads ≤ player.loaded.length →
      VideoCursor.complete player.segments setup.startOffset loads =
        (player.loaded.take loads).flatMap setup.playable := by
    intro loads
    induction loads with
    | zero => exact fun _ => rfl
    | succ loads ih =>
        intro below
        have found := List.getElem?_eq_getElem (Nat.lt_of_succ_le below)
        rw [VideoCursor.complete_succ, ih (Nat.le_of_succ_le below), List.take_add_one, found,
          List.flatMap_append, VideoCursor.playable, Player.segments, found]
        simp [VideoSetup.playable]
  have whole := complete _ (le_refl player.loaded.length)
  rw [List.take_length] at whole
  have before := complete _ (Nat.sub_le player.loaded.length 1)
  rw [← List.dropLast_eq_take] at before
  rw [← whole, ← before]
  rcases plays.replays with ⟨records, frames, ⟨_, _, rfl⟩ | ⟨started, within⟩⟩
  · refine ⟨_, frames, ?_, ?_⟩
    · rw [plays.loads_eq]
    · rw [plays.loads_eq, before, whole]
      rcases List.eq_nil_or_concat player.loaded with none | ⟨front, last, some⟩
      · rw [none]
        exact List.prefix_refl _
      · rw [some, List.concat_eq_append, List.dropLast_concat, List.flatMap_append]
        exact List.prefix_append _ _
  · rcases within.trace_eq with ⟨load, loadsEq, _, rfl⟩
    rw [← plays.loads_eq, loadsEq, Nat.add_sub_cancel]
    refine ⟨_, frames, ?_, List.prefix_append _ _⟩
    rw [VideoCursor.complete_succ]
    exact (List.prefix_append_right_inj _).mpr (List.take_prefix _ _)

end Plays

/-- A load adds the segment that it has fetched. -/
theorem Player.load_cases (setup : VideoSetup) (player : Player) :
    (player.load setup).loaded = player.loaded ∨
      ∃ segment manager, player.versions.poisoned = false ∧
        fetch setup player.versions.value = .ok (segment, manager) ∧
        (player.load setup).loaded = player.loaded ++ [segment] := by
  unfold load
  split
  next => exact .inl rfl
  next alive =>
    split
    next => exact .inl rfl
    next segment manager fetched =>
      exact .inr ⟨segment, manager, Bool.eq_false_iff.mpr alive, fetched, rfl⟩

/-- Only a load adds a segment. -/
theorem Player.loaded_apply (setup : VideoSetup) (player : Player) (op : PlayerOp) :
    (player.apply setup op).loaded = player.loaded ∨
      (player.apply setup op).loaded = (player.load setup).loaded := by
  cases op with
  | load =>
      simp only [apply]
      split
      next => exact .inr rfl
      next => exact .inl rfl
  | frame arrival now =>
      simp only [apply]
      split
      next => exact .inl (player.loaded_takeRecord arrival now)
      next => exact .inl rfl
  | sender op => exact .inl (player.loaded_apply_sender setup op)
  | setVersion => exact .inl rfl

/-- A step that loads a segment has asked the version manager for it. -/
theorem PlayerEvent.fetched_of_loads {setup : VideoSetup} {player : Player} {op : PlayerOp}
    {segment : String × List TraceRecord}
    (loads : PlayerEvent.loads ⟨player, op, (), player.apply setup op⟩ segment) :
    player.versions.poisoned = false ∧
      ∃ manager, player.versions.value.next = .ok (segment.1, manager) := by
  have longer : (player.apply setup op).loaded = player.loaded ++ [segment] := loads
  have more : player.loaded ++ [segment] ≠ player.loaded := by simp
  rcases player.loaded_apply setup op with same | same
  · exact absurd (longer.symm.trans same) more
  · rcases player.load_cases setup with idle | ⟨other, manager, alive, fetched, added⟩
    · exact absurd (longer.symm.trans (same.trans idle)) more
    · have equal := longer.symm.trans (same.trans added)
      obtain rfl := List.singleton_inj.mp (List.append_cancel_left equal)
      exact ⟨alive, manager, (Player.fetch_eq_ok fetched).1⟩

/-- In every run of the video thread, whatever versions the control channel switches to in
between, the frames sent are the records of the segments loaded from the start offset on,
one segment after the other and all but the last complete.  The segments are what their files
encode, the one for each slot in turn and in the version selected at that time, and every
datagram carries its part of its record. -/
theorem playback_exact {setup : VideoSetup} {cfg : VersionManager.Config}
    {manager : VersionManager} {port : UInt16} {throttle : ℚ} {windowSize : Nat}
    {ctler : TxPartCtler} {history : List PlayerEvent} {player : Player}
    (created : VersionManager.new cfg = .ok manager)
    (run : Run (Player.step setup) (.start setup manager port throttle windowSize ctler) history
      player) :
    (∃ records, player.sender.frames = records.map TraceRecord.frame ∧
      records <+: player.loaded.flatMap setup.playable ∧
      player.loaded.dropLast.flatMap setup.playable <+: records ∧
      ∀ sent ∈ player.sender.outlet.wire, ∃ position record,
        records[position]? = some record ∧ sent.seq.toNat = position + 1 ∧
          sent.content = chunk record.data sent.offset) ∧
      (∀ segment ∈ player.loaded, setup.Decodes segment) ∧
      ∀ earlier event later segment, history = earlier ++ event :: later →
        PlayerEvent.loads event segment → ∃ version file,
          cfg.versions[(cfg.selected (versionLog earlier)).toNat]? = some version ∧
          version.files[event.before.loaded.length % cfg.period]? = some file ∧
          segment.1 = file.path := by
  have plays : Plays setup cfg (versionLog history) player := .of_run created run
  refine ⟨?_, plays.decoded, ?_⟩
  · rcases plays.exists_records with ⟨records, frames, whole, before⟩
    refine ⟨records, frames, whole, before, fun sent member => ?_⟩
    rcases plays.produces.wire_sent sent member with ⟨position, data, found, seqEq, carried⟩
    rw [frames, List.getElem?_map] at found
    rcases Option.map_eq_some_iff.mp found with ⟨record, recordFound, rfl⟩
    refine ⟨position, record, recordFound, seqEq, ?_⟩
    have content := carried.content_eq record.data rfl
    rwa [UInt16.ofNat_toNat] at content
  · rintro earlier ⟨state, op, out, after⟩ later segment rfl loads
    rcases run.cut.of_snoc with ⟨front, stepped⟩
    obtain rfl : state.apply setup op = after := congrArg Prod.snd (Except.ok.inj stepped)
    rcases PlayerEvent.fetched_of_loads loads with ⟨alive, manager, returned⟩
    have before : Plays setup cfg (versionLog earlier) state := .of_run created front
    have tracks := before.versions alive
    rcases VersionManager.next_eq_ok tracks.slot_lt returned with
      ⟨_, version, file, _, versionFound, fileFound, pathEq, _⟩
    rw [tracks.cfg_eq, tracks.version_eq] at versionFound
    rw [tracks.slot_eq, before.count_eq] at fileFound
    exact ⟨version, file, versionFound, fileFound, pathEq⟩

/-- The first segment of the initial version has two records, the second of version 3 one. -/
def firstSegment : List TraceRecord := [⟨10, [1, 2, 3], by decide⟩, ⟨20, [4, 5], by decide⟩]

def secondSegment : List TraceRecord := [⟨30, [6], by decide⟩]

def twoSegments : VideoSetup where
  socketInfos := twoSockets
  files := fun path =>
    if path = VersionManager.segmentPath 10 0 then some (encode firstSegment)
    else if path = VersionManager.segmentPath 3 1 then some (encode secondSegment)
    else none
  memory := fun _ _ => true
  startOffset := 0

/-- A record of one packet: it is taken, reported and sent, and the loop left. -/
def oneRecord (now : Time) : List PlayerOp :=
  [.frame 0 now, .sender (.register now), .sender (.turn (.still now) .sent), .sender .leave]

/-- Both records of the first segment, a switch of the version, and the second segment. -/
def switchedPlayback : List PlayerOp :=
  .load :: oneRecord 1 ++ oneRecord 2 ++ [.setVersion 3, .load] ++ oneRecord 3

def elevenManager : VersionManager :=
  ⟨VersionManager.elevenVersions, VersionManager.initialVersion, 11000, 11000, 0⟩

def switchedPlayer : Player :=
  .start twoSegments elevenManager 5005 0 4
    (.new .hardThreshold unitParameters ⟨false, ⟨0, ∅, ∅⟩⟩)

theorem playback_exact_switched :
    ∃ history player, Run (Player.step twoSegments) switchedPlayer history player ∧
      player.loaded.map Prod.fst =
        [VersionManager.segmentPath 10 0, VersionManager.segmentPath 3 1] ∧
      player.sender.outlet.wire.length = 3 ∧
      ∃ records, player.sender.frames = records.map TraceRecord.frame ∧
        records <+: player.loaded.flatMap twoSegments.playable ∧
        ∀ sent ∈ player.sender.outlet.wire, ∃ position record,
          records[position]? = some record ∧ sent.seq.toNat = position + 1 ∧
            sent.content = chunk record.data sent.offset := by
  rcases exists_run_of_any (Player.step twoSegments) switchedPlayer switchedPlayback
    (fun player => player.loaded.map Prod.fst =
        [VersionManager.segmentPath 10 0, VersionManager.segmentPath 3 1] ∧
      player.sender.outlet.wire.length = 3) (by decide +kernel) with
    ⟨history, player, run, _, passes⟩
  rcases of_decide_eq_true passes with ⟨paths, three⟩
  have created : VersionManager.new VersionManager.elevenVersions = .ok elevenManager := rfl
  rcases (playback_exact created run).1 with ⟨records, frames, played, _, carried⟩
  exact ⟨history, player, run, paths, three, records, frames, played, carried⟩

end StreamReplay
