import StreamReplay.Foundation.Floating
import StreamReplay.Foundation.Guarded
import StreamReplay.Tx.Calls
import StreamReplay.Tx.Outage
import StreamReplay.Tx.Sending
import StreamReplay.Tx.VersionManager

/-!
# The source manager

`SourceManager` of `tx/src/source.rs`: the parts of a source that its threads and
the control channel share, each behind a lock of its own.  A source thread unwraps
the lock it takes, the control channel passes over a poisoned one.

Sockets and the channel of an application stream are handed to the thread at its
start and left out here.
-/

namespace StreamReplay

open Checked FallibleRun Floating Guarded

/-! ## Times to come -/

/-- `Duration::from_secs_f64`, in nanoseconds. -/
def fromSecsF64 : Number → Except Panic Nat
  | .finite negative magnitude =>
      let nanos := Rounding.halfEven (magnitude * 10 ^ 9)
      if negative = true ∧ magnitude ≠ 0 then
        .error (.message "cannot convert float seconds to Duration: value is negative")
      else if nanos < 2 ^ 64 * 10 ^ 9 then .ok nanos
      else .error (.message
        "cannot convert float seconds to Duration: value is either too big or NaN")
  | .infinite true =>
      .error (.message "cannot convert float seconds to Duration: value is negative")
  | .infinite false | .nan =>
      .error (.message "cannot convert float seconds to Duration: value is either too big or NaN")

/-- `now + Duration::from_secs_f64(seconds)`; the seconds of a `SystemTime` are an `i64`. -/
def after (now : Time) (seconds : Number) : Except Panic Time := do
  let nanos ← fromSecsF64 seconds
  if now + nanos < 2 ^ 63 * 10 ^ 9 then return now + nanos
  else .error (.message "overflow when adding duration to instant")

/-- These seconds from now there is a time. -/
def Reaches (now : Time) (seconds : Number) : Prop :=
  ∃ amount, seconds.value = some amount ∧ 0 ≤ amount ∧
    now + Rounding.halfEven (amount.nnabs * 10 ^ 9) < 2 ^ 63 * 10 ^ 9

theorem fromSecsF64_eq_ok {seconds : Number} {nanos : Nat} :
    fromSecsF64 seconds = .ok nanos ↔ ∃ amount, seconds.value = some amount ∧ 0 ≤ amount ∧
      nanos = Rounding.halfEven (amount.nnabs * 10 ^ 9) ∧ nanos < 2 ^ 64 * 10 ^ 9 := by
  cases seconds with
  | finite negative magnitude =>
      simp only [fromSecsF64, Number.value, Option.some.injEq, exists_eq_left', ← not_lt,
        Number.signed_neg_iff, Number.nnabs_signed]
      split
      next below => simp [below]
      next above =>
        split
        next fits =>
          simp only [above, not_false_eq_true, true_and, Except.ok.injEq]
          exact ⟨by rintro rfl; exact ⟨rfl, fits⟩, fun equal => equal.1.symm⟩
        next large =>
          simp only [reduceCtorEq, false_iff]
          rintro ⟨_, rfl, fits⟩
          exact large fits
  | infinite negative => cases negative <;> simp [fromSecsF64, Number.value]
  | nan => simp [fromSecsF64, Number.value]

theorem after_returns_iff {now : Time} {seconds : Number} :
    (∃ time, after now seconds = .ok time) ↔ Reaches now seconds := by
  constructor
  · rintro ⟨time, reached⟩
    rcases bind_eq_ok.mp reached with ⟨nanos, converted, reached⟩
    rcases fromSecsF64_eq_ok.mp converted with ⟨amount, known, nonneg, rfl, _⟩
    split at reached
    next early => exact ⟨amount, known, nonneg, early⟩
    next late => cases reached
  · rintro ⟨amount, known, nonneg, early⟩
    have small := (Nat.le_add_left _ now).trans_lt early
    have converted :=
      fromSecsF64_eq_ok.mpr ⟨amount, known, nonneg, rfl, small.trans (by norm_num)⟩
    rw [after, converted, ok_bind, if_pos early]
    exact ⟨_, rfl⟩

/-- The parameters of a stream that the manager reads; durations in seconds. -/
structure ConnParams where
  npyFile : String
  port : UInt16
  tos : UInt8
  duration : Number × Number
  targetRtt : ℚ
  throttle : ℚ
  calcRtt : Bool
  policy : Policy
  policyParameters : PolicyParameter

def streamProto : String := "stream://"

/-- The name of a stream that is not fed by an application. -/
def ConnParams.name (params : ConnParams) : String :=
  toString params.port.toNat ++ "@" ++ toString params.tos.toNat

/-- The name that the source of a stream gets. -/
def ConnParams.sourceName (params : ConnParams) : String :=
  if params.npyFile.startsWith streamProto then params.npyFile else params.name

structure FlowStatistics where
  rtt : ℚ
  outageRate : Option ℚ
  throughput : WithTop ℚ
  throttle : ℚ
  bitrate : UInt64
  appBuff : Nat
  frameCount : Nat

structure SourceManager where
  name : String
  stream : ConnParams
  startTimestamp : Time
  stopTimestamp : Time
  throttler : Mutex RateThrottler
  rtt : Option (Mutex (RttRecords rttSlots))
  txPartCtler : Mutex TxPartCtler
  versionManager : Mutex (Option VersionManager)
  macInfoBus : LatestBus

/-- `read_packets(lock().unwrap().as_mut().unwrap().next()).expect("loading failed.")`:
the lock is held until the segment is read, if it `loads`. -/
def VersionManager.nextOf (loads : Bool) (versionManager : Option VersionManager) :
    Except Panic (String × Option VersionManager) := do
  let manager ← unwrap versionManager
  let (path, manager) ← manager.next
  if loads then return (path, some manager) else .error (.message "loading failed.")

namespace SourceManager

def pongPortInc : Nat := 1024

/-- A file of versions has a version manager; `load` reads its configuration. -/
def openVersions (load : String → Except Panic VersionManager.Config)
    (params : ConnParams) : Except Panic (Option VersionManager) :=
  if params.npyFile.endsWith ".json" then do
    let cfg ← load params.npyFile
    let manager ← VersionManager.new cfg
    return some manager
  else .ok none

/-- `RttRecorder::new`, if round-trip times are asked for. -/
def openRtt (params : ConnParams) : Except Panic (Option (Mutex (RttRecords rttSlots))) :=
  if params.calcRtt then do
    let _ ← add 16 params.port.toNat pongPortInc
    return some (.new (.new rttSlots params.targetRtt))
  else .ok none

/-- `started` and `stopped` are the clock readings for the two timestamps. -/
def new (load : String → Except Panic VersionManager.Config) (params : ConnParams)
    (windowSize : Nat) (macInfoBus : LatestBus) (started stopped : Time) :
    Except Panic SourceManager := do
  let throttler ← RateThrottler.create params.throttle windowSize false
  let versionManager ← openVersions load params
  let rtt ← openRtt params
  return {
    name := params.sourceName
    stream := params
    startTimestamp := started
    stopTimestamp := stopped
    throttler := .new throttler
    rtt
    txPartCtler := .new (.new params.policy params.policyParameters macInfoBus)
    versionManager := .new versionManager
    macInfoBus }

/-- A source is created exactly when its parts are. -/
theorem new_eq_ok {load : String → Except Panic VersionManager.Config} {params : ConnParams}
    {windowSize : Nat} {macInfoBus : LatestBus} {started stopped : Time}
    {manager : SourceManager} :
    new load params windowSize macInfoBus started stopped = .ok manager ↔
      cycledRatio * windowSize * packetWithMetaBytes < 2 ^ 63 ∧
      ∃ versionManager rtt, openVersions load params = .ok versionManager ∧
        openRtt params = .ok rtt ∧ manager = {
          name := params.sourceName
          stream := params
          startTimestamp := started
          stopTimestamp := stopped
          throttler := .new (.new params.throttle windowSize false)
          rtt
          txPartCtler := .new (.new params.policy params.policyParameters macInfoBus)
          versionManager := .new versionManager
          macInfoBus } := by
  constructor
  · intro created
    rcases bind_eq_ok.mp created with ⟨throttler, made, created⟩
    rcases bind_eq_ok.mp created with ⟨versionManager, opened, created⟩
    rcases bind_eq_ok.mp created with ⟨rtt, recorded, equal⟩
    obtain ⟨fits, rfl⟩ := RateThrottler.create_eq_ok.mp made
    exact ⟨fits, versionManager, rtt, opened, recorded, (Except.ok.inj equal).symm⟩
  · rintro ⟨fits, versionManager, rtt, opened, recorded, rfl⟩
    rw [new, RateThrottler.create_eq_ok.mpr ⟨fits, rfl⟩, ok_bind, opened, ok_bind, recorded]
    rfl

/-- The part of `start` that the manager keeps. -/
def start (manager : SourceManager) (now : Time) : Except Panic Unit × SourceManager :=
  match after now manager.stream.duration.1 with
  | .error fault => (.error fault, manager)
  | .ok startTimestamp =>
      let manager := { manager with startTimestamp }
      match after now manager.stream.duration.2 with
      | .error fault => (.error fault, manager)
      | .ok stopTimestamp => (.ok (), { manager with stopTimestamp })

theorem start_returns_iff {manager : SourceManager} {now : Time} :
    (manager.start now).1 = .ok () ↔
      Reaches now manager.stream.duration.1 ∧ Reaches now manager.stream.duration.2 := by
  simp only [← after_returns_iff, start]
  split
  next first => simp [first]
  next first =>
    split
    next second => simp [second]
    next second => simp [first, second]

/-- It replaces the timestamps and nothing else, also where it panics. -/
theorem start_snd (manager : SourceManager) (now : Time) :
    ∃ startTimestamp stopTimestamp, (manager.start now).2 =
      { manager with startTimestamp, stopTimestamp } := by
  unfold start
  split
  · exact ⟨_, _, rfl⟩
  · dsimp only
    split
    · exact ⟨_, _, rfl⟩
    · exact ⟨_, _, rfl⟩

def throttle (manager : SourceManager) (throttle : ℚ) : SourceManager :=
  { manager with
    throttler := manager.throttler.modify fun throttler => { throttler with throttle } }

def setPolicyParameters (manager : SourceManager) (parameters : PolicyParameter) :
    SourceManager :=
  { manager with
    txPartCtler := manager.txPartCtler.modify fun ctler =>
      { ctler with policyParameters := parameters } }

/-- Without a version manager the unwrap panics, under the lock. -/
def setVersion (manager : SourceManager) (version : UInt32) :
    Except Panic Unit × SourceManager :=
  match manager.versionManager.lock with
  | none => (.ok (), manager)
  | some none =>
      (.error .unwrapNone, { manager with versionManager := manager.versionManager.poison })
  | some (some versions) =>
      (.ok (), { manager with
        versionManager := { manager.versionManager with
          value := some (versions.setVersion version) } })

/-- The time is outside the interval in which the source reports statistics. -/
def Outside (manager : SourceManager) (now : Time) : Prop :=
  now < manager.startTimestamp ∨ manager.stopTimestamp < now

instance (manager : SourceManager) (now : Time) : Decidable (manager.Outside now) :=
  inferInstanceAs (Decidable (_ ∨ _))

/-- Poll the round-trip records, if there are any; `none` if their lock is poisoned. -/
def pollRtt (manager : SourceManager) (pollTime : ℚ) :
    Option (ℚ × Option ℚ) × SourceManager :=
  match manager.rtt with
  | none => (some (0, some 0), manager)
  | some rtt =>
      match rtt.lock with
      | none => (none, manager)
      | some records =>
          let (polled, records) := records.statistic pollTime
          (some polled, { manager with rtt := some { rtt with value := records } })

/-- The clock is read for the interval, and again by the poll of the records. -/
def statistics (manager : SourceManager) (now : Time) (pollTime : ℚ) :
    Option FlowStatistics × SourceManager :=
  if manager.Outside now then (none, manager)
  else
    match manager.throttler.lock with
    | none => (none, manager)
    | some throttler =>
        let snapshot := throttler.snapshot
        match manager.pollRtt pollTime with
        | (none, manager) => (none, manager)
        | (some (rtt, outageRate), manager) =>
            match manager.versionManager.lock with
            | some (some versions) =>
                (some {
                  rtt
                  outageRate
                  throughput := snapshot.lastRate
                  throttle := snapshot.throttle
                  bitrate := versions.getBitrate
                  appBuff := snapshot.bufferLen
                  frameCount := snapshot.frameCount }, manager)
            | _ => (none, manager)

def deviceStatistics (manager : SourceManager) : MACQueuesSnapshot :=
  manager.macInfoBus.latest

/-- What the monitor publishes reaches the controller as well. -/
def publish (manager : SourceManager) (snapshot : MACQueuesSnapshot) : SourceManager :=
  { manager with
    macInfoBus := manager.macInfoBus.publish snapshot
    txPartCtler := { manager.txPartCtler with
      value := manager.txPartCtler.value.observe snapshot } }

end SourceManager

/-! ## A source at work -/

/-- What the threads of a source, the monitor and the control channel do. -/
inductive ManagerOp where
  | start (now : Time)
  | operate (op : ThrottlerOp)
  | attempt (packet : PacketWithMeta) (outcome : SendOutcome)
  | arrival (seq : Nat) (time : ℚ)
  | pong (seq : Nat) (time delta : ℚ)
  | nextSegment (loads : Bool)
  | publish (snapshot : MACQueuesSnapshot)
  | setThrottle (throttle : ℚ)
  | setPolicyParameters (parameters : PolicyParameter)
  | setVersion (version : UInt32)
  | statistics (now : Time) (pollTime : ℚ)

namespace SourceManager

/-- The callback runs under the lock of the throttler, so a panic in it poisons that
lock too.  With the lock of the controller poisoned already it only returns false. -/
def attempt (socketInfos : SocketInfo) (manager : SourceManager) (packet : PacketWithMeta)
    (outcome : SendOutcome) : SourceManager :=
  let txPartCtler := manager.txPartCtler.run fun ctler =>
    ctler.step socketInfos (.attempt packet outcome)
  { manager with
    txPartCtler
    throttler :=
      if txPartCtler.poisoned && !manager.txPartCtler.poisoned then manager.throttler.poison
      else manager.throttler }

/-- A source goes on whatever becomes of one of its threads, so no step fails. -/
def step (socketInfos : SocketInfo) :
    Step SourceManager ManagerOp (Option FlowStatistics) Panic
  | manager, .start now => .ok (none, (manager.start now).2)
  | manager, .operate op =>
      .ok (none, { manager with
        throttler := manager.throttler.run fun throttler => throttler.step op })
  | manager, .attempt packet outcome =>
      .ok (none, manager.attempt socketInfos packet outcome)
  | manager, .arrival seq time =>
      .ok (none, { manager with
        rtt := manager.rtt.map fun rtt =>
          rtt.modify fun records => records.updateArrival seq time })
  | manager, .pong seq time delta =>
      .ok (none, { manager with
        rtt := manager.rtt.map fun rtt => rtt.run fun records => records.update seq time delta })
  | manager, .nextSegment loads =>
      .ok (none, { manager with
        versionManager := manager.versionManager.run (VersionManager.nextOf loads) })
  | manager, .publish snapshot => .ok (none, manager.publish snapshot)
  | manager, .setThrottle throttle => .ok (none, manager.throttle throttle)
  | manager, .setPolicyParameters parameters =>
      .ok (none, manager.setPolicyParameters parameters)
  | manager, .setVersion version => .ok (none, (manager.setVersion version).2)
  | manager, .statistics now pollTime => .ok (manager.statistics now pollTime)

end SourceManager

end StreamReplay
