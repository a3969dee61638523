import StreamReplay.Core.Packet
import StreamReplay.Foundation.Run
import StreamReplay.Tx.CycledQueue
import Mathlib.Algebra.Order.WithTop.Untop0
import Mathlib.Algebra.Order.Floor.Semifield
import Mathlib.Data.Rat.Floor

/-!
# The rate throttler

`RateThrottler` of `tx/src/throttle.rs`.  A packet at the head of the buffer is
sent when the average rate over the window, the packet included, stays below the
throttle.  The rate is recomputed only once `acc_error` has reached `max_error`;
until then the last rate is reused.

Rates are exact rationals.  A rate over no time at all is `⊤`; that also stands
for the quotient of two zeros, as neither is below any throttle.
-/

namespace StreamReplay

open Checked

/-- A clock reading, in nanoseconds since the Unix epoch. -/
abbrev Time := Nat

/-- `duration_since(..).unwrap()`. -/
def durationSince (now earlier : Time) : Except Panic Nat :=
  if earlier ≤ now then .ok (now - earlier) else .error .unwrapErr

def maxErrRatio : ℚ := 1 / 100
def cycledRatio : Nat := 50

/-- The rate in Mbps of `accSize` bytes in `accTime` nanoseconds. -/
def averageRateMbps (accSize accTime : Nat) : WithTop ℚ :=
  if accTime = 0 then ⊤
  else ((8 * (accSize / 10 ^ 6) / (accTime / 10 ^ 9) : ℚ) : WithTop ℚ)

/-- `size_of::<PacketWithMeta>()` -/
def packetWithMetaBytes : Nat := 1504

/-- `size_of::<(TIME, SIZE)>()` -/
def windowItemBytes : Nat := 24

structure RateThrottler where
  window : CycledVecDequeue (Time × Nat)
  buffer : CycledVecDequeue PacketWithMeta
  sumBytes : Nat
  accError : Nat
  maxError : Nat
  frameCount : Nat
  throttle : ℚ
  lastRate : WithTop ℚ

/-- The clock readings of one `try_consume`, in the order the code takes them. -/
structure Clock where
  rate : Time
  push : Time
  consume : Time
  rate_le_push : rate ≤ push
  push_le_consume : push ≤ consume

/-- All readings of one call at the same time. -/
def Clock.still (now : Time) : Clock := ⟨now, now, now, le_refl now, le_refl now⟩

namespace RateThrottler

/-- The throttler that `create` makes, where its queues can be made. -/
def new (throttle : ℚ) (windowSize : Nat) (infiniteBuffer : Bool) : RateThrottler where
  window := .new windowSize
  buffer := if infiniteBuffer then .new 0 else .new (cycledRatio * windowSize)
  sumBytes := 0
  accError := 0
  maxError := ⌊maxErrRatio * windowSize⌋₊ * udpMaxLength
  frameCount := 0
  throttle
  lastRate := 0

/-- `RateThrottler::new` with its panics. -/
def create (throttle : ℚ) (windowSize : Nat) (infiniteBuffer : Bool) :
    Except Panic RateThrottler := do
  let bufferSize ← if infiniteBuffer then .ok 0 else mul 64 cycledRatio windowSize
  let buffer ← CycledVecDequeue.create packetWithMetaBytes bufferSize
  let window ← CycledVecDequeue.create windowItemBytes windowSize
  let maxError ← mul 64 ⌊maxErrRatio * windowSize⌋₊ udpMaxLength
  return { new throttle windowSize infiniteBuffer with window, buffer, maxError }

/-- The reset leaves `frame_count` and `throttle` as they are. -/
def reset (throttler : RateThrottler) : RateThrottler :=
  { throttler with
    lastRate := 0
    sumBytes := 0
    accError := 0
    maxError := 0
    window := throttler.window.reset
    buffer := throttler.buffer.reset }

def currentRateMbps (throttler : RateThrottler) (now : Time) (extraBytes : Option Nat) :
    Except Panic (Option (WithTop ℚ) × RateThrottler) :=
  if throttler.accError < throttler.maxError then
    .ok (some throttler.lastRate, throttler)
  else
    let throttler := { throttler with accError := 0 }
    let accSize := throttler.sumBytes + extraBytes.getD 0
    match throttler.window.front with
    | none => .ok (none, throttler)
    | some oldest => do
        let accTime ← durationSince now oldest.1
        let rate := averageRateMbps accSize accTime
        return (some rate, { throttler with lastRate := rate })

/-- The rate it asks for is only logged, but asking may recompute it. -/
def prepare (throttler : RateThrottler) (now : Time) (packets : List PacketWithMeta) :
    Except Panic RateThrottler := do
  let (_, throttler) ← throttler.currentRateMbps now none
  return { throttler with
    buffer := throttler.buffer.tryPushAll packets
    frameCount := throttler.frameCount + 1 }

def consume (throttler : RateThrottler) (now : Time) :
    Except Panic (Option PacketWithMeta × RateThrottler) := do
  let (_, throttler) ← throttler.currentRateMbps now none
  let (packet, buffer) := throttler.buffer.popFront
  return (packet, { throttler with buffer })

/-- The accounting of an admitted packet, which occurs twice in `exceeds_with`. -/
def account (throttler : RateThrottler) (now : Time) (sizeBytes : Nat) :
    Except Panic RateThrottler :=
  let sumBytes := throttler.sumBytes + sizeBytes
  match throttler.window.push (now, sizeBytes) with
  | (none, window) => .ok { throttler with sumBytes, window }
  | (some item, window) => do
      let sumBytes ← sub sumBytes item.2
      return { throttler with
        sumBytes, window, accError := throttler.accError + item.2 }

def exceedsWith (throttler : RateThrottler) (clock : Clock) (sizeBytes : Nat) :
    Except Panic (Bool × RateThrottler) := do
  let throttle := throttler.throttle
  if throttle = 0 ∨ throttler.window.len = 0 then
    let throttler ← throttler.account clock.push sizeBytes
    return (false, throttler)
  else
    let throttler := { throttler with accError := throttler.accError + sizeBytes }
    let (averageRate, throttler) ← throttler.currentRateMbps clock.rate (some sizeBytes)
    let averageRate ← unwrap averageRate
    if averageRate < throttle then
      let throttler ← throttler.account clock.push sizeBytes
      return (false, throttler)
    else return (true, throttler)

/-- The frame is done when its last packet is sent. -/
def releaseFrame (throttler : RateThrottler) (lastOne : Bool) : Except Panic RateThrottler :=
  if lastOne then do
    let frameCount ← sub throttler.frameCount 1
    return { throttler with frameCount }
  else .ok throttler

/-- `none` says that the buffer is empty, `some false` that the packet at its
head was refused or not sent, `some true` that it was sent. -/
def tryConsume (throttler : RateThrottler) (clock : Clock)
    (callback : PacketWithMeta → Bool) : Except Panic (Option Bool × RateThrottler) :=
  match throttler.buffer.front with
  | none => .ok (none, throttler)
  | some packet => do
      let (exceeds, throttler) ← throttler.exceedsWith clock packet.packet.length.toNat
      if exceeds then return (some false, throttler)
      else if callback packet then
        let throttler ← throttler.releaseFrame packet.lastOne
        let (_, throttler) ← throttler.consume clock.consume
        return (some true, throttler)
      else return (some false, throttler)

/-- It can be made exactly when there can be a buffer of its size; the window and the error
are smaller. -/
theorem create_eq_ok {throttle : ℚ} {windowSize : Nat} {throttler : RateThrottler} :
    create throttle windowSize false = .ok throttler ↔
      cycledRatio * windowSize * packetWithMetaBytes < 2 ^ 63 ∧
        throttler = .new throttle windowSize false := by
  have few : ⌊maxErrRatio * windowSize⌋₊ ≤ windowSize := by
    refine Nat.floor_le_of_le (mul_le_of_le_one_left (Nat.cast_nonneg windowSize) ?_)
    norm_num [maxErrRatio]
  constructor
  · intro created
    rcases bind_eq_ok.mp created with ⟨size, sized, created⟩
    rcases bind_eq_ok.mp created with ⟨buffer, made, created⟩
    rcases bind_eq_ok.mp created with ⟨window, also, created⟩
    rcases bind_eq_ok.mp created with ⟨maxError, multiplied, equal⟩
    obtain ⟨_, rfl⟩ := mul_eq_ok.mp sized
    obtain ⟨fits, rfl⟩ := CycledVecDequeue.create_eq_ok.mp made
    obtain ⟨_, rfl⟩ := CycledVecDequeue.create_eq_ok.mp also
    obtain ⟨_, rfl⟩ := mul_eq_ok.mp multiplied
    cases equal
    exact ⟨fits, rfl⟩
  · rintro ⟨fits, rfl⟩
    have bound : cycledRatio * windowSize < 2 ^ 63 ∧ windowSize * windowItemBytes < 2 ^ 63 ∧
        windowSize * udpMaxLength < 2 ^ 63 := by
      simp only [cycledRatio, packetWithMetaBytes, windowItemBytes, udpMaxLength, ipHeaderLength,
        udpHeaderLength] at fits ⊢
      omega
    have sized : mul 64 cycledRatio windowSize = .ok (cycledRatio * windowSize) :=
      mul_eq_ok.mpr ⟨by omega, rfl⟩
    have multiplied : mul 64 ⌊maxErrRatio * windowSize⌋₊ udpMaxLength =
        .ok (⌊maxErrRatio * windowSize⌋₊ * udpMaxLength) :=
      mul_eq_ok.mpr
        ⟨(Nat.mul_le_mul_right _ few).trans_lt (bound.2.2.trans (by decide)), rfl⟩
    simp only [create, Bool.false_eq_true, if_false, sized, ok_bind, multiplied,
      CycledVecDequeue.create_eq_ok.mpr ⟨fits, rfl⟩,
      CycledVecDequeue.create_eq_ok.mpr ⟨bound.2.1, rfl⟩]
    rfl

end RateThrottler

/-! ## The throttler as a transition system -/

/-- What the source thread and the IPC thread do to a throttler under its lock. -/
inductive ThrottlerOp where
  | prepare (now : Time) (packets : List PacketWithMeta)
  | tryConsume (clock : Clock) (callback : PacketWithMeta → Bool)
  | setThrottle (throttle : ℚ)
  | reset

def RateThrottler.step :
    FallibleRun.Step RateThrottler ThrottlerOp (Option Bool) Panic
  | throttler, .prepare now packets => do
      let throttler ← throttler.prepare now packets
      return (none, throttler)
  | throttler, .tryConsume clock callback => throttler.tryConsume clock callback
  | throttler, .setThrottle throttle => .ok (none, { throttler with throttle })
  | throttler, .reset => .ok (none, throttler.reset)

end StreamReplay
