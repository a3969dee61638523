import StreamReplay.Tx.Calls

/-!
# A throttler after a reset

`reset` leaves `frame_count` as it is and sets `max_error` to zero, where `new`
computes it from the window size.  The first shows in the next snapshot, the
second as soon as a rate is asked for again within the allowed error.
-/

namespace StreamReplay

open Checked FallibleRun

/-- The calls whose replies are to be those of a new throttler. -/
def ThrottlerCall.Compared : ThrottlerCall → Prop
  | .operate (.prepare _ _) => True
  | .operate (.tryConsume _ _) => True
  | .operate (.setThrottle _) => True
  | .operate .reset => False
  | .exceedsWith _ _ => False
  | .snapshot => True

namespace RateThrottler

/-- After a reset, every sequence of calls shows what it would show on a new
throttler with the current throttle. -/
def ResetsToNew (windowSize : Nat) (infiniteBuffer : Bool) (throttler : RateThrottler) :
    Prop :=
  ∀ requests : List ThrottlerCall, (∀ request ∈ requests, request.Compared) →
    replies call throttler.reset requests =
      replies call (.new throttler.throttle windowSize infiniteBuffer) requests

/-! ## States with nothing in them -/

/-- The fields in which a reset and a new throttler agree. -/
structure Cleared (throttler : RateThrottler) : Prop where
  window_eq : throttler.window.fifo = []
  buffer_eq : throttler.buffer.fifo = []
  sumBytes_eq : throttler.sumBytes = 0
  accError_eq : throttler.accError = 0
  lastRate_eq : throttler.lastRate = 0

theorem cleared_reset (throttler : RateThrottler) : Cleared throttler.reset :=
  ⟨rfl, rfl, rfl, rfl, rfl⟩

theorem cleared_new (throttle : ℚ) (windowSize : Nat) (infiniteBuffer : Bool) :
    Cleared (.new throttle windowSize infiniteBuffer) := by
  cases infiniteBuffer <;> exact ⟨rfl, rfl, rfl, rfl, rfl⟩

theorem maxError_new_eq_zero {throttle : ℚ} {windowSize : Nat} {infiniteBuffer : Bool} :
    (RateThrottler.new throttle windowSize infiniteBuffer).maxError = 0 ↔
      windowSize < 100 := by
  have nonzero : udpMaxLength ≠ 0 := by decide
  change ⌊maxErrRatio * windowSize⌋₊ * udpMaxLength = 0 ↔ _
  rw [Nat.mul_eq_zero, or_iff_left nonzero, Nat.floor_eq_zero, maxErrRatio, one_div,
    inv_mul_lt_one₀ (by norm_num)]
  exact_mod_cast Iff.rfl

/-! ## One byte sent, and a snapshot -/

def oneByte : PacketWithMeta := (PacketWithMeta.new 0).setLength 1

/-- The packet is entered at the epoch and the rate is asked for a second later. -/
def secondLater : Clock := ⟨0, 0, 10 ^ 9, le_refl 0, Nat.zero_le _⟩

/-- Prepare a packet of one byte, send it and look at the rate. -/
def sendOneByte : List ThrottlerCall :=
  [.operate (.prepare 0 [oneByte]), .operate (.tryConsume secondLater fun _ => true),
    .snapshot]

theorem compared_sendOneByte : ∀ request ∈ sendOneByte, request.Compared := by
  simp [sendOneByte, ThrottlerCall.Compared]

/-- The rate of one byte in one second. -/
def oneByteRate : WithTop ℚ := averageRateMbps 1 (10 ^ 9)

theorem oneByteRate_ne_zero : oneByteRate ≠ 0 := by
  decide +kernel

theorem Cleared.not_full {throttler : RateThrottler} (cleared : Cleared throttler) :
    ¬throttler.buffer.Full := by
  rintro ⟨positive, atLimit⟩
  rw [CycledVecDequeue.len, cleared.buffer_eq, List.length_nil] at atLimit
  omega

/-- The throttler with the packet prepared. -/
def filled (throttler : RateThrottler) : RateThrottler :=
  { throttler with
    buffer := { throttler.buffer with fifo := [oneByte] }
    frameCount := throttler.frameCount + 1 }

/-- A packet is prepared in an empty throttler without a rate to be computed. -/
theorem Cleared.prepare_eq {throttler : RateThrottler} (cleared : Cleared throttler) :
    throttler.prepare 0 [oneByte] = .ok throttler.filled := by
  have pushed : throttler.buffer.tryPushAll [oneByte] =
      { throttler.buffer with fifo := [oneByte] } := by
    simp only [CycledVecDequeue.tryPushAll,
      CycledVecDequeue.tryPush_of_not_full cleared.not_full, cleared.buffer_eq,
      List.nil_append]
  have same : { throttler with accError := 0 } = throttler := by
    rw [← cleared.accError_eq]
  have checked : ∃ rate, RateCheck throttler 0 0 rate throttler := by
    by_cases below : throttler.accError < throttler.maxError
    · exact ⟨_, .cached below⟩
    · have unknown : RateCheck throttler 0 0 none { throttler with accError := 0 } :=
        .unknown (Nat.not_lt.mp below) cleared.window_eq
      rw [same] at unknown
      exact ⟨none, unknown⟩
  rcases checked with ⟨rate, check⟩
  refine prepare_eq_ok.mpr ⟨rate, throttler, check, ?_⟩
  rw [pushed, filled]

/-- Sending the packet computes its rate exactly when no error is allowed. -/
theorem Cleared.lastRate_of_sent {throttler : RateThrottler} (cleared : Cleared throttler)
    (wide : throttler.window.size ≠ 1) :
    ∃ next, throttler.filled.tryConsume secondLater (fun _ => true) =
        .ok (some true, next) ∧
      next.lastRate = if throttler.maxError = 0 then oneByteRate else 0 := by
  have pushed : throttler.filled.window.push (secondLater.push, 1) =
      (none, { throttler.window with fifo := [(secondLater.push, 1)] }) := by
    have short : ¬(throttler.window.size > 0 ∧ 1 = throttler.window.size) := by
      rintro ⟨_, single⟩
      exact wide single.symm
    simp only [filled, CycledVecDequeue.push, cleared.window_eq, List.nil_append,
      List.length_singleton, if_neg short]
  have dropsNothing : throttler.filled.dropped secondLater.push 1 = 0 := by
    simp only [dropped, pushed, Option.map_none, Option.getD_none]
  let admitted : RateThrottler := { throttler.filled with
    window := { throttler.window with fifo := [(secondLater.push, 1)] }
    sumBytes := 1
    accError := 0 }
  have accounted : throttler.filled.account secondLater.push 1 = .ok admitted := by
    refine account_eq_ok.mpr ⟨by rw [dropsNothing]; exact Nat.zero_le _, ?_⟩
    rw [dropsNothing, pushed]
    simp only [admitted, filled, cleared.sumBytes_eq, cleared.accError_eq]
  have admission : Admission throttler.filled secondLater 1 false admitted :=
    .free (.inr cleared.window_eq) accounted
  have returns : ∀ {rate checked}, RateCheck (admitted.released false) (10 ^ 9) 0 rate checked →
      ∃ next, throttler.filled.tryConsume secondLater (fun _ => true) =
          .ok (some true, next) ∧
        next.lastRate = checked.lastRate := by
    intro rate checked check
    have unmarked : oneByte.lastOne = true → 1 ≤ throttler.filled.frameCount := by
      intro marked
      cases marked
    exact ⟨_, tryConsume_eq_ok.mpr (.sent rfl admission rfl unmarked check), rfl⟩
  by_cases exact : throttler.maxError = 0
  · have reached : (admitted.released false).maxError ≤ (admitted.released false).accError :=
      exact.le
    rw [if_pos exact]
    exact returns (.computed reached rfl (Nat.zero_le _))
  · have below : (admitted.released false).accError < (admitted.released false).maxError :=
      Nat.pos_of_ne_zero exact
    rw [if_neg exact]
    rcases returns (.cached below) with ⟨next, sent, rateEq⟩
    exact ⟨next, sent, rateEq.trans cleared.lastRate_eq⟩

/-- What sending one byte shows: the last rate, computed or not. -/
theorem Cleared.replies_sendOneByte {throttler : RateThrottler}
    (cleared : Cleared throttler) (wide : throttler.window.size ≠ 1) :
    ∃ first second last, replies call throttler sendOneByte =
        [.ok first, .ok second, .ok (.snapshot last)] ∧
      last.lastRate = if throttler.maxError = 0 then oneByteRate else 0 := by
  rcases cleared.lastRate_of_sent wide with ⟨next, sent, rateEq⟩
  have stepped : throttler.step (.prepare 0 [oneByte]) = .ok (none, throttler.filled) := by
    rw [step, cleared.prepare_eq, ok_bind, pure_eq_ok]
  have prepared := call_operate_eq_ok.mpr ⟨none, stepped, rfl⟩
  have consumed : throttler.filled.call
      (.operate (.tryConsume secondLater fun _ => true)) = .ok (_, next) :=
    call_operate_eq_ok.mpr ⟨some true, sent, rfl⟩
  have shown : replies call throttler sendOneByte =
      [.ok (.operated (throttler.handedBy (.prepare 0 [oneByte])) none),
        .ok (.operated (throttler.filled.handedBy (.tryConsume secondLater fun _ => true))
          (some true)),
        .ok (.snapshot next.snapshot)] := by
    simp only [sendOneByte, replies, prepared, consumed]
    rfl
  exact ⟨_, _, next.snapshot, shown, rateEq⟩

/-! ## A reset throttler against a new one -/

theorem reset_eq_new {throttler : RateThrottler} {windowSize : Nat} {infiniteBuffer : Bool}
    (windowEq : throttler.window.size = windowSize)
    (bufferEq : throttler.buffer.size =
      if infiniteBuffer then 0 else cycledRatio * windowSize)
    (noFrames : throttler.frameCount = 0) (small : windowSize < 100) :
    throttler.reset = .new throttler.throttle windowSize infiniteBuffer := by
  have noError : (RateThrottler.new throttler.throttle windowSize infiniteBuffer).maxError =
      0 := maxError_new_eq_zero.mpr small
  have bufferNew : (RateThrottler.new throttler.throttle windowSize infiniteBuffer).buffer =
      ⟨throttler.buffer.size, []⟩ := by
    rw [bufferEq]
    cases infiniteBuffer <;> rfl
  subst windowEq
  unfold RateThrottler.new at noError bufferNew ⊢
  simp only at noError bufferNew
  rw [bufferNew, noError, reset, noFrames]
  rfl

/-- In every reachable state, a reset makes the throttler one that no calls can tell
from a new one exactly when no frame is counted and the window is below a hundred
packets, so that a new throttler allows no error either. -/
theorem reset_fresh_iff {throttle : ℚ} {windowSize : Nat} {infiniteBuffer : Bool}
    {history : List CallEvent} {state : RateThrottler}
    (run : CallRun (.new throttle windowSize infiniteBuffer) history state) :
    ResetsToNew windowSize infiniteBuffer state ↔
      state.frameCount = 0 ∧ windowSize < 100 := by
  rcases sizes_of_run run with ⟨windowEq, bufferEq⟩
  constructor
  · intro alike
    constructor
    · have snapshots := alike [.snapshot] (by simp [ThrottlerCall.Compared])
      simp only [replies, call, List.cons.injEq, Except.ok.injEq,
        ThrottlerReply.snapshot.injEq, and_true] at snapshots
      exact congrArg Snapshot.frameCount snapshots
    · by_contra large
      have wide : windowSize ≠ 1 := by omega
      have wideReset : state.reset.window.size ≠ 1 := windowEq ▸ wide
      rcases (cleared_reset state).replies_sendOneByte wideReset with
        ⟨_, _, afterReset, resetShows, resetRate⟩
      rcases (cleared_new state.throttle windowSize infiniteBuffer).replies_sendOneByte
        wide with ⟨_, _, afterNew, newShows, newRate⟩
      have same := alike sendOneByte compared_sendOneByte
      rw [resetShows, newShows] at same
      simp only [List.cons.injEq, Except.ok.injEq, ThrottlerReply.snapshot.injEq,
        and_true] at same
      have noError : state.reset.maxError = 0 := rfl
      rw [same.2.2, newRate, if_neg (mt maxError_new_eq_zero.mp large),
        if_pos noError] at resetRate
      exact oneByteRate_ne_zero resetRate.symm
  · rintro ⟨noFrames, small⟩ requests _
    rw [reset_eq_new windowEq bufferEq noFrames small]

theorem reset_fresh_iff_sent :
    ∃ history state, CallRun (.new 1 3 false) history state ∧
      (ResetsToNew 3 false state ↔ state.frameCount = 0 ∧ 3 < 100) := by
  rcases exists_run_of_any call (.new 1 3 false)
    [.operate (.prepare 0 [oneByte]), .operate (.tryConsume secondLater fun _ => true)]
    (fun _ => true) (by decide +kernel) with ⟨history, state, run, _, _⟩
  exact ⟨history, state, run, reset_fresh_iff run⟩

/-- A frame counted before the reset is still counted after it. -/
theorem frame_counted_after_reset :
    ∃ history state, CallRun (.new 1 3 false) history state ∧
      history.map Event.op = [.operate (.prepare 0 [oneByte])] ∧
      replies call state.reset [.snapshot] ≠
        replies call (.new state.throttle 3 false) [.snapshot] := by
  rcases exists_run_of_any call (.new 1 3 false) [.operate (.prepare 0 [oneByte])]
    (fun state => state.frameCount == 1) (by decide +kernel) with
    ⟨history, state, run, opsEq, counted⟩
  refine ⟨history, state, run, opsEq, ?_⟩
  intro same
  simp only [replies, call, List.cons.injEq, Except.ok.injEq,
    ThrottlerReply.snapshot.injEq, and_true] at same
  have equal : state.frameCount = 0 := congrArg Snapshot.frameCount same
  rw [equal] at counted
  cases counted

end RateThrottler

end StreamReplay
