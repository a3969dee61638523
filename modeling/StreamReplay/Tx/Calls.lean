import StreamReplay.Tx.Conservation

/-!
# The throttler's interface

All calls on a throttler, with what each of them shows to its caller: the packet
handed to a callback and the result, a bare admission decision, or a snapshot.
-/

namespace StreamReplay

open Checked FallibleRun

/-- The result of `snapshot`. -/
structure Snapshot where
  lastRate : WithTop ℚ
  throttle : ℚ
  bufferLen : Nat
  frameCount : Nat

def RateThrottler.snapshot (throttler : RateThrottler) : Snapshot where
  lastRate := throttler.lastRate
  throttle := throttler.throttle
  bufferLen := throttler.buffer.len
  frameCount := throttler.frameCount

inductive ThrottlerCall where
  | operate (op : ThrottlerOp)
  | exceedsWith (clock : Clock) (sizeBytes : Nat)
  | snapshot

inductive ThrottlerReply where
  | operated (handed : Option PacketWithMeta) (out : Option Bool)
  | exceeds (exceeds : Bool)
  | snapshot (snapshot : Snapshot)

namespace RateThrottler

/-- The packet that an operation hands to a callback. -/
def handedBy (throttler : RateThrottler) : ThrottlerOp → Option PacketWithMeta
  | .tryConsume clock _ => throttler.handed clock
  | _ => none

def call : Step RateThrottler ThrottlerCall ThrottlerReply Panic
  | throttler, .operate op => do
      let (out, after) ← throttler.step op
      return (.operated (throttler.handedBy op) out, after)
  | throttler, .exceedsWith clock sizeBytes => do
      let (exceeds, throttler) ← throttler.exceedsWith clock sizeBytes
      return (.exceeds exceeds, throttler)
  | throttler, .snapshot => .ok (.snapshot throttler.snapshot, throttler)

theorem call_operate_eq_ok {throttler next : RateThrottler} {op : ThrottlerOp}
    {reply : ThrottlerReply} :
    throttler.call (.operate op) = .ok (reply, next) ↔
      ∃ out, throttler.step op = .ok (out, next) ∧
        reply = .operated (throttler.handedBy op) out := by
  constructor
  · intro taken
    rcases bind_eq_ok.mp taken with ⟨⟨out, after⟩, stepped, equal⟩
    cases equal
    exact ⟨out, stepped, rfl⟩
  · rintro ⟨out, stepped, rfl⟩
    simp only [call, stepped, ok_bind, pure_eq_ok]

theorem call_exceedsWith_eq_ok {throttler next : RateThrottler} {clock : Clock}
    {sizeBytes : Nat} {reply : ThrottlerReply} :
    throttler.call (.exceedsWith clock sizeBytes) = .ok (reply, next) ↔
      ∃ exceeds, Admission throttler clock sizeBytes exceeds next ∧
        reply = .exceeds exceeds := by
  constructor
  · intro taken
    rcases bind_eq_ok.mp taken with ⟨⟨exceeds, after⟩, judged, equal⟩
    cases equal
    exact ⟨exceeds, exceedsWith_eq_ok.mp judged, rfl⟩
  · rintro ⟨exceeds, admission, rfl⟩
    simp only [call, exceedsWith_eq_ok.mpr admission, ok_bind, pure_eq_ok]

/-- The ways in which a call returns, by what becomes of the throttler. -/
inductive Effect (throttler : RateThrottler) : ThrottlerCall → RateThrottler → Prop where
  | prepared {now : Time} {packets : List PacketWithMeta} {rate : Option (WithTop ℚ)}
      {checked : RateThrottler} (check : RateCheck throttler now 0 rate checked) :
      Effect throttler (.operate (.prepare now packets)) { checked with
        buffer := throttler.buffer.tryPushAll packets
        frameCount := throttler.frameCount + 1 }
  | consumed {clock : Clock} {callback : PacketWithMeta → Bool} {out : Option Bool}
      {next : RateThrottler} (consumption : Consumption throttler clock callback out next) :
      Effect throttler (.operate (.tryConsume clock callback)) next
  | throttled {throttle : ℚ} :
      Effect throttler (.operate (.setThrottle throttle)) { throttler with throttle }
  | cleared : Effect throttler (.operate .reset) throttler.reset
  | judged {clock : Clock} {sizeBytes : Nat} {exceeds : Bool} {next : RateThrottler}
      (admission : Admission throttler clock sizeBytes exceeds next) :
      Effect throttler (.exceedsWith clock sizeBytes) next
  | read : Effect throttler .snapshot throttler

theorem effect_of_call {throttler next : RateThrottler} {request : ThrottlerCall}
    {reply : ThrottlerReply} (taken : throttler.call request = .ok (reply, next)) :
    Effect throttler request next := by
  cases request with
  | operate op =>
      rcases call_operate_eq_ok.mp taken with ⟨out, stepped, _⟩
      cases op with
      | prepare now packets =>
          rcases bind_eq_ok.mp stepped with ⟨prepared, returned, equal⟩
          rcases prepare_eq_ok.mp returned with ⟨rate, checked, check, rfl⟩
          cases equal
          exact .prepared check
      | tryConsume clock callback => exact .consumed (tryConsume_eq_ok.mp stepped)
      | setThrottle throttle =>
          cases stepped
          exact .throttled
      | reset =>
          cases stepped
          exact .cleared
  | exceedsWith clock sizeBytes =>
      rcases call_exceedsWith_eq_ok.mp taken with ⟨exceeds, admission, _⟩
      exact .judged admission
  | snapshot =>
      cases taken
      exact .read

/-- No call changes the limits of the window and the buffer. -/
theorem Effect.sizes_eq {throttler next : RateThrottler} {request : ThrottlerCall}
    (effect : Effect throttler request next) :
    next.window.size = throttler.window.size ∧ next.buffer.size = throttler.buffer.size := by
  cases effect with
  | prepared check =>
      exact ⟨check.sameQueue.windowSize_eq, CycledVecDequeue.size_tryPushAll _ _⟩
  | consumed consumption =>
      cases consumption with
      | idle => exact ⟨rfl, rfl⟩
      | refused _ admission | failed _ admission =>
          exact ⟨admission.sameQueue.windowSize_eq,
            congrArg CycledVecDequeue.size admission.sameQueue.buffer_eq⟩
      | sent _ admission _ _ check =>
          exact ⟨check.sameQueue.windowSize_eq.trans admission.sameQueue.windowSize_eq, rfl⟩
  | throttled => exact ⟨rfl, rfl⟩
  | cleared => exact ⟨rfl, rfl⟩
  | judged admission =>
      exact ⟨admission.sameQueue.windowSize_eq,
        congrArg CycledVecDequeue.size admission.sameQueue.buffer_eq⟩
  | read => exact ⟨rfl, rfl⟩

theorem sizes_of_call {throttler next : RateThrottler} {request : ThrottlerCall}
    {reply : ThrottlerReply} {windowSize bufferSize : Nat}
    (sizes : throttler.window.size = windowSize ∧ throttler.buffer.size = bufferSize)
    (taken : throttler.call request = .ok (reply, next)) :
    next.window.size = windowSize ∧ next.buffer.size = bufferSize := by
  rcases (effect_of_call taken).sizes_eq with ⟨windowEq, bufferEq⟩
  exact ⟨windowEq.trans sizes.1, bufferEq.trans sizes.2⟩

theorem sizes_of_run {throttle : ℚ} {windowSize : Nat} {infiniteBuffer : Bool}
    {history : List (Event RateThrottler ThrottlerCall ThrottlerReply)}
    {state : RateThrottler}
    (run : Run call (.new throttle windowSize infiniteBuffer) history state) :
    state.window.size = windowSize ∧
      state.buffer.size = if infiniteBuffer then 0 else cycledRatio * windowSize := by
  refine run.invariant ?_ fun _ _ _ _ sizes taken => sizes_of_call sizes taken
  cases infiniteBuffer <;> exact ⟨rfl, rfl⟩

end RateThrottler

/-- One call on a throttler, with the states around it. -/
abbrev CallEvent := Event RateThrottler ThrottlerCall ThrottlerReply

/-- The runs of calls that do not panic. -/
abbrev CallRun := Run RateThrottler.call

end StreamReplay
