import StreamReplay.Tx.Accounting
import StreamReplay.Tx.Calls

/-!
# The throttler's counters

`sum_bytes` is the sum over the window, and `frame_count` is at least the number
of packets in the buffer that are marked last, since each prepared frame has at
most one of them.  Neither counter is therefore ever decreased below zero.
-/

namespace StreamReplay

open Checked FallibleRun

/-- A prepared list of packets is what `generate_packets` emits for one frame. -/
def ThrottlerCall.FromFrame : ThrottlerCall → Prop
  | .operate (.prepare _ packets) =>
      ∃ now remains template buffer final,
        generatePackets now remains template buffer = .ok (packets, final)
  | _ => True

/-- At most one packet of a frame is marked last, however many packets it has. -/
theorem countP_lastOne_le {now : ℚ} {remains : Nat} {template final : PacketWithMeta}
    {buffer : Option (List UInt8)} {packets : List PacketWithMeta}
    (generated : generatePackets now remains template buffer = .ok (packets, final)) :
    packets.countP PacketWithMeta.lastOne ≤ 1 := by
  have marks := Sequence.map_eq_of_forall₂ (· == UInt16.ofNat (template.num - 1))
    PacketWithMeta.lastOne (indexed_of_emitPackets generated)
    (fun _ _ indexed => indexed.lastOne_eq.symm)
  have distinct : (offsetRange template.num).Nodup :=
    (offsetRange_pairwise template.num).imp UInt16.ne_of_lt
  calc packets.countP PacketWithMeta.lastOne
      = (packets.map PacketWithMeta.lastOne).countP id := by
        rw [List.countP_map, Function.id_comp]
    _ = (offsetRange template.num).count (UInt16.ofNat (template.num - 1)) := by
        rw [← marks, List.countP_map, Function.id_comp]
        rfl
    _ ≤ 1 := List.nodup_iff_count_le_one.mp distinct _

namespace RateThrottler

/-- The counters against what they count. -/
structure Counted (throttler : RateThrottler) : Prop where
  sumBytes_eq : throttler.sumBytes = (throttler.window.fifo.map Prod.snd).sum
  marked_le : throttler.buffer.fifo.countP PacketWithMeta.lastOne ≤ throttler.frameCount

theorem Counted.new (throttle : ℚ) (windowSize : Nat) (infiniteBuffer : Bool) :
    Counted (.new throttle windowSize infiniteBuffer) := by
  cases infiniteBuffer <;> exact ⟨rfl, Nat.zero_le _⟩

/-! ## The sum over the window -/

/-- What a push drops was in the window or is the entry itself. -/
theorem dropped_add_sum (throttler : RateThrottler) (now : Time) (sizeBytes : Nat) :
    throttler.dropped now sizeBytes +
        ((throttler.window.push (now, sizeBytes)).2.fifo.map Prod.snd).sum =
      (throttler.window.fifo.map Prod.snd).sum + sizeBytes := by
  rw [dropped_eq_sum, ← List.sum_append, ← List.map_append,
    CycledVecDequeue.toList_append_push]
  simp

theorem sumBytes_of_admission {throttler next : RateThrottler} {clock : Clock}
    {sizeBytes : Nat} {exceeds : Bool}
    (summed : throttler.sumBytes = (throttler.window.fifo.map Prod.snd).sum)
    (admission : Admission throttler clock sizeBytes exceeds next) :
    next.sumBytes = (next.window.fifo.map Prod.snd).sum := by
  cases exceeds with
  | true =>
      rcases admission.not_entered with ⟨windowEq, sumEq⟩
      rw [windowEq, sumEq, summed]
  | false =>
      rcases admission.entered with ⟨windowEq, sumEq⟩
      have balance := throttler.dropped_add_sum clock.push sizeBytes
      rw [windowEq, sumEq, summed]
      omega

/-- `sum_bytes -= item.1` does not underflow. -/
theorem account_returns {throttler : RateThrottler}
    (summed : throttler.sumBytes = (throttler.window.fifo.map Prod.snd).sum) (now : Time)
    (sizeBytes : Nat) : ∃ next, throttler.account now sizeBytes = .ok next := by
  have balance := throttler.dropped_add_sum now sizeBytes
  exact ⟨_, account_eq_ok.mpr ⟨by omega, rfl⟩⟩

/-! ## One call -/

theorem Counted.of_check {throttler checked : RateThrottler} {now : Time} {extra : Nat}
    {rate : Option (WithTop ℚ)} (counted : Counted throttler)
    (check : RateCheck throttler now extra rate checked) : Counted checked where
  sumBytes_eq := by
    rw [check.sumBytes_eq, check.window_eq]
    exact counted.sumBytes_eq
  marked_le := by
    rw [check.sameQueue.buffer_eq, check.sameQueue.frameCount_eq]
    exact counted.marked_le

theorem Counted.of_admission {throttler next : RateThrottler} {clock : Clock}
    {sizeBytes : Nat} {exceeds : Bool} (counted : Counted throttler)
    (admission : Admission throttler clock sizeBytes exceeds next) : Counted next where
  sumBytes_eq := sumBytes_of_admission counted.sumBytes_eq admission
  marked_le := by
    rw [admission.sameQueue.buffer_eq, admission.sameQueue.frameCount_eq]
    exact counted.marked_le

/-- A sent packet leaves the buffer, and the count if it is marked. -/
theorem Counted.of_consumption {throttler next : RateThrottler} {clock : Clock}
    {callback : PacketWithMeta → Bool} {out : Option Bool} (counted : Counted throttler)
    (consumption : Consumption throttler clock callback out next) : Counted next := by
  cases consumption with
  | idle => exact counted
  | refused _ admission => exact counted.of_admission admission
  | failed _ admission _ => exact counted.of_admission admission
  | @sent packet rest rate admitted checked head admission _ _ check =>
      have admittedSum := (counted.of_admission admission).sumBytes_eq
      constructor
      · change checked.sumBytes = (checked.window.fifo.map Prod.snd).sum
        rw [check.sumBytes_eq, check.window_eq]
        exact admittedSum
      · have marked := counted.marked_le
        rw [head, List.countP_cons] at marked
        change rest.countP PacketWithMeta.lastOne ≤ checked.frameCount
        rw [check.sameQueue.frameCount_eq, released, admission.sameQueue.frameCount_eq]
        exact Nat.le_sub_of_add_le marked

theorem Counted.of_effect {throttler next : RateThrottler} {request : ThrottlerCall}
    (counted : Counted throttler) (frame : request.FromFrame)
    (effect : Effect throttler request next) : Counted next := by
  cases effect with
  | @prepared now packets rate checked check =>
      rcases frame with ⟨_, _, _, _, _, generated⟩
      constructor
      · exact (counted.of_check check).sumBytes_eq
      · have accepted := (throttler.buffer.accepted_sublist packets).countP_le
          (p := PacketWithMeta.lastOne)
        have few := countP_lastOne_le generated
        have marked := counted.marked_le
        simp only [CycledVecDequeue.fifo_tryPushAll, List.countP_append]
        omega
  | consumed consumption => exact counted.of_consumption consumption
  | throttled => exact ⟨counted.sumBytes_eq, counted.marked_le⟩
  | cleared => exact ⟨rfl, Nat.zero_le _⟩
  | judged admission => exact counted.of_admission admission
  | read => exact counted

/-! ## No underflow -/

theorem currentRateMbps_fault {throttler : RateThrottler} {now : Time} {extra : Option Nat}
    {fault : Panic} (faulted : throttler.currentRateMbps now extra = .error fault) :
    fault = .unwrapErr := by
  unfold currentRateMbps at faulted
  split at faulted
  next => cases faulted
  next =>
    dsimp only at faulted
    split at faulted
    next => cases faulted
    next oldest _ =>
      rcases bind_eq_error.mp faulted with backward | ⟨_, _, equal⟩
      · unfold durationSince at backward
        split at backward
        · cases backward
        · cases backward
          rfl
      · cases equal

theorem Counted.exceedsWith_fault {throttler : RateThrottler} {clock : Clock}
    {sizeBytes : Nat} {fault : Panic} (counted : Counted throttler)
    (faulted : throttler.exceedsWith clock sizeBytes = .error fault) :
    fault ≠ .overflow := by
  unfold exceedsWith at faulted
  dsimp only at faulted
  split at faulted
  next =>
    rcases account_returns counted.sumBytes_eq clock.push sizeBytes with ⟨next, accounted⟩
    simp only [accounted, ok_bind, pure_eq_ok] at faulted
    cases faulted
  next =>
    rcases bind_eq_error.mp faulted with checking | ⟨⟨rate?, checked⟩, check, faulted⟩
    · rw [currentRateMbps_fault checking]
      decide
    · have checkedSum : checked.sumBytes = (checked.window.fifo.map Prod.snd).sum := by
        have check := currentRateMbps_eq_ok.mp check
        rw [check.sumBytes_eq, check.window_eq]
        exact counted.sumBytes_eq
      cases rate? with
      | none =>
          simp only [unwrap, error_bind] at faulted
          cases faulted
          decide
      | some rate =>
          simp only [unwrap, ok_bind] at faulted
          split at faulted
          next =>
            rcases account_returns checkedSum clock.push sizeBytes with ⟨next, accounted⟩
            simp only [accounted, ok_bind, pure_eq_ok] at faulted
            cases faulted
          next => cases faulted

theorem Counted.tryConsume_fault {throttler : RateThrottler} {clock : Clock}
    {callback : PacketWithMeta → Bool} {fault : Panic} (counted : Counted throttler)
    (faulted : throttler.tryConsume clock callback = .error fault) :
    fault ≠ .overflow := by
  unfold tryConsume CycledVecDequeue.front at faulted
  cases head : throttler.buffer.fifo with
  | nil =>
      rw [head] at faulted
      cases faulted
  | cons packet rest =>
      rw [head] at faulted
      rcases bind_eq_error.mp faulted with judging | ⟨⟨exceeds, admitted⟩, judged, faulted⟩
      · exact counted.exceedsWith_fault judging
      cases exceeds with
      | true => cases faulted
      | false =>
          simp only [Bool.false_eq_true, if_false] at faulted
          split at faulted
          next =>
            have admission := exceedsWith_eq_ok.mp judged
            have enough : packet.lastOne = true → 1 ≤ admitted.frameCount := by
              intro isLast
              have marked := counted.marked_le
              rw [head, List.countP_cons, if_pos isLast] at marked
              rw [admission.sameQueue.frameCount_eq]
              omega
            have left := releaseFrame_eq_ok.mpr ⟨enough, rfl⟩
            rw [left, ok_bind] at faulted
            rcases bind_eq_error.mp faulted with consuming | ⟨_, _, equal⟩
            · rcases bind_eq_error.mp consuming with checking | ⟨_, _, equal⟩
              · rw [currentRateMbps_fault checking]
                decide
              · cases equal
            · cases equal
          next => cases faulted

theorem Counted.call_fault {throttler : RateThrottler} {request : ThrottlerCall}
    {fault : Panic} (counted : Counted throttler)
    (faulted : throttler.call request = .error fault) : fault ≠ .overflow := by
  cases request with
  | snapshot => cases faulted
  | exceedsWith clock sizeBytes =>
      rcases bind_eq_error.mp faulted with judging | ⟨_, _, equal⟩
      · exact counted.exceedsWith_fault judging
      · cases equal
  | operate op =>
      rcases bind_eq_error.mp faulted with stepping | ⟨_, _, equal⟩
      · cases op with
        | prepare now packets =>
            rcases bind_eq_error.mp stepping with preparing | ⟨_, _, equal⟩
            · rcases bind_eq_error.mp preparing with checking | ⟨_, _, equal⟩
              · rw [currentRateMbps_fault checking]
                decide
              · cases equal
            · cases equal
        | tryConsume clock callback => exact counted.tryConsume_fault stepping
        | setThrottle => cases stepping
        | reset => cases stepping
      · cases equal

/-- In every state that calls reach, each `prepare` with the packets of one frame,
`sum_bytes` is the sum over the window and `frame_count` is no less than the number of
buffered packets marked last; no further call lets a counter underflow. -/
theorem counters_never_underflow {throttle : ℚ} {windowSize : Nat} {infiniteBuffer : Bool}
    {history : List CallEvent} {state : RateThrottler}
    (run : CallRun (.new throttle windowSize infiniteBuffer) history state)
    (frames : ∀ event ∈ history, event.op.FromFrame) :
    state.sumBytes = (state.window.fifo.map Prod.snd).sum ∧
      state.buffer.fifo.countP PacketWithMeta.lastOne ≤ state.frameCount ∧
      ∀ request : ThrottlerCall, state.call request ≠ .error .overflow := by
  have counted : Counted state := by
    induction run with
    | nil => exact .new throttle windowSize infiniteBuffer
    | snoc _ taken ih =>
        simp only [List.forall_mem_append, List.forall_mem_singleton] at frames
        exact (ih frames.1).of_effect frames.2 (effect_of_call taken)
  exact ⟨counted.sumBytes_eq, counted.marked_le,
    fun _ faulted => counted.call_fault faulted rfl⟩

/-- The packets of a frame of five bytes. -/
def fiveBytes : List PacketWithMeta :=
  match generatePackets 0 5 { PacketWithMeta.new 0 with num := 1 } none with
  | .ok (packets, _) => packets
  | .error _ => []

theorem counters_never_underflow_five :
    ∃ history state, CallRun (.new 0 1 false) history state ∧
      history.map Event.op =
        [.operate (.prepare 0 fiveBytes),
          .operate (.tryConsume (.still 0) fun _ => true), .exceedsWith (.still 0) 7] ∧
      state.sumBytes = (state.window.fifo.map Prod.snd).sum ∧
      state.buffer.fifo.countP PacketWithMeta.lastOne ≤ state.frameCount ∧
      ∀ request : ThrottlerCall, state.call request ≠ .error .overflow := by
  rcases exists_run_of_any call (.new 0 1 false)
    [.operate (.prepare 0 fiveBytes), .operate (.tryConsume (.still 0) fun _ => true),
      .exceedsWith (.still 0) 7] (fun _ => true)
    (by decide +kernel) with ⟨history, state, run, opsEq, _⟩
  refine ⟨history, state, run, opsEq, counters_never_underflow run ?_⟩
  intro event member
  have isOp : event.op ∈ history.map Event.op := List.mem_map_of_mem member
  rw [opsEq] at isOp
  simp only [List.mem_cons, List.not_mem_nil, or_false] at isOp
  rcases isOp with equal | equal | equal
  · rw [equal]
    exact ⟨0, 5, { PacketWithMeta.new 0 with num := 1 }, none, _, rfl⟩
  · rw [equal]
    trivial
  · rw [equal]
    trivial

end RateThrottler

end StreamReplay
