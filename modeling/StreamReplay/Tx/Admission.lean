import StreamReplay.Tx.Throttle

/-!
# What the throttler's operations do

Each operation of the throttler is described once, by the ways in which it can
return.  The invariants of a run are proved from these descriptions.
-/

namespace StreamReplay

open Checked

namespace RateThrottler

/-! ## Accounting -/

/-- The bytes of the window entry that an admission at `now` drops. -/
def dropped (throttler : RateThrottler) (now : Time) (sizeBytes : Nat) : Nat :=
  ((throttler.window.push (now, sizeBytes)).1.map Prod.snd).getD 0

theorem account_eq_ok {throttler next : RateThrottler} {now : Time} {sizeBytes : Nat} :
    throttler.account now sizeBytes = .ok next ↔
      throttler.dropped now sizeBytes ≤ throttler.sumBytes + sizeBytes ∧
        next = { throttler with
          window := (throttler.window.push (now, sizeBytes)).2
          sumBytes := throttler.sumBytes + sizeBytes - throttler.dropped now sizeBytes
          accError := throttler.accError + throttler.dropped now sizeBytes } := by
  unfold account dropped
  rcases throttler.window.push (now, sizeBytes) with ⟨item, window⟩
  cases item with
  | none => simp [eq_comm]
  | some item =>
      simp only [Option.map_some, Option.getD_some, bind_eq_ok, sub_eq_ok, pure_eq_ok,
        Except.ok.injEq]
      constructor
      · rintro ⟨sumBytes, ⟨fits, rfl⟩, rfl⟩
        exact ⟨fits, rfl⟩
      · rintro ⟨fits, rfl⟩
        exact ⟨_, ⟨fits, rfl⟩, rfl⟩

/-! ## Rate checks -/

/-- The average rate at `now`, counting `extra` bytes, if the window's oldest
entry was made at `oldest`. -/
def rateSince (throttler : RateThrottler) (oldest now : Time) (extra : Nat) : WithTop ℚ :=
  averageRateMbps (throttler.sumBytes + extra) (now - oldest)

/-- The ways in which `current_rate_mbps` returns. -/
inductive RateCheck (throttler : RateThrottler) (now : Time) (extra : Nat) :
    Option (WithTop ℚ) → RateThrottler → Prop where
  | cached (below : throttler.accError < throttler.maxError) :
      RateCheck throttler now extra (some throttler.lastRate) throttler
  | unknown (reached : throttler.maxError ≤ throttler.accError)
      (noEntry : throttler.window.fifo = []) :
      RateCheck throttler now extra none { throttler with accError := 0 }
  | computed (reached : throttler.maxError ≤ throttler.accError) {oldest : Time × Nat}
      (oldest_eq : throttler.window.front = some oldest) (forward : oldest.1 ≤ now) :
      RateCheck throttler now extra (some (throttler.rateSince oldest.1 now extra))
        { throttler with accError := 0, lastRate := throttler.rateSince oldest.1 now extra }

theorem currentRateMbps_eq_ok {throttler next : RateThrottler} {now : Time}
    {extra : Option Nat} {rate : Option (WithTop ℚ)} :
    throttler.currentRateMbps now extra = .ok (rate, next) ↔
      RateCheck throttler now (extra.getD 0) rate next := by
  constructor
  · intro returned
    unfold currentRateMbps at returned
    split at returned
    next below =>
      cases returned
      exact .cached below
    next reached =>
      cases front : throttler.window.front with
      | none =>
          simp only [front] at returned
          cases returned
          exact .unknown (Nat.not_lt.mp reached) (List.head?_eq_none_iff.mp front)
      | some oldest =>
          simp only [front, durationSince] at returned
          split at returned
          next forward =>
            cases returned
            exact .computed (Nat.not_lt.mp reached) front forward
          next => cases returned
  · intro check
    cases check with
    | cached below => exact if_pos below
    | unknown reached noEntry =>
        simp [currentRateMbps, Nat.not_lt.mpr reached, CycledVecDequeue.front, noEntry]
    | computed reached oldest_eq forward =>
        simp [currentRateMbps, Nat.not_lt.mpr reached, oldest_eq, durationSince, forward,
          rateSince]

/-! ## Admission -/

/-- The bytes of a packet to be judged count as a possible error at once. -/
def charge (throttler : RateThrottler) (sizeBytes : Nat) : RateThrottler :=
  { throttler with accError := throttler.accError + sizeBytes }

/-- The ways in which `exceeds_with` returns: a packet is admitted unconditionally
or on a rate below the throttle, and refused otherwise. -/
inductive Admission (throttler : RateThrottler) (clock : Clock) (sizeBytes : Nat) :
    Bool → RateThrottler → Prop where
  | free {next : RateThrottler}
      (unjudged : throttler.throttle = 0 ∨ throttler.window.fifo = [])
      (accounted : throttler.account clock.push sizeBytes = .ok next) :
      Admission throttler clock sizeBytes false next
  | below {rate : WithTop ℚ} {checked next : RateThrottler}
      (judged : throttler.throttle ≠ 0) (nonempty : throttler.window.fifo ≠ [])
      (check : RateCheck (throttler.charge sizeBytes) clock.rate sizeBytes (some rate) checked)
      (rate_lt : rate < throttler.throttle)
      (accounted : checked.account clock.push sizeBytes = .ok next) :
      Admission throttler clock sizeBytes false next
  | refused {rate : WithTop ℚ} {checked : RateThrottler}
      (judged : throttler.throttle ≠ 0) (nonempty : throttler.window.fifo ≠ [])
      (check : RateCheck (throttler.charge sizeBytes) clock.rate sizeBytes (some rate) checked)
      (not_lt : ¬rate < throttler.throttle) :
      Admission throttler clock sizeBytes true checked

theorem exceedsWith_eq_ok {throttler next : RateThrottler} {clock : Clock}
    {sizeBytes : Nat} {exceeds : Bool} :
    throttler.exceedsWith clock sizeBytes = .ok (exceeds, next) ↔
      Admission throttler clock sizeBytes exceeds next := by
  unfold exceedsWith
  have lenIff : throttler.window.len = 0 ↔ throttler.window.fifo = [] :=
    List.length_eq_zero_iff
  constructor
  · intro returned
    simp only [lenIff] at returned
    split at returned
    next unjudged =>
      rcases bind_eq_ok.mp returned with ⟨admitted, accounted, equal⟩
      cases equal
      exact .free unjudged accounted
    next guarded =>
      rcases not_or.mp guarded with ⟨judged, nonempty⟩
      rcases bind_eq_ok.mp returned with ⟨⟨rate?, checked⟩, check, returned⟩
      rcases bind_eq_ok.mp returned with ⟨rate, isRate, returned⟩
      obtain rfl := unwrap_eq_ok.mp isRate
      have check := currentRateMbps_eq_ok.mp check
      split at returned
      next rate_lt =>
        rcases bind_eq_ok.mp returned with ⟨admitted, accounted, equal⟩
        cases equal
        exact .below judged nonempty check rate_lt accounted
      next not_lt =>
        cases returned
        exact .refused judged nonempty check not_lt
  · intro admission
    simp only [lenIff]
    cases admission with
    | free unjudged accounted =>
        rw [if_pos unjudged, accounted, ok_bind, pure_eq_ok]
    | below judged nonempty check rate_lt accounted =>
        have checked : (throttler.charge sizeBytes).currentRateMbps clock.rate
            (some sizeBytes) = .ok (some _, _) := currentRateMbps_eq_ok.mpr check
        rw [if_neg (not_or.mpr ⟨judged, nonempty⟩)]
        unfold charge at checked
        simp only [checked, ok_bind, unwrap, rate_lt, if_true, accounted, pure_eq_ok]
    | refused judged nonempty check not_lt =>
        have checked : (throttler.charge sizeBytes).currentRateMbps clock.rate
            (some sizeBytes) = .ok (some _, _) := currentRateMbps_eq_ok.mpr check
        rw [if_neg (not_or.mpr ⟨judged, nonempty⟩)]
        unfold charge at checked
        simp only [checked, ok_bind, unwrap, not_lt, if_false, pure_eq_ok]

/-- The fields that neither a rate check nor an admission changes. -/
structure SameQueue (before after : RateThrottler) : Prop where
  buffer_eq : after.buffer = before.buffer
  frameCount_eq : after.frameCount = before.frameCount
  throttle_eq : after.throttle = before.throttle
  maxError_eq : after.maxError = before.maxError
  windowSize_eq : after.window.size = before.window.size

theorem SameQueue.trans {first second third : RateThrottler}
    (left : SameQueue first second) (right : SameQueue second third) :
    SameQueue first third where
  buffer_eq := right.buffer_eq.trans left.buffer_eq
  frameCount_eq := right.frameCount_eq.trans left.frameCount_eq
  throttle_eq := right.throttle_eq.trans left.throttle_eq
  maxError_eq := right.maxError_eq.trans left.maxError_eq
  windowSize_eq := right.windowSize_eq.trans left.windowSize_eq

theorem RateCheck.sameQueue {throttler checked : RateThrottler} {now : Time} {extra : Nat}
    {rate : Option (WithTop ℚ)} (check : RateCheck throttler now extra rate checked) :
    SameQueue throttler checked := by
  cases check <;> exact ⟨rfl, rfl, rfl, rfl, rfl⟩

theorem RateCheck.window_eq {throttler checked : RateThrottler} {now : Time} {extra : Nat}
    {rate : Option (WithTop ℚ)} (check : RateCheck throttler now extra rate checked) :
    checked.window = throttler.window := by
  cases check <;> rfl

theorem sameQueue_of_account {throttler next : RateThrottler} {now : Time}
    {sizeBytes : Nat} (accounted : throttler.account now sizeBytes = .ok next) :
    SameQueue throttler next := by
  rcases account_eq_ok.mp accounted with ⟨_, rfl⟩
  exact ⟨rfl, rfl, rfl, rfl, CycledVecDequeue.size_push _ _⟩

/-- Judging a packet touches neither the buffer nor the frame count. -/
theorem Admission.sameQueue {throttler next : RateThrottler} {clock : Clock}
    {sizeBytes : Nat} {exceeds : Bool}
    (admission : Admission throttler clock sizeBytes exceeds next) :
    SameQueue throttler next := by
  have charged : SameQueue throttler (throttler.charge sizeBytes) :=
    ⟨rfl, rfl, rfl, rfl, rfl⟩
  cases admission with
  | free _ accounted => exact sameQueue_of_account accounted
  | below _ _ check _ accounted =>
      exact (charged.trans check.sameQueue).trans (sameQueue_of_account accounted)
  | refused _ _ check _ => exact charged.trans check.sameQueue

/-! ## Preparing and consuming -/

theorem prepare_eq_ok {throttler next : RateThrottler} {now : Time}
    {packets : List PacketWithMeta} :
    throttler.prepare now packets = .ok next ↔
      ∃ rate checked, RateCheck throttler now 0 rate checked ∧
        next = { checked with
          buffer := throttler.buffer.tryPushAll packets
          frameCount := throttler.frameCount + 1 } := by
  unfold prepare
  constructor
  · intro returned
    rcases bind_eq_ok.mp returned with ⟨⟨rate, checked⟩, check, equal⟩
    have check := currentRateMbps_eq_ok.mp check
    cases equal
    exact ⟨rate, checked, check, by
      rw [← check.sameQueue.buffer_eq, ← check.sameQueue.frameCount_eq]⟩
  · rintro ⟨rate, checked, check, rfl⟩
    have checkOk : throttler.currentRateMbps now none = .ok (rate, checked) :=
      currentRateMbps_eq_ok.mpr check
    simp only [checkOk, ok_bind, pure_eq_ok, check.sameQueue.buffer_eq,
      check.sameQueue.frameCount_eq]

/-- The effect of `release_frame`. -/
def released (throttler : RateThrottler) (lastOne : Bool) : RateThrottler :=
  { throttler with frameCount := throttler.frameCount - if lastOne then 1 else 0 }

theorem releaseFrame_eq_ok {throttler next : RateThrottler} {lastOne : Bool} :
    throttler.releaseFrame lastOne = .ok next ↔
      (lastOne = true → 1 ≤ throttler.frameCount) ∧ next = throttler.released lastOne := by
  cases lastOne with
  | false =>
      change (Except.ok throttler : Except Panic _) = .ok next ↔ _ ∧ next = throttler
      simp [eq_comm]
  | true =>
      simp only [releaseFrame, if_true, bind_eq_ok, sub_eq_ok, pure_eq_ok, Except.ok.injEq]
      constructor
      · rintro ⟨frameCount, ⟨counted, rfl⟩, rfl⟩
        exact ⟨fun _ => counted, rfl⟩
      · rintro ⟨counted, rfl⟩
        exact ⟨_, ⟨counted trivial, rfl⟩, rfl⟩

/-- The ways in which `try_consume` returns. -/
inductive Consumption (throttler : RateThrottler) (clock : Clock)
    (callback : PacketWithMeta → Bool) : Option Bool → RateThrottler → Prop where
  | idle (empty : throttler.buffer.fifo = []) :
      Consumption throttler clock callback none throttler
  | refused {packet : PacketWithMeta} {rest : List PacketWithMeta} {next : RateThrottler}
      (head : throttler.buffer.fifo = packet :: rest)
      (admission : Admission throttler clock packet.packet.length.toNat true next) :
      Consumption throttler clock callback (some false) next
  | failed {packet : PacketWithMeta} {rest : List PacketWithMeta} {next : RateThrottler}
      (head : throttler.buffer.fifo = packet :: rest)
      (admission : Admission throttler clock packet.packet.length.toNat false next)
      (unsent : callback packet = false) :
      Consumption throttler clock callback (some false) next
  | sent {packet : PacketWithMeta} {rest : List PacketWithMeta}
      {rate : Option (WithTop ℚ)} {admitted checked : RateThrottler}
      (head : throttler.buffer.fifo = packet :: rest)
      (admission : Admission throttler clock packet.packet.length.toNat false admitted)
      (sends : callback packet = true)
      (counted : packet.lastOne = true → 1 ≤ throttler.frameCount)
      (check : RateCheck (admitted.released packet.lastOne) clock.consume 0 rate checked) :
      Consumption throttler clock callback (some true)
        { checked with buffer := { throttler.buffer with fifo := rest } }

theorem tryConsume_eq_ok {throttler next : RateThrottler} {clock : Clock}
    {callback : PacketWithMeta → Bool} {out : Option Bool} :
    throttler.tryConsume clock callback = .ok (out, next) ↔
      Consumption throttler clock callback out next := by
  constructor
  · intro returned
    unfold tryConsume CycledVecDequeue.front at returned
    cases head : throttler.buffer.fifo with
    | nil =>
        rw [head] at returned
        cases returned
        exact .idle head
    | cons packet rest =>
        rw [head] at returned
        rcases bind_eq_ok.mp returned with ⟨⟨exceeds, admitted⟩, judged, returned⟩
        have admission := exceedsWith_eq_ok.mp judged
        cases exceeds with
        | true =>
            cases returned
            exact .refused head admission
        | false =>
            cases sends : callback packet with
            | false =>
                simp only [sends] at returned
                cases returned
                exact .failed head admission sends
            | true =>
                simp only [sends, if_true, Bool.false_eq_true, if_false] at returned
                rcases bind_eq_ok.mp returned with ⟨left, release, returned⟩
                rcases releaseFrame_eq_ok.mp release with ⟨counted, rfl⟩
                rcases bind_eq_ok.mp returned with ⟨⟨_, consumed⟩, taken, equal⟩
                rcases bind_eq_ok.mp taken with ⟨⟨rate, checked⟩, check, popped⟩
                have check := currentRateMbps_eq_ok.mp check
                have bufferEq : checked.buffer = throttler.buffer :=
                  check.sameQueue.buffer_eq.trans admission.sameQueue.buffer_eq
                rw [admission.sameQueue.frameCount_eq] at counted
                cases equal
                cases popped
                simp only [bufferEq, head, List.tail_cons]
                exact .sent head admission sends counted check
  · intro consumption
    unfold tryConsume CycledVecDequeue.front
    cases consumption with
    | idle empty => simp [empty]
    | refused head admission =>
        simp [head, exceedsWith_eq_ok.mpr admission]
    | failed head admission unsent =>
        simp [head, exceedsWith_eq_ok.mpr admission, unsent]
    | @sent packet rest rate admitted checked head admission sends counted check =>
        have checkOk : (admitted.released packet.lastOne).currentRateMbps clock.consume none =
            .ok (rate, checked) := currentRateMbps_eq_ok.mpr check
        have bufferEq : checked.buffer = throttler.buffer :=
          check.sameQueue.buffer_eq.trans admission.sameQueue.buffer_eq
        rw [← admission.sameQueue.frameCount_eq] at counted
        have left := releaseFrame_eq_ok.mpr ⟨counted, rfl⟩
        simp only [head, List.head?_cons, exceedsWith_eq_ok.mpr admission, ok_bind, sends,
          if_true, left, consume, checkOk, CycledVecDequeue.popFront, bufferEq, pure_eq_ok,
          List.tail_cons, Bool.false_eq_true, if_false]

end RateThrottler

end StreamReplay
