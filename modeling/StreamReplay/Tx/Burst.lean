import StreamReplay.Tx.Conservation

/-!
# The burst on a stale rate

Between two recomputations the throttler decides on the last rate.  The bytes it
admits in that time are a ghost of the run; `acc_error` bounds them from above,
and a cached decision is made only while `acc_error` is below `max_error`.
-/

namespace StreamReplay

open Checked FallibleRun

namespace RateThrottler

/-- A rate check in this state recomputes the rate from the clock. -/
def recomputes (throttler : RateThrottler) : Bool :=
  throttler.maxError ≤ throttler.accError && !throttler.window.fifo.isEmpty

/-- The bytes admitted on the cached rate, after a rate check. -/
def staleAfterCheck (throttler : RateThrottler) (stale : Nat) : Nat :=
  if throttler.recomputes then 0 else stale

/-- The bytes admitted on the cached rate, after `exceeds_with`.  An admission
without a rate check is not made on the cached rate. -/
def staleAfterJudging (throttler : RateThrottler) (sizeBytes stale : Nat) : Nat :=
  if throttler.throttle = 0 ∨ throttler.window.len = 0 then stale
  else if (throttler.charge sizeBytes).recomputes then 0
  else if throttler.lastRate < throttler.throttle then stale + sizeBytes
  else stale

end RateThrottler

/-- The bytes admitted on the cached rate, after an operation. -/
def ThrottlerEvent.staleAfter (stale : Nat) (event : ThrottlerEvent) : Nat :=
  match event.op with
  | .prepare _ _ => event.before.staleAfterCheck stale
  | .tryConsume clock callback =>
      match event.before.buffer.front with
      | none => stale
      | some packet =>
          let sizeBytes := packet.packet.length.toNat
          let judged := event.before.staleAfterJudging sizeBytes stale
          match event.before.exceedsWith clock sizeBytes with
          | .ok (false, admitted) =>
              if callback packet then admitted.staleAfterCheck judged else judged
          | _ => judged
  | .setThrottle _ => stale
  | .reset => 0

/-- The bytes admitted on the cached rate since it was last recomputed. -/
def staleBytes (history : List ThrottlerEvent) : Nat :=
  history.foldl ThrottlerEvent.staleAfter 0

/-- The invariant: the accumulated error covers the bytes admitted on the cached
rate, and there are none while the window is empty. -/
structure StaleBound (stale : Nat) (throttler : RateThrottler) : Prop where
  le_accError : stale ≤ throttler.accError
  eq_zero_of_empty : throttler.window.fifo = [] → stale = 0

/-! ## Rate checks and admissions keep the bound -/

namespace StaleBound

variable {stale : Nat} {throttler : RateThrottler}

theorem check (bound : StaleBound stale throttler) {now : Time} {extra : Nat}
    {rate : Option (WithTop ℚ)} {checked : RateThrottler}
    (check : RateThrottler.RateCheck throttler now extra rate checked) :
    StaleBound (throttler.staleAfterCheck stale) checked := by
  cases check with
  | cached below =>
      have kept : throttler.recomputes = false := by
        simp [RateThrottler.recomputes, below]
      simpa [RateThrottler.staleAfterCheck, kept] using bound
  | unknown reached noEntry =>
      have kept : throttler.recomputes = false := by
        simp [RateThrottler.recomputes, noEntry]
      have none := bound.eq_zero_of_empty noEntry
      simp only [RateThrottler.staleAfterCheck, kept, none]
      exact ⟨Nat.zero_le _, fun _ => rfl⟩
  | computed reached oldest_eq forward =>
      have some : throttler.window.fifo ≠ [] := by
        intro empty
        simp [CycledVecDequeue.front, empty] at oldest_eq
      have fresh : throttler.recomputes = true := by
        simp [RateThrottler.recomputes, reached, some]
      simp only [RateThrottler.staleAfterCheck, fresh, if_true]
      exact ⟨Nat.zero_le _, fun _ => rfl⟩

theorem account (bound : StaleBound stale throttler) {now : Time} {sizeBytes : Nat}
    {next : RateThrottler} (accounted : throttler.account now sizeBytes = .ok next) :
    StaleBound stale next := by
  rcases RateThrottler.account_eq_ok.mp accounted with ⟨_, rfl⟩
  constructor
  · exact bound.le_accError.trans (Nat.le_add_right _ _)
  · intro empty
    apply bound.eq_zero_of_empty
    by_contra nonempty
    exact CycledVecDequeue.push_ne_nil nonempty _ empty

/-- The rate check of `exceeds_with`, before the admission is accounted. -/
theorem judge (bound : StaleBound stale throttler)
    (judged : throttler.throttle ≠ 0) (nonempty : throttler.window.fifo ≠ [])
    {clock : Clock} {sizeBytes : Nat} {rate : Option (WithTop ℚ)} {checked : RateThrottler}
    (check : RateThrottler.RateCheck (throttler.charge sizeBytes) clock.rate sizeBytes
      rate checked) :
    StaleBound (throttler.staleAfterJudging sizeBytes stale) checked := by
  have charged : StaleBound (stale + sizeBytes) (throttler.charge sizeBytes) :=
    ⟨Nat.add_le_add_right bound.le_accError _, fun empty => absurd empty nonempty⟩
  have kept := charged.check check
  have windowEq : checked.window.fifo ≠ [] := by
    rw [check.window_eq]
    exact nonempty
  have guarded : ¬(throttler.throttle = 0 ∨ throttler.window.len = 0) :=
    not_or.mpr ⟨judged, fun empty => nonempty (List.length_eq_zero_iff.mp empty)⟩
  unfold RateThrottler.staleAfterCheck at kept
  rw [RateThrottler.staleAfterJudging, if_neg guarded]
  split_ifs at kept ⊢
  · exact kept
  · exact kept
  · exact ⟨(Nat.le_add_right _ _).trans kept.le_accError, fun empty => absurd empty windowEq⟩

theorem admission (bound : StaleBound stale throttler) {clock : Clock} {sizeBytes : Nat}
    {exceeds : Bool} {next : RateThrottler}
    (admission : RateThrottler.Admission throttler clock sizeBytes exceeds next) :
    StaleBound (throttler.staleAfterJudging sizeBytes stale) next := by
  cases admission with
  | free unjudged accounted =>
      have unguarded : throttler.throttle = 0 ∨ throttler.window.len = 0 :=
        unjudged.imp_right List.length_eq_zero_iff.mpr
      rw [RateThrottler.staleAfterJudging, if_pos unguarded]
      exact bound.account accounted
  | below judged nonempty check _ accounted =>
      exact (bound.judge judged nonempty check).account accounted
  | refused judged nonempty check _ => exact bound.judge judged nonempty check

/-- The buffer and the frame count play no part in the bound. -/
theorem requeue (bound : StaleBound stale throttler)
    (buffer : CycledVecDequeue PacketWithMeta) (frameCount : Nat) :
    StaleBound stale { throttler with buffer, frameCount } :=
  ⟨bound.le_accError, bound.eq_zero_of_empty⟩

theorem consumption (bound : StaleBound stale throttler) {clock : Clock}
    {callback : PacketWithMeta → Bool} {out : Option Bool} {next : RateThrottler}
    (consumption : RateThrottler.Consumption throttler clock callback out next) :
    StaleBound (ThrottlerEvent.staleAfter stale
      ⟨throttler, .tryConsume clock callback, out, next⟩) next := by
  cases consumption with
  | idle empty => simpa [ThrottlerEvent.staleAfter, CycledVecDequeue.front, empty] using bound
  | refused head admission =>
      simpa [ThrottlerEvent.staleAfter, CycledVecDequeue.front, head,
        RateThrottler.exceedsWith_eq_ok.mpr admission] using bound.admission admission
  | failed head admission unsent =>
      simpa [ThrottlerEvent.staleAfter, CycledVecDequeue.front, head, unsent,
        RateThrottler.exceedsWith_eq_ok.mpr admission] using bound.admission admission
  | @sent packet rest _ admitted checked head admission sends _ check =>
      have judged := bound.admission admission
      have kept := (judged.requeue admitted.buffer
        (admitted.released packet.lastOne).frameCount).check check
      have requeued := kept.requeue { throttler.buffer with fifo := rest } checked.frameCount
      simpa [ThrottlerEvent.staleAfter, CycledVecDequeue.front, head, sends,
        RateThrottler.exceedsWith_eq_ok.mpr admission, RateThrottler.staleAfterCheck,
        RateThrottler.recomputes] using requeued

/-- The bound for one step. -/
theorem step (bound : StaleBound stale throttler) {op : ThrottlerOp} {out : Option Bool}
    {next : RateThrottler} (taken : RateThrottler.step throttler op = .ok (out, next)) :
    StaleBound (ThrottlerEvent.staleAfter stale ⟨throttler, op, out, next⟩) next := by
  cases op with
  | prepare now packets =>
      rcases bind_eq_ok.mp taken with ⟨prepared, returned, equal⟩
      rcases RateThrottler.prepare_eq_ok.mp returned with ⟨_, checked, check, rfl⟩
      cases equal
      exact (bound.check check).requeue _ _
  | tryConsume clock callback =>
      exact bound.consumption (RateThrottler.tryConsume_eq_ok.mp taken)
  | setThrottle throttle =>
      cases taken
      exact ⟨bound.le_accError, bound.eq_zero_of_empty⟩
  | reset =>
      cases taken
      exact ⟨Nat.le_refl 0, fun _ => rfl⟩

/-- The bound for a run. -/
theorem run {throttle : ℚ} {windowSize : Nat} {infiniteBuffer : Bool}
    {history : List ThrottlerEvent} {state : RateThrottler}
    (run : ThrottlerRun (.new throttle windowSize infiniteBuffer) history state) :
    StaleBound (staleBytes history) state := by
  induction run with
  | nil => exact ⟨Nat.le_refl 0, fun _ => rfl⟩
  | snoc _ taken ih =>
      rw [staleBytes, List.foldl_append]
      exact ih.step taken

end StaleBound

/-- In every run, whatever the throttle was set to before, an admission with a
nonempty window is made on the rate of that very moment, or on a cached rate with
fewer than `max_error` bytes admitted since the rate was last computed. -/
theorem admission_bounded {throttle : ℚ} {windowSize : Nat} {infiniteBuffer : Bool}
    {history : List ThrottlerEvent} {state : RateThrottler}
    (run : ThrottlerRun (.new throttle windowSize infiniteBuffer) history state)
    (throttled : 0 < state.throttle) (nonempty : state.window.fifo ≠ [])
    {clock : Clock} {sizeBytes : Nat} {next : RateThrottler}
    (admitted : state.exceedsWith clock sizeBytes = .ok (false, next)) :
    (∃ oldest rest, state.window.fifo = oldest :: rest ∧ oldest.1 < clock.rate ∧
      let rate : ℚ := 8 * ((state.sumBytes + sizeBytes : Nat) / 10 ^ 6) /
        ((clock.rate - oldest.1 : Nat) / 10 ^ 9)
      next.lastRate = rate ∧ rate < state.throttle) ∨
    (next.lastRate = state.lastRate ∧ state.lastRate < state.throttle ∧
      staleBytes history + sizeBytes < state.maxError) := by
  have bound := StaleBound.run run
  cases RateThrottler.exceedsWith_eq_ok.mp admitted with
  | free unjudged _ =>
      rcases unjudged with unthrottled | empty
      · exact absurd unthrottled throttled.ne'
      · exact absurd empty nonempty
  | below _ _ check rate_lt accounted =>
      rcases RateThrottler.account_eq_ok.mp accounted with ⟨_, rfl⟩
      cases check with
      | cached below =>
          right
          exact ⟨rfl, rate_lt,
            (Nat.add_le_add_right bound.le_accError sizeBytes).trans_lt below⟩
      | @computed reached oldest oldest_eq forward =>
          left
          rcases List.head?_eq_some_iff.mp oldest_eq with ⟨rest, windowEq⟩
          simp only [RateThrottler.rateSince, averageRateMbps] at rate_lt ⊢
          split at rate_lt
          next => exact absurd rate_lt not_top_lt
          next elapsed =>
            rw [if_neg elapsed]
            refine ⟨oldest, rest, windowEq, Nat.lt_of_sub_ne_zero elapsed, rfl, ?_⟩
            exact WithTop.coe_lt_coe.mp rate_lt

theorem admission_bounded_second :
    ∃ history state next, ThrottlerRun (.new 1 100 false) history state ∧
      state.exceedsWith (.still 1) 5 = .ok (false, next) ∧
      ((∃ oldest rest, state.window.fifo = oldest :: rest ∧ oldest.1 < 1 ∧
        let rate : ℚ :=
          8 * ((state.sumBytes + 5 : Nat) / 10 ^ 6) / ((1 - oldest.1 : Nat) / 10 ^ 9)
        next.lastRate = rate ∧ rate < state.throttle) ∨
      (next.lastRate = state.lastRate ∧ state.lastRate < state.throttle ∧
        staleBytes history + 5 < state.maxError)) := by
  obtain ⟨history, state, run, _, passes⟩ :=
    exists_run_of_any RateThrottler.step (.new 1 100 false)
      [.prepare 0 [.new 1, .new 2], .tryConsume (.still 0) fun _ => true]
      (fun state => 0 < state.throttle && !state.window.fifo.isEmpty &&
        (state.exceedsWith (.still 1) 5).toOption.any fun result => !result.1)
      (by decide +kernel)
  simp only [Bool.and_eq_true, decide_eq_true_eq, Bool.not_eq_true', List.isEmpty_eq_false_iff]
    at passes
  rcases passes with ⟨⟨throttled, nonempty⟩, admitted⟩
  rcases exists_of_any admitted with ⟨⟨exceeds, next⟩, judged, admitted⟩
  obtain rfl : exceeds = false := by simpa using admitted
  exact ⟨history, state, next, run, judged, admission_bounded run throttled nonempty judged⟩

end StreamReplay
