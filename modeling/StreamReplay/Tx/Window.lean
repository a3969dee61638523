import StreamReplay.Tx.Accounting
import StreamReplay.Tx.Calls
import Mathlib.Data.List.DropRight

/-!
# What the window holds

The window is to hold the last `window_size` admitted packets.  `push` makes room
as soon as the window is full, where `try_push` would only refuse the next item,
so one packet less is held, and none at all for a window of one.
-/

namespace StreamReplay

open Checked FallibleRun

namespace RateThrottler

/-- The entry that a call adds to the window, by the decision that it makes. -/
def admits (throttler : RateThrottler) : ThrottlerCall → List (Time × Nat)
  | .operate (.tryConsume clock _) =>
      (throttler.handed clock).toList.map fun packet =>
        (clock.push, packet.packet.length.toNat)
  | .exceedsWith clock sizeBytes =>
      match throttler.exceedsWith clock sizeBytes with
      | .ok (false, _) => [(clock.push, sizeBytes)]
      | _ => []
  | _ => []

end RateThrottler

namespace CallEvent

def admits (event : CallEvent) : List (Time × Nat) := event.before.admits event.op

def isReset (event : CallEvent) : Bool :=
  match event.op with
  | .operate .reset => true
  | _ => false

end CallEvent

/-- The packets admitted since the last reset, with the times of their admission. -/
def admittedSince (history : List CallEvent) : List (Time × Nat) :=
  collect CallEvent.admits CallEvent.isReset history

/-! ## One admission -/

/-- A window that holds the last `size - 1` items still does after a push. -/
theorem CycledVecDequeue.fifo_push_rtake {α : Type*} {queue : CycledVecDequeue α}
    {items : List α} (positive : 1 ≤ queue.size)
    (holds : queue.fifo = items.rtake (queue.size - 1)) (item : α) :
    (queue.push item).2.fifo = (items ++ [item]).rtake (queue.size - 1) := by
  have start : items.length - (queue.size - 1) ≤ items.length := Nat.sub_le _ _
  have held : queue.fifo ++ [item] =
      (items ++ [item]).drop (items.length - (queue.size - 1)) := by
    rw [holds, List.rtake, List.drop_append_of_le_length start]
  have length : queue.fifo.length = min items.length (queue.size - 1) := by
    rw [holds, List.rtake, List.length_drop]
    omega
  rw [fifo_push, held, List.rtake, List.length_append, List.length_singleton]
  split
  next limit =>
    have onward : items.length - (queue.size - 1) + 1 =
        items.length + 1 - (queue.size - 1) := by omega
    rw [List.tail_drop, onward]
  next room =>
    have same : items.length - (queue.size - 1) = items.length + 1 - (queue.size - 1) := by
      omega
    rw [same]

namespace RateThrottler

/-- An admitted packet is pushed to the window, a refused one is not. -/
theorem Admission.window_eq {throttler next : RateThrottler} {clock : Clock}
    {sizeBytes : Nat} {exceeds : Bool}
    (admission : Admission throttler clock sizeBytes exceeds next) :
    next.window = if exceeds then throttler.window
      else (throttler.window.push (clock.push, sizeBytes)).2 := by
  cases exceeds with
  | true => exact admission.not_entered.1
  | false => exact admission.entered.1

/-- The window keeps the last `windowSize - 1` of the admitted packets. -/
def Holds (windowSize : Nat) (admitted : List (Time × Nat)) (throttler : RateThrottler) :
    Prop :=
  throttler.window.size = windowSize ∧
    throttler.window.fifo = admitted.rtake (windowSize - 1)

theorem Holds.of_window_eq {windowSize : Nat} {admitted : List (Time × Nat)}
    {throttler next : RateThrottler} (holds : Holds windowSize admitted throttler)
    (windowEq : next.window = throttler.window) : Holds windowSize admitted next := by
  rw [Holds, windowEq]
  exact holds

theorem Holds.admission {windowSize : Nat} (positive : 1 ≤ windowSize)
    {admitted : List (Time × Nat)} {throttler next : RateThrottler} {clock : Clock}
    {sizeBytes : Nat} {exceeds : Bool} (holds : Holds windowSize admitted throttler)
    (admission : Admission throttler clock sizeBytes exceeds next) :
    Holds windowSize (admitted ++ if exceeds then [] else [(clock.push, sizeBytes)]) next := by
  have windowEq := admission.window_eq
  cases exceeds with
  | true =>
      rw [if_pos rfl, List.append_nil]
      exact holds.of_window_eq windowEq
  | false =>
      rcases holds with ⟨rfl, held⟩
      constructor
      · rw [windowEq]
        exact CycledVecDequeue.size_push _ _
      · rw [windowEq]
        exact CycledVecDequeue.fifo_push_rtake positive held _

/-- One call adds what it admits to the window, or clears it. -/
theorem Holds.call {windowSize : Nat} (positive : 1 ≤ windowSize)
    {admitted : List (Time × Nat)} {before after : RateThrottler}
    {request : ThrottlerCall} {reply : ThrottlerReply}
    (holds : Holds windowSize admitted before)
    (taken : before.call request = .ok (reply, after)) :
    let event : CallEvent := ⟨before, request, reply, after⟩
    Holds windowSize (if event.isReset then [] else admitted ++ event.admits) after := by
  cases effect_of_call taken with
  | prepared check =>
      simp only [CallEvent.isReset, CallEvent.admits, admits, List.append_nil]
      exact holds.of_window_eq check.window_eq
  | @consumed clock callback out _ consumption =>
      simp only [CallEvent.isReset, CallEvent.admits, admits]
      cases consumption with
      | idle empty =>
          simpa [handed, CycledVecDequeue.front, empty] using holds
      | refused head admission =>
          rw [handed_of_admission head admission]
          exact holds.admission positive admission
      | failed head admission unsent =>
          rw [handed_of_admission head admission]
          exact holds.admission positive admission
      | sent head admission sends counted check =>
          rw [handed_of_admission head admission]
          exact (holds.admission positive admission).of_window_eq check.window_eq
  | throttled =>
      simp only [CallEvent.isReset, CallEvent.admits, admits, List.append_nil]
      exact holds
  | cleared =>
      exact ⟨holds.1, by simp [reset, CycledVecDequeue.reset, CallEvent.isReset, List.rtake]⟩
  | @judged clock sizeBytes exceeds _ admission =>
      have decided := exceedsWith_eq_ok.mpr admission
      simp only [CallEvent.isReset, CallEvent.admits, admits, decided]
      cases exceeds with
      | true => exact holds.admission positive admission
      | false => exact holds.admission positive admission
  | read =>
      simp only [CallEvent.isReset, CallEvent.admits, admits, List.append_nil]
      exact holds

/-- What the window holds in every run. -/
theorem holds_of_run {windowSize : Nat} (positive : 1 ≤ windowSize) {throttle : ℚ}
    {infiniteBuffer : Bool} {history : List CallEvent} {state : RateThrottler}
    (run : CallRun (.new throttle windowSize infiniteBuffer) history state) :
    Holds windowSize (admittedSince history) state := by
  induction run with
  | nil => exact ⟨rfl, by simp [admittedSince, new, CycledVecDequeue.new, List.rtake]⟩
  | snoc _ taken ih =>
      simp only [admittedSince, collect_snoc] at ih ⊢
      exact ih.call positive taken

/-! ## The window while it is filling -/

/-- Every admission in this state is made on a rate below the throttle. -/
def ChecksNext (throttler : RateThrottler) : Prop :=
  ∀ clock sizeBytes next, throttler.exceedsWith clock sizeBytes = .ok (false, next) →
    ∃ rate checked,
      (throttler.charge sizeBytes).currentRateMbps clock.rate (some sizeBytes) =
        .ok (some rate, checked) ∧ rate < throttler.throttle

theorem checksNext_of_window {throttler : RateThrottler} (judged : throttler.throttle ≠ 0)
    (nonempty : throttler.window.fifo ≠ []) : ChecksNext throttler := by
  intro clock sizeBytes next decided
  cases exceedsWith_eq_ok.mp decided with
  | free unjudged _ =>
      rcases unjudged with unthrottled | empty
      · exact absurd unthrottled judged
      · exact absurd empty nonempty
  | below _ _ check rate_lt _ => exact ⟨_, _, currentRateMbps_eq_ok.mpr check, rate_lt⟩

/-- In every run the window holds the last `window_size` admitted packets, and every
admission after the first is checked against a nonzero throttle, exactly when fewer
than `window_size` packets have been admitted since construction or reset. -/
theorem window_exact_iff {windowSize : Nat} (positive : 1 ≤ windowSize) {throttle : ℚ}
    {infiniteBuffer : Bool} {history : List CallEvent} {state : RateThrottler}
    (run : CallRun (.new throttle windowSize infiniteBuffer) history state) :
    (state.window.fifo = (admittedSince history).rtake windowSize ∧
        (admittedSince history ≠ [] → state.throttle ≠ 0 → ChecksNext state)) ↔
      (admittedSince history).length < windowSize := by
  rcases holds_of_run positive run with ⟨_, held⟩
  have length : state.window.fifo.length =
      min (admittedSince history).length (windowSize - 1) := by
    rw [held, List.rtake, List.length_drop]
    omega
  constructor
  · rintro ⟨exact, _⟩
    rw [exact, List.rtake, List.length_drop] at length
    omega
  · intro few
    have whole : state.window.fifo = admittedSince history := by
      rw [held, List.rtake, Nat.sub_eq_zero_of_le (by omega), List.drop_zero]
    refine ⟨?_, fun admitted judged => ?_⟩
    · rw [whole, List.rtake, Nat.sub_eq_zero_of_le few.le, List.drop_zero]
    · exact checksNext_of_window judged (whole ▸ admitted)

theorem window_exact_iff_three :
    ∃ history state, CallRun (.new 1 3 false) history state ∧
      ((state.window.fifo = (admittedSince history).rtake 3 ∧
          (admittedSince history ≠ [] → state.throttle ≠ 0 → ChecksNext state)) ↔
        (admittedSince history).length < 3) := by
  rcases exists_run_of_any call (.new 1 3 false)
    [.exceedsWith (.still 0) 100, .exceedsWith (.still 1000000) 100] (fun _ => true)
    (by decide +kernel) with ⟨history, state, run, _, _⟩
  exact ⟨history, state, run, window_exact_iff (by decide) run⟩

/-- A window of one holds nothing, so a gigabyte is admitted at 1 Mbps right after
another packet. -/
theorem window_of_one_unchecked :
    ∃ history state, CallRun (.new 1 1 false) history state ∧
      history.map Event.op =
        [.exceedsWith (.still 0) 100, .exceedsWith (.still 0) 1000000000] ∧
      admittedSince history = [(0, 100), (0, 1000000000)] ∧
      state.window.fifo ≠ (admittedSince history).rtake 1 := by
  rcases exists_run_of_trace call (.new 1 1 false)
    [.exceedsWith (.still 0) 100, .exceedsWith (.still 0) 1000000000]
    (fun history state => admittedSince history == [(0, 100), (0, 1000000000)] &&
      state.window.fifo == [])
    (by decide +kernel) with ⟨history, state, run, opsEq, observed⟩
  rw [Bool.and_eq_true, beq_iff_eq, beq_iff_eq] at observed
  refine ⟨history, state, run, opsEq, observed.1, ?_⟩
  rw [observed.1, observed.2]
  decide

end RateThrottler

end StreamReplay
