import StreamReplay.Foundation.Gaps
import StreamReplay.Rx.Survival
import Mathlib.Algebra.Order.Field.Basic
import Mathlib.Tactic.Linarith

/-!
# The stuttering rate

`get_stuttering` of `rx/src/statistic/stuttering.rs` adds up what the gaps between
acknowledgements exceed a frame interval by, if that is more than another interval,
and divides the sum by the distance between two end points that are kept apart from
the list.
-/

namespace StreamReplay

open Checked FallibleRun Gaps

namespace Stutter

/-- One turn of the loop of `get_stuttering`. -/
def addDiff (ackTimes : List ℚ) (stuttering : ℚ) (i : Nat) : Except Panic ℚ := do
  let later ← index ackTimes i
  let earlier ← index ackTimes (i - 1)
  let diff := later - earlier - 0.016
  return if diff > 0.016 then stuttering + diff else stuttering

/-- The loop of `get_stuttering`: the accumulated stutter time. -/
def accumulate (ackTimes : List ℚ) : Except Panic ℚ :=
  (List.range' 1 (ackTimes.length - 1)).foldlM (addDiff ackTimes) 0

/-- The quotient is infinite where the end points coincide. -/
def getStuttering (stutter : Stutter) : Except Panic (WithTop ℚ) := do
  if stutter.ackTimes.length < 2 then return 0
  let stuttering ← accumulate stutter.ackTimes
  if stuttering = 0 then return 0
  let span := stutter.endTime - stutter.startTime
  return if span = 0 then ⊤ else ((stuttering / span : ℚ) : WithTop ℚ)

/-- The times of a receiver after these acknowledgements. -/
def ofTimes (times : List ℚ) : Stutter := times.foldl update new

/-! ## The end points -/

theorem foldl_update {start : ℚ} (set : start ≠ 0) (stop : ℚ) (known times : List ℚ) :
    times.foldl update ⟨start, stop, known⟩ =
      ⟨start, times.getLast?.getD stop, known ++ times⟩ := by
  induction times generalizing stop known with
  | nil => simp
  | cons time rest ih =>
      rw [List.foldl_cons, update, if_neg set, ih, List.getLast?_cons, List.append_assoc]
      rfl

/-- A first acknowledgement other than at zero is the start, the last one the end. -/
theorem ofTimes_cons {first : ℚ} (set : first ≠ 0) (rest : List ℚ) :
    ofTimes (first :: rest) = ⟨first, rest.getLast?.getD 0, first :: rest⟩ := by
  change rest.foldl update (update new first) = _
  exact foldl_update set 0 [first] rest

/-! ## The sum over the gaps -/

/-- What a gap contributes to the stutter time. -/
def lag (gap : ℚ) : ℚ := if gap - 0.016 > 0.016 then gap - 0.016 else 0

theorem addDiff_eq {ackTimes : List ℚ} (stuttering : ℚ) {position : Nat}
    (below : position + 1 < ackTimes.length) :
    addDiff ackTimes stuttering (1 + position) =
      .ok (stuttering + lag (ackTimes[position + 1] - ackTimes[position])) := by
  have later : index ackTimes (1 + position) = .ok ackTimes[position + 1] := by
    rw [Nat.add_comm]
    exact index_eq_ok.mpr (List.getElem?_eq_getElem below)
  have earlier : index ackTimes (1 + position - 1) = .ok ackTimes[position] := by
    rw [Nat.add_sub_cancel_left]
    exact index_eq_ok.mpr (List.getElem?_eq_getElem (Nat.lt_of_succ_lt below))
  rw [addDiff, later, earlier, ok_bind, ok_bind, lag, add_ite, add_zero]
  rfl

/-- One more time adds one more gap. -/
theorem gaps_take_succ {times : List ℚ} {count : Nat} (below : count + 1 < times.length) :
    gaps (times.take (count + 2)) =
      gaps (times.take (count + 1)) ++ [times[count + 1] - times[count]] := by
  have earlier : times.take (count + 1) = times.take count ++ [times[count]] :=
    List.take_succ_eq_append_getElem (Nat.lt_of_succ_lt below)
  have later : times.take (count + 2) =
      times.take count ++ [times[count], times[count + 1]] := by
    rw [List.take_succ_eq_append_getElem below, earlier, List.append_assoc]
    rfl
  rw [later, gaps_append_cons, ← earlier]
  rfl

/-- After `count` turns the loop has added the gaps of the first `count + 1` times. -/
theorem accumulate_turns {ackTimes : List ℚ} {count : Nat}
    (below : count < ackTimes.length) :
    (List.range' 1 count).foldlM (addDiff ackTimes) 0 =
      .ok ((gaps (ackTimes.take (count + 1))).map lag).sum := by
  induction count with
  | zero =>
      cases ackTimes with
      | nil => cases below
      | cons first rest => rfl
  | succ count ih =>
      rw [List.range'_1_concat, List.foldlM_append, ih (Nat.lt_of_succ_lt below),
        gaps_take_succ below, List.map_append, List.sum_append, ok_bind]
      rw [List.foldlM_cons, addDiff_eq _ below, ok_bind, List.map_singleton,
        List.sum_singleton]
      rfl

theorem accumulate_eq (ackTimes : List ℚ) :
    accumulate ackTimes = .ok ((gaps ackTimes).map lag).sum := by
  cases ackTimes with
  | nil => rfl
  | cons first rest =>
      have below : rest.length < (first :: rest).length := Nat.lt_succ_self _
      have turned := accumulate_turns below
      rwa [List.take_of_length_le (by simp)] at turned

/-! ## Bounds of the rate -/

theorem lag_nonneg (gap : ℚ) : 0 ≤ lag gap := by
  unfold lag
  split
  · linarith
  · exact le_refl 0

theorem lag_le {gap : ℚ} (nonneg : 0 ≤ gap) : lag gap ≤ gap := by
  unfold lag
  split
  · linarith
  · exact nonneg

theorem lag_lt {gap : ℚ} (counted : lag gap ≠ 0) : lag gap < gap := by
  unfold lag at counted ⊢
  split
  · linarith
  next small =>
    rw [if_neg small] at counted
    exact absurd rfl counted

/-- A gap in two pieces lags no more than in one. -/
theorem lag_superadditive {left right : ℚ} (leftNonneg : 0 ≤ left) (rightNonneg : 0 ≤ right) :
    lag left + lag right ≤ lag (left + right) := by
  unfold lag
  split
  · split
    · rw [if_pos (by linarith)]
      linarith
    · rw [if_pos (by linarith)]
      linarith
  · split
    · rw [if_pos (by linarith)]
      linarith
    · rw [add_zero]
      exact lag_nonneg _

/-- The stutter time is less than the distance between the ends, unless it is zero. -/
theorem stutter_lt {times : List ℚ} (ordered : times.Pairwise (· ≤ ·))
    (stutters : ((gaps times).map lag).sum ≠ 0) :
    ((gaps times).map lag).sum < (gaps times).sum := by
  have counted : ∃ gap ∈ gaps times, lag gap ≠ 0 := by
    by_contra none
    push Not at none
    exact stutters (List.sum_eq_zero (by simpa using none))
  rcases counted with ⟨gap, member, nonzero⟩
  have less := List.sum_lt_sum lag id
    (fun gap member => lag_le (nonneg_of_mem_gaps ordered member))
    ⟨gap, member, lag_lt nonzero⟩
  rwa [List.map_id] at less

theorem stutter_nonneg (times : List ℚ) : 0 ≤ ((gaps times).map lag).sum := by
  refine List.sum_nonneg ?_
  intro value member
  rcases List.mem_map.mp member with ⟨gap, _, rfl⟩
  exact lag_nonneg gap

/-! ## The rate -/

theorem startTime_ofTimes {times : List ℚ} (positive : ∀ time ∈ times, 0 < time) {first : ℚ}
    (head : times.head? = some first) : (ofTimes times).startTime = first := by
  cases times with
  | nil => cases head
  | cons time rest =>
      cases head
      rw [ofTimes_cons (positive first List.mem_cons_self).ne']

theorem endTime_ofTimes {times : List ℚ} (positive : ∀ time ∈ times, 0 < time)
    (several : 2 ≤ times.length) {last : ℚ} (final : times.getLast? = some last) :
    (ofTimes times).endTime = last := by
  cases times with
  | nil => cases final
  | cons first rest =>
      rw [ofTimes_cons (positive first List.mem_cons_self).ne']
      cases rest with
      | nil => simp at several
      | cons second rest =>
          rw [List.getLast?_cons_cons] at final
          rw [final, Option.getD_some]

theorem ackTimes_ofTimes {times : List ℚ} (positive : ∀ time ∈ times, 0 < time) :
    (ofTimes times).ackTimes = times := by
  cases times with
  | nil => rfl
  | cons first rest => rw [ofTimes_cons (positive first List.mem_cons_self).ne']

/-- With two times or more, the span is the sum of the gaps. -/
theorem span_ofTimes {times : List ℚ} (positive : ∀ time ∈ times, 0 < time)
    (several : 2 ≤ times.length) :
    (ofTimes times).endTime - (ofTimes times).startTime = (gaps times).sum := by
  cases times with
  | nil => simp at several
  | cons first rest =>
      rw [ofTimes_cons (positive first List.mem_cons_self).ne', sum_gaps]
      cases rest with
      | nil => simp at several
      | cons second rest => rw [List.getLast?_cons, Option.getD_some, Option.getD_some]

/-- No division by zero, and a quotient below one. -/
theorem getStuttering_ofTimes {times : List ℚ} (positive : ∀ time ∈ times, 0 < time)
    (ordered : times.Pairwise (· ≤ ·)) :
    ∃ rate : ℚ, (ofTimes times).getStuttering = .ok rate ∧ 0 ≤ rate ∧ rate < 1 := by
  unfold getStuttering
  rw [ackTimes_ofTimes positive, accumulate_eq]
  by_cases few : times.length < 2
  · rw [if_pos few]
    exact ⟨0, rfl, le_refl 0, zero_lt_one⟩
  rw [if_neg few, ok_bind, span_ofTimes positive (not_lt.mp few)]
  by_cases smooth : ((gaps times).map lag).sum = 0
  · rw [if_pos smooth]
    exact ⟨0, rfl, le_refl 0, zero_lt_one⟩
  · rw [if_neg smooth]
    have below := stutter_lt ordered smooth
    have spanPos : 0 < (gaps times).sum := (stutter_nonneg times).trans_lt below
    refine ⟨((gaps times).map lag).sum / (gaps times).sum, ?_, ?_, ?_⟩
    · exact congrArg Except.ok (if_neg spanPos.ne')
    · exact div_nonneg (stutter_nonneg times) spanPos.le
    · exact (div_lt_one spanPos).mpr below

/-- One more acknowledgement inside a gap does not raise the stutter time. -/
theorem accumulate_insert_le (before after : List ℚ) {first inner second : ℚ}
    (above : first ≤ inner) (below : inner ≤ second) :
    ∃ coarse fine,
      accumulate (before ++ first :: second :: after) = .ok coarse ∧
        accumulate (before ++ first :: inner :: second :: after) = .ok fine ∧
        fine ≤ coarse := by
  refine ⟨_, _, accumulate_eq _, accumulate_eq _, ?_⟩
  exact sum_map_gaps_insert_le (fun _ _ => lag_superadditive) before after above below

/-- For positive acknowledgement times in order: the end points are the first and the
last time, the rate is a proper fraction, and an acknowledgement added inside a gap
does not raise the stutter time. -/
theorem stuttering_proper {times : List ℚ} (positive : ∀ time ∈ times, 0 < time)
    (ordered : times.Pairwise (· ≤ ·)) :
    (∀ first, times.head? = some first → (ofTimes times).startTime = first) ∧
    (2 ≤ times.length → ∀ last, times.getLast? = some last →
      (ofTimes times).endTime = last) ∧
    (∃ rate : ℚ, (ofTimes times).getStuttering = .ok rate ∧ 0 ≤ rate ∧ rate < 1) ∧
    ∀ before first inner second after, times = before ++ first :: second :: after →
      first ≤ inner → inner ≤ second →
      ∃ coarse fine, accumulate (ofTimes times).ackTimes = .ok coarse ∧
        accumulate (ofTimes (before ++ first :: inner :: second :: after)).ackTimes =
          .ok fine ∧
        fine ≤ coarse := by
  refine ⟨fun _ => startTime_ofTimes positive, ?_, getStuttering_ofTimes positive ordered,
    ?_⟩
  · intro several last final
    exact endTime_ofTimes positive several final
  · intro before first inner second after equal above below
    subst equal
    have positiveInner : ∀ time ∈ before ++ first :: inner :: second :: after, 0 < time := by
      intro time member
      have which : time = inner ∨ time ∈ before ++ first :: second :: after := by
        simp only [List.mem_append, List.mem_cons] at member ⊢
        tauto
      rcases which with added | old
      · rw [added]
        exact (positive first (by simp)).trans_le above
      · exact positive time old
    rw [ackTimes_ofTimes positive, ackTimes_ofTimes positiveInner]
    exact accumulate_insert_le before after above below

theorem stuttering_proper_three :
    (ofTimes [1, 2, 3]).startTime = 1 ∧ (ofTimes [1, 2, 3]).endTime = 3 ∧
      ∃ rate : ℚ, (ofTimes [1, 2, 3]).getStuttering = .ok rate ∧ 0 ≤ rate ∧ rate < 1 := by
  have positive : ∀ time ∈ [(1 : ℚ), 2, 3], 0 < time := by decide
  rcases stuttering_proper positive (by decide) with ⟨startEq, endEq, proper, _⟩
  exact ⟨startEq 1 rfl, endEq (by decide) 3 rfl, proper⟩

end Stutter

/-! ## The rate of a receiver -/

section Receiving

variable {args : Args} {env : RecvEnv} {buffer left : RecvBuffer} {data next : RecvData}
variable {pong : Option Pong}

theorem stutter_finishFrame {seq : UInt32} {record : RecvRecord}
    (returned : finishFrame args env buffer seq record data = .ok ((pong, left), next)) :
    next.stutter = data.stutter.update env.ackTime := by
  rcases bind_eq_ok.mp returned with ⟨_, _, rest⟩
  rcases bind_eq_ok.mp rest with ⟨_, _, rest⟩
  rcases bind_eq_ok.mp rest with ⟨_, _, rest⟩
  cases rest
  rfl

/-- The acknowledgement time is noted exactly when an acknowledgement is sent. -/
theorem stutter_handleRtt
    (returned : handleRtt args env buffer data = .ok ((pong, left), next)) :
    next.stutter =
      if pong.isSome then data.stutter.update env.ackTime else data.stutter := by
  rcases handleRtt_cases returned with
    ⟨_, rfl, rfl⟩ | ⟨_, record, _, _, rfl, rfl⟩ | ⟨_, record, _, _, finished⟩
  · rfl
  · rfl
  · rw [stutter_finishFrame finished, (finishFrame_fields finished).1, if_pos rfl]
    rfl

theorem stutter_recvStep {state final : RecvState} {received : Received}
    (taken : recvStep args state received = .ok (pong, final)) :
    final.data.stutter =
      if pong.isSome then state.data.stutter.update received.env.ackTime
      else state.data.stutter := by
  cases calcRtt : args.calcRtt with
  | true =>
      rcases (recvStep_eq_ok calcRtt).mp taken with ⟨_, handled, _⟩
      rw [stutter_handleRtt handled, accountBytes]
  | false =>
      simp only [recvStep, calcRtt, Bool.false_eq_true, if_false] at taken
      rcases bind_eq_ok.mp taken with ⟨dataLen, _, equal⟩
      cases equal
      cases state.started with
      | true => rfl
      | false => rfl

/-- The acknowledgement times of a history. -/
def ackTimes (history : List (Event RecvState Received (Option Pong))) : List ℚ :=
  history.filterMap fun event => event.out.map fun _ => event.op.env.ackTime

theorem stutter_of_run {history : List (Event RecvState Received (Option Pong))}
    {state : RecvState} (run : Run (recvStep args) .start history state) :
    state.data.stutter = .ofTimes (ackTimes history) := by
  induction run with
  | nil => rfl
  | @snoc history state next op out _ taken ih =>
      rw [stutter_recvStep taken, ih, ackTimes, ackTimes, List.filterMap_append]
      cases out with
      | none => simp
      | some pong => simp [Stutter.ofTimes, List.foldl_append]

/-- While the clock shows positive times and does not run backwards, the stuttering
rate of a receiver is a proper fraction. -/
theorem stuttering_of_run {history : List (Event RecvState Received (Option Pong))}
    {state : RecvState} (run : Run (recvStep args) .start history state)
    (positive : ∀ event ∈ history, 0 < event.op.env.ackTime)
    (ordered : history.Pairwise fun earlier later =>
      earlier.op.env.ackTime ≤ later.op.env.ackTime) :
    ∃ rate : ℚ, state.data.stutter.getStuttering = .ok rate ∧ 0 ≤ rate ∧ rate < 1 := by
  rw [stutter_of_run run]
  refine Stutter.getStuttering_ofTimes ?_ ?_
  · intro time member
    rcases List.mem_filterMap.mp member with ⟨event, inHistory, emitted⟩
    rcases Option.map_eq_some_iff.mp emitted with ⟨_, _, rfl⟩
    exact positive event inHistory
  · refine List.Pairwise.filterMap _ ?_ ordered
    intro earlier later before time emitted other emittedLater
    rcases Option.map_eq_some_iff.mp emitted with ⟨_, _, rfl⟩
    rcases Option.map_eq_some_iff.mp emittedLater with ⟨_, _, rfl⟩
    exact before

end Receiving

end StreamReplay
