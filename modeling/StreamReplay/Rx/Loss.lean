import StreamReplay.Rx.Delivery

/-!
# The reported loss

The packet loss rate is the difference of two counters, of which one moves before the
sampling test and the other after it.  With no datagram delivered twice, the second
counts the whole frames that can be completed, so the difference is the number of lost
frames as long as every whole frame can be.
-/

namespace StreamReplay

open Checked FallibleRun

section Loss

variable {emission : Emission}

/-- No datagram is delivered twice. -/
def NoRepeats (copies : List (Copy emission)) : Prop :=
  (copies.map fun copy => (copy.seq, copy.index)).Nodup

/-- The frames up to `last` of which some packet did not arrive. -/
def lostFrames (copies : List (Copy emission)) (last : Nat) : Finset Nat :=
  (Finset.Icc 1 last).filter fun seq => ¬Whole copies (UInt32.ofNat seq)

/-- The frames up to `last` of which every packet arrived. -/
def wholeFrames (copies : List (Copy emission)) (last : Nat) : Finset Nat :=
  (Finset.Icc 1 last).filter fun seq => Whole copies (UInt32.ofNat seq)

/-- Up to the last frame that has been seen, every whole frame can be completed. -/
def AllCompletable (args : Args) (copies : List (Copy emission)) : Prop :=
  ∀ copy ∈ copies, ∀ seq : UInt32, 1 ≤ seq.toNat → seq ≤ copy.seq → Whole copies seq →
    Completable emission args seq

theorem card_wholeFrames_add (copies : List (Copy emission)) (last : Nat) :
    (wholeFrames copies last).card + (lostFrames copies last).card = last := by
  rw [wholeFrames, lostFrames, Finset.card_filter_add_card_filter_not, Nat.card_Icc,
    Nat.add_sub_cancel]

theorem mem_wholeFrames {copies : List (Copy emission)} {last : UInt32} {seq : UInt32} :
    seq.toNat ∈ wholeFrames copies last.toNat ↔
      (1 ≤ seq.toNat ∧ seq.toNat ≤ last.toNat) ∧ Whole copies seq := by
  rw [wholeFrames, Finset.mem_filter, Finset.mem_Icc, UInt32.ofNat_toNat]

/-- The indices of one frame do not repeat either. -/
theorem NoRepeats.indicesOf {copies : List (Copy emission)} (noRepeats : NoRepeats copies)
    (seq : UInt32) : (indicesOf copies seq).Nodup := by
  have distinct : copies.Pairwise fun first second =>
      (first.seq, first.index) ≠ (second.seq, second.index) :=
    List.pairwise_map.mp noRepeats
  refine List.pairwise_map.mpr ((distinct.filter _).imp_of_mem ?_)
  intro first second firstMem secondMem different same
  have firstSeq := of_decide_eq_true (List.mem_filter.mp firstMem).2
  have secondSeq := of_decide_eq_true (List.mem_filter.mp secondMem).2
  exact different (by rw [firstSeq, secondSeq, same])

variable {args : Args} {history : List (Event RecvState (Copy emission) (Option Pong))}
  {state : RecvState}

/-- Without repetitions the whole frames that can be completed are acknowledged, once
each, and no others. -/
theorem count_acknowledged_of_noRepeats (calcRtt : args.calcRtt = true)
    (run : Run (recvCopy args) .start history state)
    (noRepeats : NoRepeats (history.map Event.op)) (seq : UInt32) :
    (acknowledged history).count seq ≤ 1 ∧
      (seq ∈ acknowledged history ↔
        Completable emission args seq ∧ Whole (history.map Event.op) seq) := by
  by_cases completable : Completable emission args seq
  · have count := count_acknowledged calcRtt run completable
    rw [Rounds.rounds_eq_of_nodup completable.nonempty (noRepeats.indicesOf seq)] at count
    rw [← List.count_pos_iff, count]
    split
    next whole => simp [completable, whole]
    next missing => simp [completable, missing]
  · have never : seq ∉ acknowledged history := fun acked =>
      completable (completable_of_acknowledged calcRtt run acked)
    exact ⟨by rw [List.count_eq_zero.mpr never]; exact Nat.zero_le _,
      iff_of_false never fun both => completable both.1⟩

/-- The counter of received frames stays below the whole frames, and reaches them
exactly when all of them can be completed. -/
theorem recevied_eq_card_wholeFrames (calcRtt : args.calcRtt = true)
    (run : Run (recvCopy args) .start history state)
    (noRepeats : NoRepeats (history.map Event.op)) :
    state.data.recevied.toNat ≤
        (wholeFrames (history.map Event.op) state.data.lastSeq.toNat).card ∧
      (state.data.recevied.toNat =
          (wholeFrames (history.map Event.op) state.data.lastSeq.toNat).card ↔
        AllCompletable args (history.map Event.op)) := by
  have counted := count_acknowledged_of_noRepeats calcRtt run noRepeats
  have tallies := tallies_of_run calcRtt run
  have among : ((acknowledged history).map UInt32.toNat).toFinset ⊆
      wholeFrames (history.map Event.op) state.data.lastSeq.toNat := by
    intro value member
    rcases List.mem_map.mp (List.mem_toFinset.mp member) with ⟨seq, acked, rfl⟩
    exact mem_wholeFrames.mpr
      ⟨Finset.mem_Icc.mp (acknowledged_bounds calcRtt run acked), ((counted seq).2.mp acked).2⟩
  rw [recevied_eq_card calcRtt run fun seq => (counted seq).1]
  refine ⟨Finset.card_le_card among, ?_⟩
  constructor
  · intro equal copy member seq positive le whole
    have bounded := (UInt32.le_iff_toNat_le.mp le).trans (tallies.bounded copy member)
    have inAll : seq.toNat ∈ ((acknowledged history).map UInt32.toNat).toFinset := by
      rw [Finset.eq_of_subset_of_card_le among equal.ge]
      exact mem_wholeFrames.mpr ⟨⟨positive, bounded⟩, whole⟩
    rcases List.mem_map.mp (List.mem_toFinset.mp inAll) with ⟨other, acked, same⟩
    rw [UInt32.toNat_inj] at same
    exact ((counted seq).2.mp (same ▸ acked)).1
  · intro every
    refine le_antisymm (Finset.card_le_card among) (Finset.card_le_card ?_)
    intro value member
    rcases Finset.mem_filter.mp member with ⟨range, whole⟩
    rcases Finset.mem_Icc.mp range with ⟨positive, bounded⟩
    have small : value < 2 ^ 32 := Nat.lt_of_le_of_lt bounded state.data.lastSeq.toNat_lt
    have valueEq : (UInt32.ofNat value).toNat = value := by
      rw [UInt32.toNat_ofNat', Nat.mod_eq_of_lt small]
    rcases tallies.reached with zero | ⟨copy, seen, last⟩
    · omega
    · have le : UInt32.ofNat value ≤ copy.seq := by
        rw [UInt32.le_iff_toNat_le, valueEq, last]
        exact bounded
      have completable := every copy seen _ (by rw [valueEq]; exact positive) le whole
      exact List.mem_toFinset.mpr (List.mem_map.mpr
        ⟨_, (counted _).2.mpr ⟨completable, whole⟩, valueEq⟩)

end Loss

/-- When no datagram is delivered twice, the reported numerator is the number of lost
frames exactly when every whole frame up to the last one seen can be completed; it is
then 0 if nothing is lost. -/
theorem loss_exact_iff {emission : Emission} {args : Args}
    {history : List (Event RecvState (Copy emission) (Option Pong))} {state : RecvState}
    (run : Run (recvCopy args) .start history state)
    (noRepeats : NoRepeats (history.map Event.op)) :
    (nonReceived state.data =
        .ok (lostFrames (history.map Event.op) state.data.lastSeq.toNat).card ↔
      (args.calcRtt = true → AllCompletable args (history.map Event.op))) ∧
    ((args.calcRtt = true → AllCompletable args (history.map Event.op)) →
      (∀ seq, Whole (history.map Event.op) seq) → nonReceived state.data = .ok 0) := by
  have exact_iff : nonReceived state.data =
        .ok (lostFrames (history.map Event.op) state.data.lastSeq.toNat).card ↔
      (args.calcRtt = true → AllCompletable args (history.map Event.op)) := by
    cases calcRtt : args.calcRtt with
    | false =>
        rcases off_of_run calcRtt run with ⟨_, zero, nothing⟩
        simp [nonReceived, zero, nothing, lostFrames]
    | true =>
        rcases recevied_eq_card_wholeFrames calcRtt run noRepeats with ⟨le, equal⟩
        have total := card_wholeFrames_add (history.map Event.op) state.data.lastSeq.toNat
        rw [forall_prop_of_true rfl, ← equal, nonReceived, sub_eq_ok]
        omega
  refine ⟨exact_iff, ?_⟩
  intro every whole
  have none : lostFrames (history.map Event.op) state.data.lastSeq.toNat = ∅ :=
    Finset.filter_false_of_mem fun seq _ missing => missing (whole _)
  rw [exact_iff.mpr every, none, Finset.card_empty]

/-- In a sample stream without empty frames, every frame can be completed when all are
sampled. -/
theorem allCompletable_sample {nums : List UInt16} (packets : ∀ num ∈ nums, 0 < num.toNat)
    {args : Args} (rate : args.sampleRate = 1) (copies : List (Copy (.sample nums))) :
    AllCompletable args copies := by
  intro copy _ seq positive le _
  have inRange : 1 ≤ seq.toNat ∧ seq.toNat ≤ nums.length :=
    ⟨positive, (UInt32.le_iff_toNat_le.mp le).trans copy.seq_bounds.2⟩
  have below : seq.toNat - 1 < nums.length := by omega
  refine ⟨by rw [rate, UInt32.mod_one], _, if_pos inRange, ?_, Nat.le_of_lt_succ ?_⟩
  · rw [getElem!_pos nums _ below]
    exact packets _ (List.getElem_mem below)
  · exact nums[seq.toNat - 1]!.toNat_lt

/-- Three frames out of order, of which the second lacks a packet. -/
def lossyCopies : List (Copy (.sample [2, 3, 2])) :=
  Copy.samples _ [(2, 2), (1, 1), (3, 0), (2, 0), (1, 0), (3, 1)]

theorem loss_exact_iff_lossy :
    ∃ history state, Run (recvCopy ⟨5005, true, true, 1⟩) .start history state ∧
      history.map Event.op = lossyCopies ∧
      (lostFrames lossyCopies state.data.lastSeq.toNat).card = 1 ∧
      nonReceived state.data = .ok (lostFrames lossyCopies state.data.lastSeq.toNat).card := by
  rcases exists_run_of_trace (recvCopy ⟨5005, true, true, 1⟩) .start lossyCopies
    (fun _ state => (lostFrames lossyCopies state.data.lastSeq.toNat).card = 1)
    (by decide +kernel) with ⟨history, state, run, ops, lost⟩
  have noRepeats : NoRepeats (history.map Event.op) := by
    rw [ops, NoRepeats]
    decide +kernel
  have reported := (loss_exact_iff run noRepeats).1.mpr fun _ =>
    allCompletable_sample (by simp) rfl _
  exact ⟨history, state, run, ops, of_decide_eq_true lost, ops ▸ reported⟩

/-- The only packet of a stream whose first buffer is empty. -/
def gapCopy : Copy (.sample [0, 1]) := .sample 2 0 (by decide) (by decide)

/-- A frame is reported lost although everything that was sent has arrived: when its
number is not sampled, and when it is empty. -/
theorem loss_reported_without_loss :
    (∃ history state, Run (recvCopy ⟨5005, true, true, 2⟩) .start history state ∧
      history.map Event.op = [soloCopy] ∧ nonReceived state.data = .ok 1 ∧
      (lostFrames [soloCopy] state.data.lastSeq.toNat).card = 0) ∧
    ∃ history state, Run (recvCopy ⟨5005, true, true, 1⟩) .start history state ∧
      history.map Event.op = [gapCopy] ∧ nonReceived state.data = .ok 1 ∧
      (lostFrames [gapCopy] state.data.lastSeq.toNat).card = 0 := by
  constructor
  · rcases exists_run_of_trace (recvCopy ⟨5005, true, true, 2⟩) .start [soloCopy]
      (fun _ state => decide (nonReceived state.data = .ok 1 ∧
        (lostFrames [soloCopy] state.data.lastSeq.toNat).card = 0))
      (by decide +kernel) with ⟨history, state, run, ops, reported⟩
    exact ⟨history, state, run, ops, of_decide_eq_true reported⟩
  · rcases exists_run_of_trace (recvCopy ⟨5005, true, true, 1⟩) .start [gapCopy]
      (fun _ state => decide (nonReceived state.data = .ok 1 ∧
        (lostFrames [gapCopy] state.data.lastSeq.toNat).card = 0))
      (by decide +kernel) with ⟨history, state, run, ops, reported⟩
    exact ⟨history, state, run, ops, of_decide_eq_true reported⟩

end StreamReplay
