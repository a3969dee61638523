import StreamReplay.Rx.Copies
import Mathlib.Order.Interval.Finset.Nat

/-!
# Delivering a frame once

Completing a frame removes its record, which is all that the receiver remembers of
it.  A frame is therefore acknowledged, forwarded and counted again when all of its
packets arrive once more, and `main` subtracts more frames than it has seen.
-/

namespace StreamReplay

open Checked FallibleRun

/-- The subtraction in `main`: the numerator of the packet loss rate. -/
def nonReceived (data : RecvData) : Except Panic Nat :=
  sub data.lastSeq.toNat data.recevied.toNat

section Effects

variable {emission : Emission}

/-- An acknowledgement is sent. -/
def acknowledges (event : Event RecvState (Copy emission) (Option Pong)) : Bool :=
  event.out.isSome

/-- The frames sent to the decoder change. -/
def forwards (event : Event RecvState (Copy emission) (Option Pong)) : Bool :=
  decide (event.after.data.tx ≠ event.before.data.tx)

/-- The counter of received frames changes. -/
def counts (event : Event RecvState (Copy emission) (Option Pong)) : Bool :=
  decide (event.after.data.recevied ≠ event.before.data.recevied)

/-- How often the copies of one frame have an effect. -/
def times (effect : Event RecvState (Copy emission) (Option Pong) → Bool)
    (history : List (Event RecvState (Copy emission) (Option Pong))) (seq : UInt32) : Nat :=
  history.countP fun event => decide (event.op.seq = seq) && effect event

/-- All packets of a frame that can be completed arrive, and after that all of them
once more. -/
def ArrivesTwice (args : Args) (copies : List (Copy emission)) (seq : UInt32) : Prop :=
  Completable emission args seq ∧
    ∃ earlier later, copies = earlier ++ later ∧ Whole earlier seq ∧ Whole later seq

variable {args : Args} {history : List (Event RecvState (Copy emission) (Option Pong))}
  {state : RecvState}

/-- What has arrived twice stays so when more arrives. -/
theorem ArrivesTwice.append {copies : List (Copy emission)} {seq : UInt32}
    (twice : ArrivesTwice args copies seq) (more : List (Copy emission)) :
    ArrivesTwice args (copies ++ more) seq := by
  rcases twice with ⟨completable, earlier, later, rfl, first, second⟩
  refine ⟨completable, earlier, later ++ more, List.append_assoc .., first, ?_⟩
  rw [Whole, indicesOf_append, List.toFinset_append]
  exact second.trans Finset.subset_union_left

theorem times_acknowledges (seq : UInt32) :
    times acknowledges history seq = (acknowledged history).count seq := by
  rw [times, acknowledged, List.count_eq_countP, List.countP_map, List.countP_filter]
  rfl

/-- The counter moves with the acknowledgements, and so does the decoder channel if it
moves at all. -/
theorem effects_of_event (run : Run (recvCopy args) .start history state)
    {event : Event RecvState (Copy emission) (Option Pong)} (member : event ∈ history) :
    counts event = acknowledges event ∧
      (forwards event = true → acknowledges event = true) := by
  rcases event with ⟨before, copy, pong, after⟩
  have taken : recvCopy args before copy = .ok (pong, after) := run.event_step member
  cases calcRtt : args.calcRtt with
  | false =>
      rcases recvStep_off calcRtt taken with ⟨rfl, _, recevied, tx⟩
      simp [counts, forwards, acknowledges, recevied, tx]
  | true =>
      have handles := handles_of_taken calcRtt taken
      have recevied := handles.recevied
      cases pong with
      | none =>
          have same : after.data.recevied = before.data.recevied :=
            UInt32.toNat_inj.mp recevied
          simp [counts, forwards, acknowledges, same, handles.tx rfl]
      | some ack =>
          have moved : after.data.recevied ≠ before.data.recevied := by
            intro same
            rw [same] at recevied
            simp at recevied
          simp [counts, acknowledges, moved]

theorem times_counts (run : Run (recvCopy args) .start history state) (seq : UInt32) :
    times counts history seq = times acknowledges history seq :=
  List.countP_congr fun event member => by rw [(effects_of_event run member).1]

theorem times_forwards_le (run : Run (recvCopy args) .start history state) (seq : UInt32) :
    times forwards history seq ≤ times acknowledges history seq := by
  apply List.countP_mono_left
  intro event member both
  rw [Bool.and_eq_true] at both ⊢
  exact ⟨both.1, (effects_of_event run member).2 both.2⟩

/-- A frame is acknowledged at most once exactly when it does not arrive twice. -/
theorem acknowledged_once_iff (calcRtt : args.calcRtt = true)
    (run : Run (recvCopy args) .start history state) (seq : UInt32) :
    (acknowledged history).count seq ≤ 1 ↔
      ¬ArrivesTwice args (history.map Event.op) seq := by
  have twice : 2 ≤ (acknowledged history).count seq ↔
      ArrivesTwice args (history.map Event.op) seq := by
    constructor
    · intro again
      have completable := completable_of_acknowledged calcRtt run
        (List.count_pos_iff.mp (Nat.lt_of_lt_of_le Nat.two_pos again))
      rw [count_acknowledged calcRtt run completable,
        Rounds.two_le_rounds_iff completable.nonempty] at again
      rcases again with ⟨front, back, cut, frontAll, backAll⟩
      rcases exists_cut cut with ⟨earlier, later, split, rfl, rfl⟩
      exact ⟨completable, earlier, later, split, frontAll, backAll⟩
    · rintro ⟨completable, earlier, later, split, frontAll, backAll⟩
      rw [count_acknowledged calcRtt run completable,
        Rounds.two_le_rounds_iff completable.nonempty, split, indicesOf_append]
      exact ⟨_, _, rfl, frontAll, backAll⟩
  rw [← twice, Nat.not_le, Nat.lt_succ_iff]

/-- The numbers of the acknowledged frames are among those up to the last one. -/
theorem acknowledged_bounds (calcRtt : args.calcRtt = true)
    (run : Run (recvCopy args) .start history state) {seq : UInt32}
    (acked : seq ∈ acknowledged history) :
    seq.toNat ∈ Finset.Icc 1 state.data.lastSeq.toNat := by
  rcases exists_of_acknowledged acked with ⟨event, member, rfl, _⟩
  exact Finset.mem_Icc.mpr ⟨event.op.seq_bounds.1,
    (tallies_of_run calcRtt run).bounded _ (List.mem_map_of_mem member)⟩

/-- Frames that are acknowledged once are counted by their numbers. -/
theorem recevied_eq_card (calcRtt : args.calcRtt = true)
    (run : Run (recvCopy args) .start history state)
    (once : ∀ seq, (acknowledged history).count seq ≤ 1) :
    state.data.recevied.toNat = ((acknowledged history).map UInt32.toNat).toFinset.card := by
  have injective : Function.Injective UInt32.toNat := fun _ _ equal =>
    UInt32.toNat_inj.mp equal
  have nodup : (acknowledged history).Nodup := List.nodup_iff_count_le_one.mpr once
  rw [(tallies_of_run calcRtt run).recevied, List.toFinset_card_of_nodup (nodup.map injective),
    List.length_map]

/-- If no frame arrives twice, no more frames are received than have been seen. -/
theorem recevied_le_lastSeq (run : Run (recvCopy args) .start history state)
    (once : args.calcRtt = true → ∀ seq, ¬ArrivesTwice args (history.map Event.op) seq) :
    state.data.recevied ≤ state.data.lastSeq := by
  rw [UInt32.le_iff_toNat_le]
  cases calcRtt : args.calcRtt with
  | false =>
      rcases off_of_run calcRtt run with ⟨_, _, zero⟩
      rw [zero]
      exact Nat.zero_le _
  | true =>
      rw [recevied_eq_card calcRtt run fun seq =>
        (acknowledged_once_iff calcRtt run seq).mpr (once calcRtt seq)]
      have among : ((acknowledged history).map UInt32.toNat).toFinset ⊆
          Finset.Icc 1 state.data.lastSeq.toNat := by
        intro value member
        rcases List.mem_map.mp (List.mem_toFinset.mp member) with ⟨seq, acked, rfl⟩
        exact acknowledged_bounds calcRtt run acked
      have card := Finset.card_le_card among
      rwa [Nat.card_Icc, Nat.add_sub_cancel] at card

end Effects

/-- Every frame is acknowledged, forwarded and counted at most once, with no more frames
received than seen in any state and a subtraction in `main` that returns, exactly when no
frame that can be completed arrives twice. -/
theorem delivered_once_iff {emission : Emission} {args : Args}
    {history : List (Event RecvState (Copy emission) (Option Pong))} {state : RecvState}
    (run : Run (recvCopy args) .start history state) :
    ((∀ seq, times acknowledges history seq ≤ 1 ∧ times forwards history seq ≤ 1 ∧
        times counts history seq ≤ 1) ∧
      (∀ event ∈ history, event.after.data.recevied ≤ event.after.data.lastSeq) ∧
      ∃ lost, nonReceived state.data = .ok lost) ↔
    (args.calcRtt = true → ∀ seq, ¬ArrivesTwice args (history.map Event.op) seq) := by
  have once : (∀ seq, times acknowledges history seq ≤ 1 ∧ times forwards history seq ≤ 1 ∧
      times counts history seq ≤ 1) ↔
      ∀ seq, (acknowledged history).count seq ≤ 1 := by
    refine forall_congr' fun seq => ?_
    have forwarded := times_forwards_le run seq
    rw [times_counts run, ← times_acknowledges]
    omega
  rw [once]
  constructor
  · rintro ⟨atMostOne, _⟩ calcRtt seq
    exact (acknowledged_once_iff calcRtt run seq).mp (atMostOne seq)
  · intro single
    refine ⟨?_, ?_, _, sub_of_le (UInt32.le_iff_toNat_le.mp (recevied_le_lastSeq run single))⟩
    · intro seq
      cases calcRtt : args.calcRtt with
      | false => simp [off_of_run calcRtt run]
      | true => exact (acknowledged_once_iff calcRtt run seq).mpr (single calcRtt seq)
    · intro event member
      rcases List.append_of_mem member with ⟨earlier, later, rfl⟩
      refine recevied_le_lastSeq run.cut fun calcRtt seq twice => single calcRtt seq ?_
      have whole := twice.append (later.map Event.op)
      rwa [← List.map_append, List.append_assoc, List.singleton_append] at whole

/-- A frame whose first packet arrives once does not arrive twice. -/
theorem not_arrivesTwice {emission : Emission} {copies : List (Copy emission)}
    (once : ((copies.filter fun copy => copy.index = 0).map Copy.seq).Nodup) (args : Args)
    (seq : UInt32) : ¬ArrivesTwice args copies seq := by
  rintro ⟨⟨_, frame, known, marked⟩, earlier, later, rfl, first, second⟩
  have zero : 0 ∈ emission.indices seq := by
    rw [Emission.indices_eq known, SentFrame.length_eq marked]
    exact Finset.mem_range.mpr marked.1
  have arrives {copies : List (Copy emission)} (whole : Whole copies seq) :
      seq ∈ (copies.filter fun copy => copy.index = 0).map Copy.seq := by
    have arrived := whole zero
    simp only [indicesOf, List.mem_toFinset, List.mem_map, List.mem_filter,
      decide_eq_true_eq] at arrived ⊢
    rcases arrived with ⟨copy, ⟨member, seqEq⟩, index⟩
    exact ⟨copy, ⟨member, index⟩, seqEq⟩
  rw [List.filter_append, List.map_append] at once
  exact List.disjoint_of_nodup_append once (arrives first) (arrives second)

/-- Three frames out of order: the first arrives with a packet repeated before it is complete,
the second lacks a packet, and the third is whole. -/
def reorderedCopies : List (Copy (.sample [2, 3, 2])) :=
  Copy.samples _ [(2, 2), (1, 1), (1, 1), (2, 0), (1, 0), (3, 1), (3, 0)]

theorem delivered_once_iff_reordered :
    ∃ history state, Run (recvCopy ⟨5005, true, true, 1⟩) .start history state ∧
      history.map Event.op = reorderedCopies ∧ nonReceived state.data = .ok 1 ∧
      (∀ seq, times acknowledges history seq ≤ 1 ∧ times forwards history seq ≤ 1 ∧
        times counts history seq ≤ 1) ∧
      ∀ event ∈ history, event.after.data.recevied ≤ event.after.data.lastSeq := by
  rcases exists_run_of_trace (recvCopy ⟨5005, true, true, 1⟩) .start reorderedCopies
    (fun _ state => nonReceived state.data = .ok 1) (by decide +kernel) with
    ⟨history, state, run, ops, lost⟩
  have single : ∀ seq, ¬ArrivesTwice ⟨5005, true, true, 1⟩ (history.map Event.op) seq := by
    rw [ops]
    exact not_arrivesTwice (by decide +kernel) _
  rcases (delivered_once_iff run).mpr fun _ => single with ⟨once, bounded, _⟩
  exact ⟨history, state, run, ops, of_decide_eq_true lost, once, bounded⟩

def soloCopy : Copy (.sample [1]) := .sample 1 0 (by decide) (by decide)

/-- A frame that arrives twice is acknowledged, forwarded and counted twice, and `main`
panics. -/
theorem delivered_twice :
    ∃ history state, Run (recvCopy ⟨5005, true, true, 1⟩) .start history state ∧
      history.map Event.op = [soloCopy, soloCopy] ∧
      times acknowledges history 1 = 2 ∧ times forwards history 1 = 2 ∧
      times counts history 1 = 2 ∧ nonReceived state.data = .error .overflow := by
  rcases exists_run_of_trace (recvCopy ⟨5005, true, true, 1⟩) .start [soloCopy, soloCopy]
    (fun history state => decide (times acknowledges history 1 = 2 ∧
      times forwards history 1 = 2 ∧ times counts history 1 = 2 ∧
      nonReceived state.data = .error .overflow)) (by decide +kernel) with
    ⟨history, state, run, ops, twice⟩
  exact ⟨history, state, run, ops, of_decide_eq_true twice⟩

end StreamReplay
