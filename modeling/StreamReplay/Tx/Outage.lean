import StreamReplay.Tx.Pong
import Mathlib.Algebra.BigOperators.Fin
import Mathlib.Order.Interval.Finset.Nat
import Mathlib.Tactic.Linarith

/-!
# Round-trip times and outages

A poll adds up what every slot contributes.  A frame's outage is added piece by
piece: each poll before its pong counts from the last outage time to now, and the
poll that collects it counts the rest up to the pong.  The pieces telescope.
-/

namespace StreamReplay

open Checked FallibleRun

/-! ## What a frame contributes to a poll -/

attribute [ext] RttTally

namespace RttTally

instance : Add RttTally := ⟨RttTally.add⟩

instance : Zero RttTally := ⟨⟨0, 0, 0⟩⟩

@[simp] theorem outages_add (left right : RttTally) :
    (left + right).outages = left.outages + right.outages := rfl

@[simp] theorem rtts_add (left right : RttTally) :
    (left + right).rtts = left.rtts + right.rtts := rfl

@[simp] theorem count_add (left right : RttTally) :
    (left + right).count = left.count + right.count := rfl

@[simp] theorem outages_zero : (0 : RttTally).outages = 0 := rfl

@[simp] theorem rtts_zero : (0 : RttTally).rtts = 0 := rfl

@[simp] theorem count_zero : (0 : RttTally).count = 0 := rfl

instance : AddCommMonoid RttTally where
  add_assoc _ _ _ := by ext <;> simp [add_assoc]
  zero_add _ := by ext <;> simp
  add_zero _ := by ext <;> simp
  add_comm _ _ := by ext <;> simp [add_comm]
  nsmul := nsmulRec

end RttTally

namespace RttRecords

variable {maxLength : Nat}

/-- The sums of the loop in `statistic`. -/
def tally (records : RttRecords maxLength) (now : ℚ) : RttTally :=
  records.queue.toList.foldl
    (fun (tally : RttTally) slot => tally.add (pollSlot now slot).1) ⟨0, 0, 0⟩

theorem statistic_eq (records : RttRecords maxLength) (now : ℚ) :
    (records.statistic now).1 =
      (if (records.tally now).count = 0 then 0
        else (records.tally now).rtts / (records.tally now).count,
      if records.targetRtt = 0 then none
        else some ((records.tally now).outages / records.targetRtt)) := rfl

/-- What a frame contributes to a poll: that of its slot, if it is still there. -/
def contribution [NeZero maxLength] (records : RttRecords maxLength) (now : ℚ) (seq : Nat) :
    RttTally :=
  match records.slot (index maxLength seq) with
  | some entry => if entry.seq = seq then (pollSlot now (some entry)).1 else 0
  | none => 0

theorem tally_eq_sum (records : RttRecords maxLength) (now : ℚ) :
    records.tally now = ∑ position, (pollSlot now (records.slot position)).1 := by
  have folded : ∀ (slots : List (Option RTTEntry)) (start : RttTally),
      slots.foldl (fun (tally : RttTally) slot => tally.add (pollSlot now slot).1) start =
        start + (slots.map fun slot => (pollSlot now slot).1).sum := by
    intro slots
    induction slots with
    | nil => simp
    | cons slot slots ih =>
        intro start
        rw [List.foldl_cons, ih, List.map_cons, List.sum_cons, ← add_assoc]
        rfl
  have listed : records.queue.toList = List.ofFn records.slot := by
    rw [← Vector.toList_ofFn]
    exact congrArg Vector.toList Vector.ofFn_getElem.symm
  rw [tally, folded, listed, List.map_ofFn, List.sum_ofFn]
  exact zero_add _

theorem contribution_of_slot [NeZero maxLength] {records : RttRecords maxLength}
    {position : Fin maxLength} {seq : Nat} (indexEq : index maxLength seq = position)
    (now : ℚ) :
    records.contribution now seq =
      match records.slot position with
      | some entry => if entry.seq = seq then (pollSlot now (some entry)).1 else 0
      | none => 0 := by
  rw [contribution, indexEq]

theorem contribution_of_held [NeZero maxLength] {records : RttRecords maxLength} {seq : Nat}
    {entry : RTTEntry} (held : records.slot (index maxLength seq) = some entry)
    (same : entry.seq = seq) (now : ℚ) :
    records.contribution now seq = (pollSlot now (some entry)).1 := by
  rw [contribution, held]
  exact if_pos same

end RttRecords

/-- A poll adds up the contributions of the registered frames. -/
theorem RingInv.tally_eq {ops : List RttOp} {state : RttState} (inv : RingInv ops state)
    (now : ℚ) :
    state.records.tally now =
      ∑ seq ∈ Finset.Icc 1 state.arrivals, state.records.contribution now seq := by
  rw [RttRecords.tally_eq_sum,
    ← Finset.sum_fiberwise (Finset.Icc 1 state.arrivals) (RttRecords.index rttSlots)]
  refine Finset.sum_congr rfl fun position _ => ?_
  have atPosition : ∀ seq ∈ (Finset.Icc 1 state.arrivals).filter
      (RttRecords.index rttSlots · = position), RttRecords.index rttSlots seq = position :=
    fun seq member => (Finset.mem_filter.mp member).2
  cases found : state.records.slot position with
  | none =>
      rw [Finset.sum_eq_zero]
      · rfl
      · intro seq member
        rw [RttRecords.contribution_of_slot (atPosition seq member), found]
  | some entry =>
      have tracked := inv.tracks position entry found
      rw [Finset.sum_eq_single entry.seq]
      · rw [RttRecords.contribution_of_slot tracked.index_eq, found]
        exact (if_pos rfl).symm
      · intro seq member other
        rw [RttRecords.contribution_of_slot (atPosition seq member), found]
        exact if_neg other.symm
      · intro missing
        refine absurd ?_ missing
        rw [Finset.mem_filter, Finset.mem_Icc, inv.arrivals_eq]
        exact ⟨⟨tracked.positive, tracked.registered_ge⟩, tracked.index_eq⟩

abbrev RttEvent := Event RttState RttOp RttOut

instance : NeZero rttSlots := ⟨by decide⟩

/-- What a frame contributes to the poll that the event is, if it is one. -/
def RttEvent.contribution (event : RttEvent) (seq : Nat) : RttTally :=
  match event.op with
  | .statistic now => event.before.records.contribution now seq
  | _ => 0

/-- What a frame contributes to all polls of a history. -/
def contributions (history : List RttEvent) (seq : Nat) : RttTally :=
  (history.map (RttEvent.contribution · seq)).sum

@[simp] theorem contributions_nil (seq : Nat) : contributions [] seq = 0 := rfl

@[simp] theorem contributions_append (earlier later : List RttEvent) (seq : Nat) :
    contributions (earlier ++ later) seq =
      contributions earlier seq + contributions later seq := by
  simp [contributions]

@[simp] theorem contributions_cons (event : RttEvent) (later : List RttEvent) (seq : Nat) :
    contributions (event :: later) seq =
      event.contribution seq + contributions later seq := by
  simp [contributions]

theorem contributions_eq_zero {history : List RttEvent} {seq : Nat}
    (every : ∀ event ∈ history, event.contribution seq = 0) :
    contributions history seq = 0 := by
  refine List.sum_eq_zero fun tally member => ?_
  rcases List.mem_map.mp member with ⟨event, inHistory, rfl⟩
  exact every event inHistory

/-! ## The polls that a frame does not reach -/

/-- The ring invariant holds along every run. -/
theorem RingInv.of_run {targetRtt : ℚ} {history : List RttEvent} {state : RttState}
    (run : Run RttState.step (.start targetRtt) history state) :
    RingInv (history.map Event.op) state :=
  exec_invariant (RingInv.start targetRtt) (fun _ _ _ _ _ inv taken => inv.step taken)
    run.exec_eq

/-- A frame contributes only from its registration to its collection. -/
theorem RingInv.contribution_eq_zero {ops : List RttOp} {state : RttState}
    (inv : RingInv ops state) {seq : Nat}
    (absent : registered ops < seq ∨ Collected ops seq) (now : ℚ) :
    state.records.contribution now seq = 0 := by
  rw [RttRecords.contribution]
  split
  next entry found =>
    rw [if_neg]
    rintro rfl
    have tracked := inv.tracks _ _ found
    rcases absent with unregistered | collected
    · exact absurd tracked.registered_ge (Nat.not_le.mpr unregistered)
    · exact tracked.uncollected collected
  next => rfl

theorem contribution_eq_zero_of_absent {targetRtt : ℚ} {earlier : List RttEvent}
    {event : RttEvent} (before : Run RttState.step (.start targetRtt) earlier event.before)
    {seq : Nat}
    (absent : registered (earlier.map Event.op) < seq ∨ Collected (earlier.map Event.op) seq) :
    event.contribution seq = 0 := by
  unfold RttEvent.contribution
  split
  next now _ => exact (RingInv.of_run before).contribution_eq_zero absent now
  next => rfl

/-! ## A frame in its slot -/

/-- What an access that is not about a frame does to the frame's entry. -/
def RttOp.visit : RttOp → RTTEntry → RttTally × Option RTTEntry
  | .statistic now, entry => pollSlot now (some entry)
  | .arrival _, entry | .pong _ _ _, entry => (0, some entry)

/-- Step lemma: a recent frame stays in its slot, where only a poll visits it. -/
theorem RttState.slot_of_step {state next : RttState} {op : RttOp} {out : RttOut} {seq : Nat}
    {entry : RTTEntry}
    (held : state.records.slot (RttRecords.index rttSlots seq) = some entry)
    (same : entry.seq = seq) (known : seq ≤ state.arrivals)
    (taken : RttState.step state op = .ok (out, next))
    (recent : next.arrivals < seq + rttSlots)
    (unanswered : ∀ time delta, op ≠ .pong seq time delta) :
    next.records.slot (RttRecords.index rttSlots seq) = (op.visit entry).2 ∧
      RttEvent.contribution ⟨state, op, out, next⟩ seq = (op.visit entry).1 := by
  cases op with
  | arrival time =>
      cases taken
      refine ⟨?_, rfl⟩
      have elsewhere : RttRecords.index rttSlots (state.arrivals + 1) ≠
          RttRecords.index rttSlots seq := by
        rw [Ne, index_eq_iff]
        simp only [rttSlots] at *
        omega
      exact (RttRecords.slot_setSlot _ _ _ _).trans ((if_neg elsewhere).trans held)
  | statistic now =>
      cases taken
      constructor
      · rw [RttOp.visit, ← held]
        exact RttRecords.slot_statistic _ _ _
      · exact RttRecords.contribution_of_held held same now
  | pong other time delta =>
      rcases bind_eq_ok.mp taken with ⟨⟨elapsed, records⟩, updated, equal⟩
      rcases RttRecords.update_eq_ok.mp updated with ⟨otherEntry, found, otherSame, _, rfl⟩
      cases equal
      refine ⟨?_, rfl⟩
      have elsewhere : RttRecords.index rttSlots other ≠ RttRecords.index rttSlots seq := by
        intro sameSlot
        rw [sameSlot, held, Option.some.injEq] at found
        exact unanswered time delta (by rw [← same, found, otherSame])
      exact (RttRecords.slot_setSlot _ _ _ _).trans ((if_neg elsewhere).trans held)

theorem registered_append (earlier later : List RttOp) :
    registered (earlier ++ later) = registered earlier + registered later :=
  List.countP_append

theorem RttState.arrivals_of_run {start state : RttState} {history : List RttEvent}
    (run : Run RttState.step start history state) :
    state.arrivals = start.arrivals + registered (history.map Event.op) := by
  induction run with
  | nil => rfl
  | @snoc history state next op out run taken ih =>
      rw [List.map_append, List.map_singleton, registered_snoc, ← Nat.add_assoc, ← ih]
      cases op with
      | arrival time =>
          cases taken
          rfl
      | statistic now =>
          cases taken
          rfl
      | pong seq time delta =>
          rcases bind_eq_ok.mp taken with ⟨_, _, equal⟩
          cases equal
          rfl

def RttOp.time : RttOp → ℚ
  | .arrival time => time
  | .statistic now => now
  | .pong _ time _ => time

/-- A poll of an open frame counts from its last outage time to now, if that is later. -/
theorem pollSlot_new (now : ℚ) (seq : Nat) (arrivalTime last : ℚ) :
    pollSlot now (some (.new seq arrivalTime last)) =
      (⟨max last now - last, 0, 0⟩, some (.new seq arrivalTime (max last now))) := by
  rw [pollSlot]
  change (if now > last then _ else _) = _
  split
  next later =>
    rw [max_eq_right later.le]
    rfl
  next earlier =>
    rw [max_eq_left (not_lt.mp earlier), sub_self]

/-- Run lemma: while a frame is open, its contributions telescope to the progress of
its last outage time, which is its deadline or the time of a poll. -/
theorem open_of_run {start state : RttState} {history : List RttEvent} {seq : Nat}
    {arrivalTime deadline : ℚ} (known : seq ≤ start.arrivals)
    (held : start.records.slot (RttRecords.index rttSlots seq) =
      some (.new seq arrivalTime deadline))
    (run : Run RttState.step start history state)
    (recent : state.arrivals < seq + rttSlots)
    (unponged : ¬Ponged (history.map Event.op) seq) :
    ∃ last, state.records.slot (RttRecords.index rttSlots seq) =
        some (.new seq arrivalTime last) ∧
      deadline ≤ last ∧ (last = deadline ∨ ∃ op ∈ history.map Event.op, op.time = last) ∧
      contributions history seq = ⟨last - deadline, 0, 0⟩ ∧
      ∀ event ∈ history,
        (event.contribution seq).rtts = 0 ∧ (event.contribution seq).count = 0 := by
  induction run with
  | nil =>
      refine ⟨deadline, held, le_rfl, .inl rfl, ?_, by simp⟩
      rw [sub_self]
      rfl
  | @snoc history state next op out run taken ih =>
      have stepArrivals := RttState.arrivals_of_run (Run.nil.snoc taken)
      have runArrivals := RttState.arrivals_of_run run
      rw [List.map_append, List.map_singleton, ponged_snoc, not_or] at unponged
      rcases ih (by omega) unponged.1 with ⟨last, found, progress, origin, sum, uncounted⟩
      have unanswered : ∀ time delta, op ≠ .pong seq time delta :=
        fun time delta equal => unponged.2 ⟨time, delta, equal⟩
      rcases RttState.slot_of_step found rfl (by omega) taken recent unanswered with
        ⟨slotEq, contributionEq⟩
      have total : contributions (history ++ [⟨state, op, out, next⟩]) seq =
          ⟨last - deadline, 0, 0⟩ + (op.visit (.new seq arrivalTime last)).1 := by
        rw [contributions_append, sum, contributions_cons, contributionEq, contributions_nil,
          add_zero]
      cases op with
      | arrival time | pong other time delta =>
          refine ⟨last, slotEq, progress, ?_, total.trans (add_zero _), ?_⟩
          · refine origin.imp_right fun ⟨polled, member, equal⟩ => ⟨polled, ?_, equal⟩
            simp [member]
          · rw [List.forall_mem_append, List.forall_mem_singleton]
            exact ⟨uncounted, rfl, rfl⟩
      | statistic now =>
          simp only [RttOp.visit, pollSlot_new] at slotEq total contributionEq
          refine ⟨max last now, slotEq, progress.trans (le_max_left _ _), ?_, ?_, ?_⟩
          · rcases max_choice last now with unmoved | moved
            · rw [unmoved]
              refine origin.imp_right fun ⟨polled, member, equal⟩ => ⟨polled, ?_, equal⟩
              simp [member]
            · exact .inr ⟨.statistic now, by simp, moved.symm⟩
          · rw [total]
            ext <;> simp
          · rw [List.forall_mem_append, List.forall_mem_singleton, contributionEq]
            exact ⟨uncounted, rfl, rfl⟩

/-- Run lemma: an answered frame waits for the first poll, which counts it. -/
theorem counted_of_run {waiting : List RttOp} {start final : RttState}
    {later : List RttEvent} {seq : Nat} {entry : RTTEntry}
    (held : start.records.slot (RttRecords.index rttSlots seq) = some entry)
    (same : entry.seq = seq) (known : seq ≤ start.arrivals)
    (run : Run RttState.step start later final) {now : ℚ} {rest : List RttOp}
    (opsEq : later.map Event.op = waiting ++ .statistic now :: rest)
    (recent : start.arrivals + registered waiting < seq + rttSlots)
    (unponged : ¬Ponged waiting seq) :
    ∃ first counted last now, later = first ++ counted :: last ∧
      counted.op = .statistic now ∧
      counted.contribution seq = (pollSlot now (some entry)).1 ∧
      ∀ event ∈ first, event.contribution seq = 0 := by
  induction waiting generalizing start later with
  | nil =>
      rcases List.map_eq_cons_iff.mp opsEq with ⟨counted, last, rfl, opEq, _⟩
      refine ⟨[], counted, last, now, rfl, opEq, ?_, by simp⟩
      rw [RttEvent.contribution, opEq, run.of_cons.1]
      exact RttRecords.contribution_of_held held same now
  | cons op waiting ih =>
      rcases List.map_eq_cons_iff.mp opsEq with
        ⟨⟨before, op', out, next⟩, last, rfl, opEq, restEq⟩
      rcases run.of_cons with ⟨beforeEq, taken, continued⟩
      obtain rfl : op' = op := opEq
      obtain rfl : before = start := beforeEq
      replace taken : RttState.step before op' = .ok (out, next) := taken
      replace continued : Run RttState.step next last final := continued
      have stepArrivals : next.arrivals = before.arrivals + registered [op'] :=
        RttState.arrivals_of_run (Run.nil.snoc taken)
      have registeredEq := registered_append [op'] waiting
      rw [List.singleton_append] at registeredEq
      have unanswered : ∀ time delta, op' ≠ .pong seq time delta := by
        rintro time delta rfl
        exact unponged ⟨time, delta, by simp⟩
      have unpongedRest : ¬Ponged waiting seq := by
        rintro ⟨time, delta, member⟩
        exact unponged ⟨time, delta, List.mem_cons_of_mem _ member⟩
      rcases RttState.slot_of_step held same known taken (by omega) unanswered with
        ⟨slotEq, contributionEq⟩
      cases op' with
      | statistic now =>
          exact ⟨[], _, last, now, rfl, rfl, contributionEq, by simp⟩
      | arrival time | pong other time delta =>
          rcases ih slotEq (by omega) continued restEq (by omega) unpongedRest with
            ⟨first, counted, last, now, rfl, opEq, countedEq, uncounted⟩
          refine ⟨_ :: first, counted, last, now, rfl, opEq, countedEq, ?_⟩
          rw [List.forall_mem_cons]
          exact ⟨contributionEq, uncounted⟩

/-! ## A frame from its registration to its collection -/

theorem RttState.targetRtt_of_run {start state : RttState} {history : List RttEvent}
    (run : Run RttState.step start history state) :
    state.records.targetRtt = start.records.targetRtt := by
  induction run with
  | nil => rfl
  | @snoc history state next op out run taken ih =>
      cases op with
      | arrival time | statistic now =>
          cases taken
          exact ih
      | pong seq time delta =>
          rcases bind_eq_ok.mp taken with ⟨⟨elapsed, records⟩, updated, equal⟩
          rcases RttRecords.update_eq_ok.mp updated with ⟨entry, _, _, _, rfl⟩
          cases equal
          exact ih

/-- A frame does not contribute to the events before its registration. -/
theorem uncounted_before {targetRtt : ℚ} {history : List RttEvent} {state : RttState}
    (run : Run RttState.step (.start targetRtt) history state) {seq : Nat}
    (unregistered : registered (history.map Event.op) < seq) :
    ∀ event ∈ history, event.contribution seq = 0 := by
  intro event member
  rcases List.append_of_mem member with ⟨earlier, later, rfl⟩
  refine contribution_eq_zero_of_absent run.cut.of_snoc.1 (.inl ?_)
  rw [List.map_append, registered_append] at unregistered
  omega

/-- The entry of a frame that was registered and has not been answered. -/
theorem open_of_registered {targetRtt : ℚ} {history : List RttEvent} {state : RttState}
    (run : Run RttState.step (.start targetRtt) history state)
    {earlier between : List RttOp} {seq : Nat} {arrivalTime : ℚ}
    (split : history.map Event.op = earlier ++ .arrival arrivalTime :: between)
    (number : seq = registered earlier + 1) (recent : registered between < rttSlots)
    (unponged : ¬Ponged between seq) :
    let deadline := arrivalTime + targetRtt
    state.arrivals = seq + registered between ∧
    ∃ last, state.records.slot (RttRecords.index rttSlots seq) =
        some (.new seq arrivalTime last) ∧
      deadline ≤ last ∧ (last = deadline ∨ ∃ op ∈ between, op.time = last) ∧
      contributions history seq = ⟨last - deadline, 0, 0⟩ ∧
      ∀ event ∈ history,
        (event.contribution seq).rtts = 0 ∧ (event.contribution seq).count = 0 := by
  intro deadline
  rcases List.map_eq_append_iff.mp split with ⟨front, back, rfl, frontOps, backOps⟩
  rcases List.map_eq_cons_iff.mp backOps with
    ⟨⟨before, op, out, next⟩, rest, rfl, opEq, restOps⟩
  obtain rfl : op = .arrival arrivalTime := opEq
  obtain ⟨toBefore, taken⟩ : Run RttState.step (.start targetRtt) front before ∧
      RttState.step before (.arrival arrivalTime) = .ok (out, next) := run.cut.of_snoc
  have afterwards : Run RttState.step next rest state := run.from_event.of_cons.2.2
  have target : before.records.targetRtt = targetRtt := RttState.targetRtt_of_run toBefore
  have arrivalsEq : before.arrivals = registered earlier := by
    rw [RttState.arrivals_of_run toBefore, frontOps]
    exact Nat.zero_add _
  cases taken
  have restArrivals := RttState.arrivals_of_run afterwards
  rw [restOps] at restArrivals
  replace restArrivals : state.arrivals = before.arrivals + 1 + registered between :=
    restArrivals
  have held : ((before.records.updateArrival (before.arrivals + 1) arrivalTime).slot
      (RttRecords.index rttSlots seq)) = some (.new seq arrivalTime deadline) := by
    rw [arrivalsEq, ← number, RttRecords.updateArrival, RttRecords.slot_setSlot, if_pos rfl,
      target]
  rcases open_of_run (show seq ≤ before.arrivals + 1 by omega) held afterwards (by omega)
      (restOps ▸ unponged) with ⟨last, found, progress, origin, sum, uncounted⟩
  have quiet : ∀ event ∈ front, RttEvent.contribution event seq = 0 := by
    refine uncounted_before toBefore ?_
    rw [frontOps, number]
    exact Nat.lt_succ_self _
  refine ⟨by omega, last, found, progress, restOps ▸ origin, ?_, ?_⟩
  · rw [contributions_append, contributions_eq_zero quiet, contributions_cons, sum]
    exact (zero_add _).trans (zero_add _)
  · rw [List.forall_mem_append, List.forall_mem_cons]
    refine ⟨fun event member => ?_, ⟨rfl, rfl⟩, uncounted⟩
    rw [quiet event member]
    exact ⟨rfl, rfl⟩

/-- The accesses as the program's threads make them: the clock does not go back, and a
pong is of a registered frame, the only one of it. -/
structure WellTimed (ops : List RttOp) : Prop where
  ordered : ops.Pairwise fun earlier later => earlier.time ≤ later.time
  sent : ∀ earlier seq time delta later, ops = earlier ++ .pong seq time delta :: later →
    1 ≤ seq ∧ seq ≤ registered earlier ∧ ¬Ponged earlier seq

theorem WellTimed.front {earlier later : List RttOp} (timed : WellTimed (earlier ++ later)) :
    WellTimed earlier where
  ordered := (List.pairwise_append.mp timed.ordered).1
  sent := by
    rintro before seq time delta after rfl
    exact timed.sent before seq time delta (after ++ later) (by simp)

/-- A pong of an open frame is measured, and leaves the frame answered. -/
theorem RttState.step_pong_of_open {state : RttState} {seq : Nat} {arrivalTime last : ℚ}
    (found : state.records.slot (RttRecords.index rttSlots seq) =
      some (.new seq arrivalTime last)) (time delta : ℚ) :
    ∃ next, state.step (.pong seq time delta) =
        .ok (.measured (time - arrivalTime), next) ∧
      next.arrivals = state.arrivals ∧
      next.records.slot (RttRecords.index rttSlots seq) =
        some ⟨seq, arrivalTime, last, some time, delta⟩ := by
  have updated : state.records.update seq time delta = .ok (time - arrivalTime, _) :=
    RttRecords.update_eq_ok.mpr ⟨_, found, rfl, rfl, rfl⟩
  refine ⟨_, bind_eq_ok.mpr ⟨_, updated, rfl⟩, rfl, ?_⟩
  exact (RttRecords.slot_setSlot _ _ _ _).trans (if_pos rfl)

/-- What an answered frame contributes when it is collected. -/
theorem pollSlot_answered (now : ℚ) (seq : Nat) (arrivalTime last time delta : ℚ) :
    (pollSlot now (some ⟨seq, arrivalTime, last, some time, delta⟩)).1 =
      ⟨max 0 (time - last), time - arrivalTime, 1⟩ := by
  change RttTally.mk (if time > last then time - last else 0) _ _ = _
  congr 1
  split
  next later => exact (max_eq_right (sub_nonneg.mpr later.le)).symm
  next earlier => exact (max_eq_left (sub_nonpos.mpr (not_lt.mp earlier))).symm

/-- A frame does not contribute to the events after its collection. -/
theorem uncounted_after {targetRtt : ℚ} {earlier later : List RttEvent} {state : RttState}
    (run : Run RttState.step (.start targetRtt) (earlier ++ later) state) {seq : Nat}
    (collected : Collected (earlier.map Event.op) seq) :
    ∀ event ∈ later, event.contribution seq = 0 := by
  intro event member
  rcases List.append_of_mem member with ⟨between, rest, rfl⟩
  rw [← List.append_assoc] at run
  refine contribution_eq_zero_of_absent run.cut.of_snoc.1 (.inr ?_)
  rcases collected with ⟨before, time, delta, after, now, split, polled⟩
  refine ⟨before, time, delta, after ++ between.map Event.op, now, ?_,
    List.mem_append_left _ polled⟩
  rw [List.map_append, split, List.append_assoc, List.cons_append]

/-- The progress of the last outage time and the rest up to the pong. -/
theorem outage_telescopes {deadline last time : ℚ} (progress : deadline ≤ last)
    (origin : last = deadline ∨ last ≤ time) :
    last - deadline + max 0 (time - last) = max 0 (time - deadline) := by
  rcases origin with rfl | le
  · rw [sub_self, zero_add]
  · rw [max_eq_right (by linarith), max_eq_right (by linarith)]
    ring

/-- The frame is counted by one event, which adds its round-trip time. -/
def CountedOnce (history : List RttEvent) (seq : Nat) (elapsed : ℚ) : Prop :=
  ∃ first counted last, history = first ++ counted :: last ∧
    (counted.contribution seq).rtts = elapsed ∧ (counted.contribution seq).count = 1 ∧
    ∀ other ∈ first ++ last,
      (other.contribution seq).rtts = 0 ∧ (other.contribution seq).count = 0

/-- An event that counts a frame, between events that do not. -/
theorem CountedOnce.of_quiet {front rear : List RttEvent} {counted : RttEvent} {seq : Nat}
    {elapsed : ℚ} (rtts : (counted.contribution seq).rtts = elapsed)
    (count : (counted.contribution seq).count = 1)
    (before : ∀ event ∈ front,
      (event.contribution seq).rtts = 0 ∧ (event.contribution seq).count = 0)
    (after : ∀ event ∈ rear, event.contribution seq = 0) :
    CountedOnce (front ++ counted :: rear) seq elapsed := by
  refine ⟨front, counted, rear, rfl, rtts, count, ?_⟩
  intro other member
  rcases List.mem_append.mp member with inFront | inRear
  · exact before other inFront
  · rw [after other inRear]
    exact ⟨rfl, rfl⟩

/-- A poll returns the averages of these sums. -/
def Reports (event : RttEvent) (now : ℚ) (sums : RttTally) : Prop :=
  event.before.records.tally now = sums ∧
    event.out = .polled (if sums.count = 0 then 0 else sums.rtts / sums.count)
      (if event.before.records.targetRtt = 0 then none
        else some (sums.outages / event.before.records.targetRtt))

theorem reports_of_poll {event : RttEvent} {now : ℚ} (poll : event.op = .statistic now)
    (taken : event.before.step event.op = .ok (event.out, event.after)) :
    Reports event now (event.before.records.tally now) := by
  rw [poll, RttState.step, Except.ok.injEq, Prod.mk.injEq] at taken
  refine ⟨rfl, ?_⟩
  rw [← taken.1]
  exact congrArg (fun averages => RttOut.polled averages.1 averages.2)
    (event.before.records.statistic_eq now)

/-- Whatever the polls: a frame's pong that comes before the 200th registration after
it is measured from the frame's registration; and if a poll comes before that too, one
poll counts it, the outages it contributes add up to the pong's delay behind the
deadline, and every poll reports the sum of the contributions of the registered frames. -/
theorem frame_counted_once {targetRtt : ℚ} {history : List RttEvent} {state : RttState}
    (run : Run RttState.step (.start targetRtt) history state)
    {earlier between : List RttOp} {seq : Nat} {arrivalTime time delta : ℚ}
    (split : history.map Event.op = earlier ++ .arrival arrivalTime :: between)
    (number : seq = registered earlier + 1) (recent : registered between < rttSlots)
    (timed : WellTimed (history.map Event.op ++ [.pong seq time delta])) :
    let pong : RttOp := .pong seq time delta
    let elapsed := time - arrivalTime
    ∃ next, state.step pong = .ok (.measured elapsed, next) ∧
      ∀ later final waiting now rest, Run RttState.step next later final →
        later.map Event.op = waiting ++ .statistic now :: rest →
        registered between + registered waiting < rttSlots →
        WellTimed (history.map Event.op ++ pong :: later.map Event.op) →
        let whole := history ++ ⟨state, pong, .measured elapsed, next⟩ :: later
        CountedOnce whole seq elapsed ∧
        (contributions whole seq).outages = max 0 (time - (arrivalTime + targetRtt)) ∧
        ∀ event ∈ whole, ∀ now, event.op = .statistic now →
          Reports event now (∑ other ∈ Finset.Icc 1 event.before.arrivals,
            event.before.records.contribution now other) := by
  intro pong elapsed
  have unponged : ¬Ponged (history.map Event.op) seq :=
    (timed.sent _ _ _ _ [] rfl).2.2
  have unpongedBetween : ¬Ponged between seq := by
    rintro ⟨otherTime, otherDelta, member⟩
    exact unponged ⟨otherTime, otherDelta, by simp [split, member]⟩
  rcases open_of_registered run split number recent unpongedBetween with
    ⟨arrivalsEq, last, found, progress, origin, sum, uncounted⟩
  rcases RttState.step_pong_of_open found time delta with
    ⟨next, taken, nextArrivals, answered⟩
  refine ⟨next, taken, ?_⟩
  intro later final waiting now rest continued laterOps recentWaiting wholeTimed whole
  have wholeRun : Run RttState.step (.start targetRtt) whole final := by
    have continuation := (run.snoc taken).append continued
    rwa [List.append_assoc, List.singleton_append] at continuation
  have unpongedWaiting : ¬Ponged waiting seq := by
    rintro ⟨otherTime, otherDelta, member⟩
    rcases List.append_of_mem member with ⟨front, back, rfl⟩
    refine (wholeTimed.sent (history.map Event.op ++ pong :: front) seq otherTime otherDelta
      (back ++ .statistic now :: rest) ?_).2.2 ⟨time, delta, by simp [pong]⟩
    simp [laterOps]
  rcases counted_of_run answered rfl (by omega) continued laterOps (by omega)
      unpongedWaiting with ⟨first, counted, rear, pollTime, rfl, countedOp, countedEq, quiet⟩
  rw [pollSlot_answered] at countedEq
  have wholeEq : whole = (history ++ ⟨state, pong, .measured elapsed, next⟩ :: first) ++
      counted :: rear := by
    simp [whole]
  have rearQuiet : ∀ event ∈ rear, RttEvent.contribution event seq = 0 := by
    have cut : whole = (history ++ ⟨state, pong, .measured elapsed, next⟩ :: first ++
        [counted]) ++ rear := by
      simp [whole]
    refine uncounted_after (cut ▸ wholeRun) ?_
    refine ⟨history.map Event.op, time, delta, first.map Event.op ++ [counted.op],
      pollTime, ?_, by simp [countedOp]⟩
    simp [pong]
  refine ⟨?_, ?_, ?_⟩
  · rw [wholeEq]
    refine .of_quiet (by rw [countedEq]) (by rw [countedEq]) ?_ rearQuiet
    intro other member
    simp only [List.mem_append, List.mem_cons] at member
    rcases member with inHistory | rfl | inFirst
    · exact uncounted other inHistory
    · exact ⟨rfl, rfl⟩
    · rw [quiet other inFirst]
      exact ⟨rfl, rfl⟩
  · have pongQuiet : RttEvent.contribution ⟨state, pong, .measured elapsed, next⟩ seq = 0 :=
      rfl
    rw [wholeEq]
    simp only [contributions_append, contributions_cons, sum, pongQuiet,
      contributions_eq_zero quiet, countedEq, contributions_eq_zero rearQuiet,
      RttTally.outages_add, add_zero]
    refine outage_telescopes progress (origin.imp_right fun ⟨op, member, equal⟩ => ?_)
    have ordered := (List.pairwise_append.mp timed.ordered).2.2 op (by simp [split, member])
      pong (by simp [pong])
    exact equal ▸ ordered
  · intro event member pollNow opEq
    rcases List.append_of_mem member with ⟨front, back, split⟩
    rw [split] at wholeRun
    rcases wholeRun.cut.of_snoc with ⟨before, polled⟩
    rw [← (RingInv.of_run before).tally_eq pollNow]
    exact reports_of_poll opEq polled

/-- One frame, polled at time 2 before its pong at time 3, and collected at time 4. -/
theorem polled_before_pong_timed :
    WellTimed [.arrival 0, .statistic 2, .pong 1 3 0, .statistic 4] where
  ordered := by simp [RttOp.time]; norm_num
  sent := by
    intro earlier seq time delta later split
    match earlier with
    | [] => simp at split
    | [_] => simp at split
    | [first, second] =>
        simp only [List.cons_append, List.nil_append, List.cons.injEq,
          RttOp.pong.injEq] at split
        rcases split with ⟨rfl, rfl, ⟨rfl, rfl, rfl⟩, _⟩
        exact ⟨le_rfl, by decide, by simp [Ponged]⟩
    | [_, _, _] => simp at split
    | _ :: _ :: _ :: _ :: _ => simp at split

theorem frame_counted_once_polled :
    ∃ history state next later final, Run RttState.step (.start 1) history state ∧
      history.map Event.op = [.arrival 0, .statistic 2] ∧
      state.step (.pong 1 3 0) = .ok (.measured (3 - 0), next) ∧
      Run RttState.step next later final ∧ later.map Event.op = [.statistic 4] ∧
      (contributions (history ++ ⟨state, .pong 1 3 0, .measured (3 - 0), next⟩ :: later)
        1).outages = 2 := by
  obtain ⟨history, state, run, opsEq, _⟩ :=
    exists_run_of_any RttState.step (.start 1) [.arrival 0, .statistic 2] (fun _ => true)
      (by decide +kernel)
  have timed : WellTimed (history.map Event.op ++ [.pong 1 3 0] ++ [.statistic 4]) := by
    rw [opsEq]
    exact polled_before_pong_timed
  have split : history.map Event.op = [] ++ .arrival 0 :: [.statistic 2] := opsEq
  have number : 1 = registered [] + 1 := rfl
  rcases frame_counted_once run split number (by decide) timed.front with
    ⟨next, taken, counted⟩
  have polled : Run RttState.step next [⟨next, .statistic 4, _, _⟩] _ := Run.nil.snoc rfl
  refine ⟨history, state, next, _, _, run, opsEq, taken, polled, rfl, ?_⟩
  rw [(counted _ _ [] 4 [] polled rfl (by decide) (by simpa using timed)).2.1]
  norm_num

end StreamReplay
