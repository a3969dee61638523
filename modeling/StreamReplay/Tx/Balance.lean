import StreamReplay.Foundation.Balance
import StreamReplay.Tx.Sending

/-!
# The balance of the queue-aware policy

`QueueAware` compares the two queues, weighted by the rates of their links, and
the stored message counts each packet on the link it was decided for.  Over one
snapshot this closed loop is a greedy balancer of the weighted difference.
-/

namespace StreamReplay

open Balance Checked FallibleRun Floating SchedulingMessage

/-- A scheduling decision as an event. -/
abbrev ScheduleEvent := Event TxPartCtler PacketWithMeta (Option PacketWithMeta)

/-- The weights of two links. -/
structure Weights where
  first : ℚ
  second : ℚ
  first_pos : 0 < first
  second_pos : 0 < second

namespace Weights

variable (weights : Weights)

/-- The weighted difference of two queue lengths. -/
def imbalance (ac1Info : List Nat) : ℚ :=
  (1 + ac1Info.getD 0 0) / weights.first - (1 + ac1Info.getD 1 0) / weights.second

theorem up_pos : 0 < 1 / weights.first := one_div_pos.mpr weights.first_pos

theorem down_pos : 0 < 1 / weights.second := one_div_pos.mpr weights.second_pos

theorem imbalance_count_first (queue1 queue2 : Nat) :
    weights.imbalance [queue1 + 1, queue2] =
      weights.imbalance [queue1, queue2] + 1 / weights.first := by
  simp only [imbalance, List.getD_cons_zero, List.getD_cons_succ]
  push_cast
  ring

theorem imbalance_count_second (queue1 queue2 : Nat) :
    weights.imbalance [queue1, queue2 + 1] =
      weights.imbalance [queue1, queue2] - 1 / weights.second := by
  simp only [imbalance, List.getD_cons_zero, List.getD_cons_succ]
  push_cast
  ring

end Weights

namespace TxPartCtler

/-- The queue lengths that the next decision starts from: those of the stored
message for the snapshot on the bus, else those of the snapshot. -/
def lengths (ctler : TxPartCtler) : List Nat :=
  match ctler.scheduleMessage with
  | some message =>
      if message.currentTime = ctler.macInfoBus.latest.takenAt then message.ac1Info
      else (Enumeration.values ctler.macInfoBus.latest.queues).map MACQueueInfo.ac1
  | none => (Enumeration.values ctler.macInfoBus.latest.queues).map MACQueueInfo.ac1

/-- The rates that the next decision is made on, likewise. -/
def rates (ctler : TxPartCtler) : Option (List Number) :=
  match ctler.scheduleMessage with
  | some message =>
      if message.currentTime = ctler.macInfoBus.latest.takenAt then message.mcsValues
      else (Enumeration.values ctler.macInfoBus.latest.link).mapM LinkInfo.txMbitS
  | none => (Enumeration.values ctler.macInfoBus.latest.link).mapM LinkInfo.txMbitS

/-- The weight of a link from its parameter and rate, which are finite. -/
def IsWeight (weight : ℚ) (theta mcs : Number) : Prop :=
  ∃ factor rate, theta.value = some factor ∧ mcs.value = some rate ∧
    weight = factor * rate + 1 / 100

/-- A queue-aware controller of two monitored links with the given weights. -/
structure Weighs (ctler : TxPartCtler) (weights : Weights) : Prop where
  policy : ctler.policy = .queueAware
  mon : ctler.macInfoBus.isMon = true
  queues : ctler.lengths.length = 2
  rates : ∃ mcs1 mcs2, ctler.rates = some [mcs1, mcs2] ∧
    IsWeight weights.first ctler.policyParameters.theta3 mcs1 ∧
    IsWeight weights.second ctler.policyParameters.theta4 mcs2

variable {ctler next : TxPartCtler} {packet : PacketWithMeta}

/-- A decision is made on these lengths and rates. -/
theorem Determined.measures {message : SchedulingMessage}
    (determined : ctler.Determined packet message) :
    message.ac1Info = ctler.lengths ∧ message.mcsValues = ctler.rates := by
  rcases determined.measured with ⟨needs, rfl⟩ | ⟨stored, held, current, lengthsEq, ratesEq⟩
  · cases held : ctler.scheduleMessage with
    | none => simp [lengths, rates, held, buildMessage, SchedulingMessage.new]
    | some stored =>
        have stale := needs stored held
        simp [lengths, rates, held, stale, buildMessage, SchedulingMessage.new]
  · simp [lengths, rates, held, current, lengthsEq, ratesEq]

/-- The load of a link is the number of packets over its weight. -/
theorem IsWeight.value_load {weight : ℚ} {theta mcs : Number}
    (isWeight : IsWeight weight theta mcs) (positive : 0 < weight) (packets : Nat) :
    (QueueAware.load .exact theta packets mcs).value = some (packets / weight) := by
  rcases isWeight with ⟨factor, rate, known, measured, rfl⟩
  have divisor := Number.value_add (Number.value_mul known measured)
    (Number.value_ofRat (1 / 100))
  exact Number.value_div (Number.value_ofNat packets) divisor positive.ne'

/-- The policy compares the two sides of the imbalance. -/
theorem loads_lt_eq {weights : Weights} {parameters : PolicyParameter}
    {queue1 queue2 : Nat} {mcs1 mcs2 : Number}
    (first : IsWeight weights.first parameters.theta3 mcs1)
    (second : IsWeight weights.second parameters.theta4 mcs2) :
    (QueueAware.load .exact parameters.theta3 (1 + queue1) mcs1).lt
        (QueueAware.load .exact parameters.theta4 (1 + queue2) mcs2) =
      decide (weights.imbalance [queue1, queue2] < 0) := by
  rw [Number.lt_eq (first.value_load weights.first_pos _) (second.value_load weights.second_pos _)]
  simp only [Weights.imbalance, sub_neg, List.getD_cons_zero, List.getD_cons_succ]
  push_cast
  rfl

/-- What is read next after a decision: its message, with the packet counted. -/
theorem Decides.measures {message : SchedulingMessage} {packetType : PacketType}
    (decides : ctler.Decides .exact packet message packetType)
    (mon : ctler.macInfoBus.isMon = true) :
    let next := ctler.decided message packetType
    let link := linkOf packetType
    next.lengths = message.ac1Info.set link (message.ac1Info.getD link 0 + 1) ∧
      next.rates = message.mcsValues ∧
      ∃ stored, next.scheduleMessage = some stored ∧ stored.ac1Info = next.lengths := by
  have current := decides.determined.currentTime_eq
  simp [decided, lengths, rates, mon, current]

/-- The link of a queue-aware decision. -/
theorem Decides.linkOf_queueAware {weights : Weights} {message : SchedulingMessage}
    {packetType : PacketType} (decides : ctler.Decides .exact packet message packetType)
    (weighs : ctler.Weighs weights) :
    linkOf packetType = if weights.imbalance ctler.lengths < 0 then 0 else 1 := by
  rcases decides.determined.measures with ⟨lengthsEq, ratesEq⟩
  rcases weighs.rates with ⟨mcs1, mcs2, known, firstEq, secondEq⟩
  rcases List.length_eq_two.mp weighs.queues with ⟨queue1, queue2, queuesEq⟩
  rcases Policy.getPacketState_eq_ok.mp decides.policy with ⟨_, onFirst, chosen, rfl⟩
  rw [weighs.policy, Policy.choice, ratesEq, known, lengthsEq, queuesEq, unwrap, ok_bind] at chosen
  rcases compareLoads_eq_ok.mp chosen with
    ⟨_, _, _, _, ⟨firstQueue, firstRate⟩, ⟨secondQueue, secondRate⟩, _, rfl⟩
  cases firstQueue
  cases firstRate
  cases secondQueue
  cases secondRate
  rw [linkOf_packetTypeFor, loads_lt_eq firstEq secondEq, queuesEq]
  simp only [decide_eq_true_eq]

/-- Step lemma: a decision is a step of the greedy balancer. -/
theorem Decides.balances {weights : Weights} {message : SchedulingMessage}
    {packetType : PacketType} (decides : ctler.Decides .exact packet message packetType)
    (weighs : ctler.Weighs weights) :
    let next := ctler.decided message packetType
    next.Weighs weights ∧
      weights.imbalance next.lengths =
        greedy (1 / weights.first) (1 / weights.second) (weights.imbalance ctler.lengths) := by
  intro next
  rcases decides.measures weighs.mon with ⟨nextLengths, nextRates, _⟩
  have linkEq := decides.linkOf_queueAware weighs
  rcases decides.determined.measures with ⟨lengthsEq, ratesEq⟩
  rcases List.length_eq_two.mp weighs.queues with ⟨queue1, queue2, queuesEq⟩
  rw [lengthsEq, linkEq, queuesEq] at nextLengths
  rw [ratesEq] at nextRates
  constructor
  · constructor
    · exact weighs.policy
    · exact weighs.mon
    · rw [nextLengths, List.length_set]
      rfl
    · rw [nextRates]
      exact weighs.rates
  · rw [nextLengths, queuesEq, greedy]
    split
    next => exact weights.imbalance_count_first queue1 queue2
    next => exact weights.imbalance_count_second queue1 queue2

/-- The number of packets of a history that were decided for a link. -/
def decisions (history : List ScheduleEvent) : Nat :=
  history.countP (Event.out · |>.isSome)

/-- Run lemma: the imbalance is that of the greedy balancer after as many steps. -/
theorem imbalance_of_run {weights : Weights} {start state : TxPartCtler}
    {history : List ScheduleEvent}
    (weighs : start.Weighs weights) (run : Run (schedule .exact) start history state) :
    state.Weighs weights ∧
      weights.imbalance state.lengths =
        (greedy (1 / weights.first) (1 / weights.second))^[decisions history]
          (weights.imbalance start.lengths) := by
  induction run with
  | nil => exact ⟨weighs, rfl⟩
  | @snoc history state next packet out run taken ih =>
      rcases ih with ⟨weighs, imbalance⟩
      rcases schedule_cases taken with
        ⟨rfl, _, rfl⟩ | ⟨message, packetType, decides, rfl, rfl⟩
      · refine ⟨weighs, ?_⟩
        simpa [decisions] using imbalance
      · rcases decides.balances weighs with ⟨nextWeighs, nextImbalance⟩
        refine ⟨nextWeighs, ?_⟩
        have count : decisions
            (history ++ [⟨state, packet, some (packet.setIndicator packetType),
              state.decided message packetType⟩]) =
              decisions history + 1 := by
          simp [decisions]
        rw [nextImbalance, imbalance, count, Function.iterate_succ_apply']

/-- Every event of a run is at a controller that weighs alike. -/
theorem weighs_of_run {weights : Weights} {start state : TxPartCtler}
    {history : List ScheduleEvent}
    (weighs : start.Weighs weights) (run : Run (schedule .exact) start history state)
    {event : ScheduleEvent}
    (member : event ∈ history) : event.before.Weighs weights := by
  rcases run.split member with ⟨earlier, later, _, before⟩
  exact (imbalance_of_run weighs before).1

end TxPartCtler

/-- In every run of scheduling steps over one snapshot, each decision moves the stored
message's imbalance towards the interval; once in the interval it stays there; and it
never exceeds the largest of its start and the two widths. -/
theorem queue_aware_balances {weights : Weights} {start state : TxPartCtler}
    {history : List ScheduleEvent}
    (weighs : start.Weighs weights) (run : Run (TxPartCtler.schedule .exact) start history state) :
    let up := 1 / weights.first
    let down := 1 / weights.second
    let imbalance (ctler : TxPartCtler) := weights.imbalance ctler.lengths
    (∀ event ∈ history, ∀ scheduled, event.out = some scheduled →
      (∃ stored, event.after.scheduleMessage = some stored ∧
        stored.ac1Info = event.after.lengths) ∧
      Towards up down (imbalance event.before) (imbalance event.after)) ∧
    (∀ earlier event later, history = earlier ++ event :: later →
      Within up down (imbalance event.before) →
      ∀ other ∈ event :: later, Within up down (imbalance other.after)) ∧
    ∀ event ∈ history,
      |imbalance event.after| ≤ max |imbalance start| (max up down) := by
  intro up down imbalance
  refine ⟨?_, ?_, ?_⟩
  · intro event member scheduled outEq
    have before := TxPartCtler.weighs_of_run weighs run member
    rcases TxPartCtler.schedule_cases (run.event_step member) with
      ⟨none, _⟩ | ⟨message, packetType, decides, _, nextEq⟩
    · rw [outEq] at none
      cases none
    · rw [nextEq]
      refine ⟨(decides.measures before.mon).2.2, ?_⟩
      have step : imbalance (event.before.decided message packetType) =
          greedy up down (imbalance event.before) := (decides.balances before).2
      rw [step]
      exact towards_greedy weights.up_pos weights.down_pos
  · intro earlier event later split within other member
    have inHistory : event ∈ history := by simp [split]
    have before := TxPartCtler.weighs_of_run weighs run inHistory
    have rest := (split ▸ run).from_event
    rcases rest.split member with ⟨front, back, frontEq, _⟩
    have reached := TxPartCtler.imbalance_of_run before (frontEq ▸ rest).cut
    change Within up down (weights.imbalance other.after.lengths)
    rw [reached.2]
    exact within_iterate weights.up_pos weights.down_pos within _
  · intro event member
    rcases run.split member with ⟨earlier, later, split, _⟩
    have reached := TxPartCtler.imbalance_of_run weighs (split ▸ run).cut
    change |weights.imbalance event.after.lengths| ≤ _
    rw [reached.2]
    exact abs_iterate_le weights.up_pos weights.down_pos _

/-- Two packets wait on the faster of two links. -/
def leaningSnapshot : MACQueuesSnapshot where
  takenAt := 1
  queues := Enumeration.pair busy_ne_idle (Finmap.singleton 1 2) ∅
  link := Enumeration.pair busy_ne_idle ⟨some 100⟩ ⟨some 50⟩

def leaningCtler : TxPartCtler := freshCtler.observe leaningSnapshot

def leaningWeights : Weights where
  first := 1 * 100 + 1 / 100
  second := 1 * 50 + 1 / 100
  first_pos := by norm_num
  second_pos := by norm_num

theorem leaningCtler_weighs : leaningCtler.Weighs leaningWeights where
  policy := rfl
  mon := rfl
  queues := rfl
  rates := ⟨100, 50, rfl, ⟨1, 100, rfl, rfl, rfl⟩, ⟨1, 50, rfl, rfl, rfl⟩⟩

/-- The first packet brings the difference into the interval, and the others keep it there. -/
theorem queue_aware_balances_leaning :
    let up := 1 / leaningWeights.first
    let down := 1 / leaningWeights.second
    let imbalance (ctler : TxPartCtler) := leaningWeights.imbalance ctler.lengths
    ∃ history state,
      Run (TxPartCtler.schedule .exact) leaningCtler history state ∧
      history.map Event.op = [framePacket 0 4, framePacket 1 4, framePacket 2 4, framePacket 3 4] ∧
      history.map (fun event => event.out.map PacketWithMeta.channel) =
        [some 1, some 0, some 1, some 0] ∧
      (∀ event ∈ history, ∀ scheduled, event.out = some scheduled →
        (∃ stored, event.after.scheduleMessage = some stored ∧
          stored.ac1Info = event.after.lengths) ∧
        Towards up down (imbalance event.before) (imbalance event.after)) ∧
      (∀ earlier event later, history = earlier ++ event :: later →
        Within up down (imbalance event.before) →
        ∀ other ∈ event :: later, Within up down (imbalance other.after)) ∧
      ∀ event ∈ history,
        |imbalance event.after| ≤ max |imbalance leaningCtler| (max up down) := by
  intro up down imbalance
  rcases exists_run_of_trace (TxPartCtler.schedule .exact) leaningCtler
    [framePacket 0 4, framePacket 1 4, framePacket 2 4, framePacket 3 4]
    (fun history _ => history.map (fun event => event.out.map PacketWithMeta.channel) ==
      [some 1, some 0, some 1, some 0]) (by decide +kernel) with
    ⟨history, state, run, opsEq, channels⟩
  exact ⟨history, state, run, opsEq, beq_iff_eq.mp channels,
    queue_aware_balances leaningCtler_weighs run⟩

end StreamReplay
