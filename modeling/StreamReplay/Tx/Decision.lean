import StreamReplay.Tx.Schedule

/-!
# Decisions

What all policies have in common: each chooses one of two links by a test of its
own and marks a packet as last when its offset is one below the packet count.
The controller hands every policy the offset, the count and the blocked signals
of the packet at hand, whether the message is reused or built.
-/

namespace StreamReplay

open Checked Floating SchedulingMessage

/-! ## Packet types -/

@[simp] theorem isLast_packetTypeFor (onFirst isLast : Bool) :
    (packetTypeFor onFirst isLast).isLast = isLast := by
  cases onFirst <;> cases isLast <;> rfl

@[simp] theorem linkOf_packetTypeFor (onFirst isLast : Bool) :
    linkOf (packetTypeFor onFirst isLast) = if onFirst then 0 else 1 := by
  cases onFirst <;> cases isLast <;> rfl

theorem linkOf_lt (packetType : PacketType) : linkOf packetType < 2 := by
  cases packetType <;> decide

namespace PacketWithMeta

variable (packet : PacketWithMeta) (packetType : PacketType)

/-- The channel stored with an indicator is the link of the packet type. -/
@[simp] theorem channel_setIndicator :
    (packet.setIndicator packetType).channel = linkOf packetType := by
  change (channelInfo (toIndicator packetType)).toNat = linkOf packetType
  cases packetType <;> decide

@[simp] theorem setIndicator_setIndicator (earlier : PacketType) :
    (packet.setIndicator earlier).setIndicator packetType =
      packet.setIndicator packetType := rfl

/-- A packet as it waits to be sent: as it was emitted, or with the indicator of an
attempt that failed. -/
def Waiting (waiting : PacketWithMeta) : Prop :=
  waiting = packet ∨ ∃ earlier, waiting = packet.setIndicator earlier

/-- A new indicator replaces that of an earlier attempt; the rest stays. -/
theorem Waiting.fields {packet waiting : PacketWithMeta} (waits : packet.Waiting waiting) :
    waiting.setIndicator packetType = packet.setIndicator packetType ∧
      waiting.packet.offset = packet.packet.offset ∧ waiting.num = packet.num := by
  rcases waits with rfl | ⟨earlier, rfl⟩
  · exact ⟨rfl, rfl, rfl⟩
  · exact ⟨setIndicator_setIndicator .., rfl, rfl⟩

end PacketWithMeta

/-! ## The choice of a link -/

section Choices

variable {round : Rounding} {policyParameters : PolicyParameter}

/-- The test by which a policy chooses the first link, as the code makes it. -/
def Policy.choice (round : Rounding) (policy : Policy) (params : SchedulingMessage)
    (policyParameters : PolicyParameter) : Except Panic Bool :=
  match policy with
  | .queueAware => do
      let mcsValues ← unwrap params.mcsValues
      QueueAware.parameterizedFunction round params.ac1Info policyParameters mcsValues
  | .simpleQueueAware => do
      let mcsValues ← unwrap params.mcsValues
      let leftPkts ← sub params.num params.offset
      SimpleQueueAware.parameterizedFunction round leftPkts params.ac1Info policyParameters
        mcsValues
  | .conditionalRR => do
      let blocked ← index params.blockedSignals 0
      if blocked then index params.blockedSignals 1 else return true
  | .hardThreshold =>
      .ok !HardThreshold.beyond round params.offset params.num policyParameters.theta1

/-- A policy decides when the packet has a count and its test returns; the test
chooses the link, and the offset the end mark. -/
theorem Policy.getPacketState_eq_ok {policy : Policy} {params : SchedulingMessage}
    {packetType : PacketType} :
    policy.getPacketState round params policyParameters = .ok packetType ↔
      1 ≤ params.num ∧ ∃ onFirst, policy.choice round params policyParameters = .ok onFirst ∧
        packetType = packetTypeFor onFirst (params.offset == params.num - 1) := by
  cases policy with
  | queueAware =>
      simp only [getPacketState, QueueAware.getPacketState, choice, bind_eq_ok, sub_eq_ok,
        pure_eq_ok, Except.ok.injEq]
      constructor
      · rintro ⟨mcsValues, known, last, ⟨some, rfl⟩, onFirst, chosen, rfl⟩
        exact ⟨some, onFirst, ⟨mcsValues, known, chosen⟩, rfl⟩
      · rintro ⟨some, onFirst, ⟨mcsValues, known, chosen⟩, rfl⟩
        exact ⟨mcsValues, known, _, ⟨some, rfl⟩, onFirst, chosen, rfl⟩
  | simpleQueueAware =>
      simp only [getPacketState, SimpleQueueAware.getPacketState, choice, bind_eq_ok,
        sub_eq_ok, pure_eq_ok, Except.ok.injEq]
      constructor
      · rintro ⟨mcsValues, known, last, ⟨some, rfl⟩, left, ⟨within, rfl⟩, onFirst, chosen, rfl⟩
        exact ⟨some, onFirst, ⟨mcsValues, known, _, ⟨within, rfl⟩, chosen⟩, rfl⟩
      · rintro ⟨some, onFirst, ⟨mcsValues, known, _, ⟨within, rfl⟩, chosen⟩, rfl⟩
        exact ⟨mcsValues, known, _, ⟨some, rfl⟩, _, ⟨within, rfl⟩, onFirst, chosen, rfl⟩
  | conditionalRR =>
      simp only [getPacketState, ConditionalRR.getPacketState, choice, bind_eq_ok, sub_eq_ok]
      constructor
      · rintro ⟨last, ⟨some, rfl⟩, blocked, first, decided⟩
        refine ⟨some, ?_⟩
        cases blocked with
        | true =>
            rcases bind_eq_ok.mp decided with ⟨alsoBlocked, second, equal⟩
            cases equal
            exact ⟨alsoBlocked, ⟨true, first, second⟩, rfl⟩
        | false =>
            cases decided
            exact ⟨true, ⟨false, first, rfl⟩, rfl⟩
      · rintro ⟨some, onFirst, ⟨blocked, first, chosen⟩, rfl⟩
        refine ⟨_, ⟨some, rfl⟩, blocked, first, ?_⟩
        cases blocked with
        | true => exact bind_eq_ok.mpr ⟨onFirst, chosen, rfl⟩
        | false =>
            cases chosen
            rfl
  | hardThreshold =>
      simp only [getPacketState, HardThreshold.getPacketState, choice, bind_eq_ok, sub_eq_ok,
        pure_eq_ok, Except.ok.injEq]
      constructor
      · rintro ⟨last, ⟨some, rfl⟩, rfl⟩
        exact ⟨some, _, rfl, rfl⟩
      · rintro ⟨some, onFirst, rfl, rfl⟩
        exact ⟨_, ⟨some, rfl⟩, rfl⟩

/-- A comparison returns when it can read both links and add the packets to both queues. -/
theorem compareLoads_eq_ok {packets : Nat} {load1 load2 : Nat → Number → Number}
    {ac1Info : List Nat} {mcsValues : List Number} {onFirst : Bool} :
    compareLoads packets load1 load2 ac1Info mcsValues = .ok onFirst ↔
    ∃ queue1 mcs1 queue2 mcs2,
      (ac1Info[0]? = some queue1 ∧ mcsValues[0]? = some mcs1) ∧
      (ac1Info[1]? = some queue2 ∧ mcsValues[1]? = some mcs2) ∧
      (packets + queue1 < 2 ^ 64 ∧ packets + queue2 < 2 ^ 64) ∧
      onFirst = (load1 (packets + queue1) mcs1).lt (load2 (packets + queue2) mcs2) := by
  simp only [compareLoads, bind_eq_ok, index_eq_ok, add_eq_ok, pure_eq_ok, Except.ok.injEq]
  constructor
  · rintro ⟨queue1, first, _, ⟨room1, rfl⟩, mcs1, rate1, queue2, second, _, ⟨room2, rfl⟩, mcs2,
      rate2, rfl⟩
    exact ⟨queue1, mcs1, queue2, mcs2, ⟨first, rate1⟩, ⟨second, rate2⟩, ⟨room1, room2⟩, rfl⟩
  · rintro ⟨queue1, mcs1, queue2, mcs2, ⟨first, rate1⟩, ⟨second, rate2⟩, ⟨room1, room2⟩, rfl⟩
    exact ⟨queue1, first, _, ⟨room1, rfl⟩, mcs1, rate1, queue2, second, _, ⟨room2, rfl⟩, mcs2,
      rate2, rfl⟩

/-- The message has a queue length and a rate at a link's position. -/
structure SchedulingMessage.Measures (message : SchedulingMessage) (link queue : Nat)
    (mcs : Number) : Prop where
  queue : message.ac1Info[link]? = some queue
  rate : message.mcsValues.bind (·[link]?) = some mcs

/-- The first link's load is less than the second's, with some packets added to both. -/
def SchedulingMessage.LoadsFirstLess (message : SchedulingMessage) (packets : Nat)
    (load1 load2 : Nat → Number → Number) : Prop :=
  ∃ queue1 mcs1 queue2 mcs2,
    message.Measures 0 queue1 mcs1 ∧ message.Measures 1 queue2 mcs2 ∧
    (load1 (packets + queue1) mcs1).lt (load2 (packets + queue2) mcs2) = true

/-- The message has a queue at a link's position, with room for some packets. -/
def SchedulingMessage.RoomFor (message : SchedulingMessage) (packets link : Nat) : Prop :=
  ∃ queue, message.ac1Info[link]? = some queue ∧ packets + queue < 2 ^ 64

/-- The message has queue lengths and rates of two links. -/
structure SchedulingMessage.MeasuresBoth (message : SchedulingMessage) : Prop where
  queues : 2 ≤ message.ac1Info.length
  rates : ∃ mcsValues, message.mcsValues = some mcsValues ∧ 2 ≤ mcsValues.length

section Comparisons

variable {message : SchedulingMessage} {mcsValues : List Number} {packets : Nat}
  {load1 load2 : Nat → Number → Number}

/-- A comparison is of what the message measures. -/
theorem compareLoads_iff_loadsFirstLess {onFirst : Bool}
    (known : message.mcsValues = some mcsValues)
    (compared : compareLoads packets load1 load2 message.ac1Info mcsValues = .ok onFirst) :
    onFirst = true ↔ message.LoadsFirstLess packets load1 load2 := by
  rcases compareLoads_eq_ok.mp compared with
    ⟨queue1, mcs1, queue2, mcs2, ⟨first, rate1⟩, ⟨second, rate2⟩, _, rfl⟩
  constructor
  · intro less
    exact ⟨queue1, mcs1, queue2, mcs2, ⟨first, by simpa [known] using rate1⟩,
      ⟨second, by simpa [known] using rate2⟩, less⟩
  · rintro ⟨_, _, _, _, ⟨queue, rate⟩, ⟨otherQueue, otherRate⟩, less⟩
    simp only [known, Option.bind_some] at rate otherRate
    cases first.symm.trans queue
    cases rate1.symm.trans rate
    cases second.symm.trans otherQueue
    cases rate2.symm.trans otherRate
    exact less

/-- A comparison returns when the message measures both links and there is room. -/
theorem compareLoads_returns_iff (known : message.mcsValues = some mcsValues) :
    (∃ onFirst, compareLoads packets load1 load2 message.ac1Info mcsValues = .ok onFirst) ↔
      message.MeasuresBoth ∧ ∀ link < 2, message.RoomFor packets link := by
  simp only [compareLoads_eq_ok]
  constructor
  · rintro ⟨_, queue1, mcs1, queue2, mcs2, ⟨first, _⟩, ⟨second, rate⟩, ⟨room1, room2⟩, _⟩
    have queues := (List.getElem?_eq_some_iff.mp second).1
    have rates := (List.getElem?_eq_some_iff.mp rate).1
    refine ⟨⟨queues, mcsValues, known, rates⟩, fun link below => ?_⟩
    match link, below with
    | 0, _ => exact ⟨queue1, first, room1⟩
    | 1, _ => exact ⟨queue2, second, room2⟩
  · rintro ⟨⟨_, values, measured, rates⟩, room⟩
    cases known.symm.trans measured
    rcases room 0 (by decide) with ⟨queue1, first, room1⟩
    rcases room 1 (by decide) with ⟨queue2, second, room2⟩
    exact ⟨_, queue1, mcsValues[0], queue2, mcsValues[1], ⟨first, List.getElem?_eq_getElem _⟩,
      ⟨second, List.getElem?_eq_getElem _⟩, ⟨room1, room2⟩, rfl⟩

end Comparisons

end Choices

/-! ## The controller -/

/-- What `determine_schedule_info` hands to the policy when it returns a message:
the packet's own offset and count, the blocked signals of the moment, and the
measurements of the stored message for the latest snapshot or of that snapshot. -/
structure TxPartCtler.Determined (ctler : TxPartCtler) (packet : PacketWithMeta)
    (message : SchedulingMessage) : Prop where
  offset_eq : message.offset = packet.packet.offset.toNat
  num_eq : message.num = packet.num
  blocked_eq : message.blockedSignals = ctler.blockedSignals
  currentTime_eq : message.currentTime = ctler.macInfoBus.latest.takenAt
  available : ctler.macInfoBus.isMon = true →
    ctler.macInfoBus.latest.queues.entries ≠ [] ∧ ctler.macInfoBus.latest.link.entries ≠ []
  measured : (ctler.NeedsMessage ctler.macInfoBus.latest ∧
      message = ctler.buildMessage packet) ∨
    ∃ stored, ctler.scheduleMessage = some stored ∧
      stored.currentTime = ctler.macInfoBus.latest.takenAt ∧
      message.ac1Info = stored.ac1Info ∧ message.mcsValues = stored.mcsValues

/-- There is nothing to schedule on. -/
def TxPartCtler.Uninformed (ctler : TxPartCtler) : Prop :=
  (ctler.macInfoBus.isMon && (ctler.macInfoBus.latest.queues.entries.isEmpty ||
    ctler.macInfoBus.latest.link.entries.isEmpty)) = true

instance (ctler : TxPartCtler) : Decidable ctler.Uninformed :=
  inferInstanceAs (Decidable (_ = true))

theorem TxPartCtler.Determined.informed {ctler : TxPartCtler} {packet : PacketWithMeta}
    {message : SchedulingMessage} (determined : ctler.Determined packet message) :
    ¬ctler.Uninformed := by
  intro uninformed
  simp only [Uninformed, Bool.and_eq_true, Bool.or_eq_true, List.isEmpty_iff] at uninformed
  rcases determined.available uninformed.1 with ⟨queues, link⟩
  exact uninformed.2.elim queues link

/-- The message that is stored and returned where there is. -/
def TxPartCtler.nextMessage (ctler : TxPartCtler) (packet : PacketWithMeta) :
    SchedulingMessage :=
  match ctler.scheduleMessage with
  | some message =>
      if message.currentTime = ctler.macInfoBus.latest.takenAt then
        message.update packet ctler.blockedSignals
      else ctler.buildMessage packet
  | none => ctler.buildMessage packet

theorem TxPartCtler.determineScheduleInfo_eq (ctler : TxPartCtler)
    (packet : PacketWithMeta) :
    ctler.determineScheduleInfo packet =
      if ctler.Uninformed then (none, ctler)
      else (some (ctler.nextMessage packet),
        { ctler with scheduleMessage := some (ctler.nextMessage packet) }) := by
  by_cases gate : ctler.Uninformed
  · rw [if_pos gate]
    exact if_pos gate
  · rw [if_neg gate]
    exact if_neg gate

theorem TxPartCtler.determineScheduleInfo_eq_none {ctler next : TxPartCtler}
    {packet : PacketWithMeta} :
    ctler.determineScheduleInfo packet = (none, next) ↔
      ctler.Uninformed ∧ next = ctler := by
  rw [determineScheduleInfo_eq]
  split
  next gate => simp [gate, eq_comm]
  next gate => simp [gate]

theorem TxPartCtler.determined_of_eq {ctler next : TxPartCtler} {packet : PacketWithMeta}
    {message : SchedulingMessage}
    (returned : ctler.determineScheduleInfo packet = (some message, next)) :
    next = { ctler with scheduleMessage := some message } ∧
      ctler.Determined packet message := by
  rw [determineScheduleInfo_eq] at returned
  split at returned
  next => cases returned
  next gate =>
    cases returned
    have available : ctler.macInfoBus.isMon = true →
        ctler.macInfoBus.latest.queues.entries ≠ [] ∧
          ctler.macInfoBus.latest.link.entries ≠ [] := by
      intro mon
      simpa [Uninformed, mon] using gate
    refine ⟨rfl, ?_⟩
    cases held : ctler.scheduleMessage with
    | none =>
        have needs : ctler.NeedsMessage ctler.macInfoBus.latest := by
          intro stored storedEq
          rw [held] at storedEq
          cases storedEq
        simp only [nextMessage, held]
        exact ⟨rfl, rfl, rfl, rfl, available, .inl ⟨needs, rfl⟩⟩
    | some stored =>
        by_cases current : stored.currentTime = ctler.macInfoBus.latest.takenAt
        · simp only [nextMessage, held, current, if_true]
          exact ⟨rfl, rfl, rfl, current, available, .inr ⟨stored, held, current, rfl, rfl⟩⟩
        · have needs : ctler.NeedsMessage ctler.macInfoBus.latest := by
            intro other otherEq
            rw [held, Option.some.injEq] at otherEq
            exact otherEq ▸ current
          simp only [nextMessage, held, current, if_false]
          exact ⟨rfl, rfl, rfl, rfl, available, .inl ⟨needs, rfl⟩⟩

/-- What `get_packet_state` does to the controller that holds the message: with
monitoring on it counts the packet on the link it chose. -/
theorem TxPartCtler.getPacketState_eq_ok {round : Rounding} {ctler next : TxPartCtler}
    {message : SchedulingMessage} {packetType : PacketType}
    (held : ctler.scheduleMessage = some message) :
    ctler.getPacketState round message = .ok (packetType, next) ↔
      ctler.policy.getPacketState round message ctler.policyParameters = .ok packetType ∧
      if ctler.macInfoBus.isMon then
        ∃ counted, message.updateSendedCounter packetType = .ok counted ∧
          next = { ctler with scheduleMessage := some counted }
      else next = ctler := by
  simp only [getPacketState, held, bind_eq_ok]
  constructor
  · rintro ⟨chosen, decided, rest⟩
    split at rest
    next mon =>
      rcases bind_eq_ok.mp rest with ⟨counted, updated, equal⟩
      cases equal
      exact ⟨decided, by simp [mon, updated]⟩
    next mon =>
      cases rest
      exact ⟨decided, by simp [mon]⟩
  · rintro ⟨decided, rest⟩
    refine ⟨packetType, decided, ?_⟩
    split at rest
    next mon =>
      rcases rest with ⟨counted, updated, rfl⟩
      simp [mon, updated]
    next mon =>
      subst rest
      simp [mon]

/-- The counter is raised for a link that has one, short of the largest. -/
theorem SchedulingMessage.updateSendedCounter_eq_ok {message counted : SchedulingMessage}
    {packetType : PacketType} :
    message.updateSendedCounter packetType = .ok counted ↔
      ∃ sended, message.ac1Info[linkOf packetType]? = some sended ∧ sended + 1 < 2 ^ 64 ∧
        counted =
          { message with ac1Info := message.ac1Info.set (linkOf packetType) (sended + 1) } := by
  simp only [updateSendedCounter, bind_eq_ok, index_eq_ok, add_eq_ok, pure_eq_ok,
    Except.ok.injEq]
  constructor
  · rintro ⟨sended, found, _, ⟨room, rfl⟩, rfl⟩
    exact ⟨sended, found, room, rfl⟩
  · rintro ⟨sended, found, room, rfl⟩
    exact ⟨sended, found, _, ⟨room, rfl⟩, rfl⟩

end StreamReplay
