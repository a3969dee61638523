import StreamReplay.Tx.Sending

/-!
# What a decision needs

A message is built whenever monitoring is off or the snapshot is not empty, while
each policy reads what it needs from it, and the sockets come from the manifest
alone.  A decision completes when the message has what its policy reads, and its
channel has a socket when there are two links or the policy prefers the first.
-/

namespace StreamReplay

open Checked FallibleRun Floating SchedulingMessage

/-! ## What the policies read -/

namespace Policy

variable {policy : Policy} {message : SchedulingMessage} {parameters : PolicyParameter}

/-- The message has what the policy's test reads, and the packets that the test adds to
both queues fit. -/
def Informed (policy : Policy) (message : SchedulingMessage) : Prop :=
  match policy with
  | .queueAware => message.MeasuresBoth ∧ ∀ link < 2, message.RoomFor 1 link
  | .simpleQueueAware => message.offset ≤ message.num ∧ message.MeasuresBoth ∧
      ∀ link < 2, message.RoomFor (message.num - message.offset) link
  | .conditionalRR | .hardThreshold => True

/-- The policy's test is for the first link. -/
def PrefersFirst (policy : Policy) (message : SchedulingMessage)
    (parameters : PolicyParameter) : Prop :=
  match policy with
  | .queueAware => message.LoadsFirstLess 1 (QueueAware.load .binary32 parameters.theta3)
      (QueueAware.load .binary32 parameters.theta4)
  | .simpleQueueAware => message.LoadsFirstLess (message.num - message.offset)
      (SimpleQueueAware.load .binary32 parameters.theta3)
      (SimpleQueueAware.load .binary32 parameters.theta4)
  | .conditionalRR => ¬(message.blockedSignals[0]? = some true ∧
      message.blockedSignals[1]? = some false)
  | .hardThreshold =>
      HardThreshold.beyond .binary32 message.offset message.num parameters.theta1 = false

theorem choice_iff_prefersFirst {onFirst : Bool}
    (chosen : policy.choice .binary32 message parameters = .ok onFirst) :
    onFirst = true ↔ policy.PrefersFirst message parameters := by
  cases policy with
  | queueAware =>
      rcases bind_eq_ok.mp chosen with ⟨mcsValues, known, tested⟩
      exact compareLoads_iff_loadsFirstLess (unwrap_eq_ok.mp known) tested
  | simpleQueueAware =>
      rcases bind_eq_ok.mp chosen with ⟨mcsValues, known, rest⟩
      rcases bind_eq_ok.mp rest with ⟨left, difference, tested⟩
      obtain ⟨_, rfl⟩ := sub_eq_ok.mp difference
      exact compareLoads_iff_loadsFirstLess (unwrap_eq_ok.mp known) tested
  | conditionalRR =>
      rcases bind_eq_ok.mp chosen with ⟨blocked, first, rest⟩
      have firstSignal := index_eq_ok.mp first
      cases blocked with
      | true =>
          have secondSignal := index_eq_ok.mp rest
          simp [PrefersFirst, firstSignal, secondSignal]
      | false =>
          cases rest
          simp [PrefersFirst, firstSignal]
  | hardThreshold =>
      cases chosen
      simp [PrefersFirst]

/-- A test returns when the message has what it reads. -/
theorem choice_returns_iff (signals : message.blockedSignals.length = 2) :
    (∃ onFirst, policy.choice .binary32 message parameters = .ok onFirst) ↔
      policy.Informed message := by
  cases policy with
  | queueAware =>
      constructor
      · rintro ⟨onFirst, chosen⟩
        rcases bind_eq_ok.mp chosen with ⟨mcsValues, known, tested⟩
        exact (compareLoads_returns_iff (unwrap_eq_ok.mp known)).mp ⟨onFirst, tested⟩
      · intro informed
        rcases informed.1.rates with ⟨mcsValues, known, _⟩
        rcases (compareLoads_returns_iff known).mpr informed with ⟨onFirst, tested⟩
        exact ⟨onFirst, bind_eq_ok.mpr ⟨mcsValues, unwrap_eq_ok.mpr known, tested⟩⟩
  | simpleQueueAware =>
      constructor
      · rintro ⟨onFirst, chosen⟩
        rcases bind_eq_ok.mp chosen with ⟨mcsValues, known, rest⟩
        rcases bind_eq_ok.mp rest with ⟨left, difference, tested⟩
        obtain ⟨within, rfl⟩ := sub_eq_ok.mp difference
        exact ⟨within, (compareLoads_returns_iff (unwrap_eq_ok.mp known)).mp ⟨onFirst, tested⟩⟩
      · rintro ⟨within, informed⟩
        rcases informed.1.rates with ⟨mcsValues, known, _⟩
        rcases (compareLoads_returns_iff known).mpr informed with ⟨onFirst, tested⟩
        exact ⟨onFirst, bind_eq_ok.mpr ⟨mcsValues, unwrap_eq_ok.mpr known,
          bind_eq_ok.mpr ⟨_, sub_of_le within, tested⟩⟩⟩
  | conditionalRR =>
      refine iff_of_true ?_ trivial
      rcases index_of_lt (show 0 < message.blockedSignals.length by omega) with
        ⟨blocked, first⟩
      cases blocked with
      | true =>
          rcases index_of_lt (show 1 < message.blockedSignals.length by omega) with
            ⟨alsoBlocked, second⟩
          exact ⟨alsoBlocked, bind_eq_ok.mpr ⟨true, first, second⟩⟩
      | false => exact ⟨true, bind_eq_ok.mpr ⟨false, first, rfl⟩⟩
  | hardThreshold => exact iff_of_true ⟨_, rfl⟩ trivial

end Policy

theorem TxPartCtler.length_ac1Info_buildMessage (ctler : TxPartCtler)
    (packet : PacketWithMeta) :
    (ctler.buildMessage packet).ac1Info.length =
      ctler.macInfoBus.latest.queues.entries.length := by
  change (((Enumeration.values _).map MACQueueInfo.ac1) : List Nat).length = _
  rw [List.length_map, Enumeration.values, List.length_map]

/-- A message built from a snapshot measures both links when the snapshot has two
devices in each table and knows all rates. -/
theorem TxPartCtler.measuresBoth_buildMessage_iff {ctler : TxPartCtler}
    {packet : PacketWithMeta} :
    (ctler.buildMessage packet).MeasuresBoth ↔
      2 ≤ ctler.macInfoBus.latest.queues.entries.length ∧
        2 ≤ ctler.macInfoBus.latest.link.entries.length ∧
        ∀ info ∈ Enumeration.values ctler.macInfoBus.latest.link,
          info.txMbitS.isSome = true := by
  have lengthEq : (Enumeration.values ctler.macInfoBus.latest.link).length =
      ctler.macInfoBus.latest.link.entries.length := List.length_map _
  have rates := Sequence.exists_mapM_eq_some_iff
    (Enumeration.values ctler.macInfoBus.latest.link) LinkInfo.txMbitS 2
  rw [lengthEq] at rates
  rw [← rates, ← length_ac1Info_buildMessage ctler packet]
  constructor
  · rintro ⟨queues, known⟩
    exact ⟨queues, known⟩
  · rintro ⟨queues, known⟩
    exact ⟨queues, known⟩

namespace TxPartCtler

/-! ## Completing a decision -/

/-- What holds of a controller in every run: there are two blocked signals. -/
structure Sound (ctler : TxPartCtler) : Prop where
  signals : ctler.blockedSignals.length = 2

theorem sound_new (policy : Policy) (parameters : PolicyParameter) (bus : LatestBus) :
    (TxPartCtler.new policy parameters bus).Sound :=
  ⟨rfl⟩

theorem Sound.step {socketInfos : SocketInfo} {ctler next : TxPartCtler} {op : CtlerOp}
    {out : Option Attempt} (sound : ctler.Sound)
    (taken : TxPartCtler.step socketInfos ctler op = .ok (out, next)) : next.Sound := by
  cases op with
  | attempt packet outcome =>
      rcases step_attempt_cases taken with
        ⟨_, _, rfl⟩ | ⟨attempt, message, packetType, _, attempts⟩
      · exact sound
      · have nextEq := attempts.next_eq
        subst nextEq
        constructor
        change (if attempt.sent then _ else _ : List Bool).length = 2
        split
        next => exact sound.signals
        next => rw [List.length_set, sound.signals]
  | setPolicyParameters parameters =>
      cases taken
      exact ⟨sound.signals⟩
  | publish snapshot =>
      cases taken
      exact ⟨sound.signals⟩

/-- The message lets the decision complete: the packet has a count, the policy has
what its test reads, and with monitoring on the link that the test is for has a queue
with room to count the packet. -/
structure Completes (ctler : TxPartCtler) (message : SchedulingMessage) : Prop where
  counted : 1 ≤ message.num
  informed : ctler.policy.Informed message
  first : ctler.macInfoBus.isMon = true →
    ctler.policy.PrefersFirst message ctler.policyParameters → message.RoomFor 1 0
  second : ctler.macInfoBus.isMon = true →
    ¬ctler.policy.PrefersFirst message ctler.policyParameters → message.RoomFor 1 1

/-- Raising the counter of a chosen link returns when the link has a queue with room. -/
theorem updateSendedCounter_returns_iff {message : SchedulingMessage}
    {packetType : PacketType} :
    (∃ counted, message.updateSendedCounter packetType = .ok counted) ↔
      message.RoomFor 1 (linkOf packetType) := by
  simp only [updateSendedCounter_eq_ok, RoomFor, Nat.add_comm 1]
  constructor
  · rintro ⟨_, sended, found, room, _⟩
    exact ⟨sended, found, room⟩
  · rintro ⟨sended, found, room⟩
    exact ⟨_, sended, found, room, rfl⟩

theorem getPacketState_returns_iff {ctler : TxPartCtler} {packet : PacketWithMeta}
    {message : SchedulingMessage} (sound : ctler.Sound)
    (determined : ctler.Determined packet message) :
    (∃ result, ({ ctler with scheduleMessage := some message } : TxPartCtler).getPacketState
        .binary32 message = .ok result) ↔ ctler.Completes message := by
  have signals : message.blockedSignals.length = 2 := by
    rw [determined.blocked_eq, sound.signals]
  constructor
  · rintro ⟨⟨packetType, next⟩, returned⟩
    rcases (getPacketState_eq_ok rfl).mp returned with ⟨decided, kept⟩
    rcases Policy.getPacketState_eq_ok.mp decided with ⟨counted, onFirst, chosen, rfl⟩
    have prefers := Policy.choice_iff_prefersFirst chosen
    have room (mon : ctler.macInfoBus.isMon = true) :
        message.RoomFor 1 (if onFirst then 0 else 1) := by
      rw [if_pos mon] at kept
      rcases kept with ⟨_, updated, _⟩
      rw [← linkOf_packetTypeFor onFirst]
      exact updateSendedCounter_returns_iff.mp ⟨_, updated⟩
    refine ⟨counted, (Policy.choice_returns_iff signals).mp ⟨_, chosen⟩, ?_, ?_⟩
    · intro mon first
      simpa only [prefers.mpr first, if_true] using room mon
    · intro mon second
      simpa only [mt prefers.mp second, Bool.false_eq_true, if_false] using room mon
  · intro completes
    rcases (Policy.choice_returns_iff signals).mpr completes.informed with ⟨onFirst, chosen⟩
    have prefers := Policy.choice_iff_prefersFirst chosen
    have decided := Policy.getPacketState_eq_ok.mpr
      ⟨completes.counted, onFirst, chosen, rfl⟩
    let held : TxPartCtler := { ctler with scheduleMessage := some message }
    by_cases mon : held.macInfoBus.isMon = true
    · have counts : ∃ counted,
          message.updateSendedCounter
            (packetTypeFor onFirst (message.offset == message.num - 1)) = .ok counted := by
        rw [updateSendedCounter_returns_iff, linkOf_packetTypeFor]
        split
        next first => exact completes.first mon (prefers.mp first)
        next second => exact completes.second mon (mt prefers.mpr second)
      rcases counts with ⟨counted, updated⟩
      have returned : held.getPacketState .binary32 message = .ok
          (_, { held with scheduleMessage := some counted }) :=
        (getPacketState_eq_ok rfl).mpr ⟨decided, by
          rw [if_pos mon]
          exact ⟨counted, updated, rfl⟩⟩
      exact ⟨_, returned⟩
    · have returned : held.getPacketState .binary32 message = .ok (_, held) :=
        (getPacketState_eq_ok rfl).mpr ⟨decided, by rw [if_neg mon]⟩
      exact ⟨_, returned⟩

/-- The panic of a send is that of a missing socket exactly when the channel has none. -/
theorem send_eq_noSocket_iff {ctler : TxPartCtler} {socketInfos : SocketInfo}
    {packet : PacketWithMeta} {outcome : SendOutcome} :
    ctler.send socketInfos packet outcome =
        .error (.message ("No socket found for channel " ++ toString packet.channel)) ↔
      packet.channel ∉ socketInfos := by
  constructor
  · intro failed member
    rcases Finmap.mem_iff.mp member with ⟨address, found⟩
    simp only [send, found, slice] at failed
    split at failed
    next =>
      simp only [ok_bind] at failed
      cases outcome with
      | sent => cases failed
      | wouldBlock | failed =>
          simp only [block, index] at failed
          split at failed <;> cases failed
    next => cases failed
  · intro missing
    simp only [send, Finmap.lookup_eq_none.mpr missing]

end TxPartCtler

/-- In every run, `get_packet_state` completes on a message that
`determine_schedule_info` has returned exactly when the message has what the
policy reads, the packets it adds fit, and the link it chooses has a queue with room. -/
theorem scheduling_completes_iff {socketInfos : SocketInfo} {policy : Policy}
    {parameters : PolicyParameter} {bus : LatestBus} {history : List CtlerEvent}
    {state : TxPartCtler}
    (run : Run (TxPartCtler.step socketInfos) (.new policy parameters bus) history state)
    {packet : PacketWithMeta} {message : SchedulingMessage} {held : TxPartCtler}
    (determined : state.determineScheduleInfo packet = (some message, held)) :
    (∃ result, held.getPacketState .binary32 message = .ok result) ↔ state.Completes message := by
  have sound : state.Sound := run.invariant (TxPartCtler.sound_new policy parameters bus)
    fun _ _ _ _ sound taken => sound.step taken
  rcases TxPartCtler.determined_of_eq determined with ⟨rfl, facts⟩
  exact TxPartCtler.getPacketState_returns_iff sound facts

/-- The parameters of a stream whose manifest names none. -/
def PolicyParameter.default : PolicyParameter := ⟨0, 0, 0, 0⟩

/-- The policy of a stream whose manifest names none. -/
def Policy.default : Policy := .hardThreshold

/-- A controller at its start, with the given setting of the monitor. -/
def startedCtler (policy : Policy) (isMon : Bool) : TxPartCtler :=
  .new policy .default ⟨isMon, ⟨0, ∅, ∅⟩⟩

/-- Two packets of a frame between two snapshots, of which the second cannot be sent, and
other parameters after them. -/
def observedFrame : List CtlerOp :=
  [.publish orderedSnapshot, .attempt (framePacket 0 4) .sent,
    .attempt (framePacket 1 4) .wouldBlock, .setPolicyParameters ⟨0, 0, 2, 1⟩,
    .publish { swappedSnapshot with takenAt := 2 }, .attempt (framePacket 2 4) .sent]

/-- The frame's last packet, after the others. -/
theorem scheduling_completes_iff_observed :
    ∃ history state message held,
      Run (TxPartCtler.step bothSockets) freshCtler history state ∧
      history.map Event.op = observedFrame ∧
      state.determineScheduleInfo (framePacket 3 4) = (some message, held) ∧
      message.ac1Info = [1, 50] ∧
      ((∃ result, held.getPacketState .binary32 message = .ok result) ↔
        state.Completes message) := by
  rcases exists_run_of_any (TxPartCtler.step bothSockets) freshCtler observedFrame
    (fun state => !decide state.Uninformed &&
      (state.nextMessage (framePacket 3 4)).ac1Info == [1, 50]) (by decide +kernel) with
    ⟨history, state, run, opsEq, passes⟩
  rw [Bool.and_eq_true, Bool.not_eq_true', decide_eq_false_iff_not, beq_iff_eq] at passes
  have determined := state.determineScheduleInfo_eq (framePacket 3 4)
  rw [if_neg passes.1] at determined
  exact ⟨history, state, _, _, run, opsEq, determined, passes.2,
    scheduling_completes_iff run determined⟩

/-- Scheduling the packet panics. -/
def TxPartCtler.PanicsOn (ctler : TxPartCtler) (packet : PacketWithMeta) : Prop :=
  ∃ message held fault, ctler.determineScheduleInfo packet = (some message, held) ∧
    held.getPacketState .binary32 message = .error fault

theorem TxPartCtler.panicsOn_of_isNone {ctler : TxPartCtler} {packet : PacketWithMeta}
    (informed : ¬ctler.Uninformed)
    (fails : (({ ctler with scheduleMessage := some (ctler.nextMessage packet) } :
      TxPartCtler).getPacketState .binary32 (ctler.nextMessage packet)).toOption.isNone = true) :
    ctler.PanicsOn packet := by
  rcases exists_of_isNone fails with ⟨fault, failed⟩
  refine ⟨_, _, fault, ?_, failed⟩
  rw [determineScheduleInfo_eq, if_neg informed]

/-- One monitored device with a known rate. -/
def loneSnapshot : MACQueuesSnapshot where
  takenAt := 1
  queues := AList.singleton "10.0.0.1" ∅
  link := AList.singleton "10.0.0.1" ⟨some 100⟩

/-- A queue-aware policy without monitoring, and the default policy with a single
monitored device. -/
theorem scheduling_panics :
    (startedCtler .queueAware false).PanicsOn singlePacket ∧
      ((startedCtler .default true).observe loneSnapshot).PanicsOn singlePacket :=
  ⟨TxPartCtler.panicsOn_of_isNone (by decide +kernel) (by decide +kernel),
    TxPartCtler.panicsOn_of_isNone (by decide +kernel) (by decide +kernel)⟩

/-- The channel of a scheduled packet has a socket, and sending it does not panic
for want of one, exactly when the stream has two links or the policy's test is for
the first. -/
theorem link_exists_iff {created : Nat → Bool} (all : ∀ linkId, created linkId = true)
    {links : List Link} (some_link : links ≠ []) {ctler held next : TxPartCtler}
    {packet : PacketWithMeta} {message : SchedulingMessage} {packetType : PacketType}
    (determined : ctler.determineScheduleInfo packet = (some message, held))
    (decided : held.getPacketState .binary32 message = .ok (packetType, next)) :
    let scheduled := packet.setIndicator packetType
    let onExisting := 2 ≤ links.length ∨
      ctler.policy.PrefersFirst message ctler.policyParameters
    (scheduled.channel ∈ dispatch created links ↔ onExisting) ∧
      ∀ outcome, next.send (dispatch created links) scheduled outcome =
        .error (.message ("No socket found for channel " ++ toString scheduled.channel)) ↔
          ¬onExisting := by
  intro scheduled onExisting
  rcases TxPartCtler.determined_of_eq determined with ⟨rfl, facts⟩
  have chosen := ((TxPartCtler.getPacketState_eq_ok rfl).mp decided).1
  have member : scheduled.channel ∈ dispatch created links ↔ onExisting := by
    have positive := List.length_pos_iff.mpr some_link
    rcases Policy.getPacketState_eq_ok.mp chosen with ⟨_, onFirst, tested, rfl⟩
    rw [mem_dispatch all, PacketWithMeta.channel_setIndicator, linkOf_packetTypeFor]
    have prefers := Policy.choice_iff_prefersFirst tested
    cases onFirst with
    | true =>
        rw [if_pos rfl]
        exact iff_of_true positive (.inr (prefers.mp rfl))
    | false =>
        rw [if_neg Bool.false_ne_true]
        have second := mt prefers.mpr Bool.false_ne_true
        exact ⟨.inl, fun existing => existing.resolve_right second⟩
  exact ⟨member, fun outcome => by rw [TxPartCtler.send_eq_noSocket_iff, member]⟩

/-- A decision that passes a test. -/
theorem TxPartCtler.exists_decision (ctler : TxPartCtler) (packet : PacketWithMeta)
    (informed : ¬ctler.Uninformed) (test : PacketType → Bool)
    (passes : (({ ctler with scheduleMessage := some (ctler.nextMessage packet) } :
      TxPartCtler).getPacketState .binary32 (ctler.nextMessage packet)).toOption.any
        (fun result => test result.1) = true) :
    ∃ message held packetType next,
      ctler.determineScheduleInfo packet = (some message, held) ∧
      held.getPacketState .binary32 message = .ok (packetType, next) ∧
      test packetType = true := by
  rcases exists_of_any passes with ⟨⟨packetType, next⟩, decided, tested⟩
  have determined := ctler.determineScheduleInfo_eq packet
  rw [if_neg informed] at determined
  exact ⟨_, _, packetType, next, determined, decided, tested⟩

/-- A controller whose threshold is a tenth. -/
def tenthCtler : TxPartCtler :=
  .new .hardThreshold ⟨.ofRat .binary32 (1 / 10), 0, 0, 0⟩ ⟨false, ⟨0, ∅, ∅⟩⟩

/-- The packet is decided on this link, and the only link of the stream has its channel just
as the test says. -/
def TxPartCtler.DecidedOn (ctler : TxPartCtler) (packet : PacketWithMeta) (link : Nat) : Prop :=
  ∃ message held packetType next,
    ctler.determineScheduleInfo packet = (some message, held) ∧
    held.getPacketState .binary32 message = .ok (packetType, next) ∧
    linkOf packetType = link ∧
    ((packet.setIndicator packetType).channel ∈ dispatch (fun _ => true) [busyLink] ↔
      2 ≤ [busyLink].length ∨ ctler.policy.PrefersFirst message ctler.policyParameters)

/-- The first two of ten packets: a tenth of ten is rounded to one, so the second packet is
not for the stream's only link. -/
theorem link_exists_iff_tenth :
    tenthCtler.DecidedOn (framePacket 0 10) 0 ∧ tenthCtler.DecidedOn (framePacket 1 10) 1 := by
  have decides : ∀ offset ∈ [((0 : UInt16), 0), (1, 1)],
      tenthCtler.DecidedOn (framePacket offset.1 10) offset.2 := by
    have passes : ∀ offset ∈ [((0 : UInt16), 0), (1, 1)],
        ¬tenthCtler.Uninformed ∧
        (({ tenthCtler with scheduleMessage := some (tenthCtler.nextMessage
            (framePacket offset.1 10)) } : TxPartCtler).getPacketState .binary32
            (tenthCtler.nextMessage (framePacket offset.1 10))).toOption.any
          (fun result => linkOf result.1 == offset.2) = true := by
      decide +kernel
    intro offset member
    rcases tenthCtler.exists_decision _ (passes offset member).1 (linkOf · == offset.2)
      (passes offset member).2 with
      ⟨message, held, packetType, next, determined, decided, onLink⟩
    exact ⟨message, held, packetType, next, determined, decided, beq_iff_eq.mp onLink,
      (link_exists_iff (fun _ => rfl) (List.cons_ne_nil _ _) determined decided).1⟩
  exact ⟨decides _ List.mem_cons_self, decides _ (List.mem_cons_of_mem _ List.mem_cons_self)⟩

/-- A stream with a single link and default settings has no socket for its first
packet. -/
theorem default_policy_lacks_link :
    ∃ message held packetType next,
      (startedCtler .default false).determineScheduleInfo singlePacket =
        (some message, held) ∧
      held.getPacketState .binary32 message = .ok (packetType, next) ∧
      (singlePacket.setIndicator packetType).channel ∉ dispatch (fun _ => true) [busyLink] := by
  rcases (startedCtler .default false).exists_decision singlePacket (by decide +kernel)
    (linkOf · == 1) (by decide +kernel) with
    ⟨message, held, packetType, next, determined, decided, second⟩
  refine ⟨message, held, packetType, next, determined, decided, ?_⟩
  rw [PacketWithMeta.channel_setIndicator, beq_iff_eq.mp second, mem_dispatch fun _ => rfl]
  exact Nat.lt_irrefl 1

end StreamReplay
