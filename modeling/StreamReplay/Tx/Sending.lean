import StreamReplay.Core.Wire
import StreamReplay.Foundation.Run
import StreamReplay.Tx.Decision

/-!
# Scheduling and sending

The callback that `process_queue` hands to the throttler: a packet is scheduled by
the controller, its channel looked up among the sockets of the stream, and its
datagram sent.  A send that fails leaves a blocked signal behind.

Only the source thread schedules and sends; the monitor publishes snapshots and
IPC replaces the policy parameters.  The send touches the blocked signals alone,
which neither of them does, so a call of the callback is one step here.
-/

namespace StreamReplay

open Checked FallibleRun Floating SchedulingMessage

/-! ## Sockets -/

/-- The sockets of a stream by channel, each with its receiving address. -/
abbrev SocketInfo := Finmap fun _ : Nat => String

/-- The loop of `dispatch` over the links from number `linkId` on; it ends at the
first socket that cannot be created. -/
def dispatchFrom (created : Nat → Bool) : Nat → List Link → SocketInfo → SocketInfo
  | _, [], socketInfos => socketInfos
  | linkId, link :: links, socketInfos =>
      if created linkId then
        dispatchFrom created (linkId + 1) links (socketInfos.insert linkId link.rxIpaddr)
      else socketInfos

/-- `dispatch`, where `created` says for which links `create_udp_socket` succeeds. -/
def dispatch (created : Nat → Bool) (links : List Link) : SocketInfo :=
  dispatchFrom created 0 links ∅

theorem mem_dispatchFrom {created : Nat → Bool} (all : ∀ linkId, created linkId = true)
    {links : List Link} {linkId : Nat} {socketInfos : SocketInfo} {channel : Nat} :
    channel ∈ dispatchFrom created linkId links socketInfos ↔
      channel ∈ socketInfos ∨ (linkId ≤ channel ∧ channel < linkId + links.length) := by
  induction links generalizing linkId socketInfos with
  | nil =>
      simp only [dispatchFrom, List.length_nil]
      constructor
      · exact .inl
      · rintro (member | ⟨le, lt⟩)
        · exact member
        · omega
  | cons link links ih =>
      rw [dispatchFrom, if_pos (all linkId), ih, Finmap.mem_insert, List.length_cons]
      constructor
      · rintro ((rfl | member) | ⟨le, lt⟩)
        · exact .inr ⟨Nat.le_refl _, by omega⟩
        · exact .inl member
        · exact .inr ⟨by omega, by omega⟩
      · rintro (member | ⟨le, lt⟩)
        · exact .inl (.inr member)
        · by_cases same : channel = linkId
          · exact .inl (.inl same)
          · exact .inr ⟨by omega, by omega⟩

/-- With all sockets created, the channels are the numbers of the links. -/
theorem mem_dispatch {created : Nat → Bool} (all : ∀ linkId, created linkId = true)
    {links : List Link} {channel : Nat} :
    channel ∈ dispatch created links ↔ channel < links.length := by
  rw [dispatch, mem_dispatchFrom all]
  simp [Finmap.notMem_empty]

/-- The sockets of two links. -/
def bothSockets : SocketInfo := dispatch (fun _ => true) [busyLink, idleLink]

/-! ## One packet -/

/-- What `send_to` returns. -/
inductive SendOutcome where
  | sent
  | wouldBlock
  | failed
  deriving DecidableEq, Repr

namespace TxPartCtler

/-- The scheduling part: `determine_schedule_info`, `get_packet_state` and
`set_indicator`.  Without information the packet is left as it is. -/
def schedule (round : Rounding) (ctler : TxPartCtler) (packet : PacketWithMeta) :
    Except Panic (Option PacketWithMeta × TxPartCtler) :=
  match ctler.determineScheduleInfo packet with
  | (none, ctler) => .ok (none, ctler)
  | (some params, ctler) => do
      let (packetType, ctler) ← ctler.getPacketState round params
      return (some (packet.setIndicator packetType), ctler)

/-- Note that a channel is blocked. -/
def block (ctler : TxPartCtler) (channel : Nat) : Except Panic TxPartCtler := do
  let _ ← index ctler.blockedSignals channel
  return { ctler with blockedSignals := ctler.blockedSignals.set channel true }

/-- The sending part: the socket of the packet's channel, the front of its memory
image, and the outcome of `send_to`. -/
def send (ctler : TxPartCtler) (socketInfos : SocketInfo) (packet : PacketWithMeta)
    (outcome : SendOutcome) : Except Panic (Bool × TxPartCtler) :=
  match socketInfos.lookup packet.channel with
  | none => .error (.message ("No socket found for channel " ++ toString packet.channel))
  | some _ => do
      let length := appHeaderLength + packet.packet.length.toNat
      let _ ← slice packet.packet.toU8Slice 0 length
      match outcome with
      | .sent => return (true, ctler)
      | .wouldBlock => do
          let ctler ← ctler.block packet.channel
          return (false, ctler)
      | .failed => do
          let ctler ← ctler.block packet.channel
          return (false, ctler)

end TxPartCtler

/-- An attempt at sending a packet: the packet as it was scheduled, and whether it
was sent.  The callback returns true exactly when it was. -/
structure Attempt where
  packet : PacketWithMeta
  sent : Bool

/-- What the source thread, IPC and the monitor do to a controller. -/
inductive CtlerOp where
  | attempt (packet : PacketWithMeta) (outcome : SendOutcome)
  | setPolicyParameters (parameters : PolicyParameter)
  | publish (snapshot : MACQueuesSnapshot)

/-- A controller with the sockets of its stream as a transition system. -/
def TxPartCtler.step (socketInfos : SocketInfo) :
    FallibleRun.Step TxPartCtler CtlerOp (Option Attempt) Panic
  | ctler, .attempt packet outcome => do
      let (scheduled, ctler) ← ctler.schedule .binary32 packet
      match scheduled with
      | none => return (none, ctler)
      | some packet =>
          let (sent, ctler) ← ctler.send socketInfos packet outcome
          return (some ⟨packet, sent⟩, ctler)
  | ctler, .setPolicyParameters parameters =>
      .ok (none, { ctler with policyParameters := parameters })
  | ctler, .publish snapshot => .ok (none, ctler.observe snapshot)

abbrev CtlerEvent := Event TxPartCtler CtlerOp (Option Attempt)

/-! ## What a step does -/

/-- The controller after a scheduling decision: with monitoring on, the message
counts the packet on its link. -/
def TxPartCtler.decided (ctler : TxPartCtler) (message : SchedulingMessage)
    (packetType : PacketType) : TxPartCtler :=
  let link := linkOf packetType
  let counted := { message with
    ac1Info := message.ac1Info.set link (message.ac1Info.getD link 0 + 1) }
  { ctler with
    scheduleMessage := some (if ctler.macInfoBus.isMon then counted else message) }

namespace TxPartCtler

variable {round : Rounding} {ctler next : TxPartCtler} {packet : PacketWithMeta}

/-- A scheduling decision, with the message it was made on. -/
structure Decides (round : Rounding) (ctler : TxPartCtler) (packet : PacketWithMeta)
    (message : SchedulingMessage) (packetType : PacketType) : Prop where
  determined : ctler.Determined packet message
  policy : ctler.policy.getPacketState round message ctler.policyParameters = .ok packetType
  counts : ctler.macInfoBus.isMon = true → linkOf packetType < message.ac1Info.length

/-- Scheduling a packet fails to find information, or decides. -/
theorem schedule_cases {scheduled : Option PacketWithMeta}
    (returned : ctler.schedule round packet = .ok (scheduled, next)) :
    (scheduled = none ∧ ctler.Uninformed ∧ next = ctler) ∨
      ∃ message packetType, ctler.Decides round packet message packetType ∧
        scheduled = some (packet.setIndicator packetType) ∧
        next = ctler.decided message packetType := by
  unfold schedule at returned
  rcases determined : ctler.determineScheduleInfo packet with ⟨info, held⟩
  rw [determined] at returned
  cases info with
  | none =>
      left
      cases returned
      exact ⟨rfl, determineScheduleInfo_eq_none.mp determined⟩
  | some message =>
      right
      rcases determined_of_eq determined with ⟨rfl, facts⟩
      rcases bind_eq_ok.mp returned with ⟨⟨packetType, after⟩, decided, equal⟩
      cases equal
      rcases (getPacketState_eq_ok rfl).mp decided with ⟨policy, counted⟩
      cases mon : ctler.macInfoBus.isMon with
      | true =>
          rw [if_pos mon] at counted
          rcases counted with ⟨_, updated, rfl⟩
          rcases updateSendedCounter_eq_ok.mp updated with ⟨sended, found, _, rfl⟩
          have below := (List.getElem?_eq_some_iff.mp found).1
          refine ⟨message, packetType, ⟨facts, policy, fun _ => below⟩, rfl, ?_⟩
          simp only [TxPartCtler.decided, mon, if_true, List.getD_eq_getElem?_getD, found,
            Option.getD_some]
      | false =>
          rw [if_neg (by simp [mon])] at counted
          refine ⟨message, packetType, ⟨facts, policy, by simp [mon]⟩, rfl, ?_⟩
          simp only [counted, TxPartCtler.decided, mon, Bool.false_eq_true, if_false]

theorem eq_of_block {channel : Nat} (blocked : ctler.block channel = .ok next) :
    next = { ctler with blockedSignals := ctler.blockedSignals.set channel true } := by
  rcases bind_eq_ok.mp blocked with ⟨_, _, equal⟩
  cases equal
  rfl

/-- What a send does: it succeeds and leaves the controller alone, or it fails and
blocks the packet's channel. -/
theorem send_cases {socketInfos : SocketInfo} {outcome : SendOutcome} {sent : Bool}
    (returned : ctler.send socketInfos packet outcome = .ok (sent, next)) :
    packet.channel ∈ socketInfos ∧ (sent = true ↔ outcome = .sent) ∧
      next = { ctler with blockedSignals :=
        if sent then ctler.blockedSignals
        else ctler.blockedSignals.set packet.channel true } := by
  unfold send at returned
  cases found : socketInfos.lookup packet.channel with
  | none => simp [found] at returned
  | some address =>
      rw [found] at returned
      rcases bind_eq_ok.mp returned with ⟨_, _, rest⟩
      refine ⟨Finmap.mem_of_lookup_eq_some found, ?_⟩
      cases outcome with
      | sent =>
          cases rest
          exact ⟨by simp, rfl⟩
      | wouldBlock =>
          rcases bind_eq_ok.mp rest with ⟨blocked, noted, equal⟩
          cases equal
          exact ⟨by simp, eq_of_block noted⟩
      | failed =>
          rcases bind_eq_ok.mp rest with ⟨blocked, noted, equal⟩
          cases equal
          exact ⟨by simp, eq_of_block noted⟩

/-- An attempt, in terms of the decision and the send. -/
structure Attempts (ctler : TxPartCtler) (socketInfos : SocketInfo)
    (packet : PacketWithMeta) (outcome : SendOutcome) (attempt : Attempt)
    (next : TxPartCtler) (message : SchedulingMessage) (packetType : PacketType) : Prop where
  decides : ctler.Decides .binary32 packet message packetType
  packet_eq : attempt.packet = packet.setIndicator packetType
  channel_mem : linkOf packetType ∈ socketInfos
  sent_iff : attempt.sent = true ↔ outcome = .sent
  next_eq : next = { ctler.decided message packetType with
    blockedSignals :=
      if attempt.sent then ctler.blockedSignals
      else ctler.blockedSignals.set (linkOf packetType) true }

/-- One step of the callback: nothing happens without information, otherwise the
packet is attempted. -/
theorem step_attempt_cases {socketInfos : SocketInfo} {outcome : SendOutcome}
    {out : Option Attempt}
    (taken : step socketInfos ctler (.attempt packet outcome) = .ok (out, next)) :
    (out = none ∧ ctler.Uninformed ∧ next = ctler) ∨
      ∃ attempt message packetType, out = some attempt ∧
        ctler.Attempts socketInfos packet outcome attempt next message packetType := by
  rcases bind_eq_ok.mp taken with ⟨⟨scheduled, after⟩, returned, rest⟩
  rcases schedule_cases returned with
    ⟨rfl, uninformed, rfl⟩ | ⟨message, packetType, decides, rfl, rfl⟩
  · left
    cases rest
    exact ⟨rfl, uninformed, rfl⟩
  · right
    rcases bind_eq_ok.mp rest with ⟨⟨sent, last⟩, delivered, equal⟩
    cases equal
    rcases send_cases delivered with ⟨member, sentIff, rfl⟩
    rw [PacketWithMeta.channel_setIndicator] at member
    refine ⟨_, message, packetType, rfl, decides, rfl, member, sentIff, ?_⟩
    rw [PacketWithMeta.channel_setIndicator]
    rfl

end TxPartCtler

end StreamReplay
