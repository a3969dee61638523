import StreamReplay.Foundation.Enumeration
import StreamReplay.Tx.Policies
import Mathlib.Data.Finmap

/-!
# Scheduling messages

`TxPartCtler` builds a message from the latest snapshot of the MAC queues.  The
snapshot's tables are keyed by the links' addresses, the message's lists are read
by link number, and the controller fills them in enumeration order.
-/

namespace StreamReplay

open Checked Enumeration Floating

/-- The queue lengths of one device, by access category. -/
abbrev MACQueueInfo := Finmap fun _ : UInt8 => Nat

structure LinkInfo where
  txMbitS : Option Number

structure MACQueuesSnapshot where
  takenAt : Time
  queues : Table String MACQueueInfo
  link : Table String LinkInfo

/-- The bus and the snapshot published last. -/
structure LatestBus where
  isMon : Bool
  latest : MACQueuesSnapshot

def LatestBus.publish (bus : LatestBus) (snapshot : MACQueuesSnapshot) : LatestBus :=
  { bus with latest := snapshot }

structure Link where
  txIpaddr : String
  rxIpaddr : String

structure TxPartCtler where
  policy : Policy
  blockedSignals : List Bool
  policyParameters : PolicyParameter
  macInfoBus : LatestBus
  scheduleMessage : Option SchedulingMessage

/-- The queue length of access category 1, 0 where it is not listed. -/
def MACQueueInfo.ac1 (info : MACQueueInfo) : Nat := (info.lookup 1).getD 0

namespace TxPartCtler

def new (policy : Policy) (policyParameters : PolicyParameter) (macInfoBus : LatestBus) :
    TxPartCtler where
  policy
  blockedSignals := [false, false]
  policyParameters
  macInfoBus
  scheduleMessage := none

def getPacketState (round : Rounding) (ctler : TxPartCtler) (params : SchedulingMessage) :
    Except Panic (PacketType × TxPartCtler) := do
  let packetType ← ctler.policy.getPacketState round params ctler.policyParameters
  match ctler.scheduleMessage with
  | some message =>
      if ctler.macInfoBus.isMon then
        let message ← message.updateSendedCounter packetType
        return (packetType, { ctler with scheduleMessage := some message })
      else return (packetType, ctler)
  | none => return (packetType, ctler)

/-- The message that a new snapshot gives rise to. -/
def buildMessage (ctler : TxPartCtler) (packet : PacketWithMeta) : SchedulingMessage :=
  let macInfo := ctler.macInfoBus.latest
  .new packet macInfo.takenAt ctler.blockedSignals
    ((values macInfo.queues).map MACQueueInfo.ac1)
    ((values macInfo.link).mapM LinkInfo.txMbitS)

def determineScheduleInfo (ctler : TxPartCtler) (packet : PacketWithMeta) :
    Option SchedulingMessage × TxPartCtler :=
  let macInfo := ctler.macInfoBus.latest
  if ctler.macInfoBus.isMon && (macInfo.queues.entries.isEmpty || macInfo.link.entries.isEmpty)
  then (none, ctler)
  else
    let message :=
      match ctler.scheduleMessage with
      | some message =>
          if message.currentTime = macInfo.takenAt then
            message.update packet ctler.blockedSignals
          else ctler.buildMessage packet
      | none => ctler.buildMessage packet
    (some message, { ctler with scheduleMessage := some message })

end TxPartCtler

namespace MACQueuesSnapshot

/-- The snapshot measures the two links and nothing else. -/
structure Covers (snapshot : MACQueuesSnapshot) (first second : Link) : Prop where
  queues : KeysAre snapshot.queues first.txIpaddr second.txIpaddr
  link : KeysAre snapshot.link first.txIpaddr second.txIpaddr

/-- The queue length of an address. -/
def queueLength (snapshot : MACQueuesSnapshot) (link : Link) : Option Nat :=
  (snapshot.queues.lookup link.txIpaddr).map MACQueueInfo.ac1

/-- The rate of an address, if it is known. -/
def rate (snapshot : MACQueuesSnapshot) (link : Link) : Option Number :=
  (snapshot.link.lookup link.txIpaddr).bind LinkInfo.txMbitS

/-- Two snapshots with the same contents, enumerated in any order. -/
structure SameContents (left right : MACQueuesSnapshot) : Prop where
  takenAt : left.takenAt = right.takenAt
  queues : left.queues.entries.Perm right.queues.entries
  link : left.link.entries.Perm right.link.entries

/-- The condition under which the enumeration gets the links right: their
addresses differ; the queues are enumerated link 0 first or are equally long; and
the rates are too, with both known, or are equal or both unknown. -/
structure InOrder (snapshot : MACQueuesSnapshot) (first second : Link) : Prop where
  distinct : first.txIpaddr ≠ second.txIpaddr
  queues : snapshot.queues.keys = [first.txIpaddr, second.txIpaddr] ∨
    snapshot.queueLength first = snapshot.queueLength second
  rates : snapshot.rate first = snapshot.rate second ∨
    ((snapshot.rate first).isSome = true ∧ (snapshot.rate second).isSome = true ∧
      snapshot.link.keys = [first.txIpaddr, second.txIpaddr])

theorem Covers.of_sameContents {snapshot other : MACQueuesSnapshot} {first second : Link}
    (covers : snapshot.Covers first second) (same : snapshot.SameContents other) :
    other.Covers first second where
  queues key := (AList.mem_of_perm same.queues).symm.trans (covers.queues key)
  link key := (AList.mem_of_perm same.link).symm.trans (covers.link key)

end MACQueuesSnapshot

/-- The message has the measurements of each link at the link's position. -/
structure SchedulingMessage.Attached (message : SchedulingMessage)
    (snapshot : MACQueuesSnapshot) (first second : Link) : Prop where
  queue_first : message.ac1Info[0]? = snapshot.queueLength first
  queue_second : message.ac1Info[1]? = snapshot.queueLength second
  rate_first : message.mcsValues.bind (·[0]?) = snapshot.rate first
  rate_second : message.mcsValues.bind (·[1]?) = snapshot.rate second

/-! ## Building a message -/

namespace TxPartCtler

variable {ctler : TxPartCtler} {packet : PacketWithMeta} {snapshot : MACQueuesSnapshot}
  {first second : Link}

/-- The controller after the monitor has published a snapshot. -/
def observe (ctler : TxPartCtler) (snapshot : MACQueuesSnapshot) : TxPartCtler :=
  { ctler with macInfoBus := ctler.macInfoBus.publish snapshot }

/-- The controller holds no message for this snapshot yet. -/
def NeedsMessage (ctler : TxPartCtler) (snapshot : MACQueuesSnapshot) : Prop :=
  ∀ message, ctler.scheduleMessage = some message → message.currentTime ≠ snapshot.takenAt

theorem entries_isEmpty_eq_false {ν : Type} {table : Table String ν} {left right : String}
    (keys : KeysAre table left right) : table.entries.isEmpty = false := by
  have member := AList.mem_keys.mp ((keys left).mpr (.inl rfl))
  rw [List.isEmpty_eq_false_iff]
  intro empty
  simp [AList.keys, empty] at member

theorem determineScheduleInfo_observe (covers : snapshot.Covers first second)
    (needs : ctler.NeedsMessage snapshot) :
    ((ctler.observe snapshot).determineScheduleInfo packet).1 =
      some ((ctler.observe snapshot).buildMessage packet) := by
  have queues := entries_isEmpty_eq_false covers.queues
  have link := entries_isEmpty_eq_false covers.link
  unfold determineScheduleInfo
  simp only [observe, LatestBus.publish, queues, link, Bool.or_self, Bool.and_false,
    Bool.false_eq_true, if_false, Option.some.injEq]
  split
  next message held => exact if_neg (needs message held)
  next => rfl

theorem attached_buildMessage_iff (covers : snapshot.Covers first second) :
    ((ctler.observe snapshot).buildMessage packet).Attached snapshot first second ↔
      snapshot.InOrder first second := by
  have queues := positioned_values_iff covers.queues MACQueueInfo.ac1
  constructor
  · intro attached
    rcases queues.mp ⟨attached.queue_first, attached.queue_second⟩ with ⟨distinct, queueOrder⟩
    have rates := positioned_mapM_values_iff covers.link distinct LinkInfo.txMbitS
    exact ⟨distinct, queueOrder, rates.mp ⟨attached.rate_first, attached.rate_second⟩⟩
  · intro inOrder
    rcases queues.mpr ⟨inOrder.distinct, inOrder.queues⟩ with ⟨queueFirst, queueSecond⟩
    obtain ⟨rateFirst, rateSecond⟩ :=
      (positioned_mapM_values_iff covers.link inOrder.distinct LinkInfo.txMbitS).mpr
        inOrder.rates
    exact ⟨queueFirst, queueSecond, rateFirst, rateSecond⟩

/-- In order, the message is a function of the snapshot's contents. -/
theorem buildMessage_eq_of_sameContents {other : MACQueuesSnapshot}
    (same : snapshot.SameContents other) (covers : snapshot.Covers first second)
    (inOrder : snapshot.InOrder first second) (otherInOrder : other.InOrder first second) :
    (ctler.observe other).buildMessage packet =
      (ctler.observe snapshot).buildMessage packet := by
  have otherCovers := covers.of_sameContents same
  have queues : (values other.queues).map MACQueueInfo.ac1 =
      (values snapshot.queues).map MACQueueInfo.ac1 := by
    apply Option.some.inj
    rw [map_values_eq covers.queues inOrder.distinct inOrder.queues,
      map_values_eq otherCovers.queues inOrder.distinct otherInOrder.queues,
      AList.perm_lookup same.queues, AList.perm_lookup same.queues]
  have rates : (values other.link).mapM LinkInfo.txMbitS =
      (values snapshot.link).mapM LinkInfo.txMbitS := by
    rw [mapM_values_eq covers.link inOrder.distinct
        (inOrder.rates.imp_right fun known => known.2.2),
      mapM_values_eq otherCovers.link inOrder.distinct
        (otherInOrder.rates.imp_right fun known => known.2.2),
      AList.perm_lookup same.link, AList.perm_lookup same.link]
  simp only [buildMessage, observe, LatestBus.publish, queues, rates, same.takenAt]

end TxPartCtler

/-- The message built from a snapshot has each link's measurements at the link's
position exactly when the snapshot is enumerated in order; and two enumerations
in order of the same contents make every policy choose the same link. -/
theorem measurements_attached_iff {ctler : TxPartCtler} {snapshot : MACQueuesSnapshot}
    {first second : Link} (covers : snapshot.Covers first second)
    (needs : ctler.NeedsMessage snapshot) (packet : PacketWithMeta) :
    ∃ message, ((ctler.observe snapshot).determineScheduleInfo packet).1 = some message ∧
      (message.Attached snapshot first second ↔ snapshot.InOrder first second) ∧
      ∀ other, snapshot.SameContents other → snapshot.InOrder first second →
        other.InOrder first second →
        ∃ otherMessage,
          ((ctler.observe other).determineScheduleInfo packet).1 = some otherMessage ∧
          ∀ (round : Rounding) (policy : Policy) (parameters : PolicyParameter),
            policy.getPacketState round otherMessage parameters =
              policy.getPacketState round message parameters := by
  refine ⟨_, TxPartCtler.determineScheduleInfo_observe covers needs,
    TxPartCtler.attached_buildMessage_iff covers, ?_⟩
  intro other same inOrder otherInOrder
  have otherCovers := covers.of_sameContents same
  have otherNeeds : ctler.NeedsMessage other := by
    intro message held
    rw [← same.takenAt]
    exact needs message held
  refine ⟨_, TxPartCtler.determineScheduleInfo_observe otherCovers otherNeeds, ?_⟩
  rw [TxPartCtler.buildMessage_eq_of_sameContents same covers inOrder otherInOrder]
  exact fun _ _ _ => rfl

/-! ## Two enumerations of one snapshot -/

/-- Two links of which the first has a queue and the second has none. -/
def busyLink : Link := ⟨"10.0.0.1", "10.0.1.1"⟩

def idleLink : Link := ⟨"10.0.0.2", "10.0.1.2"⟩

theorem busy_ne_idle : busyLink.txIpaddr ≠ idleLink.txIpaddr := by decide

def orderedSnapshot : MACQueuesSnapshot where
  takenAt := 1
  queues := pair busy_ne_idle (Finmap.singleton 1 50) ∅
  link := pair busy_ne_idle ⟨some 100⟩ ⟨some 100⟩

def swappedSnapshot : MACQueuesSnapshot :=
  { orderedSnapshot with queues := pair busy_ne_idle.symm ∅ (Finmap.singleton 1 50) }

def unitParameters : PolicyParameter := ⟨1, 1, 1, 1⟩

def freshCtler : TxPartCtler :=
  .new .queueAware unitParameters ⟨true, ⟨0, ∅, ∅⟩⟩

def singlePacket : PacketWithMeta := { PacketWithMeta.new 0 with num := 1 }

/-- A packet of a frame. -/
def framePacket (offset : UInt16) (num : Nat) : PacketWithMeta :=
  let packet := PacketWithMeta.new 0
  { packet with packet := { packet.packet with offset }, num }

theorem orderedSnapshot_covers : orderedSnapshot.Covers busyLink idleLink :=
  ⟨keysAre_pair busy_ne_idle _ _, keysAre_pair busy_ne_idle _ _⟩

theorem measurements_attached_iff_ordered :
    ∃ message,
      ((freshCtler.observe orderedSnapshot).determineScheduleInfo singlePacket).1 =
        some message ∧
      (message.Attached orderedSnapshot busyLink idleLink ↔
        orderedSnapshot.InOrder busyLink idleLink) := by
  have needs : freshCtler.NeedsMessage orderedSnapshot := by
    intro message held
    cases held
  obtain ⟨message, built, attachedIff, _⟩ :=
    measurements_attached_iff orderedSnapshot_covers needs singlePacket
  exact ⟨message, built, attachedIff⟩

theorem swapped_enumeration_swaps_links :
    orderedSnapshot.SameContents swappedSnapshot ∧
      orderedSnapshot.Covers busyLink idleLink ∧ swappedSnapshot.Covers busyLink idleLink ∧
      ∃ message swappedMessage,
        ((freshCtler.observe orderedSnapshot).determineScheduleInfo singlePacket).1 =
          some message ∧
        ((freshCtler.observe swappedSnapshot).determineScheduleInfo singlePacket).1 =
          some swappedMessage ∧
        message.Attached orderedSnapshot busyLink idleLink ∧
        ¬swappedMessage.Attached swappedSnapshot busyLink idleLink ∧
        ∀ round ∈ [Rounding.exact, .binary32],
          ∀ policy ∈ [Policy.queueAware, .simpleQueueAware],
            policy.getPacketState round message unitParameters =
              .ok .lastPacketInSecondLink ∧
            policy.getPacketState round swappedMessage unitParameters =
              .ok .lastPacketInFirstLink := by
  have same : orderedSnapshot.SameContents swappedSnapshot :=
    ⟨rfl, pair_perm_swap busy_ne_idle _ _, .refl _⟩
  have covers := orderedSnapshot_covers
  have needs : ∀ snapshot, freshCtler.NeedsMessage snapshot := by
    intro snapshot message held
    cases held
  refine ⟨same, covers, covers.of_sameContents same, _, _,
    TxPartCtler.determineScheduleInfo_observe covers (needs _),
    TxPartCtler.determineScheduleInfo_observe (covers.of_sameContents same) (needs _),
    ?_, ?_, ?_⟩
  · refine TxPartCtler.attached_buildMessage_iff covers |>.mpr ⟨busy_ne_idle, .inl rfl, ?_⟩
    exact .inl rfl
  · rw [TxPartCtler.attached_buildMessage_iff (covers.of_sameContents same)]
    intro inOrder
    exact absurd inOrder.queues (by decide +kernel)
  · decide +kernel

end StreamReplay
