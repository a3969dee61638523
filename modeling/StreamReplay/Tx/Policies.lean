import StreamReplay.Core.Packet
import StreamReplay.Foundation.Floating
import StreamReplay.Tx.Throttle

/-!
# Scheduling policies

The policies of `tx/src/policies` choose a link for each packet from a message
that holds the queue lengths and rates of both links by position.  The arithmetic on
parameters and rates is that of `f32`: `round` is `binary32` in the program, and `exact`
where `f32` is to be read as the rationals.
-/

namespace StreamReplay

open Checked Floating

inductive Policy where
  | queueAware
  | simpleQueueAware
  | conditionalRR
  | hardThreshold
  deriving DecidableEq, Repr

structure PolicyParameter where
  theta1 : Number
  theta2 : Number
  theta3 : Number
  theta4 : Number

structure SchedulingMessage where
  seq : Nat
  offset : Nat
  num : Nat
  arrivalTime : ℚ
  currentTime : Time
  blockedSignals : List Bool
  ac1Info : List Nat
  mcsValues : Option (List Number)

namespace SchedulingMessage

def new (packet : PacketWithMeta) (currentTime : Time) (blockedSignals : List Bool)
    (ac1Info : List Nat) (mcsValues : Option (List Number)) : SchedulingMessage where
  seq := packet.packet.seq.toNat
  offset := packet.packet.offset.toNat
  num := packet.num
  arrivalTime := packet.arrivalTime
  currentTime
  blockedSignals
  ac1Info
  mcsValues

def update (message : SchedulingMessage) (packet : PacketWithMeta)
    (blockedSignals : List Bool) : SchedulingMessage :=
  { message with
    seq := packet.packet.seq.toNat
    offset := packet.packet.offset.toNat
    num := packet.num
    arrivalTime := packet.arrivalTime
    blockedSignals }

/-- The position of a packet type's link. -/
def linkOf : PacketType → Nat
  | .firstLink | .lastPacketInFirstLink => 0
  | .secondLink | .lastPacketInSecondLink => 1

def updateSendedCounter (message : SchedulingMessage) (packetType : PacketType) :
    Except Panic SchedulingMessage := do
  let sended ← index message.ac1Info (linkOf packetType)
  let counted ← add 64 sended 1
  return { message with ac1Info := message.ac1Info.set (linkOf packetType) counted }

end SchedulingMessage

/-- The packet type for a link, which all policies spell out in the same way. -/
def packetTypeFor (onFirst isLast : Bool) : PacketType :=
  match onFirst, isLast with
  | true, true => .lastPacketInFirstLink
  | true, false => .firstLink
  | false, true => .lastPacketInSecondLink
  | false, false => .secondLink

/-- The comparison that two policies make: some packets are added to both queues, and the
loads of the links compared. -/
def compareLoads (packets : Nat) (load1 load2 : Nat → Number → Number) (ac1Info : List Nat)
    (mcsValues : List Number) : Except Panic Bool := do
  let queue1 ← index ac1Info 0
  let packets1 ← add 64 packets queue1
  let mcs1 ← index mcsValues 0
  let queue2 ← index ac1Info 1
  let packets2 ← add 64 packets queue2
  let mcs2 ← index mcsValues 1
  return (load1 packets1 mcs1).lt (load2 packets2 mcs2)

section Rounded

variable (round : Rounding)

namespace QueueAware

/-- The number of packets over the weighted rate of their link. -/
def load (theta : Number) (packets : Nat) (mcs : Number) : Number :=
  .div round (.ofNat round packets)
    (.add round (.mul round theta mcs) (.ofRat round (1 / 100)))

def parameterizedFunction (ac1Info : List Nat) (policyParameters : PolicyParameter)
    (mcsValues : List Number) : Except Panic Bool :=
  compareLoads 1 (load round policyParameters.theta3) (load round policyParameters.theta4)
    ac1Info mcsValues

def getPacketState (params : SchedulingMessage) (policyParameters : PolicyParameter) :
    Except Panic PacketType := do
  let mcsValues ← unwrap params.mcsValues
  let last ← sub params.num 1
  let onFirst ← parameterizedFunction round params.ac1Info policyParameters mcsValues
  return packetTypeFor onFirst (params.offset == last)

end QueueAware

namespace SimpleQueueAware

def load (theta : Number) (packets : Nat) (mcs : Number) : Number :=
  .div round (.ofNat round packets) (.mul round theta mcs)

def parameterizedFunction (leftPkts : Nat) (ac1Info : List Nat)
    (policyParameters : PolicyParameter) (mcsValues : List Number) : Except Panic Bool :=
  compareLoads leftPkts (load round policyParameters.theta3)
    (load round policyParameters.theta4) ac1Info mcsValues

def getPacketState (params : SchedulingMessage) (policyParameters : PolicyParameter) :
    Except Panic PacketType := do
  let mcsValues ← unwrap params.mcsValues
  let last ← sub params.num 1
  let leftPkts ← sub params.num params.offset
  let onFirst ← parameterizedFunction round leftPkts params.ac1Info policyParameters mcsValues
  return packetTypeFor onFirst (params.offset == last)

end SimpleQueueAware

namespace ConditionalRR

/-- The second link is used when it is the only one not blocked. -/
def getPacketState (params : SchedulingMessage) (_policyParameters : PolicyParameter) :
    Except Panic PacketType := do
  let last ← sub params.num 1
  let blocked ← index params.blockedSignals 0
  if blocked then
    let alsoBlocked ← index params.blockedSignals 1
    return packetTypeFor alsoBlocked (params.offset == last)
  else return packetTypeFor true (params.offset == last)

end ConditionalRR

namespace HardThreshold

/-- The offset has reached its share of the frame. -/
def beyond (offset num : Nat) (theta : Number) : Bool :=
  (Number.mul round theta (.ofNat round num)).le (.ofNat round offset)

def getPacketState (params : SchedulingMessage) (policyParameters : PolicyParameter) :
    Except Panic PacketType := do
  let last ← sub params.num 1
  let second := beyond round params.offset params.num policyParameters.theta1
  return packetTypeFor (!second) (params.offset == last)

end HardThreshold

def Policy.getPacketState (policy : Policy) (params : SchedulingMessage)
    (policyParameters : PolicyParameter) : Except Panic PacketType :=
  match policy with
  | .queueAware => QueueAware.getPacketState round params policyParameters
  | .conditionalRR => ConditionalRR.getPacketState params policyParameters
  | .hardThreshold => HardThreshold.getPacketState round params policyParameters
  | .simpleQueueAware => SimpleQueueAware.getPacketState round params policyParameters

end Rounded

end StreamReplay
