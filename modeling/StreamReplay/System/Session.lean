import StreamReplay.Foundation.Guarded
import StreamReplay.Rx.Forwarding
import StreamReplay.System.Provenance
import StreamReplay.Tx.Outage

/-!
# A session

A source, its receiver and the network between them.  The network delivers what the
sockets took, in any order, with losses and repetitions, and the same holds for the
acknowledgements that come back to the pong thread.  The control channel and the
statistics poll come in at any point.

A thread that panics takes no more steps and leaves the lock that it holds poisoned; the
others go on.
-/

namespace StreamReplay

open Checked FallibleRun Guarded

/-- What a session is started with; the receiver listens at the port of the stream. -/
structure Setup where
  socketInfos : SocketInfo
  args : Args
  /-- The value of the eight bytes of an `f64`. -/
  seconds : List UInt8 → ℚ

structure Session where
  sender : Sender
  receiver : Mutex RecvState
  pongs : List Pong
  rtt : Mutex (RttRecords rttSlots)

/-- What happens in a session.  A datagram or an acknowledgement is delivered by its
position among those that were sent. -/
inductive SessionOp where
  | sender (op : SenderOp)
  | deliver (position : Nat) (env : RecvEnv)
  | pong (position : Nat) (time : ℚ)
  | poll (now : ℚ)

/-- `recv_from` cuts a datagram off at the size of the buffer. -/
def PacketStruct.received (sent : PacketStruct) (env : RecvEnv) : Received where
  bytes := sent.datagram.take recvBufferSize
  short := List.length_take_le ..
  env

namespace Session

def start (setup : Setup) (throttle : ℚ) (windowSize : Nat) (ctler : TxPartCtler)
    (targetRtt : ℚ) : Session where
  sender := .new setup.args.port throttle windowSize ctler
  receiver := .new .start
  pongs := []
  rtt := .new (.new rttSlots targetRtt)

/-- The report of an arrival, which passes over a poisoned lock. -/
def reported (session : Session) : SenderOp → Mutex (RttRecords rttSlots)
  | .register time =>
      if session.sender.phase = .queued then
        session.rtt.modify fun records =>
          records.updateArrival session.sender.source.template.seq.toNat time
      else session.rtt
  | _ => session.rtt

/-- A datagram reaches the receive loop, if that is still running. -/
def deliver (setup : Setup) (session : Session) (sent : PacketStruct) (env : RecvEnv) :
    Session :=
  if session.receiver.poisoned then session
  else
    let received := sent.received env
    { session with
      receiver := session.receiver.run fun state => recvStep setup.args state received
      pongs := session.pongs ++
        match acknowledge setup.args session.receiver.value received with
        | .ok (some ack) => [ack]
        | _ => [] }

/-- An acknowledgement reaches the pong thread. -/
def answer (setup : Setup) (session : Session) (pong : Pong) (time : ℚ) : Session :=
  { session with
    rtt := session.rtt.run fun records =>
      records.update pong.bytes.seq.toNat time (setup.seconds pong.bytes.deltaBytes) }

/-- What was not sent is not delivered. -/
def apply (setup : Setup) (session : Session) : SessionOp → Session
  | .sender op =>
      { session with
        sender := session.sender.apply setup.socketInfos op
        rtt := session.reported op }
  | .deliver position env =>
      match session.sender.outlet.wire[position]? with
      | none => session
      | some sent => session.deliver setup sent env
  | .pong position time =>
      match session.pongs[position]? with
      | none => session
      | some pong => session.answer setup pong time
  | .poll now =>
      { session with rtt := session.rtt.modify fun records => (records.statistic now).2 }

@[simp] theorem sender_deliver (setup : Setup) (session : Session) (sent : PacketStruct)
    (env : RecvEnv) : (session.deliver setup sent env).sender = session.sender := by
  unfold deliver
  split <;> rfl

/-- A delivery does not touch the records of the sender's side. -/
theorem rtt_apply_deliver (setup : Setup) (session : Session) (position : Nat) (env : RecvEnv) :
    (session.apply setup (.deliver position env)).rtt = session.rtt := by
  simp only [apply, deliver]
  split
  next => rfl
  next => split <;> rfl

/-- Only the sender's own steps change it. -/
theorem sender_apply_cases (setup : Setup) (session : Session) (op : SessionOp) :
    (∃ inner, op = .sender inner ∧
        (session.apply setup op).sender = session.sender.apply setup.socketInfos inner) ∨
      ((∀ inner, op ≠ .sender inner) ∧ (session.apply setup op).sender = session.sender) := by
  cases op with
  | sender inner => exact .inl ⟨inner, rfl, rfl⟩
  | deliver position env =>
      refine .inr ⟨by simp, ?_⟩
      simp only [apply]
      split
      next => rfl
      next => exact sender_deliver ..
  | pong position time =>
      refine .inr ⟨by simp, ?_⟩
      simp only [apply]
      split <;> rfl
  | poll now => exact .inr ⟨by simp, rfl⟩

/-- A session goes on whatever becomes of one of its threads, so no step fails. -/
def step (setup : Setup) : FallibleRun.Step Session SessionOp Unit Panic :=
  fun session op => .ok ((), session.apply setup op)

end Session

abbrev SessionEvent := Event Session SessionOp Unit

/-- The datagram that a step delivers, and what the receiver finds around it. -/
def SessionEvent.arrival (event : SessionEvent) : Option (PacketStruct × RecvEnv) :=
  match event.op with
  | .deliver position env =>
      (event.before.sender.outlet.wire[position]?).map fun sent => (sent, env)
  | _ => none

/-- What was delivered, in order. -/
def arrivals (history : List SessionEvent) : List (PacketStruct × RecvEnv) :=
  history.filterMap SessionEvent.arrival

/-- The datagrams that were delivered, in order. -/
def arrived (history : List SessionEvent) : List PacketStruct :=
  (arrivals history).map Prod.fst

end StreamReplay
