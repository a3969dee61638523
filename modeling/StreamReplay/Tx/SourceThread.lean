import StreamReplay.Tx.Backlog
import StreamReplay.Tx.Sending

/-!
# The source thread

`stream_thread` and `process_queue` of `tx/src/source.rs`.  The thread takes a frame,
queues its packets, reports the arrival and then offers the head of the queue until the
queue is empty or the deadline is reached.  It shares the throttler and the controller
with the control channel and the monitor, so a step here is what it does between two
points at which another thread can come in.

A panic ends the thread, but not what its callback has done before it: a datagram that a
socket has taken stays on the wire.
-/

namespace StreamReplay

open Checked FallibleRun

/-! ## A callback that keeps state -/

namespace RateThrottler

/-- What `try_consume` does once the callback has returned true. -/
def depart (throttler : RateThrottler) (clock : Clock) (packet : PacketWithMeta) :
    Except Panic (Option Bool × RateThrottler) := do
  let throttler ← throttler.releaseFrame packet.lastOne
  let (_, throttler) ← throttler.consume clock.consume
  return (some true, throttler)

/-- `try_consume` with a callback that changes what it captures.  A panic does not undo
the changes. -/
def tryConsumeWith {κ : Type} (throttler : RateThrottler) (clock : Clock)
    (callback : PacketWithMeta → κ → Except Panic Bool × κ) (captured : κ) :
    Except Panic (Option Bool × RateThrottler) × κ :=
  match throttler.buffer.front with
  | none => (.ok (none, throttler), captured)
  | some packet =>
      match throttler.exceedsWith clock packet.packet.length.toNat with
      | .error fault => (.error fault, captured)
      | .ok (true, throttler) => (.ok (some false, throttler), captured)
      | .ok (false, throttler) =>
          match callback packet captured with
          | (.error fault, captured) => (.error fault, captured)
          | (.ok false, captured) => (.ok (some false, throttler), captured)
          | (.ok true, captured) => (throttler.depart clock packet, captured)

/-- The callback is applied to the packet that is handed out, and the throttler sees
nothing of it but its result. -/
theorem tryConsumeWith_eq {κ : Type} (throttler : RateThrottler) (clock : Clock)
    (callback : PacketWithMeta → κ → Except Panic Bool × κ) (captured : κ) :
    throttler.tryConsumeWith clock callback captured =
      match throttler.handed clock with
      | none => (throttler.tryConsume clock fun _ => false, captured)
      | some packet =>
          match callback packet captured with
          | (.error fault, captured) => (.error fault, captured)
          | (.ok sent, captured) => (throttler.tryConsume clock fun _ => sent, captured) := by
  unfold tryConsumeWith handed tryConsume
  cases throttler.buffer.front with
  | none => rfl
  | some packet =>
      simp only
      cases throttler.exceedsWith clock packet.packet.length.toNat with
      | error fault => rfl
      | ok judged =>
          rcases judged with ⟨exceeds, judged⟩
          cases exceeds with
          | true => rfl
          | false =>
              simp only [ok_bind]
              rcases callback packet captured with ⟨result, captured⟩
              cases result with
              | error fault => rfl
              | ok sent => cases sent <;> rfl

end RateThrottler

/-! ## The thread -/

/-- What the callback of `process_queue` captures: the controller, and the datagrams that
the sockets have taken. -/
structure Outlet where
  ctler : TxPartCtler
  wire : List PacketStruct

/-- The callback.  When it panics nothing has been sent. -/
def Outlet.attempt (socketInfos : SocketInfo) (outcome : SendOutcome)
    (packet : PacketWithMeta) (outlet : Outlet) : Except Panic Bool × Outlet :=
  match outlet.ctler.step socketInfos (.attempt packet outcome) with
  | .error fault => (.error fault, outlet)
  | .ok (none, ctler) => (.ok false, { outlet with ctler })
  | .ok (some attempt, ctler) =>
      (.ok attempt.sent, {
        ctler
        wire := outlet.wire ++ if attempt.sent then [attempt.packet.packet] else [] })

/-- Where the thread is: at `recv`, behind `prepare`, in the loop of `process_queue`,
behind the final reset, or gone. -/
inductive SourcePhase where
  | waiting
  | queued
  | sending
  | finished
  | panicked
  deriving DecidableEq, Repr

/-- A source thread, with the frames it has taken so far. -/
structure Sender where
  source : Source
  outlet : Outlet
  phase : SourcePhase
  frames : List FrameData

/-- The steps of the thread, and what the control channel and the monitor do to the parts
that it shares with them. -/
inductive SenderOp where
  | frame (arrival : ℚ) (data : FrameData) (now : Time)
  | register (time : ℚ)
  | turn (clock : Clock) (outcome : SendOutcome)
  | leave
  | finish
  | setThrottle (throttle : ℚ)
  | setPolicyParameters (parameters : PolicyParameter)
  | publish (snapshot : MACQueuesSnapshot)

namespace Sender

def new (port : UInt16) (throttle : ℚ) (windowSize : Nat) (ctler : TxPartCtler) : Sender where
  source := .new port throttle windowSize false
  outlet := ⟨ctler, []⟩
  phase := .waiting
  frames := []

def queued (sender : Sender) : List PacketWithMeta := sender.source.queued

/-- Packetise a frame and append it to the queue. -/
def takeFrame (sender : Sender) (arrival : ℚ) (data : FrameData) (now : Time) : Sender :=
  match sender.source.step (.frame arrival data now) with
  | .error _ => { sender with phase := .panicked }
  | .ok (_, source) =>
      { sender with source, phase := .queued, frames := sender.frames ++ [data] }

/-- What a call of `try_consume` leaves of the thread.  The loop in `process_queue` ends
when the call finds the queue empty. -/
def settle (sender : Sender) : Except Panic (Option Bool × RateThrottler) × Outlet → Sender
  | (.error _, outlet) => { sender with outlet, phase := .panicked }
  | (.ok (out, throttler), outlet) =>
      { sender with
        source := { sender.source with throttler }
        outlet
        phase := if out.isSome then .sending else .waiting }

/-- One turn of the loop in `process_queue`, before the deadline. -/
def turn (socketInfos : SocketInfo) (sender : Sender) (clock : Clock)
    (outcome : SendOutcome) : Sender :=
  sender.settle (sender.source.throttler.tryConsumeWith clock
    (Outlet.attempt socketInfos outcome) sender.outlet)

/-- A step that is not the thread's next one does not happen. -/
def apply (socketInfos : SocketInfo) (sender : Sender) : SenderOp → Sender
  | .frame arrival data now =>
      if sender.phase = .waiting then sender.takeFrame arrival data now else sender
  | .register _ => if sender.phase = .queued then { sender with phase := .sending } else sender
  | .turn clock outcome =>
      if sender.phase = .sending then sender.turn socketInfos clock outcome else sender
  | .leave => if sender.phase = .sending then { sender with phase := .waiting } else sender
  | .finish =>
      if sender.phase = .waiting then
        { sender with
          source := { sender.source with throttler := sender.source.throttler.reset }
          phase := .finished }
      else sender
  | .setThrottle throttle =>
      { sender with
        source := { sender.source with
          throttler := { sender.source.throttler with throttle } } }
  | .setPolicyParameters parameters =>
      { sender with
        outlet := { sender.outlet with
          ctler := { sender.outlet.ctler with policyParameters := parameters } } }
  | .publish snapshot =>
      { sender with
        outlet := { sender.outlet with ctler := sender.outlet.ctler.observe snapshot } }

/-- The sender as a transition system; a panic is a phase of its own. -/
def step (socketInfos : SocketInfo) : FallibleRun.Step Sender SenderOp Unit Panic :=
  fun sender op => .ok ((), sender.apply socketInfos op)

end Sender

/-! ## What a turn does -/

/-- The callback sends the packet as it was scheduled, or leaves the wire alone. -/
theorem Outlet.attempt_cases {socketInfos : SocketInfo} {outcome : SendOutcome}
    {packet : PacketWithMeta} {outlet next : Outlet} {sent : Bool}
    (returned : outlet.attempt socketInfos outcome packet = (.ok sent, next)) :
    (sent = false ∧ next.wire = outlet.wire) ∨
      (sent = true ∧ outcome = .sent ∧ ∃ message packetType,
        outlet.ctler.Decides .binary32 packet message packetType ∧
        next.wire = outlet.wire ++ [(packet.setIndicator packetType).packet]) := by
  unfold attempt at returned
  split at returned
  next => cases returned
  next =>
    cases returned
    exact .inl ⟨rfl, rfl⟩
  next attempt ctler taken =>
    rcases TxPartCtler.step_attempt_cases taken with
      ⟨none, _⟩ | ⟨attempt, message, packetType, some, attempts⟩
    · cases none
    · cases some
      cases returned
      cases delivered : attempt.sent with
      | false => exact .inl ⟨rfl, by simp⟩
      | true => exact .inr ⟨rfl, attempts.sent_iff.mp delivered, message, packetType,
          attempts.decides, by simp [attempts.packet_eq]⟩

theorem Outlet.eq_of_attempt_error {socketInfos : SocketInfo} {outcome : SendOutcome}
    {packet : PacketWithMeta} {outlet next : Outlet} {fault : Panic}
    (failed : outlet.attempt socketInfos outcome packet = (.error fault, next)) :
    next = outlet := by
  unfold attempt at failed
  split at failed
  next =>
    cases failed
    rfl
  next => cases failed
  next => cases failed

namespace Sender

variable {socketInfos : SocketInfo} {sender : Sender}

/-- The head of the queue goes out under the indicator that the controller has decided on,
and leaves the queue unless the thread panics behind the send. -/
structure Sends (sender next : Sender) (packet : PacketWithMeta)
    (packetType : PacketType) : Prop where
  head : ∃ rest, sender.queued = packet :: rest ∧
    ((next.queued = rest ∧ next.phase = .sending) ∨
      (next.queued = sender.queued ∧ next.phase = .panicked))
  decides : ∃ message, sender.outlet.ctler.Decides .binary32 packet message packetType
  wire_eq : next.outlet.wire = sender.outlet.wire ++ [(packet.setIndicator packetType).packet]

/-- The packet that is handed out is the head of the queue. -/
theorem head_of_handed {source : Source} {clock : Clock} {packet : PacketWithMeta}
    (handed : source.throttler.handed clock = some packet) :
    ∃ rest, source.queued = packet :: rest := by
  unfold RateThrottler.handed CycledVecDequeue.front at handed
  unfold Source.queued
  cases head : source.throttler.buffer.fifo with
  | nil => simp [head] at handed
  | cons first rest =>
      simp only [head, List.head?_cons] at handed
      split at handed
      next =>
        cases handed
        exact ⟨rest, rfl⟩
      next => cases handed

/-- `try_consume` returns `None` on an empty queue alone. -/
theorem isSome_of_tryConsume {throttler next : RateThrottler} {clock : Clock}
    {callback : PacketWithMeta → Bool} {out : Option Bool}
    (returned : throttler.tryConsume clock callback = .ok (out, next))
    (nonempty : throttler.buffer.fifo ≠ []) : out.isSome = true := by
  cases RateThrottler.tryConsume_eq_ok.mp returned with
  | idle empty => exact absurd empty nonempty
  | refused => rfl
  | failed => rfl
  | sent => rfl

section Settling

variable {clock : Clock} {result : Except Panic (Option Bool × RateThrottler)} {outlet : Outlet}

@[simp] theorem frames_settle : (sender.settle (result, outlet)).frames = sender.frames := by
  cases result <;> rfl

@[simp] theorem template_settle :
    (sender.settle (result, outlet)).source.template = sender.source.template := by
  cases result <;> rfl

@[simp] theorem outlet_settle : (sender.settle (result, outlet)).outlet = outlet := by
  cases result <;> rfl

/-- Where the callback has not sent the packet, the queue stays as it is. -/
theorem queued_settle_unsent
    (consumed : sender.source.throttler.tryConsume clock (fun _ => false) = result) :
    (sender.settle (result, outlet)).queued = sender.queued := by
  cases result with
  | error fault => rfl
  | ok returned =>
      rcases returned with ⟨out, throttler⟩
      have taken : sender.source.step (.tryConsume clock fun _ => false) =
          .ok (out, { sender.source with throttler }) := bind_eq_ok.mpr ⟨_, consumed, rfl⟩
      rcases Source.tryConsume_cases taken with ⟨_, ⟨queued, _⟩ | ⟨_, _, _, _, _, sent, _⟩⟩
      · exact queued
      · cases sent

/-- Where it has, the packet leaves the queue, or the thread panics. -/
theorem queued_settle_sent {packet : PacketWithMeta} {rest : List PacketWithMeta}
    (head : sender.queued = packet :: rest)
    (handed : sender.source.throttler.handed clock = some packet)
    (consumed : sender.source.throttler.tryConsume clock (fun _ => true) = result) :
    let next := sender.settle (result, outlet)
    (next.queued = rest ∧ next.phase = .sending) ∨
      (next.queued = sender.queued ∧ next.phase = .panicked) := by
  cases result with
  | error fault => exact .inr ⟨rfl, rfl⟩
  | ok returned =>
      rcases returned with ⟨out, throttler⟩
      have taken : sender.source.step (.tryConsume clock fun _ => true) =
          .ok (out, { sender.source with throttler }) := bind_eq_ok.mpr ⟨_, consumed, rfl⟩
      rcases Source.tryConsume_cases taken with
        ⟨_, ⟨_, _, unsent⟩ | ⟨first, left, queue, queued, _⟩⟩
      · cases unsent packet handed
      · have same := queue.symm.trans head
        cases same
        have found := isSome_of_tryConsume consumed (List.ne_nil_of_mem
          (head ▸ List.mem_cons_self))
        exact .inl ⟨queued, if_pos found⟩

end Settling

/-- A turn sends the head of the queue, or nothing. -/
theorem turn_cases (socketInfos : SocketInfo) (sender : Sender) (clock : Clock)
    (outcome : SendOutcome) :
    let next := sender.turn socketInfos clock outcome
    next.frames = sender.frames ∧ next.source.template = sender.source.template ∧
      ((next.outlet.wire = sender.outlet.wire ∧ next.queued = sender.queued) ∨
        outcome = .sent ∧ ∃ packet packetType, sender.Sends next packet packetType) := by
  unfold turn
  rw [RateThrottler.tryConsumeWith_eq]
  cases handed : sender.source.throttler.handed clock with
  | none => exact ⟨frames_settle, template_settle, .inl ⟨by simp, queued_settle_unsent rfl⟩⟩
  | some packet =>
      simp only
      rcases attempted : sender.outlet.attempt socketInfos outcome packet with
        ⟨result, outlet⟩
      cases result with
      | error fault =>
          obtain rfl := Outlet.eq_of_attempt_error attempted
          exact ⟨rfl, rfl, .inl ⟨rfl, rfl⟩⟩
      | ok sent =>
          refine ⟨frames_settle, template_settle, ?_⟩
          rcases Outlet.attempt_cases attempted with
            ⟨rfl, wire⟩ | ⟨rfl, sent, message, packetType, decides, wire⟩
          · exact .inl ⟨by simp [wire], queued_settle_unsent rfl⟩
          · rcases head_of_handed handed with ⟨rest, head⟩
            exact .inr ⟨sent, packet, packetType,
              ⟨rest, head, queued_settle_sent head handed rfl⟩, ⟨message, decides⟩,
              by simp [wire]⟩

/-- For the throttler a turn is a call of `try_consume`, unless the thread panics in it. -/
theorem throttler_turn (socketInfos : SocketInfo) (sender : Sender) (clock : Clock)
    (outcome : SendOutcome) :
    let next := sender.turn socketInfos clock outcome
    (next.phase = .panicked ∧ next.source = sender.source) ∨
      ∃ sent out, sender.source.throttler.tryConsume clock (fun _ => sent) =
          .ok (out, next.source.throttler) ∧
        next.phase = if out.isSome then .sending else .waiting := by
  have settled : ∀ sent outlet,
      let next := sender.settle (sender.source.throttler.tryConsume clock fun _ => sent, outlet)
      (next.phase = .panicked ∧ next.source = sender.source) ∨
        ∃ sent out, sender.source.throttler.tryConsume clock (fun _ => sent) =
            .ok (out, next.source.throttler) ∧
          next.phase = if out.isSome then .sending else .waiting := by
    intro sent outlet
    cases consumed : sender.source.throttler.tryConsume clock fun _ => sent with
    | error fault => exact .inl ⟨rfl, rfl⟩
    | ok returned => exact .inr ⟨sent, returned.1, consumed, rfl⟩
  rw [turn, RateThrottler.tryConsumeWith_eq]
  cases sender.source.throttler.handed clock with
  | none => exact settled false sender.outlet
  | some packet =>
      simp only
      rcases sender.outlet.attempt socketInfos outcome packet with ⟨result, outlet⟩
      cases result with
      | error fault => exact .inl ⟨rfl, rfl⟩
      | ok sent => exact settled sent outlet

/-- A frame is taken, or the thread panics. -/
theorem takeFrame_cases (sender : Sender) (arrival : ℚ) (data : FrameData) (now : Time) :
    let next := sender.takeFrame arrival data now
    (next.phase = .panicked ∧ next.frames = sender.frames) ∨
      (next.phase = .queued ∧ next.frames = sender.frames ++ [data]) := by
  unfold takeFrame
  split
  next => exact .inl ⟨rfl, rfl⟩
  next => exact .inr ⟨rfl, rfl⟩

/-- Only taking a frame adds one. -/
theorem frames_apply (socketInfos : SocketInfo) (sender : Sender) {op : SenderOp}
    (other : ∀ arrival data now, op ≠ .frame arrival data now) :
    (sender.apply socketInfos op).frames = sender.frames := by
  cases op with
  | frame arrival data now => exact absurd rfl (other arrival data now)
  | turn clock outcome =>
      rw [apply]
      split
      next => exact (sender.turn_cases socketInfos clock outcome).1
      next => rfl
  | register | leave | finish =>
      rw [apply]
      split <;> rfl
  | setThrottle | setPolicyParameters | publish => rfl

/-- A turn does not queue a frame. -/
theorem phase_turn_ne (socketInfos : SocketInfo) (sender : Sender) (clock : Clock)
    (outcome : SendOutcome) :
    (sender.turn socketInfos clock outcome).phase ≠ .queued := by
  unfold turn
  rcases sender.source.throttler.tryConsumeWith clock (Outlet.attempt socketInfos outcome)
    sender.outlet with ⟨result, outlet⟩
  cases result with
  | error fault => simp [settle]
  | ok returned =>
      rw [settle]
      simp only
      split <;> simp

/-- The loop ends by itself on an empty queue alone. -/
theorem queued_of_turn_waiting {clock : Clock} {outcome : SendOutcome}
    (ended : (sender.turn socketInfos clock outcome).phase = .waiting) :
    sender.queued = [] := by
  by_contra nonempty
  rcases sender.throttler_turn socketInfos clock outcome with
    ⟨panicked, _⟩ | ⟨sent, out, consumed, phase⟩
  · rw [ended] at panicked
    cases panicked
  · rw [ended, isSome_of_tryConsume consumed nonempty] at phase
    cases phase

end Sender

/-! ## The loops of the thread -/

/-- A turn of `process_queue` as the surroundings make it: the time it begins at, the clock
readings in it, and what `send_to` returns. -/
structure Turn where
  now : Time
  clock : Clock
  outcome : SendOutcome

/-- A turn of the thread's own loop: a frame, the deadline up to which the queue is
processed, and the turns of that. -/
structure FrameTurn where
  arrival : ℚ
  data : FrameData
  now : Time
  deadline : Time
  turns : List Turn

namespace Sender

/-- `process_queue`; a list that is used up leaves the thread within the loop. -/
def processQueue (socketInfos : SocketInfo) (stopTime : Time) : Sender → List Turn → Sender
  | sender, [] => sender
  | sender, turn :: turns =>
      if turn.now < stopTime then
        let next := sender.turn socketInfos turn.clock turn.outcome
        if next.phase = .sending then processQueue socketInfos stopTime next turns else next
      else { sender with phase := .waiting }

/-- One frame: queue its packets, report its arrival and process the queue. -/
def serve (socketInfos : SocketInfo) (sender : Sender) (frame : FrameTurn) : Sender :=
  if sender.phase = .waiting then
    let next := sender.takeFrame frame.arrival frame.data frame.now
    if next.phase = .queued then
      processQueue socketInfos frame.deadline { next with phase := .sending } frame.turns
    else next
  else sender

/-- The frames of a source, one after the other, and the reset behind them. -/
def serveAll (socketInfos : SocketInfo) (sender : Sender) (frames : List FrameTurn) :
    Sender :=
  (frames.foldl (serve socketInfos) sender).apply socketInfos .finish

variable {socketInfos : SocketInfo} {start sender : Sender}

/-- Another state is reached by steps of the thread. -/
abbrev Leads (socketInfos : SocketInfo) (sender next : Sender) : Prop :=
  ∃ history, Run (step socketInfos) sender history next

theorem Leads.refl (sender : Sender) : Leads socketInfos sender sender := ⟨[], .nil⟩

theorem Leads.trans {first second third : Sender} (front : Leads socketInfos first second)
    (rest : Leads socketInfos second third) : Leads socketInfos first third := by
  rcases front with ⟨earlier, run⟩
  rcases rest with ⟨later, continued⟩
  exact ⟨earlier ++ later, run.append continued⟩

theorem Leads.of_apply {next : Sender} (op : SenderOp)
    (applied : sender.apply socketInfos op = next) : Leads socketInfos sender next :=
  ⟨[] ++ [⟨sender, op, (), next⟩], .snoc .nil (by rw [step, applied])⟩

theorem leads_processQueue (stopTime : Time) (turns : List Turn)
    (sending : sender.phase = .sending) :
    Leads socketInfos sender (sender.processQueue socketInfos stopTime turns) := by
  induction turns generalizing sender with
  | nil => exact .refl sender
  | cons turn turns ih =>
      rw [processQueue]
      split
      next =>
        have first : Leads socketInfos sender
            (sender.turn socketInfos turn.clock turn.outcome) :=
          .of_apply (.turn turn.clock turn.outcome) (if_pos sending)
        simp only
        split
        next again => exact first.trans (ih again)
        next => exact first
      next => exact .of_apply .leave (if_pos sending)

theorem leads_serve (sender : Sender) (frame : FrameTurn) :
    Leads socketInfos sender (sender.serve socketInfos frame) := by
  unfold serve
  split
  next waiting =>
    have first : Leads socketInfos sender
        (sender.takeFrame frame.arrival frame.data frame.now) :=
      .of_apply (.frame frame.arrival frame.data frame.now) (if_pos waiting)
    simp only
    split
    next queued =>
      exact (first.trans (.of_apply (.register frame.arrival) (if_pos queued))).trans
        (leads_processQueue _ _ rfl)
    next => exact first
  next => exact .refl sender

/-- The loops of the thread are runs of its steps. -/
theorem leads_serveAll (sender : Sender) (frames : List FrameTurn) :
    Leads socketInfos sender (sender.serveAll socketInfos frames) := by
  refine Leads.trans ?_ (.of_apply .finish rfl)
  induction frames generalizing sender with
  | nil => exact .refl sender
  | cons frame frames ih => exact (leads_serve sender frame).trans (ih _)

end Sender

end StreamReplay
