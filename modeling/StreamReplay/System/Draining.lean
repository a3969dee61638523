import StreamReplay.System.Provenance
import StreamReplay.Tx.Availability
import StreamReplay.Tx.Progress

/-!
# Whether a call of `process_queue` ends

Where no monitoring is on and the policy reads no measurement, every packet that the
throttler hands out finds a socket.  The loop then empties the queue, unless the throttler
stalls on a packet without bytes.
-/

namespace StreamReplay

open Checked FallibleRun RateThrottler

/-! ## The controller takes every packet -/

/-- Nothing keeps the controller from a decision, and both of its links have a socket. -/
structure TxPartCtler.Willing (ctler : TxPartCtler) (socketInfos : SocketInfo) : Prop where
  sound : ctler.Sound
  unmonitored : ctler.macInfoBus.isMon = false
  informed : ∀ message, ctler.policy.Informed message
  sockets : ∀ link < 2, link ∈ socketInfos

/-- The packet was cut from a frame, and its bytes fit the payload. -/
def PacketWithMeta.Sendable (packet : PacketWithMeta) : Prop :=
  1 ≤ packet.num ∧ packet.packet.length.toNat ≤ maxPayloadLen

theorem CutFrom.sendable {frames : List FrameData} {packet : PacketWithMeta}
    (cut : CutFrom frames packet) : packet.Sendable := by
  rcases cut with ⟨_, data, _, _, offset, inRange, emitted⟩
  constructor
  · rw [emitted.num_eq]
    have below := mem_offsetRange.mp inRange
    exact Nat.pos_of_ne_zero fun none => by simp [none] at below
  · rw [emitted.length_eq]
    exact (fits_of_mem_offsetRange data.sized inRange).short

namespace TxPartCtler

variable {ctler : TxPartCtler} {socketInfos : SocketInfo} {packet : PacketWithMeta}

theorem Willing.exists_schedule (willing : ctler.Willing socketInfos)
    (sendable : packet.Sendable) :
    ∃ packetType next,
      ctler.schedule .binary32 packet =
        .ok (some (packet.setIndicator packetType), next) := by
  rcases determined : ctler.determineScheduleInfo packet with ⟨info, held⟩
  cases info with
  | none =>
      rcases determineScheduleInfo_eq_none.mp determined with ⟨uninformed, _⟩
      simp [Uninformed, willing.unmonitored] at uninformed
  | some message =>
      rcases determined_of_eq determined with ⟨rfl, facts⟩
      have completes : ctler.Completes message := by
        have unmonitored : ¬ctler.macInfoBus.isMon = true := by simp [willing.unmonitored]
        refine ⟨?_, willing.informed message, fun mon => absurd mon unmonitored,
          fun mon => absurd mon unmonitored⟩
        rw [facts.num_eq]
        exact sendable.1
      rcases (getPacketState_returns_iff willing.sound facts).mpr completes with
        ⟨⟨packetType, next⟩, returned⟩
      refine ⟨packetType, next, ?_⟩
      rw [schedule, determined]
      exact bind_eq_ok.mpr ⟨_, returned, rfl⟩

theorem Willing.exists_attempt (willing : ctler.Willing socketInfos)
    (sendable : packet.Sendable) :
    ∃ attempt next, step socketInfos ctler (.attempt packet .sent) = .ok (some attempt, next) ∧
      attempt.sent = true ∧ next.Willing socketInfos := by
  rcases willing.exists_schedule sendable with ⟨packetType, scheduled, decided⟩
  have hasSocket := willing.sockets _ (linkOf_lt packetType)
  rw [← packet.channel_setIndicator packetType] at hasSocket
  rcases Finmap.mem_iff.mp hasSocket with ⟨address, found⟩
  have long : appHeaderLength + packet.packet.length.toNat ≤
      (packet.setIndicator packetType).packet.toU8Slice.length := by
    have whole := (packet.setIndicator packetType).packet.payload.2
    rw [PacketStruct.toU8Slice, List.length_append, PacketStruct.length_header, whole]
    exact Nat.add_le_add_left sendable.2 _
  have delivered : scheduled.send socketInfos (packet.setIndicator packetType) .sent =
      .ok (true, scheduled) := by
    rw [send, found]
    exact bind_eq_ok.mpr ⟨_, slice_of_le (Nat.zero_le _) long, rfl⟩
  have taken : step socketInfos ctler (.attempt packet .sent) =
      .ok (some ⟨packet.setIndicator packetType, true⟩, scheduled) :=
    bind_eq_ok.mpr ⟨_, decided, bind_eq_ok.mpr ⟨_, delivered, rfl⟩⟩
  refine ⟨_, _, taken, rfl, ?_⟩
  have sound := willing.sound.step taken
  rcases schedule_cases decided with ⟨none, _⟩ | ⟨message, chosen, _, _, rfl⟩
  · cases none
  · exact ⟨sound, willing.unmonitored, willing.informed, willing.sockets⟩

end TxPartCtler

/-! ## The turns of the loop -/

/-- Where nothing is handed out, the callback does not matter. -/
theorem RateThrottler.Consumption.of_handed_none {throttler next : RateThrottler}
    {clock : Clock} {first second : PacketWithMeta → Bool} {out : Option Bool}
    (consumption : Consumption throttler clock first out next)
    (none : throttler.handed clock = none) : Consumption throttler clock second out next := by
  cases consumption with
  | idle empty => exact .idle empty
  | refused head admission => exact .refused head admission
  | failed head admission | sent head admission =>
      rw [handed_of_admission head admission] at none
      cases none

theorem RateThrottler.Consumption.queue_suffix {throttler next : RateThrottler} {clock : Clock}
    {callback : PacketWithMeta → Bool} {out : Option Bool}
    (consumption : Consumption throttler clock callback out next) :
    next.buffer.fifo <:+ throttler.buffer.fifo := by
  cases consumption with
  | idle => exact List.suffix_refl _
  | refused _ admission | failed _ admission =>
      exact (congrArg CycledVecDequeue.fifo admission.sameQueue.buffer_eq) ▸ List.suffix_refl _
  | sent head => exact head ▸ List.suffix_cons _ _

theorem RateThrottler.Offering.queue_suffix {states : Nat → RateThrottler}
    {clocks : Nat → Clock} (offering : Offering states clocks) (count : Nat) :
    (states count).buffer.fifo <:+ (states 0).buffer.fifo := by
  induction count with
  | zero => exact List.suffix_refl _
  | succ count ih =>
      rcases offering.offer count with ⟨out, consumption⟩
      exact consumption.queue_suffix.trans ih

namespace Sender

variable {socketInfos : SocketInfo} {sender : Sender}

/-- The sender is ready for a turn at a time. -/
structure Ready (socketInfos : SocketInfo) (sender : Sender) (now : Time) : Prop where
  current : Current sender.source.throttler now
  willing : sender.outlet.ctler.Willing socketInfos
  sendable : ∀ packet ∈ sender.queued, packet.Sendable

/-- A turn of a sender that is ready, when the socket takes the packet: an offer of the
head of the queue to a callback that takes it. -/
theorem Ready.turn {clock : Clock} (ready : sender.Ready socketInfos clock.rate) :
    let next := sender.turn socketInfos clock .sent
    next.Ready socketInfos clock.consume ∧
      ∃ out, Consumption sender.source.throttler clock (fun _ => true) out
          next.source.throttler ∧
        next.phase = if out.isSome then .sending else .waiting := by
  rcases ready.current.offer fun _ => true with ⟨out, throttler, consumption, current⟩
  have consumed := tryConsume_eq_ok.mpr consumption
  have settled : ∃ ctler wire, ctler.Willing socketInfos ∧
      sender.turn socketInfos clock .sent =
        sender.settle (.ok (out, throttler), ⟨ctler, wire⟩) := by
    unfold Sender.turn
    rw [tryConsumeWith_eq]
    cases handed : sender.source.throttler.handed clock with
    | none =>
        refine ⟨sender.outlet.ctler, sender.outlet.wire, ready.willing, ?_⟩
        simp only [tryConsume_eq_ok.mpr (consumption.of_handed_none handed)]
    | some packet =>
        rcases head_of_handed handed with ⟨rest, head⟩
        have sendable := ready.sendable packet (by simp [queued, head])
        rcases ready.willing.exists_attempt sendable with ⟨attempt, ctler, taken, sent, willing⟩
        refine ⟨ctler, sender.outlet.wire ++ [attempt.packet.packet], willing, ?_⟩
        simp only [Outlet.attempt, taken, sent, consumed, if_true]
  rcases settled with ⟨ctler, wire, willing, same⟩
  rw [same]
  refine ⟨⟨current, willing, fun packet member => ?_⟩, out, consumption, rfl⟩
  exact ready.sendable packet (consumption.queue_suffix.subset member)

/-- The loop of `process_queue` without its deadline. -/
def afterTurns (socketInfos : SocketInfo) (sender : Sender) (turns : Nat → Turn) : Nat → Sender
  | 0 => sender
  | count + 1 =>
      (afterTurns socketInfos sender turns count).turn socketInfos (turns count).clock
        (turns count).outcome

/-- A call goes on from where a shorter one has come to. -/
theorem processQueue_append (stopTime : Time) (front rest : List Turn)
    (sending : sender.phase = .sending) :
    sender.processQueue socketInfos stopTime (front ++ rest) =
      let next := sender.processQueue socketInfos stopTime front
      if next.phase = .sending then next.processQueue socketInfos stopTime rest else next := by
  induction front generalizing sender with
  | nil => simp [processQueue, sending]
  | cons turn front ih =>
      simp only [List.cons_append, processQueue]
      split
      next =>
        split
        next again => exact ih again
        next => rfl
      next => simp

/-- Turns at which every socket takes what it is given, on a clock that runs on and on. -/
structure Endless (turns : Nat → Turn) : Prop where
  clocks : RateThrottler.Endless fun count => (turns count).clock
  sent : ∀ count, (turns count).outcome = .sent

section Turns

variable {turns : Nat → Turn}

theorem Ready.afterTurns (ready : sender.Ready socketInfos (turns 0).clock.rate)
    (endless : Endless turns) (count : Nat) :
    (sender.afterTurns socketInfos turns count).Ready socketInfos (turns count).clock.rate := by
  induction count with
  | zero => exact ready
  | succ count ih =>
      rw [Sender.afterTurns, endless.sent count]
      have next := ih.turn.1
      exact ⟨next.current.mono (endless.clocks.forward count), next.willing, next.sendable⟩

/-- The turns are offers to the throttler. -/
theorem Ready.offering (ready : sender.Ready socketInfos (turns 0).clock.rate)
    (endless : Endless turns) :
    Offering (fun count => (sender.afterTurns socketInfos turns count).source.throttler)
      fun count => (turns count).clock where
  endless := endless.clocks
  offer := by
    intro count
    rcases (ready.afterTurns endless count).turn with ⟨_, out, consumption, _⟩
    rw [Sender.afterTurns, endless.sent count]
    exact ⟨out, consumption⟩

/-- The thread is in the loop as long as there are packets, and leaves it then. -/
theorem Ready.phase_turn {clock : Clock} (ready : sender.Ready socketInfos clock.rate) :
    (sender.turn socketInfos clock .sent).phase =
      if sender.queued = [] then .waiting else .sending := by
  rcases ready.turn with ⟨_, out, consumption, phase⟩
  rw [phase]
  generalize (sender.turn socketInfos clock .sent).source.throttler = next at consumption
  cases consumption with
  | idle empty => simp [queued, Source.queued, empty]
  | refused head | failed head | sent head => simp [queued, Source.queued, head]

/-- Before the queue is empty and the deadline is reached, a call is nothing but its turns. -/
theorem Ready.processQueue_eq (ready : sender.Ready socketInfos (turns 0).clock.rate)
    (endless : Endless turns) (sending : sender.phase = .sending) {stopTime : Time}
    {count : Nat} (early : ∀ index < count, (turns index).now < stopTime)
    (filled : ∀ index < count, (sender.afterTurns socketInfos turns index).queued ≠ []) :
    sender.processQueue socketInfos stopTime ((List.range count).map turns) =
        sender.afterTurns socketInfos turns count ∧
      (sender.afterTurns socketInfos turns count).phase = .sending := by
  induction count with
  | zero => exact ⟨rfl, sending⟩
  | succ count ih =>
      rcases ih (fun index below => early index (Nat.lt_succ_of_lt below))
        (fun index below => filled index (Nat.lt_succ_of_lt below)) with ⟨same, again⟩
      have next := (ready.afterTurns endless count).phase_turn
      rw [if_neg (filled count (Nat.lt_succ_self count)), ← endless.sent count] at next
      refine ⟨?_, next⟩
      rw [List.range_succ, List.map_append, processQueue_append stopTime _ _ sending, same]
      simp [again, processQueue, early count (Nat.lt_succ_self count), Sender.afterTurns]

/-- What a call of `process_queue` does that is given enough time: it comes back with an
empty queue, and the packets have gone out in order. -/
def Empties (socketInfos : SocketInfo) (sender : Sender) (turns : Nat → Turn)
    (count : Nat) : Prop :=
  ∀ stopTime, (∀ index < count, (turns index).now < stopTime) →
    let next := sender.processQueue socketInfos stopTime ((List.range count).map turns)
    next.phase = .waiting ∧ next.queued = [] ∧
      ∃ out, next.outlet.wire = sender.outlet.wire ++ out ∧
        List.Forall₂ Wired sender.queued out

theorem Ready.empties (ready : sender.Ready socketInfos (turns 0).clock.rate)
    (endless : Endless turns) (sending : sender.phase = .sending) {count : Nat}
    (empty : (sender.afterTurns socketInfos turns count).queued = [])
    (filled : ∀ index < count, (sender.afterTurns socketInfos turns index).queued ≠ []) :
    sender.Empties socketInfos turns (count + 1) := by
  intro stopTime early next
  rcases ready.processQueue_eq endless sending
    (fun index below => early index (Nat.lt_succ_of_lt below)) filled with ⟨same, again⟩
  have last : next = (sender.afterTurns socketInfos turns count).turn socketInfos
      (turns count).clock (turns count).outcome := by
    change sender.processQueue _ _ _ = _
    rw [List.range_succ, List.map_append, processQueue_append stopTime _ _ sending, same]
    simp [again, processQueue, early count (Nat.lt_succ_self count)]
  have phase : next.phase = .waiting := by
    rw [last, endless.sent count, (ready.afterTurns endless count).phase_turn, if_pos empty]
  rcases drained_of_processQueue socketInfos stopTime
    ((List.range (count + 1)).map turns) sender sending with ⟨sent, rest, out, drained⟩
  have none : rest = [] := by
    rcases drained.ended phase with none | ⟨turn, member, late⟩
    · exact none
    · rcases List.mem_map.mp member with ⟨index, below, rfl⟩
      exact absurd (early index (List.mem_range.mp below)) (Nat.not_lt.mpr late)
  have alive : next.phase ≠ .panicked := by simp [phase]
  have queuedEq := drained.queued_eq
  rw [none, List.append_nil] at queuedEq
  exact ⟨phase, (drained.kept alive).trans none, out, drained.wire_eq, queuedEq ▸ drained.wired⟩

end Turns

/-! ## The counters of a sender -/

theorem counted_turn (counted : Counted sender.source.throttler) (clock : Clock)
    (outcome : SendOutcome) :
    Counted (sender.turn socketInfos clock outcome).source.throttler := by
  rcases sender.throttler_turn socketInfos clock outcome with
    ⟨_, same⟩ | ⟨sent, out, consumed, _⟩
  · rw [same]
    exact counted
  · exact counted.of_consumption (tryConsume_eq_ok.mp consumed)

theorem counted_apply (counted : Counted sender.source.throttler) (op : SenderOp) :
    Counted (sender.apply socketInfos op).source.throttler := by
  cases op with
  | frame arrival data now =>
      rw [apply, takeFrame]
      split
      next =>
        split
        next => exact counted
        next taken =>
          rcases bind_eq_ok.mp taken with ⟨⟨packets, template⟩, generated, rest⟩
          rcases bind_eq_ok.mp generated with ⟨_, _, emitted⟩
          rcases bind_eq_ok.mp rest with ⟨prepared, returned, equal⟩
          rcases prepare_eq_ok.mp returned with ⟨_, checked, check, rfl⟩
          cases equal
          have effect : Effect sender.source.throttler (.operate (.prepare now packets)) _ :=
            .prepared check
          refine counted.of_effect ?_ effect
          exact ⟨_, _, _, _, _, emitted⟩
      next => exact counted
  | turn clock outcome =>
      rw [apply]
      split
      next => exact counted_turn counted clock outcome
      next => exact counted
  | finish =>
      rw [apply]
      split
      next =>
        have effect : Effect sender.source.throttler (.operate .reset) _ := .cleared
        refine counted.of_effect ?_ effect
        exact trivial
      next => exact counted
  | register | leave =>
      rw [apply]
      split <;> exact counted
  | setThrottle throttle => exact ⟨counted.sumBytes_eq, counted.marked_le⟩
  | setPolicyParameters | publish => exact counted

end Sender

section Runs

variable {socketInfos : SocketInfo} {port : UInt16} {throttle : ℚ} {windowSize : Nat}
  {ctler : TxPartCtler} {history : List (Event Sender SenderOp Unit)} {sender : Sender}

theorem Sender.counted_of_run
    (run : Run (Sender.step socketInfos) (.new port throttle windowSize ctler) history sender) :
    Counted sender.source.throttler := by
  induction run with
  | nil => exact .new throttle windowSize false
  | snoc _ taken ih =>
      cases taken
      exact Sender.counted_apply ih _

theorem Sender.Ready.of_run
    (run : Run (Sender.step socketInfos) (.new port throttle windowSize ctler) history sender)
    (willing : sender.outlet.ctler.Willing socketInfos) {now : Time}
    (past : ∀ entry ∈ sender.source.throttler.window.fifo, entry.1 ≤ now) :
    sender.Ready socketInfos now where
  current := ⟨Sender.counted_of_run run, past⟩
  willing := willing
  sendable := fun packet member =>
    ((Sender.Produces.of_run run (.new port throttle windowSize ctler)).queued_cut packet
      member).sendable

/-- In every state that a source thread reaches, without monitoring, under a policy that reads
no measurement, with a throttle that is not negative and a clock that is not behind the
window, a call of `process_queue` on working links empties the queue and sends all of it in
order once it has had enough time, unless the throttler stalls; and it stalls only on a
queued packet without bytes.  The rates are exact rationals. -/
theorem process_queue_empties_iff
    (run : Run (Sender.step socketInfos) (.new port throttle windowSize ctler) history sender)
    (sending : sender.phase = .sending) (willing : sender.outlet.ctler.Willing socketInfos)
    (nonneg : 0 ≤ sender.source.throttler.throttle) {turns : Nat → Turn}
    (endless : Sender.Endless turns)
    (past : ∀ entry ∈ sender.source.throttler.window.fifo, entry.1 ≤ (turns 0).clock.rate) :
    ((∃ count, sender.Empties socketInfos turns count) ↔
        ∀ count, ¬Stalled (sender.afterTurns socketInfos turns count).source.throttler) ∧
      ((∀ packet ∈ sender.queued, packet.packet.length ≠ 0) →
        ∃ count, sender.Empties socketInfos turns count) := by
  have ready : sender.Ready socketInfos (turns 0).clock.rate := .of_run run willing past
  have offering := ready.offering endless
  have emptied : (∃ count, sender.Empties socketInfos turns count) ↔
      ∃ count, (sender.afterTurns socketInfos turns count).queued = [] := by
    constructor
    · rintro ⟨count, empties⟩
      by_contra filled
      rw [not_exists] at filled
      let stopTime := (Finset.range count).sup (fun index => (turns index).now) + 1
      have early : ∀ index < count, (turns index).now < stopTime := fun index below =>
        Nat.lt_succ_of_le (Finset.le_sup (f := fun index => (turns index).now)
          (Finset.mem_range.mpr below))
      have phase := (empties stopTime early).1
      rcases ready.processQueue_eq endless sending early fun index _ => filled index with
        ⟨same, again⟩
      rw [same, again] at phase
      cases phase
    · intro empty
      exact ⟨_, ready.empties endless sending (Nat.find_spec empty) fun _ below =>
        Nat.find_min empty below⟩
  refine ⟨emptied.trans (offering.empties_iff nonneg), fun bytes => ?_⟩
  rw [emptied]
  refine (offering.empties_iff nonneg).mpr fun count stalled => ?_
  rcases stalled.noBytes with ⟨packet, rest, head, noBytes⟩
  have queued : packet ∈ sender.queued :=
    (offering.queue_suffix count).subset (head ▸ List.mem_cons_self)
  exact bytes packet queued (UInt16.toNat_inj.mp noBytes)

end Runs

/-- A frame of three bytes has been taken and reported under a throttle of 1 Mbps. -/
def throttledFrame : List SenderOp :=
  [.setThrottle 1, .frame 0 (.bytes [1, 2, 3]) 0, .register 0]

/-- A turn every nanosecond. -/
def steadyTurns (count : Nat) : Turn := ⟨count, .still (count + 1), .sent⟩

theorem endless_steadyTurns : Sender.Endless steadyTurns where
  clocks := ⟨fun _ => Nat.le_succ _, fun time => ⟨time, Nat.le_succ time⟩⟩
  sent := fun _ => rfl

theorem process_queue_empties_iff_one :
    ∃ history sender, Run (Sender.step twoSockets) plainSender history sender ∧
      sender.queued.length = 1 ∧ ∃ count, sender.Empties twoSockets steadyTurns count := by
  rcases exists_run_of_any (Sender.step twoSockets) plainSender throttledFrame
    (fun sender => sender.phase = .sending ∧ sender.source.throttler.throttle = 1 ∧
      sender.source.throttler.window.fifo = [] ∧ sender.outlet.ctler.policy = .hardThreshold ∧
      sender.outlet.ctler.macInfoBus.isMon = false ∧
      sender.outlet.ctler.blockedSignals.length = 2 ∧ sender.queued.length = 1 ∧
      (sender.queued.all fun packet => packet.packet.length != 0)) (by decide +kernel) with
    ⟨history, sender, run, _, passes⟩
  rcases of_decide_eq_true passes with
    ⟨sending, throttle, window, policy, unmonitored, signals, one, bytes⟩
  have willing : sender.outlet.ctler.Willing twoSockets := by
    refine ⟨⟨signals⟩, unmonitored, fun message => ?_, by decide⟩
    rw [policy]
    exact trivial
  refine ⟨history, sender, run, one, ?_⟩
  refine (process_queue_empties_iff run sending willing (throttle ▸ zero_le_one)
    endless_steadyTurns (by simp [window])).2 fun packet member => ?_
  simpa using List.all_eq_true.mp bytes packet member

end StreamReplay
