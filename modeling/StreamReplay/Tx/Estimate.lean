import StreamReplay.Tx.Sending

/-!
# The queue estimate

With monitoring on, the stored message counts each packet on the link it is
decided for, before the send's outcome is known.  The estimate is therefore the
recorded queue length plus the attempts, and counts the packets that were sent
exactly when no attempt failed.
-/

namespace StreamReplay

open Checked FallibleRun SchedulingMessage

namespace CtlerEvent

/-- The event attempts a packet on the link. -/
def attempts (event : CtlerEvent) (link : Nat) : Bool :=
  event.out.any fun attempt => attempt.packet.channel == link

/-- The event sends a packet on the link. -/
def sends (event : CtlerEvent) (link : Nat) : Bool :=
  event.out.any fun attempt => attempt.packet.channel == link && attempt.sent

/-- The event publishes a snapshot. -/
def isPublish (event : CtlerEvent) : Bool :=
  match event.op with
  | .publish _ => true
  | _ => false

end CtlerEvent

/-- The packets attempted on a link. -/
def attemptsOn (history : List CtlerEvent) (link : Nat) : Nat :=
  history.countP (CtlerEvent.attempts · link)

/-- The packets sent on a link. -/
def sentOn (history : List CtlerEvent) (link : Nat) : Nat :=
  history.countP (CtlerEvent.sends · link)

/-- The AC-1 queue length that a message takes from a snapshot for an index. -/
def MACQueuesSnapshot.recorded (snapshot : MACQueuesSnapshot) (link : Nat) : Option Nat :=
  ((Enumeration.values snapshot.queues).map MACQueueInfo.ac1)[link]?

/-- The stored message for a snapshot has the recorded queue lengths, raised by
what `raised` counts. -/
def TxPartCtler.Estimates (ctler : TxPartCtler) (snapshot : MACQueuesSnapshot)
    (raised : Nat → Nat) : Prop :=
  ∀ message, ctler.scheduleMessage = some message →
    message.currentTime = snapshot.takenAt →
    ∀ link, message.ac1Info[link]? = (snapshot.recorded link).map (· + raised link)

/-- The invariant while a snapshot stays on the bus: the message estimates by the
attempts, there are none before it is built, and only recorded links are attempted. -/
structure EstimateInv (snapshot : MACQueuesSnapshot) (raised : Nat → Nat)
    (ctler : TxPartCtler) : Prop where
  mon : ctler.macInfoBus.isMon = true
  latest : ctler.macInfoBus.latest = snapshot
  estimates : ctler.Estimates snapshot raised
  unraised : ctler.NeedsMessage snapshot → ∀ link, raised link = 0
  recorded : ∀ link, raised link ≠ 0 → (snapshot.recorded link).isSome = true

namespace EstimateInv

variable {snapshot : MACQueuesSnapshot} {raised : Nat → Nat} {ctler next : TxPartCtler}

/-- The message of a decision estimates by the attempts so far. -/
theorem ac1Info_eq (inv : EstimateInv snapshot raised ctler) {packet : PacketWithMeta}
    {message : SchedulingMessage} (determined : ctler.Determined packet message)
    (link : Nat) :
    message.ac1Info[link]? = (snapshot.recorded link).map (· + raised link) := by
  have measured := determined.measured
  rw [inv.latest] at measured
  rcases measured with ⟨needs, rfl⟩ | ⟨stored, held, current, same, _⟩
  · rw [inv.unraised needs link]
    simp only [Nat.add_zero, Option.map_id_fun', id_eq, ← inv.latest]
    rfl
  · rw [same]
    exact inv.estimates stored held current link

/-- Step lemma: an attempt raises its link. -/
theorem attempt (inv : EstimateInv snapshot raised ctler) {socketInfos : SocketInfo}
    {packet : PacketWithMeta} {outcome : SendOutcome} {attempt : Attempt}
    {message : SchedulingMessage} {packetType : PacketType}
    (attempts : ctler.Attempts socketInfos packet outcome attempt next message packetType) :
    EstimateInv snapshot
      (fun link => raised link + if attempt.packet.channel = link then 1 else 0) next := by
  have estimate := inv.ac1Info_eq attempts.decides.determined
  have below := attempts.decides.counts inv.mon
  have channelEq : attempt.packet.channel = linkOf packetType := by
    rw [attempts.packet_eq, PacketWithMeta.channel_setIndicator]
  have recorded : (snapshot.recorded (linkOf packetType)).isSome = true := by
    have read := estimate (linkOf packetType)
    rw [List.getElem?_eq_getElem below] at read
    rcases Option.map_eq_some_iff.mp read.symm with ⟨length, found, _⟩
    rw [found]
    rfl
  have nextEq := attempts.next_eq
  subst nextEq
  rw [channelEq]
  constructor
  · exact inv.mon
  · exact inv.latest
  · intro stored held current link
    cases held
    simp only [inv.mon, if_true, List.getElem?_set, below, if_true]
    split
    next same =>
      subst same
      rw [List.getD_eq_getElem?_getD, estimate]
      rcases Option.isSome_iff_exists.mp recorded with ⟨length, found⟩
      simp [found, Nat.add_assoc]
    next => simp [estimate]
  · intro needs
    refine absurd ?_ (needs _ rfl)
    simp only [inv.mon, if_true]
    rw [attempts.decides.determined.currentTime_eq, inv.latest]
  · intro link raisedLink
    split at raisedLink
    next same => exact same ▸ recorded
    next => exact inv.recorded link (by omega)

/-- Run lemma: while the snapshot stays, the message estimates by the attempts. -/
theorem run {socketInfos : SocketInfo} {start state : TxPartCtler}
    {history : List CtlerEvent} (mon : start.macInfoBus.isMon = true)
    (needs : start.NeedsMessage start.macInfoBus.latest)
    (run : Run (TxPartCtler.step socketInfos) start history state)
    (unchanged : ∀ event ∈ history, CtlerEvent.isPublish event = false) :
    EstimateInv start.macInfoBus.latest (attemptsOn history) state := by
  induction run with
  | nil =>
      constructor
      · exact mon
      · rfl
      · intro message held current
        exact absurd current (needs message held)
      · intro _ link
        rfl
      · intro link raised
        exact absurd rfl raised
  | @snoc history state next op out run taken ih =>
      have inv := ih fun event member => unchanged event (List.mem_append_left _ member)
      have snoc : attemptsOn (history ++ [⟨state, op, out, next⟩]) = fun link =>
          attemptsOn history link +
            if CtlerEvent.attempts ⟨state, op, out, next⟩ link then 1 else 0 := by
        funext link
        simp only [attemptsOn, List.countP_append, List.countP_singleton]
      rw [snoc]
      cases op with
      | attempt packet outcome =>
          rcases TxPartCtler.step_attempt_cases taken with
            ⟨rfl, _, rfl⟩ | ⟨attempt, message, packetType, rfl, attempts⟩
          · simpa [CtlerEvent.attempts] using inv
          · simpa [CtlerEvent.attempts] using inv.attempt attempts
      | setPolicyParameters parameters =>
          cases taken
          simpa [CtlerEvent.attempts] using
            (⟨inv.mon, inv.latest, inv.estimates, inv.unraised, inv.recorded⟩ :
              EstimateInv _ _ { state with policyParameters := parameters })
      | publish snapshot =>
          have kept := unchanged ⟨state, .publish snapshot, out, next⟩ (by simp)
          cases kept

end EstimateInv

theorem CtlerEvent.attempts_of_sends {event : CtlerEvent} {link : Nat}
    (sends : event.sends link = true) : event.attempts link = true := by
  rcases (Option.any_eq_true _ _).mp sends with ⟨attempt, outEq, both⟩
  exact (Option.any_eq_true _ _).mpr ⟨attempt, outEq, (Bool.and_eq_true_iff.mp both).1⟩

/-- As many packets are sent on every link as attempted when no attempt fails. -/
theorem sentOn_eq_attemptsOn_iff {history : List CtlerEvent} :
    (∀ link, sentOn history link = attemptsOn history link) ↔
      ∀ event ∈ history, ∀ attempt, event.out = some attempt → attempt.sent = true := by
  simp only [sentOn, attemptsOn,
    Sequence.countP_eq_countP_iff fun _ => CtlerEvent.attempts_of_sends]
  constructor
  · intro every event member attempt outEq
    have sends := every attempt.packet.channel event member (by
      simp [CtlerEvent.attempts, outEq])
    simpa [CtlerEvent.sends, outEq] using sends
  · intro every link event member attempts
    rcases (Option.any_eq_true _ _).mp attempts with ⟨attempt, outEq, onLink⟩
    have sent := every event member attempt outEq
    simp only [CtlerEvent.sends, outEq, Option.any_some, onLink, sent, Bool.and_self]

/-- In a run, every attempt succeeds exactly when every send of a scheduled packet
does. -/
theorem attempts_succeed_iff {socketInfos : SocketInfo} {start state : TxPartCtler}
    {history : List CtlerEvent}
    (run : Run (TxPartCtler.step socketInfos) start history state) :
    (∀ event ∈ history, ∀ attempt, event.out = some attempt → attempt.sent = true) ↔
      ∀ event ∈ history, ∀ packet outcome, event.op = .attempt packet outcome →
        ¬event.before.Uninformed → outcome = .sent := by
  refine forall₂_congr fun event member => ?_
  rcases event with ⟨before, op, out, after⟩
  have taken : TxPartCtler.step socketInfos before op = .ok (out, after) :=
    run.event_step member
  cases op with
  | attempt packet outcome =>
      rcases TxPartCtler.step_attempt_cases taken with
        ⟨outEq, uninformed, _⟩ | ⟨attempt, message, packetType, outEq, attempts⟩
      · subst outEq
        simp [uninformed]
      · have informed := attempts.decides.determined.informed
        subst outEq
        simp [attempts.sent_iff, informed]
  | setPolicyParameters parameters =>
      cases taken
      simp
  | publish snapshot =>
      cases taken
      simp

/-- While a snapshot stays on the bus, the stored message counts the packets sent
exactly when every packet that is scheduled is also sent. -/
theorem estimate_exact_iff {socketInfos : SocketInfo} {start state : TxPartCtler}
    {history : List CtlerEvent} (mon : start.macInfoBus.isMon = true)
    (needs : start.NeedsMessage start.macInfoBus.latest)
    (run : Run (TxPartCtler.step socketInfos) start history state)
    (unchanged : ∀ event ∈ history, CtlerEvent.isPublish event = false) :
    state.Estimates start.macInfoBus.latest (sentOn history) ↔
      ∀ event ∈ history, ∀ packet outcome, event.op = .attempt packet outcome →
        ¬event.before.Uninformed → outcome = .sent := by
  have inv := EstimateInv.run mon needs run unchanged
  rw [← attempts_succeed_iff run, ← sentOn_eq_attemptsOn_iff]
  constructor
  · intro estimates link
    by_cases raised : attemptsOn history link = 0
    · have fewer : sentOn history link ≤ attemptsOn history link :=
        List.countP_mono_left fun _ _ => CtlerEvent.attempts_of_sends
      omega
    · -- An attempted link has a recorded length, and both estimates start from it.
      have built : ¬state.NeedsMessage start.macInfoBus.latest :=
        fun needs => raised (inv.unraised needs link)
      simp only [TxPartCtler.NeedsMessage, not_forall, not_not] at built
      rcases built with ⟨message, held, current⟩
      rcases Option.isSome_iff_exists.mp (inv.recorded link raised) with ⟨length, found⟩
      have bySent := estimates message held current link
      have byAttempts := inv.estimates message held current link
      rw [bySent, found] at byAttempts
      simpa using byAttempts
  · intro equal
    rw [funext equal]
    exact inv.estimates

/-- A controller that has just been given a snapshot of both links. -/
def monitoredCtler : TxPartCtler := freshCtler.observe orderedSnapshot

theorem monitoredCtler_needs : monitoredCtler.NeedsMessage orderedSnapshot := by
  intro message held
  cases held

/-- A frame of three packets, of which the second is refused. -/
def refusedFrame : List CtlerOp :=
  [.attempt (framePacket 0 3) .sent, .attempt (framePacket 1 3) .wouldBlock,
    .setPolicyParameters unitParameters, .attempt (framePacket 2 3) .sent]

theorem estimate_exact_iff_refused :
    ∃ history state, Run (TxPartCtler.step bothSockets) monitoredCtler history state ∧
      history.map Event.op = refusedFrame ∧ sentOn history 1 = 2 ∧
      (state.Estimates orderedSnapshot (sentOn history) ↔
        ∀ event ∈ history, ∀ packet outcome, event.op = .attempt packet outcome →
          ¬event.before.Uninformed → outcome = .sent) := by
  rcases exists_run_of_trace (TxPartCtler.step bothSockets) monitoredCtler refusedFrame
    (fun history _ => (history.all fun event => !CtlerEvent.isPublish event) &&
      sentOn history 1 == 2) (by decide +kernel) with ⟨history, state, run, opsEq, passes⟩
  rw [Bool.and_eq_true, List.all_eq_true, beq_iff_eq] at passes
  have unchanged : ∀ event ∈ history, CtlerEvent.isPublish event = false := fun event member =>
    Bool.not_eq_true' _ |>.mp (passes.1 event member)
  exact ⟨history, state, run, opsEq, passes.2,
    estimate_exact_iff rfl monitoredCtler_needs run unchanged⟩

/-- A packet that the socket refuses is counted as sent. -/
theorem blocked_packet_counted :
    ∃ out state, TxPartCtler.step bothSockets monitoredCtler
        (.attempt singlePacket .wouldBlock) = .ok (out, state) ∧
      ¬state.Estimates orderedSnapshot (sentOn
        [⟨monitoredCtler, .attempt singlePacket .wouldBlock, out, state⟩]) := by
  have passes : (TxPartCtler.step bothSockets monitoredCtler
      (.attempt singlePacket .wouldBlock)).toOption.any (fun result =>
        result.1.all (fun attempt => !attempt.sent) &&
          result.2.scheduleMessage.any fun message =>
            message.currentTime == 1 && message.ac1Info[1]? == some 1) = true := by
    decide +kernel
  rcases exists_of_any passes with ⟨⟨out, state⟩, taken, passes⟩
  refine ⟨out, state, taken, fun estimates => ?_⟩
  rw [Bool.and_eq_true] at passes
  rcases passes with ⟨unsent, counted⟩
  rcases (Option.any_eq_true _ _).mp counted with ⟨message, held, facts⟩
  simp only [Bool.and_eq_true, beq_iff_eq] at facts
  have none : sentOn [⟨monitoredCtler, .attempt singlePacket .wouldBlock, out, state⟩] 1 =
      0 := by
    cases out with
    | none => rfl
    | some attempt => simpa [sentOn, CtlerEvent.sends] using fun _ => unsent
  have estimated := estimates message held facts.1 1
  rw [facts.2, none] at estimated
  exact absurd estimated (by decide +kernel)

end StreamReplay
