import StreamReplay.Tx.Availability
import StreamReplay.Tx.Estimate

/-!
# Blocked signals

A send that fails raises the signal of its channel, and nothing lowers it again.
The signals therefore say whether any send on a channel has failed, which is what
the latest one says only as long as no send succeeds after one that failed.
-/

namespace StreamReplay

open Checked FallibleRun SchedulingMessage

/-- Whether the event's attempt on a channel succeeded, if it made one. -/
def CtlerEvent.outcomeOn (event : CtlerEvent) (channel : Nat) : Option Bool :=
  event.out.bind fun attempt =>
    if attempt.packet.channel = channel then some attempt.sent else none

/-- The latest attempt on a channel has failed. -/
def latestFailed (history : List CtlerEvent) (channel : Nat) : Bool :=
  history.foldl (fun failed event => (event.outcomeOn channel).elim failed not) false

/-- Some attempt on a channel has failed. -/
def everFailed (history : List CtlerEvent) (channel : Nat) : Bool :=
  history.any fun event => event.outcomeOn channel == some false

/-- The signals are those of the latest attempts. -/
def TxPartCtler.SignalsFollow (ctler : TxPartCtler) (history : List CtlerEvent) : Prop :=
  ctler.blockedSignals = [latestFailed history 0, latestFailed history 1]

/-- The later attempt does not succeed on the channel if the earlier one failed. -/
def StaysBlocked (channel : Nat) (earlier later : CtlerEvent) : Prop :=
  earlier.outcomeOn channel = some false → later.outcomeOn channel ≠ some true

instance (channel : Nat) : DecidableRel (StaysBlocked channel) := fun _ _ =>
  inferInstanceAs (Decidable (_ → _))

@[simp] theorem latestFailed_snoc (history : List CtlerEvent) (event : CtlerEvent)
    (channel : Nat) :
    latestFailed (history ++ [event]) channel =
      (event.outcomeOn channel).elim (latestFailed history channel) not := by
  simp [latestFailed]

@[simp] theorem everFailed_snoc (history : List CtlerEvent) (event : CtlerEvent)
    (channel : Nat) :
    everFailed (history ++ [event]) channel =
      (everFailed history channel || event.outcomeOn channel == some false) := by
  simp [everFailed]

/-! ## The signals latch -/

/-- Step lemma: an attempt that fails raises the signal of its channel. -/
theorem TxPartCtler.signals_of_step {socketInfos : SocketInfo} {ctler next : TxPartCtler}
    {op : CtlerOp} {out : Option Attempt} {first second : Bool}
    (signals : ctler.blockedSignals = [first, second])
    (taken : TxPartCtler.step socketInfos ctler op = .ok (out, next)) :
    let event : CtlerEvent := ⟨ctler, op, out, next⟩
    next.blockedSignals = [first || event.outcomeOn 0 == some false,
      second || event.outcomeOn 1 == some false] := by
  intro event
  cases op with
  | attempt packet outcome =>
      rcases step_attempt_cases taken with
        ⟨rfl, _, rfl⟩ | ⟨attempt, message, packetType, rfl, attempts⟩
      · simp [event, CtlerEvent.outcomeOn, signals]
      · have channelEq : attempt.packet.channel = linkOf packetType := by
          rw [attempts.packet_eq, PacketWithMeta.channel_setIndicator]
        have nextEq := attempts.next_eq
        subst nextEq
        simp only [event, CtlerEvent.outcomeOn, Option.bind_some, channelEq, signals]
        rcases linkCases : linkOf packetType with _ | _ | link
        · cases attempt.sent <;> simp
        · cases attempt.sent <;> simp
        · have below := linkOf_lt packetType
          omega
  | setPolicyParameters parameters =>
      cases taken
      simp [event, CtlerEvent.outcomeOn, signals]
  | publish snapshot =>
      cases taken
      simp [event, CtlerEvent.outcomeOn, observe, signals]

/-- Run lemma: the signals say which channels a send has failed on. -/
theorem TxPartCtler.signals_of_run {socketInfos : SocketInfo} {policy : Policy}
    {parameters : PolicyParameter} {bus : LatestBus} {history : List CtlerEvent}
    {state : TxPartCtler}
    (run : Run (TxPartCtler.step socketInfos) (.new policy parameters bus) history state) :
    state.blockedSignals = [everFailed history 0, everFailed history 1] := by
  induction run with
  | nil => rfl
  | snoc _ taken ih =>
      rw [everFailed_snoc, everFailed_snoc]
      exact signals_of_step ih taken

/-! ## When they follow -/

/-- When no attempt succeeds after one that failed, the latest tells of them all. -/
theorem everFailed_eq_latestFailed {history : List CtlerEvent} {channel : Nat}
    (ordered : history.Pairwise (StaysBlocked channel)) :
    everFailed history channel = latestFailed history channel := by
  induction history using List.reverseRecOn with
  | nil => rfl
  | append_singleton history event ih =>
      rcases List.pairwise_append.mp ordered with ⟨front, _, stays⟩
      rw [everFailed_snoc, latestFailed_snoc, ← ih front]
      cases outcome : event.outcomeOn channel with
      | none => simp
      | some sent =>
          cases sent with
          | false => simp
          | true =>
              have unfailed : ∀ earlier ∈ history, earlier.outcomeOn channel ≠ some false :=
                fun earlier member failed => stays earlier member event (by simp) failed outcome
              simpa [everFailed] using unfailed

/-- No attempt on a channel succeeds after one that failed exactly when, after each
event, an attempt has failed just if the latest has. -/
theorem pairwise_staysBlocked_iff {history : List CtlerEvent} {channel : Nat} :
    history.Pairwise (StaysBlocked channel) ↔
      ∀ earlier event later, history = earlier ++ event :: later →
        everFailed (earlier ++ [event]) channel =
          latestFailed (earlier ++ [event]) channel := by
  induction history using List.reverseRecOn with
  | nil => simp
  | append_singleton history event ih =>
      rw [Sequence.forall_front_snoc_iff fun front =>
          everFailed front channel = latestFailed front channel, ← ih, List.pairwise_append]
      simp only [List.pairwise_singleton, List.mem_singleton, forall_eq, true_and]
      refine and_congr_right fun ordered => ?_
      rw [everFailed_snoc, latestFailed_snoc, ← everFailed_eq_latestFailed ordered]
      cases outcome : event.outcomeOn channel with
      | none => simp [StaysBlocked, outcome]
      | some sent =>
          cases sent with
          | true => simp [StaysBlocked, outcome, everFailed]
          | false => simp [StaysBlocked, outcome]

/-- The signals after an event follow exactly when those of both links do. -/
theorem TxPartCtler.signalsFollow_iff {socketInfos : SocketInfo} {policy : Policy}
    {parameters : PolicyParameter} {bus : LatestBus} {history : List CtlerEvent}
    {state : TxPartCtler}
    (run : Run (TxPartCtler.step socketInfos) (.new policy parameters bus) history state) :
    state.SignalsFollow history ↔
      ∀ channel < 2, everFailed history channel = latestFailed history channel := by
  rw [SignalsFollow, signals_of_run run]
  constructor
  · intro equal channel below
    simp only [List.cons.injEq, and_true] at equal
    rcases (by omega : channel = 0 ∨ channel = 1) with rfl | rfl
    · exact equal.1
    · exact equal.2
  · intro every
    rw [every 0 (by omega), every 1 (by omega)]

/-- The policy is the one the controller was created with. -/
theorem TxPartCtler.policy_of_run {socketInfos : SocketInfo} {start state : TxPartCtler}
    {history : List CtlerEvent}
    (run : Run (TxPartCtler.step socketInfos) start history state) :
    state.policy = start.policy := by
  induction run with
  | nil => rfl
  | @snoc history ctler next op out run taken ih =>
      cases op with
      | attempt packet outcome =>
          rcases step_attempt_cases taken with
            ⟨_, _, rfl⟩ | ⟨attempt, message, packetType, _, attempts⟩
          · exact ih
          · rw [attempts.next_eq]
            exact ih
      | setPolicyParameters parameters =>
          cases taken
          exact ih
      | publish snapshot =>
          cases taken
          exact ih

/-- A packet goes to the second link under `ConditionalRR` when the first is blocked
and the second is not. -/
theorem TxPartCtler.Decides.linkOf_conditionalRR {ctler : TxPartCtler}
    {packet : PacketWithMeta} {message : SchedulingMessage} {packetType : PacketType}
    {first second : Bool} (decides : ctler.Decides .binary32 packet message packetType)
    (policyEq : ctler.policy = .conditionalRR)
    (signals : ctler.blockedSignals = [first, second]) :
    linkOf packetType = 1 ↔ first = true ∧ second = false := by
  rcases Policy.getPacketState_eq_ok.mp decides.policy with ⟨_, onFirst, chosen, rfl⟩
  have prefers := Policy.choice_iff_prefersFirst chosen
  rw [policyEq, Policy.PrefersFirst, decides.determined.blocked_eq, signals] at prefers
  rw [linkOf_packetTypeFor]
  cases onFirst <;> cases first <;> cases second <;> simp at prefers ⊢

/-- In every run the signals follow the latest attempts after each event exactly when
no attempt on a link succeeds after one that failed; then `ConditionalRR` diverts a
packet exactly when the first link's latest attempt has failed and the second's has not. -/
theorem blocked_signals_follow_iff {socketInfos : SocketInfo} {policy : Policy}
    {parameters : PolicyParameter} {bus : LatestBus} {history : List CtlerEvent}
    {state : TxPartCtler}
    (run : Run (TxPartCtler.step socketInfos) (.new policy parameters bus) history state) :
    ((∀ earlier event later, history = earlier ++ event :: later →
        event.after.SignalsFollow (earlier ++ [event])) ↔
      ∀ channel < 2, history.Pairwise (StaysBlocked channel)) ∧
    (policy = .conditionalRR → (∀ channel < 2, history.Pairwise (StaysBlocked channel)) →
      ∀ earlier event later, history = earlier ++ event :: later →
        ∀ attempt, event.out = some attempt →
          (attempt.packet.channel = 1 ↔
            latestFailed earlier 0 = true ∧ latestFailed earlier 1 = false)) := by
  constructor
  · simp only [pairwise_staysBlocked_iff]
    constructor
    · intro follow channel below earlier event later split
      have cut := (split ▸ run).cut
      exact (TxPartCtler.signalsFollow_iff cut).mp (follow earlier event later split)
        channel below
    · intro every earlier event later split
      have cut := (split ▸ run).cut
      exact (TxPartCtler.signalsFollow_iff cut).mpr fun channel below =>
        every channel below earlier event later split
  · rintro rfl ordered earlier event later rfl attempt outEq
    rcases event with ⟨ctler, op, out, next⟩
    obtain rfl : out = some attempt := outEq
    obtain ⟨before, taken⟩ : _ ∧
        TxPartCtler.step socketInfos ctler op = .ok (some attempt, next) := run.cut.of_snoc
    have signals : ctler.SignalsFollow earlier :=
      (TxPartCtler.signalsFollow_iff before).mpr fun channel below =>
        everFailed_eq_latestFailed (List.pairwise_append.mp (ordered channel below)).1
    cases op with
    | attempt packet outcome =>
        rcases TxPartCtler.step_attempt_cases taken with
          ⟨none, _⟩ | ⟨_, message, packetType, some, attempts⟩
        · cases none
        · cases some
          rw [attempts.packet_eq, PacketWithMeta.channel_setIndicator]
          exact attempts.decides.linkOf_conditionalRR (TxPartCtler.policy_of_run before)
            signals
    | setPolicyParameters parameters => cases taken
    | publish snapshot => cases taken

/-- The first link takes a packet and refuses the next; the second takes the rest. -/
def divertedFrame : List CtlerOp :=
  [.attempt (framePacket 0 4) .sent, .attempt (framePacket 1 4) .wouldBlock,
    .publish orderedSnapshot, .attempt (framePacket 1 4) .sent,
    .attempt (framePacket 2 4) .sent, .attempt (framePacket 3 4) .failed]

theorem blocked_signals_follow_iff_diverted :
    ∃ history state, Run (TxPartCtler.step bothSockets)
        (startedCtler .conditionalRR false) history state ∧
      history.map Event.op = divertedFrame ∧
      history.map (fun event => event.out.map fun attempt => attempt.packet.channel) =
        [some 0, some 0, none, some 1, some 1, some 1] ∧
      ((∀ earlier event later, history = earlier ++ event :: later →
          event.after.SignalsFollow (earlier ++ [event])) ↔
        ∀ channel < 2, history.Pairwise (StaysBlocked channel)) ∧
      ∀ earlier event later, history = earlier ++ event :: later →
        ∀ attempt, event.out = some attempt →
          (attempt.packet.channel = 1 ↔
            latestFailed earlier 0 = true ∧ latestFailed earlier 1 = false) := by
  rcases exists_run_of_trace (TxPartCtler.step bothSockets) (startedCtler .conditionalRR false)
    divertedFrame (fun history _ =>
      history.map (fun event => event.out.map fun attempt => attempt.packet.channel) =
        [some 0, some 0, none, some 1, some 1, some 1] ∧
      ∀ channel ∈ List.range 2, history.Pairwise (StaysBlocked channel)) (by decide +kernel) with
    ⟨history, state, run, opsEq, passes⟩
  rcases of_decide_eq_true passes with ⟨channels, ordered⟩
  have follows := blocked_signals_follow_iff run
  exact ⟨history, state, run, opsEq, channels, follows.1, follows.2 rfl fun channel below =>
    ordered channel (List.mem_range.mpr below)⟩

/-- Both links refuse a packet; the first then takes one and stays blocked. -/
def recoveringLink : List CtlerOp :=
  [.attempt singlePacket .wouldBlock, .attempt singlePacket .wouldBlock,
    .attempt singlePacket .sent]

theorem signal_outlives_success :
    ∃ history state, Run (TxPartCtler.step bothSockets)
        (startedCtler .conditionalRR false) history state ∧
      history.map Event.op = recoveringLink ∧
      latestFailed history 0 = false ∧ state.blockedSignals[0]? = some true := by
  obtain ⟨history, state, run, opsEq, passes⟩ :=
    exists_run_of_trace (TxPartCtler.step bothSockets) (startedCtler .conditionalRR false)
      recoveringLink
      (fun history state =>
        !latestFailed history 0 && state.blockedSignals[0]? == some true)
      (by decide +kernel)
  rw [Bool.and_eq_true, Bool.not_eq_true', beq_iff_eq] at passes
  exact ⟨history, state, run, opsEq, passes.1, passes.2⟩

end StreamReplay
