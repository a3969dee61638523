import StreamReplay.Tx.Admission

/-!
# Conservation of packets

Between two resets the throttler's buffer is a FIFO channel: what was sent,
followed by what is still buffered, is what `prepare` accepted, in order.
-/

namespace StreamReplay

open Checked FallibleRun

/-- One operation on a throttler, with the states around it. -/
abbrev ThrottlerEvent := Event RateThrottler ThrottlerOp (Option Bool)

/-- The runs of a throttler, over steps that do not panic. -/
abbrev ThrottlerRun := Run RateThrottler.step

/-- The packet that `try_consume` hands to its callback. -/
def RateThrottler.handed (throttler : RateThrottler) (clock : Clock) :
    Option PacketWithMeta :=
  match throttler.buffer.front with
  | none => none
  | some packet =>
      match throttler.exceedsWith clock packet.packet.length.toNat with
      | .ok (false, _) => some packet
      | _ => none

namespace ThrottlerEvent

/-- The packets offered to `prepare`. -/
def offers (event : ThrottlerEvent) : List PacketWithMeta :=
  match event.op with
  | .prepare _ packets => packets
  | _ => []

/-- The offered packets that the buffer accepts. -/
def accepts (event : ThrottlerEvent) : List PacketWithMeta :=
  event.before.buffer.accepted event.offers

/-- The packets for which a callback returned true. -/
def sends (event : ThrottlerEvent) : List PacketWithMeta :=
  match event.op with
  | .tryConsume clock callback => (event.before.handed clock).toList.filter callback
  | _ => []

def isReset (event : ThrottlerEvent) : Bool :=
  match event.op with
  | .reset => true
  | _ => false

end ThrottlerEvent

/-- The packets accepted since the last reset. -/
def acceptedSince (history : List ThrottlerEvent) : List PacketWithMeta :=
  collect ThrottlerEvent.accepts ThrottlerEvent.isReset history

/-- The packets sent since the last reset. -/
def sentSince (history : List ThrottlerEvent) : List PacketWithMeta :=
  collect ThrottlerEvent.sends ThrottlerEvent.isReset history

namespace RateThrottler

theorem handed_of_admission {throttler next : RateThrottler} {clock : Clock}
    {packet : PacketWithMeta} {rest : List PacketWithMeta} {exceeds : Bool}
    (head : throttler.buffer.fifo = packet :: rest)
    (admission : Admission throttler clock packet.packet.length.toNat exceeds next) :
    throttler.handed clock = if exceeds then none else some packet := by
  simp only [handed, CycledVecDequeue.front, head, List.head?_cons,
    exceedsWith_eq_ok.mpr admission]
  cases exceeds <;> rfl

/-- What `try_consume` sends is what leaves the buffer. -/
theorem Consumption.sent_append {throttler next : RateThrottler} {clock : Clock}
    {callback : PacketWithMeta → Bool} {out : Option Bool}
    (consumption : Consumption throttler clock callback out next) :
    (throttler.handed clock).toList.filter callback ++ next.buffer.fifo =
      throttler.buffer.fifo := by
  cases consumption with
  | idle empty => simp [handed, CycledVecDequeue.front, empty]
  | refused head admission =>
      simp [handed_of_admission head admission, admission.sameQueue.buffer_eq]
  | failed head admission unsent =>
      simp [handed_of_admission head admission, admission.sameQueue.buffer_eq, unsent]
  | sent head admission sends =>
      simp [handed_of_admission head admission, sends, head]

/-- No operation changes the size limit of the buffer, or exceeds it. -/
theorem buffer_within_of_step {throttler next : RateThrottler} {op : ThrottlerOp}
    {out : Option Bool} {limit : Nat}
    (within : throttler.buffer.size = limit ∧ throttler.buffer.Within)
    (taken : step throttler op = .ok (out, next)) :
    next.buffer.size = limit ∧ next.buffer.Within := by
  rcases within with ⟨sizeEq, within⟩
  cases op with
  | prepare now packets =>
      rcases bind_eq_ok.mp taken with ⟨prepared, accepted, equal⟩
      rcases prepare_eq_ok.mp accepted with ⟨_, checked, _, rfl⟩
      cases equal
      exact ⟨by simp [sizeEq], within.tryPushAll packets⟩
  | tryConsume clock callback =>
      cases tryConsume_eq_ok.mp taken with
      | idle => exact ⟨sizeEq, within⟩
      | refused _ admission | failed _ admission =>
          rw [admission.sameQueue.buffer_eq]
          exact ⟨sizeEq, within⟩
      | @sent packet rest _ _ _ head =>
          refine ⟨sizeEq, ?_⟩
          have popped := within.popFront
          simpa only [CycledVecDequeue.popFront, head, List.tail_cons] using popped
  | setThrottle throttle =>
      cases taken
      exact ⟨sizeEq, within⟩
  | reset =>
      cases taken
      exact ⟨sizeEq, by simp [reset, CycledVecDequeue.reset, CycledVecDequeue.Within,
        CycledVecDequeue.len]⟩

/-- The conservation law for one step. -/
theorem conserves_of_step {before after : RateThrottler} {op : ThrottlerOp}
    {out : Option Bool} (taken : step before op = .ok (out, after))
    {sent accepted : List PacketWithMeta}
    (conserved : sent ++ before.buffer.fifo = accepted) :
    let event : ThrottlerEvent := ⟨before, op, out, after⟩
    (if event.isReset then [] else sent ++ event.sends) ++ after.buffer.fifo =
      if event.isReset then [] else accepted ++ event.accepts := by
  cases op with
  | prepare now packets =>
      rcases bind_eq_ok.mp taken with ⟨prepared, kept, equal⟩
      rcases prepare_eq_ok.mp kept with ⟨_, checked, _, rfl⟩
      cases equal
      simp [ThrottlerEvent.isReset, ThrottlerEvent.sends, ThrottlerEvent.accepts,
        ThrottlerEvent.offers, CycledVecDequeue.fifo_tryPushAll, ← conserved]
  | tryConsume clock callback =>
      have sentAppend := (tryConsume_eq_ok.mp taken).sent_append
      simp [ThrottlerEvent.isReset, ThrottlerEvent.sends, ThrottlerEvent.accepts,
        ThrottlerEvent.offers, CycledVecDequeue.accepted, sentAppend, conserved]
  | setThrottle throttle =>
      cases taken
      simp [ThrottlerEvent.isReset, ThrottlerEvent.sends, ThrottlerEvent.accepts,
        ThrottlerEvent.offers, CycledVecDequeue.accepted, conserved]
  | reset =>
      cases taken
      simp [ThrottlerEvent.isReset, reset, CycledVecDequeue.reset]

end RateThrottler

/-- The conservation law for a run. -/
theorem sent_append_buffer {start state : RateThrottler} {history : List ThrottlerEvent}
    (run : ThrottlerRun start history state) (empty : start.buffer.fifo = []) :
    sentSince history ++ state.buffer.fifo = acceptedSince history := by
  induction run with
  | nil => exact empty
  | snoc _ taken ih =>
      simp only [sentSince, acceptedSince, collect_snoc] at ih ⊢
      exact RateThrottler.conserves_of_step taken ih

/-- Whatever is buffered was offered. -/
theorem offered_of_mem_buffer {start state : RateThrottler} {history : List ThrottlerEvent}
    (run : ThrottlerRun start history state) (empty : start.buffer.fifo = [])
    {packet : PacketWithMeta} (buffered : packet ∈ state.buffer.fifo) :
    ∃ event ∈ history, packet ∈ ThrottlerEvent.offers event := by
  have accepted : packet ∈ acceptedSince history := by
    rw [← sent_append_buffer run empty]
    exact List.mem_append_right _ buffered
  rcases exists_of_mem_collect accepted with ⟨event, member, accepted⟩
  exact ⟨event, member, (CycledVecDequeue.accepted_sublist _ _).mem accepted⟩

/-- In every run, since construction or the last reset: the packets sent, followed
by the buffer, are the packets accepted; a packet is not accepted only at a full
buffer; and the buffer keeps its limit, where it has one. -/
theorem throttler_conserves_packets {throttle : ℚ} {windowSize : Nat}
    {infiniteBuffer : Bool} {history : List ThrottlerEvent} {state : RateThrottler}
    (run : ThrottlerRun (.new throttle windowSize infiniteBuffer) history state) :
    sentSince history ++ state.buffer.fifo = acceptedSince history ∧
      (∀ event ∈ history, ∀ earlier packet later,
        ThrottlerEvent.offers event = earlier ++ packet :: later →
        ((event.before.buffer.tryPushAll earlier).tryPush packet).1 = false →
        0 < cycledRatio * windowSize ∧
          (event.before.buffer.tryPushAll earlier).len = cycledRatio * windowSize) ∧
      (infiniteBuffer = true ∨ windowSize = 0 ∨
        state.buffer.len ≤ cycledRatio * windowSize) := by
  let limit := if infiniteBuffer then 0 else cycledRatio * windowSize
  have limited : ∀ {history : List ThrottlerEvent} {state : RateThrottler},
      ThrottlerRun (.new throttle windowSize infiniteBuffer) history state →
      state.buffer.size = limit ∧ state.buffer.Within := by
    intro history state run
    refine run.invariant ?_
      fun _ _ _ _ within taken => RateThrottler.buffer_within_of_step within taken
    cases infiniteBuffer <;> exact ⟨rfl, Or.inr (Nat.zero_le _)⟩
  refine ⟨sent_append_buffer run (by cases infiniteBuffer <;> rfl), ?_, ?_⟩
  · intro event member earlier packet later _ refused
    rcases run.split member with ⟨_, _, _, cut⟩
    have full := CycledVecDequeue.tryPush_eq_false.mp refused
    rw [CycledVecDequeue.Full, CycledVecDequeue.size_tryPushAll, (limited cut).1] at full
    cases infiniteBuffer with
    | true => exact absurd full.1 (Nat.lt_irrefl 0)
    | false => exact full
  · rcases limited run with ⟨sizeEq, within⟩
    rw [CycledVecDequeue.Within, sizeEq] at within
    cases infiniteBuffer with
    | true => exact .inl rfl
    | false =>
        right
        exact within.imp_left fun zero => (Nat.mul_eq_zero.mp zero).resolve_left (by decide)

theorem throttler_conserves_packets_two :
    ∃ history state, ThrottlerRun (.new 0 1 false) history state ∧
      history.map Event.op =
        [.prepare 0 [.new 1, .new 2], .tryConsume (.still 1) fun _ => true] ∧
      sentSince history ++ state.buffer.fifo = acceptedSince history := by
  obtain ⟨history, state, run, opsEq, _⟩ :=
    exists_run_of_any RateThrottler.step (.new 0 1 false)
      [.prepare 0 [.new 1, .new 2], .tryConsume (.still 1) fun _ => true] (fun _ => true)
      (by decide +kernel)
  exact ⟨history, state, run, opsEq, (throttler_conserves_packets run).1⟩

end StreamReplay
