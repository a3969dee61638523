import StreamReplay.Foundation.Sequence
import StreamReplay.Tx.Conservation
import StreamReplay.Tx.Packetise

/-!
# Refused packets

Every refusal on the cached rate adds the packet's length to `acc_error`, so a
packet with bytes in it is judged against a fresh rate after at most `max_error`
refusals.  A packet without bytes, such as the last one of a frame that fills its
payloads exactly, adds nothing.
-/

namespace StreamReplay

open Checked FallibleRun

namespace ThrottlerEvent

/-- The call refuses the packet at the head of the buffer. -/
def Refuses (event : ThrottlerEvent) : Prop :=
  ∃ clock callback packet rest, event.op = .tryConsume clock callback ∧
    event.before.buffer.fifo = packet :: rest ∧
    event.before.exceedsWith clock packet.packet.length.toNat = .ok (true, event.after)

/-- The call computes the last rate anew from its clock. -/
def Recomputes (event : ThrottlerEvent) : Prop :=
  ∃ clock callback packet rest oldest, event.op = .tryConsume clock callback ∧
    event.before.buffer.fifo = packet :: rest ∧
    event.before.window.front = some oldest ∧
    event.before.maxError ≤ event.before.accError + packet.packet.length.toNat ∧
    event.after.lastRate =
      event.before.rateSince oldest.1 clock.rate packet.packet.length.toNat

/-- A refusal without a recomputation leaves all but `acc_error` as it was. -/
theorem charge_of_refuses (event : ThrottlerEvent) {packet : PacketWithMeta}
    {rest : List PacketWithMeta} (head : event.before.buffer.fifo = packet :: rest)
    (refuses : event.Refuses) (stale : ¬event.Recomputes) :
    event.after = event.before.charge packet.packet.length.toNat ∧
      event.before.accError + packet.packet.length.toNat < event.before.maxError ∧
      ¬event.before.lastRate < event.before.throttle := by
  rcases event with ⟨before, op, out, after⟩
  rcases refuses with ⟨clock, callback, packet', rest', opEq, head', refused⟩
  rcases List.cons.inj (head.symm.trans head') with ⟨rfl, rfl⟩
  dsimp only at head refused ⊢
  cases RateThrottler.exceedsWith_eq_ok.mp refused with
  | refused judged nonempty check not_lt =>
      cases check with
      | cached below => exact ⟨rfl, below, not_lt⟩
      | computed reached oldest_eq =>
          exact absurd ⟨clock, callback, packet, rest, _, opEq, head, oldest_eq, reached, rfl⟩
            stale

end ThrottlerEvent

/-- A run of such refusals adds the packet's length as often as it refuses. -/
theorem charged_of_refusals {start last : RateThrottler} {refusals : List ThrottlerEvent}
    (run : ThrottlerRun start refusals last) {packet : PacketWithMeta}
    {rest : List PacketWithMeta} (head : start.buffer.fifo = packet :: rest)
    (refuses : ∀ event ∈ refusals, ThrottlerEvent.Refuses event)
    (stale : ∀ event ∈ refusals, ¬ThrottlerEvent.Recomputes event) :
    last = start.charge (refusals.length * packet.packet.length.toNat) ∧
      (refusals ≠ [] → last.accError < start.maxError ∧ ¬start.lastRate < start.throttle) := by
  induction run with
  | nil => simp [RateThrottler.charge]
  | @snoc earlier middle next op out run taken ih =>
      obtain ⟨middleEq, _⟩ := ih
        (fun event member => refuses event (List.mem_append_left _ member))
        (fun event member => stale event (List.mem_append_left _ member))
      have headKept : middle.buffer.fifo = packet :: rest := by
        rw [middleEq]
        exact head
      obtain ⟨nextEq, below, not_lt⟩ := ThrottlerEvent.charge_of_refuses
        ⟨middle, op, out, next⟩ headKept (refuses _ (by simp)) (stale _ (by simp))
      simp only at nextEq below not_lt
      subst nextEq middleEq
      refine ⟨?_, fun _ => ⟨below, not_lt⟩⟩
      simp only [RateThrottler.charge, List.length_append, List.length_singleton, add_mul,
        one_mul, add_assoc]

/-- A packet without bytes that is refused on the cached rate is refused again and
again, and the rate is never computed anew. -/
theorem refusals_of_stalled {state : RateThrottler} {packet : PacketWithMeta}
    {rest : List PacketWithMeta} (throttled : 0 < state.throttle)
    (nonempty : state.window.fifo ≠ []) (head : state.buffer.fifo = packet :: rest)
    (noBytes : packet.packet.length.toNat = 0) (cached : state.accError < state.maxError)
    (not_lt : ¬state.lastRate < state.throttle) (count : Nat) :
    ∃ refusals, ThrottlerRun state refusals state ∧ refusals.length = count ∧
      ∀ event ∈ refusals, ThrottlerEvent.Refuses event ∧ ¬ThrottlerEvent.Recomputes event := by
  have uncharged : state.charge 0 = state := rfl
  have refused : RateThrottler.Admission state (.still 0) packet.packet.length.toNat true
      state := by
    rw [noBytes]
    exact .refused throttled.ne' nonempty (.cached cached) not_lt
  let event : ThrottlerEvent :=
    ⟨state, .tryConsume (.still 0) fun _ => true, some false, state⟩
  have taken : RateThrottler.step state event.op = .ok (event.out, state) :=
    RateThrottler.tryConsume_eq_ok.mpr (.refused head refused)
  have refuses : event.Refuses :=
    ⟨_, _, packet, rest, rfl, head, RateThrottler.exceedsWith_eq_ok.mpr refused⟩
  have stale : ¬event.Recomputes := by
    rintro ⟨_, _, packet', rest', _, _, head', _, reached, _⟩
    rcases List.cons.inj (head.symm.trans head') with ⟨rfl, rfl⟩
    rw [noBytes] at reached
    exact Nat.not_lt.mpr reached cached
  induction count with
  | zero => exact ⟨[], .nil, rfl, by simp⟩
  | succ count ih =>
      rcases ih with ⟨refusals, run, lengthEq, every⟩
      refine ⟨refusals ++ [event], run.snoc taken, by simp [lengthEq], ?_⟩
      intro other member
      rcases List.mem_append.mp member with earlier | last
      · exact every other earlier
      · rw [List.mem_singleton.mp last]
        exact ⟨refuses, stale⟩

/-! ## Packets without bytes -/

/-- The packets without bytes are the last ones of frames that fill their
payloads exactly. -/
theorem length_eq_zero_of_generated {now : ℚ} {template final : PacketWithMeta} {size : Nat}
    {buffer : Option (List UInt8)} {packets : List PacketWithMeta}
    (sized : ∀ bytes, buffer = some bytes → bytes.length = size)
    (generated : packetise now template size buffer = .ok (packets, final))
    {packet : PacketWithMeta} (member : packet ∈ packets) :
    packet.packet.length.toNat = 0 ↔ packet.lastOne = true ∧ size % maxPayloadLen = 0 := by
  rcases emitted_of_packetise sized generated with ⟨_, _, every⟩
  rcases Sequence.exists_related_of_mem every member with ⟨offset, _, emitted⟩
  have lastIff : packet.lastOne = true ↔ offset.toNat = (frameNum size - 1) % 2 ^ 16 := by
    rw [emitted.lastOne_eq, beq_iff_eq, ← UInt16.toNat_inj, UInt16.toNat_ofNat']
  rw [emitted.length_eq, toNat_packetLength, lastIff, maxPayloadLen_eq]
  split
  next last => exact ⟨fun zero => ⟨last, zero⟩, And.right⟩
  next inner => exact iff_of_false (by decide) fun holds => inner holds.1

/-- A frame of four full payloads. -/
def fullFrame : List UInt8 := List.replicate (4 * maxPayloadLen) 0

def fullFramePackets : List PacketWithMeta :=
  ((packetise 0 (.new 0) fullFrame.length (some fullFrame)).toOption.map Prod.fst).getD []

theorem packetise_fullFrame :
    ∃ final, packetise 0 (.new 0) fullFrame.length (some fullFrame) =
      .ok (fullFramePackets, final) := by
  have sized : ∀ bytes, some fullFrame = some bytes → bytes.length = fullFrame.length := by
    simp
  obtain ⟨packets, final, generated, _⟩ :=
    packetise_spec 0 (.new 0) sized (by decide)
  refine ⟨final, ?_⟩
  rw [fullFramePackets, generated]
  rfl

/-- A throttled packet is judged against a fresh rate within `max_error + 1`
refusals exactly when it has bytes, or the rate is due to be computed, or the
cached rate admits it. -/
theorem refusals_recompute_iff {state : RateThrottler} (throttled : 0 < state.throttle)
    (nonempty : state.window.fifo ≠ [])
    {now : ℚ} {template final : PacketWithMeta} {buffer : List UInt8}
    {packets : List PacketWithMeta}
    (generated : packetise now template buffer.length (some buffer) = .ok (packets, final))
    {packet : PacketWithMeta} (member : packet ∈ packets) {rest : List PacketWithMeta}
    (head : state.buffer.fifo = packet :: rest) :
    (∀ refusals last, ThrottlerRun state refusals last →
      refusals.length = state.maxError + 1 →
      (∀ event ∈ refusals, ThrottlerEvent.Refuses event) →
      ∃ event ∈ refusals, ThrottlerEvent.Recomputes event) ↔
    ¬(packet.lastOne = true ∧ buffer.length % maxPayloadLen = 0) ∨
      state.maxError ≤ state.accError ∨ state.lastRate < state.throttle := by
  have noBytes := length_eq_zero_of_generated (by simp) generated member
  rw [← noBytes]
  constructor
  · intro fresh
    by_contra stalled
    simp only [not_or, not_not, not_le] at stalled
    rcases stalled with ⟨empty, cached, not_lt⟩
    obtain ⟨refusals, run, count, every⟩ :=
      refusals_of_stalled throttled nonempty head empty cached not_lt (state.maxError + 1)
    obtain ⟨event, inRefusals, recomputes⟩ :=
      fresh refusals state run count fun event inRefusals => (every event inRefusals).1
    exact (every event inRefusals).2 recomputes
  · intro condition refusals last run count refuses
    by_contra stale
    simp only [not_exists, not_and] at stale
    rcases charged_of_refusals run head refuses stale with ⟨rfl, bounded⟩
    have some : refusals ≠ [] := List.ne_nil_of_length_eq_add_one count
    rcases bounded some with ⟨below, not_lt⟩
    -- Without a recomputation the error would exceed its bound by now.
    simp only [RateThrottler.charge, count] at below
    rcases condition with bytes | due | admits
    · have grows := Nat.le_mul_of_pos_right (state.maxError + 1) (Nat.pos_of_ne_zero bytes)
      omega
    · omega
    · exact not_lt admits

theorem refusals_recompute_iff_fullFrame :
    ∃ packet rest, fullFramePackets = packet :: rest ∧
      let state : RateThrottler := { RateThrottler.new 1 100 false with
        window := ⟨100, [(0, 1463)]⟩, buffer := ⟨5000, packet :: rest⟩ }
      (∀ refusals last, ThrottlerRun state refusals last →
        refusals.length = state.maxError + 1 →
        (∀ event ∈ refusals, ThrottlerEvent.Refuses event) →
        ∃ event ∈ refusals, ThrottlerEvent.Recomputes event) ↔
      ¬(packet.lastOne = true ∧ fullFrame.length % maxPayloadLen = 0) ∨
        state.maxError ≤ state.accError ∨ state.lastRate < state.throttle := by
  rcases packetise_fullFrame with ⟨final, generated⟩
  have some : fullFramePackets ≠ [] := by
    intro none
    rcases emitted_of_packetise (by simp) generated with ⟨_, _, every⟩
    have first : (0 : UInt16) ∈ offsetRange (frameNum fullFrame.length) := by
      rw [fullFrame, List.length_replicate, mem_offsetRange]
      decide
    rw [none, List.forall₂_nil_right_iff] at every
    rw [every] at first
    cases first
  rcases List.exists_cons_of_ne_nil some with ⟨packet, rest, packetsEq⟩
  exact ⟨packet, rest, packetsEq, refusals_recompute_iff one_pos (List.cons_ne_nil _ _)
    generated (by simp [packetsEq]) rfl⟩

/-- The throttle is lowered once the first three packets are sent. -/
def throttledRun : List ThrottlerOp :=
  [.prepare 0 fullFramePackets, .tryConsume (.still 0) fun _ => true,
    .tryConsume (.still 0) fun _ => true, .tryConsume (.still (10 ^ 9)) fun _ => true,
    .setThrottle (1 / 100)]

theorem stale_rate_stalls :
    ∃ history state packet rest final, ThrottlerRun (.new 1 100 false) history state ∧
      0 < state.throttle ∧ state.window.fifo ≠ [] ∧
      packetise 0 (.new 0) fullFrame.length (some fullFrame) = .ok (fullFramePackets, final) ∧
      packet ∈ fullFramePackets ∧ state.buffer.fifo = packet :: rest ∧
      ∃ refusals last, ThrottlerRun state refusals last ∧
        refusals.length = state.maxError + 1 ∧
        (∀ event ∈ refusals, ThrottlerEvent.Refuses event) ∧
        ¬∃ event ∈ refusals, ThrottlerEvent.Recomputes event := by
  rcases packetise_fullFrame with ⟨final, generated⟩
  obtain ⟨history, state, run, opsEq, passes⟩ :=
    exists_run_of_any RateThrottler.step (.new 1 100 false) throttledRun
      (fun state => 0 < state.throttle && !state.window.fifo.isEmpty &&
        state.accError < state.maxError && !(state.lastRate < state.throttle) &&
        !state.buffer.fifo.isEmpty && state.buffer.fifo.all fun packet =>
          packet.packet.length == 0)
      (by decide +kernel)
  simp only [Bool.and_eq_true, decide_eq_true_eq, Bool.not_eq_true', decide_eq_false_iff_not,
    List.isEmpty_eq_false_iff, List.all_eq_true, beq_iff_eq] at passes
  rcases passes with ⟨⟨⟨⟨⟨throttled, nonempty⟩, cached⟩, not_lt⟩, buffered⟩, noBytes⟩
  rcases List.exists_cons_of_ne_nil buffered with ⟨packet, rest, head⟩
  have atHead : packet ∈ state.buffer.fifo := by simp [head]
  rcases offered_of_mem_buffer run rfl atHead with ⟨event, taken, offered⟩
  have isOp : event.op ∈ throttledRun := opsEq ▸ List.mem_map_of_mem taken
  have member : packet ∈ fullFramePackets := by
    rcases event with ⟨_, op, _, _⟩
    cases op <;> simp_all [throttledRun, ThrottlerEvent.offers]
  obtain ⟨refusals, stalled, count, every⟩ :=
    refusals_of_stalled throttled nonempty head (by rw [noBytes packet atHead]; rfl) cached
      not_lt (state.maxError + 1)
  refine ⟨history, state, packet, rest, final, run, throttled, nonempty, generated, member,
    head, refusals, state, stalled, count, fun event member => (every event member).1, ?_⟩
  rintro ⟨event, member, recomputes⟩
  exact (every event member).2 recomputes

end StreamReplay
