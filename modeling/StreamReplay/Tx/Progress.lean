import StreamReplay.Foundation.Progress
import StreamReplay.Tx.Counters
import Mathlib.Algebra.Order.Archimedean.Basic

/-!
# Whether the queue is ever sent

A packet at the head of the buffer is offered again and again, as in the loop of
`process_queue`, and the callback takes whatever it is given.  A rate that is computed late
enough is below any throttle, so a packet is kept back for good only when the rate is not
computed: when the packet has no bytes, and the last rate is above the throttle.
-/

namespace StreamReplay

open Checked Progress

namespace RateThrottler

/-! ## Offers return -/

/-- The counters are right, and no entry of the window is in the future. -/
structure Current (throttler : RateThrottler) (now : Time) : Prop where
  counted : Counted throttler
  past : ∀ entry ∈ throttler.window.fifo, entry.1 ≤ now

theorem Current.mono {throttler : RateThrottler} {now later : Time}
    (current : Current throttler now) (forward : now ≤ later) : Current throttler later where
  counted := current.counted
  past := fun entry member => (current.past entry member).trans forward

/-- A rate check returns; over a window with an entry it knows a rate. -/
theorem exists_rateCheck {throttler : RateThrottler} {now : Time} (extra : Nat)
    (past : ∀ entry ∈ throttler.window.fifo, entry.1 ≤ now) :
    ∃ rate checked, RateCheck throttler now extra rate checked ∧
      (throttler.window.fifo ≠ [] → rate.isSome = true) := by
  by_cases below : throttler.accError < throttler.maxError
  · exact ⟨_, _, .cached below, fun _ => rfl⟩
  · have reached := Nat.not_lt.mp below
    cases entries : throttler.window.fifo with
    | nil => exact ⟨_, _, .unknown reached entries, fun some => absurd rfl some⟩
    | cons oldest newer =>
        have front : throttler.window.front = some oldest := by
          rw [CycledVecDequeue.front, entries, List.head?_cons]
        have member : oldest ∈ throttler.window.fifo := entries ▸ List.mem_cons_self
        exact ⟨_, _, .computed reached front (past oldest member), fun _ => rfl⟩

theorem exists_admission {throttler : RateThrottler} {clock : Clock} (sizeBytes : Nat)
    (current : Current throttler clock.rate) :
    ∃ exceeds next, Admission throttler clock sizeBytes exceeds next := by
  have summed := current.counted.sumBytes_eq
  by_cases unjudged : throttler.throttle = 0 ∨ throttler.window.fifo = []
  · rcases account_returns summed clock.push sizeBytes with ⟨next, accounted⟩
    exact ⟨_, next, .free unjudged accounted⟩
  · rcases not_or.mp unjudged with ⟨judged, nonempty⟩
    have charged : ∀ entry ∈ (throttler.charge sizeBytes).window.fifo, entry.1 ≤ clock.rate :=
      current.past
    rcases exists_rateCheck sizeBytes charged with ⟨rate?, checked, check, known⟩
    rcases Option.isSome_iff_exists.mp (known nonempty) with ⟨rate, rfl⟩
    by_cases rate_lt : rate < throttler.throttle
    · have checkedSum : checked.sumBytes = (checked.window.fifo.map Prod.snd).sum := by
        rw [check.sumBytes_eq, check.window_eq]
        exact summed
      rcases account_returns checkedSum clock.push sizeBytes with ⟨next, accounted⟩
      exact ⟨_, next, .below judged nonempty check rate_lt accounted⟩
    · exact ⟨_, checked, .refused judged nonempty check rate_lt⟩

/-- The entry of an admission is made at its time. -/
theorem Admission.past {throttler next : RateThrottler} {clock : Clock} {sizeBytes : Nat}
    {exceeds : Bool} (admission : Admission throttler clock sizeBytes exceeds next)
    (past : ∀ entry ∈ throttler.window.fifo, entry.1 ≤ clock.rate) :
    ∀ entry ∈ next.window.fifo, entry.1 ≤ clock.push := by
  intro entry member
  cases exceeds with
  | true =>
      rw [admission.not_entered.1] at member
      exact (past entry member).trans clock.rate_le_push
  | false =>
      rw [admission.entered.1] at member
      have kept : entry ∈ throttler.window.fifo ++ [(clock.push, sizeBytes)] := by
        rw [← CycledVecDequeue.toList_append_push]
        exact List.mem_append_right _ member
      rcases List.mem_append.mp kept with old | new
      · exact (past entry old).trans clock.rate_le_push
      · rw [List.mem_singleton.mp new]

/-- An offer returns while the clock does not go backwards. -/
theorem Current.offer {throttler : RateThrottler} {clock : Clock}
    (current : Current throttler clock.rate) (callback : PacketWithMeta → Bool) :
    ∃ out next, Consumption throttler clock callback out next ∧ Current next clock.consume := by
  have later := clock.push_le_consume
  cases head : throttler.buffer.fifo with
  | nil =>
      exact ⟨_, _, .idle head, current.mono (clock.rate_le_push.trans later)⟩
  | cons packet rest =>
      rcases exists_admission packet.packet.length.toNat current with
        ⟨exceeds, admitted, admission⟩
      have past : ∀ entry ∈ admitted.window.fifo, entry.1 ≤ clock.consume :=
        fun entry member => (admission.past current.past entry member).trans later
      have unsent : Current admitted clock.consume :=
        ⟨current.counted.of_admission admission, past⟩
      cases exceeds with
      | true => exact ⟨_, _, .refused head admission, unsent⟩
      | false =>
          cases sends : callback packet with
          | false => exact ⟨_, _, .failed head admission sends, unsent⟩
          | true =>
              have marked : packet.lastOne = true → 1 ≤ throttler.frameCount := by
                intro isLast
                have counted := current.counted.marked_le
                rw [head, List.countP_cons, if_pos isLast] at counted
                omega
              have released : ∀ entry ∈ (admitted.released packet.lastOne).window.fifo,
                  entry.1 ≤ clock.consume := past
              rcases exists_rateCheck 0 released with ⟨rate, checked, check, _⟩
              have consumption : Consumption throttler clock callback (some true) _ :=
                .sent head admission sends marked check
              refine ⟨_, _, consumption, current.counted.of_consumption consumption, ?_⟩
              change ∀ entry ∈ checked.window.fifo, entry.1 ≤ clock.consume
              rw [check.window_eq]
              exact past

/-! ## Late rates -/

/-- A rate is below the throttle when enough time has passed. -/
theorem averageRateMbps_lt_iff {size time : Nat} {throttle : ℚ} :
    averageRateMbps size time < throttle ↔ 8000 * (size : ℚ) < throttle * time := by
  unfold averageRateMbps
  split
  next none =>
    refine iff_of_false not_top_lt ?_
    rw [none, Nat.cast_zero, mul_zero, not_lt]
    positivity
  next some =>
    have positive : (0 : ℚ) < time := Nat.cast_pos.mpr (Nat.pos_of_ne_zero some)
    rw [WithTop.coe_lt_coe, div_lt_iff₀ (by positivity)]
    constructor
    · intro below
      linarith
    · intro below
      linarith

/-- There is a time from which on a rate over given bytes is below the throttle. -/
theorem exists_late {throttle : ℚ} (positive : 0 < throttle) (size : Nat) (oldest : Time) :
    ∃ due : Time, ∀ now, due ≤ now → averageRateMbps size (now - oldest) < throttle := by
  rcases exists_nat_gt (8000 * (size : ℚ) / throttle) with ⟨wait, enough⟩
  refine ⟨oldest + wait, fun now late => averageRateMbps_lt_iff.mpr ?_⟩
  rw [div_lt_iff₀ positive] at enough
  rw [mul_comm throttle]
  refine enough.trans_le (mul_le_mul_of_nonneg_right ?_ positive.le)
  exact Nat.cast_le.mpr (Nat.le_sub_of_add_le' late)

/-! ## Endless offers -/

/-- The head of the buffer has no bytes and is refused on a rate that is not computed. -/
structure Stalled (throttler : RateThrottler) : Prop where
  judged : throttler.throttle ≠ 0
  nonempty : throttler.window.fifo ≠ []
  noBytes : ∃ packet rest, throttler.buffer.fifo = packet :: rest ∧
    packet.packet.length.toNat = 0
  cached : throttler.accError < throttler.maxError
  not_lt : ¬throttler.lastRate < throttler.throttle

/-- The readings of a clock that runs on and on. -/
structure Endless (clocks : Nat → Clock) : Prop where
  forward : ∀ count, (clocks count).consume ≤ (clocks (count + 1)).rate
  unbounded : ∀ time, ∃ count, time ≤ (clocks count).rate

theorem Endless.mono {clocks : Nat → Clock} (endless : Endless clocks) {first second : Nat}
    (ordered : first ≤ second) : (clocks first).rate ≤ (clocks second).rate := by
  induction second, ordered using Nat.le_induction with
  | base => exact le_refl _
  | succ second _ ih =>
      have within := (clocks second).rate_le_push.trans (clocks second).push_le_consume
      exact (ih.trans within).trans (endless.forward second)

/-- The buffer is offered again and again to a callback that takes every packet. -/
structure Offering (states : Nat → RateThrottler) (clocks : Nat → Clock) : Prop where
  endless : Endless clocks
  offer : ∀ count, ∃ out,
    Consumption (states count) (clocks count) (fun _ => true) out (states (count + 1))

/-- What a refusal leaves as it is. -/
structure Kept (before after : RateThrottler) : Prop where
  queue : SameQueue before after
  window_eq : after.window = before.window
  sumBytes_eq : after.sumBytes = before.sumBytes

/-- An offer that does not send the head leaves the queue and the window alone.  If the
rate was computed for it, it was computed too early; otherwise the bytes of the head have
been added to the error. -/
theorem Consumption.sends_or_keeps {throttler next : RateThrottler} {clock : Clock}
    {out : Option Bool} {packet : PacketWithMeta} {rest : List PacketWithMeta}
    (consumption : Consumption throttler clock (fun _ => true) out next)
    (head : throttler.buffer.fifo = packet :: rest) :
    next.buffer.fifo = rest ∨
      throttler.throttle ≠ 0 ∧ throttler.window.fifo ≠ [] ∧ Kept throttler next ∧
        ((∃ oldest ∈ throttler.window.front, ¬averageRateMbps
            (throttler.sumBytes + packet.packet.length.toNat) (clock.rate - oldest.1) <
              throttler.throttle) ∨
          ¬throttler.lastRate < throttler.throttle ∧
            next.accError = throttler.accError + packet.packet.length.toNat ∧
            next.accError < next.maxError) := by
  cases consumption with
  | idle empty =>
      rw [head] at empty
      cases empty
  | failed _ _ unsent => cases unsent
  | sent first admission _ _ check =>
      rw [head] at first
      cases first
      exact .inl rfl
  | refused first admission =>
      rw [head] at first
      cases first
      have kept : Kept throttler next :=
        ⟨admission.sameQueue, admission.not_entered.1, admission.not_entered.2⟩
      cases admission with
      | refused judged nonempty check not_lt =>
          refine .inr ⟨judged, nonempty, kept, ?_⟩
          cases check with
          | cached below => exact .inr ⟨not_lt, rfl, below⟩
          | computed reached oldest_eq forward =>
              exact .inl ⟨_, oldest_eq, not_lt⟩

theorem Consumption.throttle_eq {throttler next : RateThrottler} {clock : Clock}
    {callback : PacketWithMeta → Bool} {out : Option Bool}
    (consumption : Consumption throttler clock callback out next) :
    next.throttle = throttler.throttle := by
  cases consumption with
  | idle => rfl
  | refused _ admission => exact admission.sameQueue.throttle_eq
  | failed _ admission _ => exact admission.sameQueue.throttle_eq
  | sent _ admission _ _ check =>
      exact check.sameQueue.throttle_eq.trans admission.sameQueue.throttle_eq

theorem Consumption.eq_of_empty {throttler next : RateThrottler} {clock : Clock}
    {callback : PacketWithMeta → Bool} {out : Option Bool}
    (consumption : Consumption throttler clock callback out next)
    (empty : throttler.buffer.fifo = []) : next = throttler := by
  cases consumption with
  | idle => rfl
  | refused head | failed head | sent head =>
      rw [empty] at head
      cases head

variable {states : Nat → RateThrottler} {clocks : Nat → Clock}

theorem Offering.throttle_eq (offering : Offering states clocks) (count : Nat) :
    (states count).throttle = (states 0).throttle := by
  induction count with
  | zero => rfl
  | succ count ih => exact (offering.offer count).choose_spec.throttle_eq.trans ih

/-- Unless the throttler stalls, the head of the buffer is sent in the end. -/
theorem Offering.head_leaves (offering : Offering states clocks)
    (nonneg : 0 ≤ (states 0).throttle) (lively : ∀ count, ¬Stalled (states count))
    {now : Nat} {packet : PacketWithMeta} {rest : List PacketWithMeta}
    (head : (states now).buffer.fifo = packet :: rest) :
    ∃ later, now ≤ later ∧ (states (later + 1)).buffer.fifo = rest := by
  by_contra stuck
  simp only [not_exists, not_and] at stuck
  have headOf : ∀ {other : RateThrottler}, Kept (states now) other →
      other.buffer.fifo = packet :: rest :=
    fun kept => (congrArg CycledVecDequeue.fifo kept.queue.buffer_eq).trans head
  have kept : ∀ later, now ≤ later → Kept (states now) (states later) := by
    refine stable states (Kept (states now)) (fun time reached same => ?_)
      ⟨⟨rfl, rfl, rfl, rfl, rfl⟩, rfl, rfl⟩
    rcases offering.offer time with ⟨out, consumption⟩
    rcases consumption.sends_or_keeps (headOf same) with sent | ⟨_, _, next, _⟩
    · exact absurd sent (stuck time reached)
    · exact ⟨same.queue.trans next.queue, next.window_eq.trans same.window_eq,
        next.sumBytes_eq.trans same.sumBytes_eq⟩
  have refused := fun time reached =>
    ((offering.offer time).choose_spec.sends_or_keeps (headOf (kept time reached))).resolve_left
      (stuck time reached)
  rcases refused now (le_refl now) with ⟨judged, nonempty, _⟩
  have positive : 0 < (states now).throttle :=
    lt_of_le_of_ne (offering.throttle_eq now ▸ nonneg) judged.symm
  rcases List.exists_cons_of_ne_nil nonempty with ⟨oldest, newer, entries⟩
  let size := (states now).sumBytes + packet.packet.length.toNat
  rcases exists_late positive size oldest.1 with ⟨due, late⟩
  rcases offering.endless.unbounded due with ⟨reached, reading⟩
  let start := max now reached
  -- From here on every refusal is made on the cached rate.
  have cached : ∀ time, start ≤ time → ¬(states time).lastRate < (states time).throttle ∧
      (states (time + 1)).accError = (states time).accError + packet.packet.length.toNat ∧
      (states (time + 1)).accError < (states (time + 1)).maxError := by
    intro time after
    have same := kept time ((le_max_left now reached).trans after)
    rcases refused time ((le_max_left now reached).trans after) with
      ⟨_, _, _, ⟨first, isFirst, not_lt⟩ | stale⟩
    · rw [same.window_eq, CycledVecDequeue.front, entries] at isFirst
      cases isFirst
      refine absurd ?_ not_lt
      rw [same.sumBytes_eq, same.queue.throttle_eq]
      refine late _ (reading.trans (offering.endless.mono ?_))
      exact (le_max_right now reached).trans after
    · exact stale
  have grown : ∀ count, (states (start + count)).accError =
      (states start).accError + count * packet.packet.length.toNat := by
    intro count
    induction count with
    | zero => simp
    | succ count ih =>
        rw [← Nat.add_assoc, (cached (start + count) (Nat.le_add_right _ _)).2.1, ih,
          Nat.succ_mul, Nat.add_assoc]
  by_cases bytes : packet.packet.length.toNat = 0
  · have first := cached start (le_refl start)
    have same := kept start (le_max_left now reached)
    have next := kept (start + 1) ((le_max_left now reached).trans (Nat.le_succ _))
    refine lively start ⟨?_, ?_, ⟨packet, rest, headOf same, bytes⟩, ?_, first.1⟩
    · rw [same.queue.throttle_eq]
      exact judged
    · rw [same.window_eq]
      exact nonempty
    · have below := first.2.2
      rw [first.2.1, bytes, Nat.add_zero, next.queue.maxError_eq] at below
      rw [same.queue.maxError_eq]
      exact below
  · let count := (states now).maxError
    have last := cached (start + count) (Nat.le_add_right _ _)
    have next := kept (start + count + 1)
      (((le_max_left now reached).trans (Nat.le_add_right _ _)).trans (Nat.le_succ _))
    have below := last.2.2
    rw [last.2.1, grown, next.queue.maxError_eq] at below
    have grows := Nat.le_mul_of_pos_right count (Nat.pos_of_ne_zero bytes)
    omega

/-- A stalled throttler stays as it is. -/
theorem Stalled.offer {throttler next : RateThrottler} {clock : Clock} {out : Option Bool}
    (stalled : Stalled throttler)
    (consumption : Consumption throttler clock (fun _ => true) out next) :
    next = throttler := by
  rcases stalled.noBytes with ⟨packet, rest, head, noBytes⟩
  have refused : Consumption throttler clock (fun _ => true) (some false) throttler := by
    have admission : Admission throttler clock packet.packet.length.toNat true throttler := by
      rw [noBytes]
      exact .refused stalled.judged stalled.nonempty (.cached stalled.cached) stalled.not_lt
    exact .refused head admission
  have same := (tryConsume_eq_ok.mpr consumption).symm.trans (tryConsume_eq_ok.mpr refused)
  cases same
  rfl

/-- The buffer is emptied in the end exactly when the throttler never stalls. -/
theorem Offering.empties_iff (offering : Offering states clocks)
    (nonneg : 0 ≤ (states 0).throttle) :
    (∃ count, (states count).buffer.fifo = []) ↔ ∀ count, ¬Stalled (states count) := by
  constructor
  · rintro ⟨emptied, empty⟩ count stalled
    rcases stalled.noBytes with ⟨packet, rest, head, _⟩
    rcases le_total emptied count with after | before
    · have remains := stable states (fun state => state.buffer.fifo = [])
        (fun time _ none =>
          ((offering.offer time).choose_spec.eq_of_empty none).symm ▸ none) empty count after
      rw [remains] at head
      cases head
    · have stuck : ∀ time, count ≤ time → states time = states count →
          states (time + 1) = states count := by
        intro time _ same
        rcases offering.offer time with ⟨out, consumption⟩
        rw [same] at consumption
        exact stalled.offer consumption
      have remains := stable states (fun state => state = states count) stuck rfl emptied before
      rw [remains, head] at empty
      cases empty
  · intro lively
    have emptied := LeadsTo.of_rank states (fun state => state.buffer.fifo = [])
      (fun state => state.buffer.fifo.length) (fun now nonempty => by
        rcases List.exists_cons_of_ne_nil nonempty with ⟨packet, rest, head⟩
        rcases offering.head_leaves nonneg lively head with ⟨later, reached, left⟩
        exact ⟨later + 1, reached.trans (Nat.le_succ _), by simp [left, head]⟩)
    rcases emptied 0 trivial with ⟨count, _, empty⟩
    exact ⟨count, empty⟩

end RateThrottler

end StreamReplay
