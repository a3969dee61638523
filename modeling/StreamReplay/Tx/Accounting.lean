import StreamReplay.Tx.Conservation
import StreamReplay.Tx.Packetise

/-!
# Accounting of failed sends

`exceeds_with` enters a packet into the window before the callback has sent it.
A failed send therefore costs its bytes, except where the entry it makes is the
same as the one it pushes out.
-/

namespace StreamReplay

open Checked FallibleRun

/-- The state that a failed send should leave alone. -/
structure CostsNothing (before after : RateThrottler) : Prop where
  window_eq : after.window = before.window
  sumBytes_eq : after.sumBytes = before.sumBytes
  accError_eq : after.accError = before.accError
  buffer_eq : after.buffer = before.buffer
  frameCount_eq : after.frameCount = before.frameCount

/-- The packet has no bytes and its entry replaces an equal one: the window is at
its limit and all of its entries are of that moment and without bytes. -/
def EntersUnseen (throttler : RateThrottler) (clock : Clock) (packet : PacketWithMeta) :
    Prop :=
  packet.packet.length = 0 ∧ throttler.window.fifo.length + 1 = throttler.window.size ∧
    ∀ entry ∈ throttler.window.fifo, entry = (clock.push, 0)

namespace ThrottlerEvent

/-- The callback was given the packet and returned false. -/
def Fails (event : ThrottlerEvent) (clock : Clock) (packet : PacketWithMeta) : Prop :=
  ∃ callback, event.op = .tryConsume clock callback ∧
    event.before.handed clock = some packet ∧ callback packet = false

/-- The window entries due for the packets that were sent. -/
def entries (event : ThrottlerEvent) : List (Time × Nat) :=
  match event.op with
  | .tryConsume clock callback =>
      ((event.before.handed clock).toList.filter callback).map fun packet =>
        (clock.push, packet.packet.length.toNat)
  | _ => []

end ThrottlerEvent

/-- The entries due for the packets sent since the last reset. -/
def entriesSince (history : List ThrottlerEvent) : List (Time × Nat) :=
  collect ThrottlerEvent.entries ThrottlerEvent.isReset history

namespace RateThrottler

/-! ## One failed send -/

theorem RateCheck.sumBytes_eq {throttler checked : RateThrottler} {now : Time}
    {extra : Nat} {rate : Option (WithTop ℚ)}
    (check : RateCheck throttler now extra rate checked) :
    checked.sumBytes = throttler.sumBytes := by
  cases check <;> rfl

theorem dropped_eq_sum (throttler : RateThrottler) (now : Time) (sizeBytes : Nat) :
    throttler.dropped now sizeBytes =
      ((throttler.window.push (now, sizeBytes)).1.toList.map Prod.snd).sum := by
  unfold dropped
  cases (throttler.window.push (now, sizeBytes)).1 <;> simp

/-- An admission enters the packet and drops what it pushes out. -/
theorem Admission.entered {throttler next : RateThrottler} {clock : Clock}
    {sizeBytes : Nat} (admission : Admission throttler clock sizeBytes false next) :
    next.window = (throttler.window.push (clock.push, sizeBytes)).2 ∧
      next.sumBytes =
        throttler.sumBytes + sizeBytes - throttler.dropped clock.push sizeBytes := by
  cases admission with
  | free _ accounted =>
      rcases account_eq_ok.mp accounted with ⟨_, rfl⟩
      exact ⟨rfl, rfl⟩
  | below _ _ check _ accounted =>
      rcases account_eq_ok.mp accounted with ⟨_, rfl⟩
      simp only [dropped, check.window_eq, check.sumBytes_eq, charge, and_self]

/-- A refusal changes neither the window nor its sum. -/
theorem Admission.not_entered {throttler next : RateThrottler} {clock : Clock}
    {sizeBytes : Nat} (admission : Admission throttler clock sizeBytes true next) :
    next.window = throttler.window ∧ next.sumBytes = throttler.sumBytes := by
  cases admission with
  | refused _ _ check _ => exact ⟨check.window_eq, check.sumBytes_eq⟩

theorem dropped_of_push_eq_self {throttler : RateThrottler} {now : Time} {sizeBytes : Nat}
    (same : (throttler.window.push (now, sizeBytes)).2 = throttler.window) :
    throttler.dropped now sizeBytes = sizeBytes := by
  have sums := congrArg (fun entries => (entries.map Prod.snd).sum)
    (throttler.window.toList_append_push (now, sizeBytes))
  simp only [same, List.map_append, List.sum_append, ← dropped_eq_sum, List.map_singleton,
    List.sum_singleton] at sums
  omega

/-- An admission that leaves the window as it was is not made on a rate computed
at that moment, since the oldest entry is no older than the moment itself. -/
theorem Admission.accError_eq_iff {throttler next : RateThrottler} {clock : Clock}
    {sizeBytes : Nat} (admission : Admission throttler clock sizeBytes false next)
    (same : (throttler.window.push (clock.push, sizeBytes)).2 = throttler.window) :
    next.accError = throttler.accError ↔ sizeBytes = 0 := by
  have dropsSize := dropped_of_push_eq_self same
  cases admission with
  | free _ accounted =>
      rcases account_eq_ok.mp accounted with ⟨_, rfl⟩
      simp only [dropsSize]
      omega
  | below _ _ check rate_lt accounted =>
      rcases account_eq_ok.mp accounted with ⟨_, rfl⟩
      cases check with
      | cached =>
          have charged :
              (throttler.charge sizeBytes).dropped clock.push sizeBytes = sizeBytes :=
            dropsSize
          simp only [charged]
          simp only [charge]
          omega
      | @computed reached oldest oldest_eq forward =>
          have oldestIs : oldest = (clock.push, sizeBytes) :=
            (CycledVecDequeue.push_eq_self_iff.mp same).2 _ (List.mem_of_head? oldest_eq)
          have noTime : clock.rate - oldest.1 = 0 := by
            rw [oldestIs]
            exact Nat.sub_eq_zero_of_le clock.rate_le_push
          rw [rateSince, noTime] at rate_lt
          exact absurd rate_lt not_top_lt

/-- A failed send costs nothing exactly when its entry goes unseen. -/
theorem Admission.costsNothing_iff {throttler next : RateThrottler} {clock : Clock}
    {packet : PacketWithMeta}
    (admission : Admission throttler clock packet.packet.length.toNat false next) :
    CostsNothing throttler next ↔ EntersUnseen throttler clock packet := by
  rcases admission.entered with ⟨windowEq, sumEq⟩
  have noBytesIff : packet.packet.length.toNat = 0 ↔ packet.packet.length = 0 := by
    rw [← UInt16.toNat_inj]
    rfl
  constructor
  · intro free
    have same := windowEq.symm.trans free.window_eq
    have noBytes := (admission.accError_eq_iff same).mp free.accError_eq
    rcases CycledVecDequeue.push_eq_self_iff.mp same with ⟨limit, every⟩
    rw [noBytes] at every
    exact ⟨noBytesIff.mp noBytes, limit, every⟩
  · rintro ⟨noBytes, limit, every⟩
    have noBytes := noBytesIff.mpr noBytes
    have same : (throttler.window.push (clock.push, packet.packet.length.toNat)).2 =
        throttler.window := by
      rw [noBytes]
      exact CycledVecDequeue.push_eq_self_iff.mpr ⟨limit, every⟩
    exact {
      window_eq := windowEq.trans same
      sumBytes_eq := by
        rw [sumEq, dropped_of_push_eq_self same, Nat.add_sub_cancel]
      accError_eq := (admission.accError_eq_iff same).mpr noBytes
      buffer_eq := admission.sameQueue.buffer_eq
      frameCount_eq := admission.sameQueue.frameCount_eq }

/-- A call whose callback fails ends in the state of the admission. -/
theorem Consumption.admission_of_fails {throttler next : RateThrottler} {clock : Clock}
    {callback : PacketWithMeta → Bool} {out : Option Bool} {packet : PacketWithMeta}
    (consumption : Consumption throttler clock callback out next)
    (handed : throttler.handed clock = some packet) (fails : callback packet = false) :
    Admission throttler clock packet.packet.length.toNat false next := by
  cases consumption with
  | idle empty => simp [RateThrottler.handed, CycledVecDequeue.front, empty] at handed
  | refused head admission => simp [handed_of_admission head admission] at handed
  | failed head admission =>
      obtain rfl := Option.some.inj ((handed_of_admission head admission).symm.trans handed)
      exact admission
  | sent head admission sends =>
      obtain rfl := Option.some.inj ((handed_of_admission head admission).symm.trans handed)
      rw [sends] at fails
      cases fails

/-! ## Runs -/

/-- The window holds the latest of the given entries, each once, and `sum_bytes`
their bytes. -/
structure Accounts (entries : List (Time × Nat)) (throttler : RateThrottler) : Prop where
  suffix : throttler.window.fifo <:+ entries
  sumBytes_eq : throttler.sumBytes = (throttler.window.fifo.map Prod.snd).sum

namespace Accounts

variable {entries : List (Time × Nat)} {throttler next : RateThrottler}

theorem keep (accounts : Accounts entries throttler) (next : RateThrottler)
    (windowEq : next.window = throttler.window)
    (sumEq : next.sumBytes = throttler.sumBytes) : Accounts entries next where
  suffix := windowEq ▸ accounts.suffix
  sumBytes_eq := by rw [windowEq, sumEq, accounts.sumBytes_eq]

theorem enter (accounts : Accounts entries throttler) {now : Time} {sizeBytes : Nat}
    (windowEq : next.window = (throttler.window.push (now, sizeBytes)).2)
    (sumEq : next.sumBytes =
      throttler.sumBytes + sizeBytes - throttler.dropped now sizeBytes) :
    Accounts (entries ++ [(now, sizeBytes)]) next := by
  have conserved := throttler.window.toList_append_push (now, sizeBytes)
  rw [← windowEq] at conserved
  constructor
  · have shorter : next.window.fifo <:+ throttler.window.fifo ++ [(now, sizeBytes)] :=
      ⟨_, conserved⟩
    exact shorter.trans ((List.suffix_append_inj_of_length_eq rfl).mpr ⟨accounts.suffix, rfl⟩)
  · have sums := congrArg (fun entries => (entries.map Prod.snd).sum) conserved
    simp only [List.map_append, List.sum_append, ← dropped_eq_sum, List.map_singleton,
      List.sum_singleton, ← accounts.sumBytes_eq] at sums
    omega

/-- The accounts after one call, if it costs nothing when it fails. -/
theorem consumption (accounts : Accounts entries throttler) {clock : Clock}
    {callback : PacketWithMeta → Bool} {out : Option Bool}
    (consumption : Consumption throttler clock callback out next)
    (unseen : ∀ packet, throttler.handed clock = some packet → callback packet = false →
      EntersUnseen throttler clock packet) :
    Accounts (entries ++ ThrottlerEvent.entries
      ⟨throttler, .tryConsume clock callback, out, next⟩) next := by
  cases consumption with
  | idle empty =>
      simpa [ThrottlerEvent.entries, handed, CycledVecDequeue.front, empty] using accounts
  | refused head admission =>
      rcases admission.not_entered with ⟨windowEq, sumEq⟩
      simpa [ThrottlerEvent.entries, handed_of_admission head admission] using
        accounts.keep _ windowEq sumEq
  | failed head admission unsent =>
      have free := admission.costsNothing_iff.mpr
        (unseen _ (handed_of_admission head admission) unsent)
      simpa [ThrottlerEvent.entries, handed_of_admission head admission, unsent] using
        accounts.keep _ free.window_eq free.sumBytes_eq
  | @sent packet rest _ admitted checked head admission sends _ check =>
      rcases admission.entered with ⟨windowEq, sumEq⟩
      have entered := (accounts.enter windowEq sumEq).keep checked
        check.window_eq check.sumBytes_eq
      simpa [ThrottlerEvent.entries, handed_of_admission head admission, sends] using
        entered.keep { checked with buffer := { throttler.buffer with fifo := rest } } rfl rfl

/-- The accounts of a run whose failed sends all go unseen. -/
theorem run {throttle : ℚ} {windowSize : Nat} {infiniteBuffer : Bool}
    {history : List ThrottlerEvent} {state : RateThrottler}
    (run : ThrottlerRun (.new throttle windowSize infiniteBuffer) history state)
    (unseen : ∀ event ∈ history, ∀ clock packet, ThrottlerEvent.Fails event clock packet →
      EntersUnseen event.before clock packet) :
    Accounts (entriesSince history) state := by
  induction run with
  | nil => exact ⟨List.nil_suffix, rfl⟩
  | @snoc history state next op out run taken ih =>
      have accounts := ih fun event member => unseen event (List.mem_append_left _ member)
      rw [entriesSince] at accounts ⊢
      rw [collect_snoc]
      cases op with
      | prepare now packets =>
          rcases bind_eq_ok.mp taken with ⟨prepared, returned, equal⟩
          rcases prepare_eq_ok.mp returned with ⟨_, checked, check, rfl⟩
          cases equal
          simpa [ThrottlerEvent.isReset, ThrottlerEvent.entries] using
            accounts.keep { checked with
              buffer := state.buffer.tryPushAll packets
              frameCount := state.frameCount + 1 } check.window_eq check.sumBytes_eq
      | tryConsume clock callback =>
          refine accounts.consumption (tryConsume_eq_ok.mp taken) fun packet handed fails => ?_
          have last := unseen ⟨state, .tryConsume clock callback, out, next⟩ (by simp)
          exact last clock packet ⟨callback, rfl, handed, fails⟩
      | setThrottle throttle =>
          cases taken
          simpa [ThrottlerEvent.isReset, ThrottlerEvent.entries] using
            accounts.keep { state with throttle } rfl rfl
      | reset =>
          cases taken
          exact ⟨List.nil_suffix, rfl⟩

end Accounts

end RateThrottler

/-- In every run, a failed send costs nothing exactly when its entry goes unseen;
and when all failed sends do, the window and `sum_bytes` account for packets that
were sent since the last reset, each once. -/
theorem failed_sends_cost_nothing_iff {throttle : ℚ} {windowSize : Nat}
    {infiniteBuffer : Bool} {history : List ThrottlerEvent} {state : RateThrottler}
    (run : ThrottlerRun (.new throttle windowSize infiniteBuffer) history state) :
    (∀ event ∈ history, ∀ clock packet, ThrottlerEvent.Fails event clock packet →
      (CostsNothing event.before event.after ↔ EntersUnseen event.before clock packet)) ∧
    ((∀ event ∈ history, ∀ clock packet, ThrottlerEvent.Fails event clock packet →
        EntersUnseen event.before clock packet) →
      state.window.fifo <:+ entriesSince history ∧
        state.sumBytes = (state.window.fifo.map Prod.snd).sum) := by
  constructor
  · intro event member clock packet fails
    have taken := run.event_step member
    rcases fails with ⟨callback, opEq, handed, unsent⟩
    rw [opEq] at taken
    have consumption := RateThrottler.tryConsume_eq_ok.mp taken
    exact (consumption.admission_of_fails handed unsent).costsNothing_iff
  · intro unseen
    have accounts := RateThrottler.Accounts.run run unseen
    exact ⟨accounts.suffix, accounts.sumBytes_eq⟩

/-- A frame of one byte is queued. -/
def oneByteQueued : List ThrottlerOp :=
  [.prepare 0 (((packetise 0 (.new 0) 1 (some [7])).toOption.map Prod.fst).getD [])]

theorem failed_sends_cost_nothing_iff_oneByte :
    ∃ history state,
      ThrottlerRun (.new 0 2 false) history state ∧
      history.map Event.op = oneByteQueued ++ [.tryConsume (.still 0) fun _ => false] ∧
      ∀ event ∈ history, ∀ clock packet, ThrottlerEvent.Fails event clock packet →
        (CostsNothing event.before event.after ↔ EntersUnseen event.before clock packet) := by
  obtain ⟨history, state, run, opsEq, _⟩ :=
    exists_run_of_any RateThrottler.step (.new 0 2 false)
      (oneByteQueued ++ [.tryConsume (.still 0) fun _ => false]) (fun _ => true)
      (by decide +kernel)
  exact ⟨history, state, run, opsEq, (failed_sends_cost_nothing_iff run).1⟩

theorem failed_send_costs_one_byte :
    ∃ history state packet next, ThrottlerRun (.new 0 2 false) history state ∧
      history.map Event.op = oneByteQueued ∧
      state.handed (.still 0) = some packet ∧
      state.tryConsume (.still 0) (fun _ => false) = .ok (some false, next) ∧
      state.sumBytes = 0 ∧ next.sumBytes = 1 ∧ ¬CostsNothing state next := by
  obtain ⟨history, state, run, opsEq, passes⟩ :=
    exists_run_of_any RateThrottler.step (.new 0 2 false) oneByteQueued
      (fun state => (state.handed (.still 0)).isSome && state.sumBytes == 0 &&
        (state.tryConsume (.still 0) fun _ => false).toOption.any fun result =>
          result.1 == some false && result.2.sumBytes == 1)
      (by decide +kernel)
  simp only [Bool.and_eq_true, beq_iff_eq, Option.isSome_iff_exists] at passes
  rcases passes with ⟨⟨⟨packet, handed⟩, before⟩, fails⟩
  rcases exists_of_any fails with ⟨⟨out, next⟩, consumed, fails⟩
  simp only [Bool.and_eq_true, beq_iff_eq] at fails
  rcases fails with ⟨rfl, after⟩
  refine ⟨history, state, packet, next, run, opsEq, handed, consumed, before, after, ?_⟩
  intro free
  exact absurd (after.symm.trans (free.sumBytes_eq.trans before)) (by decide)

end StreamReplay
