import StreamReplay.Foundation.Pacing
import StreamReplay.Tx.Counters
import StreamReplay.Tx.Window

/-!
# The pace of a throttled sender

The throttler judges a packet by the rate over its window, and between two computations of
the rate by the last one, for as long as `acc_error` is below `max_error`.  So what it admits
is paced: each admission ends a stretch of `window_size` packets that keep to the throttle
up to `max_error`.
-/

namespace StreamReplay

open Checked Pacing

/-- The bytes that a rate in Mbps allows for in a second. -/
def bytesPerSecond (rate : ℚ) : ℚ := rate * 10 ^ 6 / 8

/-- The time of an admission, in seconds. -/
def admittedAt (entry : Time × Nat) : ℚ := (entry.1 : ℚ) / 10 ^ 9

def admittedBytes (entry : Time × Nat) : ℚ := entry.2

def seconds (now : Time) : ℚ := (now : ℚ) / 10 ^ 9

namespace RateThrottler

theorem bytesPerSecond_nonneg {limit : ℚ} (nonneg : 0 ≤ limit) : 0 ≤ bytesPerSecond limit :=
  div_nonneg (mul_nonneg nonneg (by norm_num)) (by norm_num)

theorem seconds_mono {earlier later : Time} (le : earlier ≤ later) :
    seconds earlier ≤ seconds later :=
  div_le_div_of_nonneg_right (Nat.cast_le.mpr le) (by norm_num)

/-- A rate below a limit leaves the window room for the bytes that were counted. -/
theorem sum_lt_of_rateSince {throttler : RateThrottler} {oldest now : Time} {extra : Nat}
    {limit : ℚ} (forward : oldest ≤ now)
    (below : throttler.rateSince oldest now extra < limit) :
    ((throttler.sumBytes + extra : Nat) : ℚ) <
      bytesPerSecond limit * (seconds now - seconds oldest) := by
  unfold rateSince averageRateMbps at below
  split at below
  next => exact absurd below not_top_lt
  next elapsed =>
    have positive : (0 : ℚ) < ((now - oldest : Nat) : ℚ) / 10 ^ 9 :=
      div_pos (Nat.cast_pos.mpr (Nat.pos_of_ne_zero elapsed)) (by norm_num)
    have below := (div_lt_iff₀ positive).mp (WithTop.coe_lt_coe.mp below)
    rw [Nat.cast_sub forward] at below
    unfold bytesPerSecond seconds
    rw [← sub_div]
    linarith

/-- The state of a throttler that has admitted some packets, none at a rate above the
limit.  While the last rate is below the limit, it vouches for the latest stretch of them,
up to the bytes that count as a possible error. -/
structure Capped (limit slack : ℚ) (windowSize : Nat) (throttler : RateThrottler)
    (admitted : List (Time × Nat)) (now : Time) : Prop where
  holds : Holds windowSize admitted throttler
  sumBytes_eq : throttler.sumBytes = (throttler.window.fifo.map Prod.snd).sum
  maxError_le : (throttler.maxError : ℚ) ≤ slack
  vouched : admitted ≠ [] → throttler.lastRate < limit →
    Covered admittedAt admittedBytes (bytesPerSecond limit) throttler.accError
      (windowSize - 1) (seconds now) admitted

section Steps

variable {limit slack : ℚ} {windowSize : Nat} {throttler checked next : RateThrottler}
  {admitted : List (Time × Nat)} {now later : Time} {clock : Clock} {sizeBytes extra : Nat}

theorem total_admitted (entries : List (Time × Nat)) :
    total admittedBytes entries = ((entries.map Prod.snd).sum : Nat) := by
  induction entries with
  | nil => rfl
  | cons entry entries ih =>
      rw [total_cons, ih, List.map_cons, List.sum_cons, Nat.cast_add]
      rfl

/-- The window is the latest stretch of the admitted packets, or all of them. -/
theorem covered_of_window {room : ℚ} {oldest : Time × Nat}
    {rest : List (Time × Nat)}
    (window : admitted.rtake (windowSize - 1) = oldest :: rest)
    (within : total admittedBytes (oldest :: rest) ≤
      bytesPerSecond limit * (seconds now - admittedAt oldest) + room) :
    Covered admittedAt admittedBytes (bytesPerSecond limit) room (windowSize - 1)
      (seconds now) admitted := by
  have length := congrArg List.length window
  rw [List.rtake, List.length_drop] at length
  rw [List.rtake] at window
  by_cases few : admitted.length ≤ windowSize - 1
  · rw [Nat.sub_eq_zero_of_le few, List.drop_zero] at window
    rw [window]
    refine .whole ?_
    have free : (0 : ℚ) ≤ admittedBytes oldest := Nat.cast_nonneg _
    rw [total_cons] at within
    linarith
  · rw [← List.take_append_drop (admitted.length - (windowSize - 1)) admitted, window]
    refine .recent ?_ within
    rw [List.length_cons] at length
    omega

/-- Only before the first admission is the window empty. -/
theorem Holds.nonempty (holds : Holds windowSize admitted throttler) (wide : 2 ≤ windowSize)
    (some : admitted ≠ []) : throttler.window.fifo ≠ [] := by
  rw [holds.2, List.rtake, ne_eq, List.drop_eq_nil_iff]
  have positive := List.length_pos_iff.mpr some
  omega

/-- A check with some bytes charged passes on a rate that vouches for the latest stretch,
with the charged bytes still to come. -/
theorem Capped.vouched_of_check (capped : Capped limit slack windowSize throttler admitted now)
    (wide : 2 ≤ windowSize) (nonneg : 0 ≤ limit) (onward : now ≤ later)
    {rate : Option (WithTop ℚ)}
    (check : RateCheck (throttler.charge extra) later extra rate checked)
    (some : admitted ≠ []) (below : checked.lastRate < limit) :
    Covered admittedAt admittedBytes (bytesPerSecond limit) (checked.accError - extra)
      (windowSize - 1) (seconds later) admitted := by
  cases check with
  | cached =>
      refine (capped.vouched some below).mono (bytesPerSecond_nonneg nonneg) ?_ le_rfl
        (seconds_mono onward)
      simp [charge]
  | unknown reached noEntry => exact absurd noEntry (capped.holds.nonempty wide some)
  | @computed reached oldest front forward =>
      rcases List.head?_eq_some_iff.mp front with ⟨rest, window⟩
      have room := sum_lt_of_rateSince forward below
      change throttler.window.fifo = oldest :: rest at window
      refine covered_of_window (capped.holds.2.symm.trans window) ?_
      rw [total_admitted, ← window, ← capped.sumBytes_eq]
      change ((throttler.sumBytes + extra : Nat) : ℚ) < _ at room
      rw [Nat.cast_add] at room
      change _ ≤ bytesPerSecond limit * (seconds later - seconds oldest.1) + _
      rw [Nat.cast_zero]
      linarith

theorem Capped.mono (capped : Capped limit slack windowSize throttler admitted now)
    (nonneg : 0 ≤ limit) (onward : now ≤ later) :
    Capped limit slack windowSize throttler admitted later where
  holds := capped.holds
  sumBytes_eq := capped.sumBytes_eq
  maxError_le := capped.maxError_le
  vouched some below := (capped.vouched some below).mono (bytesPerSecond_nonneg nonneg) le_rfl
    le_rfl (seconds_mono onward)

/-- A check keeps the state capped. -/
theorem Capped.check (capped : Capped limit slack windowSize throttler admitted now)
    (wide : 2 ≤ windowSize) (nonneg : 0 ≤ limit) (onward : now ≤ later)
    {rate : Option (WithTop ℚ)} (check : RateCheck throttler later 0 rate checked) :
    Capped limit slack windowSize checked admitted later where
  holds := capped.holds.of_window_eq check.window_eq
  sumBytes_eq := by
    rw [check.sumBytes_eq, check.window_eq]
    exact capped.sumBytes_eq
  maxError_le := by
    rw [check.sameQueue.maxError_eq]
    exact capped.maxError_le
  vouched some below := by
    have uncharged : RateCheck (throttler.charge 0) later 0 rate checked := check
    have covered := capped.vouched_of_check wide nonneg onward uncharged some below
    exact covered.mono (bytesPerSecond_nonneg nonneg) (by simp) le_rfl le_rfl

/-- A rate that was asked for is the last one. -/
theorem RateCheck.lastRate_eq {throttler : RateThrottler} {rate : WithTop ℚ}
    (check : RateCheck throttler later extra (some rate) checked) :
    checked.lastRate = rate := by
  cases check <;> rfl

/-- Where the rate is known, the bytes that count as a possible error are few. -/
theorem RateCheck.accError_le {throttler : RateThrottler} {rate : Option (WithTop ℚ)}
    (check : RateCheck throttler later extra rate checked) :
    checked.accError ≤ throttler.maxError := by
  cases check with
  | cached below => exact below.le
  | unknown => exact Nat.zero_le _
  | computed => exact Nat.zero_le _

/-- An admission ends a stretch that keeps to the limit, up to bytes that still count as a
possible error and are no more than the slack. -/
theorem Capped.covered_of_admission
    (capped : Capped limit slack windowSize throttler admitted now) (wide : 2 ≤ windowSize)
    (nonneg : 0 ≤ limit) (onward : now ≤ clock.rate) (judged : throttler.throttle ≠ 0)
    (throttled : throttler.throttle ≤ limit)
    (admission : Admission throttler clock sizeBytes false next) :
    ∃ error : Nat, (error : ℚ) ≤ slack ∧ error ≤ next.accError ∧
      Covered admittedAt admittedBytes (bytesPerSecond limit) error windowSize
        (seconds clock.push) (admitted ++ [(clock.push, sizeBytes)]) := by
  cases admission with
  | free unjudged accounted =>
      have empty := unjudged.resolve_left judged
      have none : admitted = [] := by
        by_contra some
        exact capped.holds.nonempty wide some empty
      subst none
      refine ⟨0, ?_, Nat.zero_le _, .whole ?_⟩
      · rw [Nat.cast_zero]
        exact (Nat.cast_nonneg _).trans capped.maxError_le
      · simp [admittedAt, seconds]
  | @below rate checked _ _ nonempty check rate_lt accounted =>
      have some : admitted ≠ [] := by
        rintro rfl
        exact nonempty (capped.holds.2.trans (by simp [List.rtake]))
      have below : checked.lastRate < limit := check.lastRate_eq ▸
        rate_lt.trans_le (WithTop.coe_le_coe.mpr throttled)
      have covered := (capped.vouched_of_check wide nonneg onward check some below).snoc
        (clock.push, sizeBytes)
      rcases account_eq_ok.mp accounted with ⟨_, rfl⟩
      have few : checked.accError ≤ throttler.maxError := check.accError_le
      refine ⟨checked.accError, ?_, Nat.le_add_right _ _, ?_⟩
      · exact (Nat.cast_le.mpr few).trans capped.maxError_le
      · refine covered.mono (bytesPerSecond_nonneg nonneg) ?_ (by omega)
          (seconds_mono clock.rate_le_push)
        simp [admittedBytes]

/-- The state stays capped. -/
theorem Capped.admission {exceeds : Bool}
    (capped : Capped limit slack windowSize throttler admitted now) (wide : 2 ≤ windowSize)
    (nonneg : 0 ≤ limit) (onward : now ≤ clock.rate) (judged : throttler.throttle ≠ 0)
    (throttled : throttler.throttle ≤ limit)
    (admission : Admission throttler clock sizeBytes exceeds next) :
    Capped limit slack windowSize next
      (admitted ++ if exceeds then [] else [(clock.push, sizeBytes)]) clock.push where
  holds := capped.holds.admission (by omega) admission
  sumBytes_eq := sumBytes_of_admission capped.sumBytes_eq admission
  maxError_le := by
    rw [admission.sameQueue.maxError_eq]
    exact capped.maxError_le
  vouched some below := by
    have nonneg' := bytesPerSecond_nonneg nonneg
    cases exceeds with
    | true =>
        cases admission with
        | refused _ _ check not_lt =>
            rw [if_pos rfl, List.append_nil] at some ⊢
            exact (capped.vouched_of_check wide nonneg onward check some below).mono nonneg'
              (by simp) le_rfl (seconds_mono clock.rate_le_push)
    | false =>
        rcases capped.covered_of_admission wide nonneg onward judged throttled admission with
          ⟨error, _, counted, covered⟩
        exact covered.mono nonneg' (Nat.cast_le.mpr counted) (Nat.sub_le _ _) le_rfl

/-! ## What a call of `try_consume` admits -/

/-- The packet that a call hands out, with the time of its admission. -/
def handedEntry (throttler : RateThrottler) (clock : Clock) : List (Time × Nat) :=
  (throttler.handed clock).toList.map fun packet => (clock.push, packet.packet.length.toNat)

/-- A packet that is handed out has been admitted. -/
theorem admission_of_handed {packet : PacketWithMeta}
    (handed : throttler.handed clock = some packet) :
    ∃ next, Admission throttler clock packet.packet.length.toNat false next := by
  unfold RateThrottler.handed at handed
  split at handed
  next => cases handed
  next =>
    split at handed
    next admitted =>
      cases handed
      exact ⟨_, exceedsWith_eq_ok.mp admitted⟩
    next => cases handed

/-- A packet that is handed out ends a stretch that keeps to the limit. -/
theorem Capped.paced_of_handed (capped : Capped limit slack windowSize throttler admitted now)
    (wide : 2 ≤ windowSize) (nonneg : 0 ≤ limit) (onward : now ≤ clock.rate)
    (judged : throttler.throttle ≠ 0) (throttled : throttler.throttle ≤ limit)
    (paced : Paced admittedAt admittedBytes (bytesPerSecond limit) slack windowSize admitted) :
    Paced admittedAt admittedBytes (bytesPerSecond limit) slack windowSize
      (admitted ++ throttler.handedEntry clock) := by
  unfold handedEntry
  cases handed : throttler.handed clock with
  | none => simpa using paced
  | some packet =>
      rcases admission_of_handed handed with ⟨next, admission⟩
      rcases capped.covered_of_admission wide nonneg onward judged throttled admission with
        ⟨error, few, _, covered⟩
      exact paced.snoc (covered.mono (bytesPerSecond_nonneg nonneg) few le_rfl le_rfl)

/-- A call keeps the state capped. -/
theorem Capped.consumption (capped : Capped limit slack windowSize throttler admitted now)
    (wide : 2 ≤ windowSize) (nonneg : 0 ≤ limit) (onward : now ≤ clock.rate)
    (judged : throttler.throttle ≠ 0) (throttled : throttler.throttle ≤ limit)
    {callback : PacketWithMeta → Bool} {out : Option Bool}
    (consumption : Consumption throttler clock callback out next) :
    Capped limit slack windowSize next (admitted ++ throttler.handedEntry clock)
      clock.consume := by
  have judging := fun {size : Nat} {exceeds : Bool} {after : RateThrottler}
    (admission : Admission throttler clock size exceeds after) =>
      capped.admission wide nonneg onward judged throttled admission
  unfold handedEntry
  cases consumption with
  | idle empty =>
      have none : throttler.handed clock = none := by
        simp [handed, CycledVecDequeue.front, empty]
      rw [none]
      simpa using capped.mono nonneg
        (onward.trans (clock.rate_le_push.trans clock.push_le_consume))
  | refused head admission =>
      rw [handed_of_admission head admission]
      exact (judging admission).mono nonneg clock.push_le_consume
  | failed head admission unsent =>
      rw [handed_of_admission head admission]
      exact (judging admission).mono nonneg clock.push_le_consume
  | @sent packet rest rate after checked head admission sends counted check =>
      rw [handed_of_admission head admission]
      have judged := judging admission
      have released : Capped limit slack windowSize (after.released packet.lastOne) _ _ :=
        ⟨judged.holds, judged.sumBytes_eq, judged.maxError_le, judged.vouched⟩
      have checks := released.check wide nonneg clock.push_le_consume check
      exact ⟨checks.holds, checks.sumBytes_eq, checks.maxError_le, checks.vouched⟩

/-- The bytes that `max_error` stands for. -/
def errorSlack (windowSize : Nat) : ℚ := maxErrRatio * windowSize * udpMaxLength

theorem Capped.new (limit throttle : ℚ) (windowSize : Nat) (infiniteBuffer : Bool)
    (now : Time) : Capped limit (errorSlack windowSize) windowSize
      (.new throttle windowSize infiniteBuffer) [] now where
  holds := ⟨rfl, by simp [RateThrottler.new, CycledVecDequeue.new, List.rtake]⟩
  sumBytes_eq := rfl
  maxError_le := by
    have floor := Nat.floor_le (a := maxErrRatio * windowSize)
      (mul_nonneg (by norm_num [maxErrRatio]) (Nat.cast_nonneg _))
    rw [RateThrottler.new, Nat.cast_mul]
    exact mul_le_mul_of_nonneg_right floor (Nat.cast_nonneg _)
  vouched some := absurd rfl some

/-- What a paced sequence of admissions holds: the bytes that the limit allows for, the first
packet, and for each packet and once for each place in the window the part of a datagram of
full size that the code sets aside as its error. -/
theorem bytes_le_of_paced (wide : 2 ≤ windowSize) (nonneg : 0 ≤ limit)
    (paced : Paced admittedAt admittedBytes (bytesPerSecond limit) (errorSlack windowSize)
      windowSize admitted)
    (sorted : admitted.Pairwise fun earlier later => earlier.1 ≤ later.1)
    {first last : Time × Nat} (starts : admitted.head? = some first)
    (ends : admitted.getLast? = some last) :
    ((admitted.map Prod.snd).sum : Nat) ≤
      first.2 + bytesPerSecond limit * (admittedAt last - admittedAt first) +
        maxErrRatio * udpMaxLength * (admitted.length + windowSize) := by
  have ratio : 0 ≤ maxErrRatio := by norm_num [maxErrRatio]
  have slack_nonneg : 0 ≤ errorSlack windowSize :=
    mul_nonneg (mul_nonneg ratio (Nat.cast_nonneg _)) (Nat.cast_nonneg _)
  have sizes : ∀ entry, 0 ≤ admittedBytes entry := fun _ => Nat.cast_nonneg _
  have total := paced.total_le (by omega) (bytesPerSecond_nonneg nonneg) slack_nonneg sizes
    (sorted.imp fun le => seconds_mono le) starts ends
  rw [total_admitted] at total
  have positive : (0 : ℚ) < windowSize := Nat.cast_pos.mpr (by omega)
  have slacks : ((admitted.length : ℚ) / windowSize + 1) * errorSlack windowSize =
      maxErrRatio * udpMaxLength * (admitted.length + windowSize) := by
    unfold errorSlack
    field_simp
  rwa [slacks] at total

end Steps

end RateThrottler

end StreamReplay
