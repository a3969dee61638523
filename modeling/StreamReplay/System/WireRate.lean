import StreamReplay.System.Provenance
import StreamReplay.Tx.Pace

/-!
# The rate on the wire

What a source thread puts on the wire has been admitted by its throttler.  In a run whose
throttle never exceeds a limit, and whose clock does not go back, the wire therefore keeps
to the limit in the long run, whatever the control channel sets the throttle to in between.
-/

namespace StreamReplay

open Checked FallibleRun Pacing RateThrottler

/-- The readings of the clock that the throttler sees in a step. -/
def SenderOp.readings : SenderOp → List Time
  | .frame _ _ now => [now]
  | .turn clock _ => [clock.rate, clock.push, clock.consume]
  | _ => []

/-- The packet that a step hands to the callback of `process_queue`. -/
def Sender.offers (sender : Sender) : SenderOp → List (Time × Nat)
  | .turn clock _ =>
      if sender.phase = .sending then sender.source.throttler.handedEntry clock else []
  | _ => []

/-- The packets that were handed to the callback, with the times of their admission. -/
def offered (history : List (Event Sender SenderOp Unit)) : List (Time × Nat) :=
  history.flatMap fun event => event.before.offers event.op

/-- The bytes of payload on the wire. -/
def wireBytes (wire : List PacketStruct) : Nat := (wire.map fun sent => sent.length.toNat).sum

/-- The readings of the clock in a run. -/
def readings (history : List (Event Sender SenderOp Unit)) : List Time :=
  history.flatMap fun event => event.op.readings

/-! ## One turn -/

section Turns

variable {socketInfos : SocketInfo} {sender : Sender} {clock : Clock} {outcome : SendOutcome}

/-- A turn puts nothing on the wire but the packet that it hands out. -/
theorem wireBytes_turn (socketInfos : SocketInfo) (sender : Sender) (clock : Clock)
    (outcome : SendOutcome) :
    wireBytes (sender.turn socketInfos clock outcome).outlet.wire ≤
      wireBytes sender.outlet.wire +
        ((sender.source.throttler.handedEntry clock).map Prod.snd).sum := by
  rw [Sender.turn, RateThrottler.tryConsumeWith_eq, RateThrottler.handedEntry]
  cases handed : sender.source.throttler.handed clock with
  | none => simp
  | some packet =>
      simp only
      rcases attempted : sender.outlet.attempt socketInfos outcome packet with
        ⟨result, outlet⟩
      cases result with
      | error fault =>
          rw [Outlet.eq_of_attempt_error attempted, Sender.outlet_settle]
          exact Nat.le_add_right _ _
      | ok sent =>
          simp only [Sender.outlet_settle]
          rcases Outlet.attempt_cases attempted with
            ⟨_, wire⟩ | ⟨_, _, message, packetType, _, wire⟩
          · rw [wire]
            exact Nat.le_add_right _ _
          · rw [wire, wireBytes, List.map_append, List.sum_append]
            exact le_of_eq rfl

/-- A turn is a call of `try_consume`, or the thread panics in it. -/
theorem consumption_of_turn (socketInfos : SocketInfo) (sender : Sender) (clock : Clock)
    (outcome : SendOutcome) :
    let next := sender.turn socketInfos clock outcome
    next.phase = .panicked ∨ ∃ callback out,
      Consumption sender.source.throttler clock callback out next.source.throttler := by
  rcases sender.throttler_turn socketInfos clock outcome with
    ⟨panicked, _⟩ | ⟨sent, out, consumed, _⟩
  · exact .inl panicked
  · exact .inr ⟨fun _ => sent, out, tryConsume_eq_ok.mp consumed⟩

end Turns

/-! ## Runs -/

/-- The thread has neither finished nor panicked. -/
def Sender.Running (sender : Sender) : Prop :=
  sender.phase ≠ .finished ∧ sender.phase ≠ .panicked

theorem Sender.running_of_phase {sender : Sender}
    (phase : sender.phase = .waiting ∨ sender.phase = .queued ∨ sender.phase = .sending) :
    sender.Running := by
  rcases phase with phase | phase | phase <;> simp [Sender.Running, phase]

/-- What was offered in a run is paced, and covers the wire.  While the thread is running,
the throttler vouches for the latest of it. -/
structure Sender.Paces (limit : ℚ) (windowSize : Nat)
    (history : List (Event Sender SenderOp Unit)) (sender : Sender) : Prop where
  paced : Paced admittedAt admittedBytes (bytesPerSecond limit) (errorSlack windowSize)
    windowSize (offered history)
  sorted : (offered history).Pairwise fun earlier later => earlier.1 ≤ later.1
  read : ∀ entry ∈ offered history, entry.1 ∈ readings history
  wire : wireBytes sender.outlet.wire ≤ ((offered history).map Prod.snd).sum
  capped : sender.Running → ∃ now, (now = 0 ∨ now ∈ readings history) ∧
    Capped limit (errorSlack windowSize) windowSize sender.source.throttler (offered history)
      now

section Runs

variable {socketInfos : SocketInfo} {limit : ℚ} {windowSize : Nat} {sender next : Sender}
  {history : List (Event Sender SenderOp Unit)} {op : SenderOp}

theorem readings_snoc (history : List (Event Sender SenderOp Unit)) (sender : Sender)
    (op : SenderOp) (out : Unit) (next : Sender) :
    readings (history ++ [⟨sender, op, out, next⟩]) = readings history ++ op.readings := by
  simp [readings]

theorem offered_snoc (history : List (Event Sender SenderOp Unit)) (sender : Sender)
    (op : SenderOp) (out : Unit) (next : Sender) :
    offered (history ++ [⟨sender, op, out, next⟩]) = offered history ++ sender.offers op := by
  simp [offered]

/-- A step that offers nothing. -/
theorem Sender.Paces.idle (paces : sender.Paces limit windowSize history)
    (offers : sender.offers op = []) (wire : next.outlet.wire = sender.outlet.wire)
    (capped : next.Running → ∃ now, (now = 0 ∨ now ∈ readings history ++ op.readings) ∧
      Capped limit (errorSlack windowSize) windowSize next.source.throttler (offered history)
        now) :
    next.Paces limit windowSize (history ++ [⟨sender, op, (), next⟩]) := by
  constructor <;> rw [offered_snoc, offers, List.append_nil]
  · exact paces.paced
  · exact paces.sorted
  · intro entry member
    rw [readings_snoc]
    exact List.mem_append_left _ (paces.read entry member)
  · exact wire ▸ paces.wire
  · rw [readings_snoc]
    exact capped

/-- What has been read before is not later than what is read next. -/
theorem le_of_readings {past coming : List Time} {now reading : Time}
    (clock : (past ++ coming).Pairwise fun earlier later => earlier ≤ later)
    (known : now = 0 ∨ now ∈ past) (member : reading ∈ coming) : now ≤ reading := by
  rcases known with rfl | known
  · exact Nat.zero_le _
  · exact (List.pairwise_append.mp clock).2.2 now known reading member

/-- A turn of the loop. -/
theorem Sender.Paces.turn (paces : sender.Paces limit windowSize history)
    (wide : 2 ≤ windowSize) (nonneg : 0 ≤ limit)
    (judged : sender.source.throttler.throttle ≠ 0)
    (throttled : sender.source.throttler.throttle ≤ limit) (sending : sender.phase = .sending)
    {clock : Clock} {outcome : SendOutcome}
    (onward : (readings history ++ (SenderOp.turn clock outcome).readings).Pairwise
      fun earlier later => earlier ≤ later) :
    (sender.turn socketInfos clock outcome).Paces limit windowSize
      (history ++ [⟨sender, .turn clock outcome, (),
        sender.turn socketInfos clock outcome⟩]) := by
  have offers : sender.offers (.turn clock outcome) =
      sender.source.throttler.handedEntry clock := if_pos sending
  rcases paces.capped (Sender.running_of_phase (.inr (.inr sending))) with
    ⟨now, known, capped⟩
  have reached : now ≤ clock.rate := le_of_readings onward known List.mem_cons_self
  have pushed : ∀ entry ∈ sender.source.throttler.handedEntry clock, entry.1 = clock.push := by
    intro entry member
    rcases List.mem_map.mp member with ⟨packet, _, rfl⟩
    rfl
  constructor <;> rw [offered_snoc, offers]
  · exact capped.paced_of_handed wide nonneg reached judged throttled paces.paced
  · refine List.pairwise_append.mpr ⟨paces.sorted, ?_, fun entry member other last => ?_⟩
    · unfold RateThrottler.handedEntry
      cases sender.source.throttler.handed clock <;> simp
    · rw [pushed other last]
      exact le_of_readings onward (.inr (paces.read entry member)) (by simp [SenderOp.readings])
  · intro entry member
    rw [readings_snoc]
    rcases List.mem_append.mp member with earlier | last
    · exact List.mem_append_left _ (paces.read entry earlier)
    · refine List.mem_append_right _ ?_
      simp [pushed entry last, SenderOp.readings]
  · rw [List.map_append, List.sum_append]
    exact (wireBytes_turn socketInfos sender clock outcome).trans
      (Nat.add_le_add_right paces.wire _)
  · rw [readings_snoc]
    rcases consumption_of_turn socketInfos sender clock outcome with
      panicked | ⟨callback, out, consumption⟩
    · exact fun running => absurd panicked running.2
    · have consumed : clock.consume ∈ (SenderOp.turn clock outcome).readings := by
        simp [SenderOp.readings]
      exact fun _ => ⟨clock.consume, .inr (List.mem_append_right _ consumed),
        capped.consumption wide nonneg reached judged throttled consumption⟩

/-- A new frame, of which the throttler sees its check of the rate. -/
theorem Sender.Paces.takeFrame (paces : sender.Paces limit windowSize history)
    (wide : 2 ≤ windowSize) (nonneg : 0 ≤ limit) (waiting : sender.phase = .waiting)
    {arrival : ℚ} {data : FrameData} {now : Time}
    (onward : (readings history ++ [now]).Pairwise fun earlier later => earlier ≤ later)
    (running : (sender.takeFrame arrival data now).Running) :
    ∃ reading, (reading = 0 ∨ reading ∈ readings history ++ [now]) ∧
      Capped limit (errorSlack windowSize) windowSize
        (sender.takeFrame arrival data now).source.throttler (offered history) reading := by
  rcases paces.capped (Sender.running_of_phase (.inl waiting)) with ⟨before, known, capped⟩
  unfold Sender.takeFrame at running ⊢
  split at running
  next => exact absurd rfl running.2
  next source taken =>
    simp only
    rcases bind_eq_ok.mp taken with ⟨⟨packets, template⟩, _, rest⟩
    rcases bind_eq_ok.mp rest with ⟨prepared, returned, equal⟩
    rcases prepare_eq_ok.mp returned with ⟨_, checked, check, rfl⟩
    cases equal
    have member : now ∈ [now] := List.mem_cons_self
    have checks := capped.check wide nonneg (le_of_readings onward known member) check
    exact ⟨now, .inr (List.mem_append_right _ member), checks.holds, checks.sumBytes_eq,
      checks.maxError_le, checks.vouched⟩

/-- Step lemma. -/
theorem Sender.Paces.step (paces : sender.Paces limit windowSize history)
    (wide : 2 ≤ windowSize) (nonneg : 0 ≤ limit)
    (judged : sender.source.throttler.throttle ≠ 0)
    (throttled : sender.source.throttler.throttle ≤ limit) (op : SenderOp)
    (onward : (readings history ++ op.readings).Pairwise fun earlier later =>
      earlier ≤ later) :
    (sender.apply socketInfos op).Paces limit windowSize
      (history ++ [⟨sender, op, (), sender.apply socketInfos op⟩]) := by
  have unchanged : sender.Running → ∃ now, (now = 0 ∨ now ∈ readings history ++ op.readings) ∧
      Capped limit (errorSlack windowSize) windowSize sender.source.throttler
        (offered history) now := fun running => by
    rcases paces.capped running with ⟨now, known, capped⟩
    exact ⟨now, known.imp_right (List.mem_append_left _), capped⟩
  cases op with
  | turn clock outcome =>
      rw [Sender.apply]
      split
      next sending => exact paces.turn wide nonneg judged throttled sending onward
      next other => exact paces.idle (if_neg other) rfl unchanged
  | frame arrival data now =>
      rw [Sender.apply]
      split
      next waiting =>
        refine paces.idle rfl ?_ (paces.takeFrame wide nonneg waiting onward)
        unfold Sender.takeFrame
        split <;> rfl
      next => exact paces.idle rfl rfl unchanged
  | register time =>
      rw [Sender.apply]
      split
      next queued =>
        exact paces.idle rfl rfl fun _ => unchanged
          (Sender.running_of_phase (.inr (.inl queued)))
      next => exact paces.idle rfl rfl unchanged
  | leave =>
      rw [Sender.apply]
      split
      next sending =>
        exact paces.idle rfl rfl fun _ => unchanged
          (Sender.running_of_phase (.inr (.inr sending)))
      next => exact paces.idle rfl rfl unchanged
  | finish =>
      rw [Sender.apply]
      split
      next => exact paces.idle rfl rfl fun running => absurd rfl running.1
      next => exact paces.idle rfl rfl unchanged
  | setThrottle throttle =>
      refine paces.idle rfl rfl fun running => ?_
      rcases unchanged running with ⟨now, known, capped⟩
      exact ⟨now, known, capped.holds, capped.sumBytes_eq, capped.maxError_le, capped.vouched⟩
  | setPolicyParameters parameters => exact paces.idle rfl rfl unchanged
  | publish snapshot => exact paces.idle rfl rfl unchanged

/-- Run lemma. -/
theorem Sender.Paces.of_run {port : UInt16} {throttle : ℚ} {ctler : TxPartCtler}
    (run : Run (Sender.step socketInfos) (.new port throttle windowSize ctler) history sender)
    (wide : 2 ≤ windowSize) (nonneg : 0 ≤ limit)
    (throttled : ∀ event ∈ history, event.before.source.throttler.throttle ≠ 0 ∧
      event.before.source.throttler.throttle ≤ limit)
    (clock : (readings history).Pairwise fun earlier later => earlier ≤ later) :
    sender.Paces limit windowSize history := by
  induction run with
  | nil =>
      refine ⟨.nil, .nil, by simp [offered], Nat.zero_le _, fun _ => ⟨0, .inl rfl, ?_⟩⟩
      exact .new limit throttle windowSize false 0
  | @snoc history state next op out run taken ih =>
      cases taken
      rw [readings_snoc] at clock
      have before := ih (fun event member => throttled event (List.mem_append_left _ member))
        (List.pairwise_append.mp clock).1
      rcases throttled _ (List.mem_append_right _ List.mem_cons_self) with ⟨judged, below⟩
      exact before.step wide nonneg judged below op clock

end Runs

/-- In every run of a source thread with a window of two packets at least, whose throttle is
on and never above a limit, however it is set in between, and whose clock does not go back,
the payload on the wire is what the limit allows for the time from the first admission to the
last one, and no more than the first packet, and one part in a hundred of a full datagram for
each admission and each place in the window, beyond it.  The rates are exact rationals.  This
is what the error ratio of the throttler stands for. -/
theorem wire_rate_capped {socketInfos : SocketInfo} {port : UInt16} {throttle limit : ℚ}
    {windowSize : Nat} {ctler : TxPartCtler} {history : List (Event Sender SenderOp Unit)}
    {sender : Sender}
    (run : Run (Sender.step socketInfos) (.new port throttle windowSize ctler) history sender)
    (wide : 2 ≤ windowSize) (nonneg : 0 ≤ limit)
    (throttled : ∀ event ∈ history, event.before.source.throttler.throttle ≠ 0 ∧
      event.before.source.throttler.throttle ≤ limit)
    (clock : (readings history).Pairwise fun earlier later => earlier ≤ later)
    {first last : Time × Nat} (starts : (offered history).head? = some first)
    (ends : (offered history).getLast? = some last) :
    (wireBytes sender.outlet.wire : ℚ) ≤
      first.2 + bytesPerSecond limit * (admittedAt last - admittedAt first) +
        maxErrRatio * udpMaxLength * ((offered history).length + windowSize) := by
  have paces := Sender.Paces.of_run run wide nonneg throttled clock
  have total := bytes_le_of_paced wide nonneg paces.paced paces.sorted starts ends
  exact (Nat.cast_le.mpr paces.wire).trans total

/-- A source at one megabit a second. -/
def throttledSender : Sender :=
  .new 5005 1 4 (.new .hardThreshold unitParameters ⟨false, ⟨0, ∅, ∅⟩⟩)

/-- Two frames of three bytes.  The second one is refused at first. -/
def spacedFrames : List SenderOp :=
  [.frame 0 (.bytes [1, 2, 3]) 0, .register 0, .turn (.still 1) .sent, .leave,
    .frame 1 (.bytes [4, 5, 6]) 2, .register 0, .turn (.still 3) .sent,
    .turn (.still 60000) .sent]

theorem wire_rate_capped_two :
    ∃ history sender, Run (Sender.step twoSockets) throttledSender history sender ∧
      wireBytes sender.outlet.wire = 6 ∧ offered history = [(1, 3), (60000, 3)] ∧
      (wireBytes sender.outlet.wire : ℚ) ≤
        3 + bytesPerSecond 1 * (admittedAt (60000, 3) - admittedAt (1, 3)) +
          maxErrRatio * udpMaxLength * (2 + 4) := by
  rcases exists_run_of_trace (Sender.step twoSockets) throttledSender spacedFrames
    (fun history sender => wireBytes sender.outlet.wire = 6 ∧
      offered history = [(1, 3), (60000, 3)] ∧
      (∀ event ∈ history, event.before.source.throttler.throttle ≠ 0 ∧
        event.before.source.throttler.throttle ≤ 1) ∧
      (readings history).Pairwise fun earlier later => earlier ≤ later)
    (by decide +kernel) with ⟨history, sender, run, _, passes⟩
  rcases of_decide_eq_true passes with ⟨six, two, throttled, clock⟩
  have capped := wire_rate_capped run (by decide) (by norm_num) throttled clock
    (by rw [two]; rfl) (by rw [two]; rfl)
  rw [two] at capped
  exact ⟨history, sender, run, six, two, by simpa using capped⟩

end StreamReplay
