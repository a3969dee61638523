import StreamReplay.Tx.Conservation
import StreamReplay.Tx.Packetise

/-!
# The frame backlog

The source thread packetises one frame after another into the throttler.  The
throttler counts a frame in when it is prepared and out when a packet marked
`last_one` is sent; the buffer holds the frames themselves.
-/

namespace StreamReplay

open Checked FallibleRun

/-- What a source hands over as one frame: its bytes or, in the trace replay, its
size alone. -/
inductive FrameData where
  | bytes (buffer : List UInt8)
  | dummy (sizeBytes : Nat)

def FrameData.size : FrameData → Nat
  | .bytes buffer => buffer.length
  | .dummy sizeBytes => sizeBytes

def FrameData.buffer : FrameData → Option (List UInt8)
  | .bytes buffer => some buffer
  | .dummy _ => none

/-- A source thread's template and the throttler it shares. -/
structure Source where
  template : PacketWithMeta
  throttler : RateThrottler

inductive SourceOp where
  | frame (arrival : ℚ) (data : FrameData) (now : Time)
  | tryConsume (clock : Clock) (callback : PacketWithMeta → Bool)
  | setThrottle (throttle : ℚ)
  | reset

def Source.step : FallibleRun.Step Source SourceOp (Option Bool) Panic
  | source, .frame arrival data now => do
      let (packets, template) ← packetise arrival source.template data.size data.buffer
      let throttler ← source.throttler.prepare now packets
      return (none, { template, throttler })
  | source, .tryConsume clock callback => do
      let (out, throttler) ← source.throttler.tryConsume clock callback
      return (out, { source with throttler })
  | source, .setThrottle throttle =>
      .ok (none, { source with throttler := { source.throttler with throttle } })
  | source, .reset => .ok (none, { source with throttler := source.throttler.reset })

def Source.new (port : UInt16) (throttle : ℚ) (windowSize : Nat) (infiniteBuffer : Bool) :
    Source where
  template := .new port
  throttler := .new throttle windowSize infiniteBuffer

def PacketWithMeta.seq (packet : PacketWithMeta) : UInt32 := packet.packet.seq

/-- The packets waiting in the source's buffer. -/
def Source.queued (source : Source) : List PacketWithMeta := source.throttler.buffer.fifo

/-- The backlog is the number of frames with a packet in the buffer. -/
def Source.BacklogExact (source : Source) : Prop :=
  source.throttler.frameCount = Sequence.distinct PacketWithMeta.seq source.queued

abbrev SourceEvent := Event Source SourceOp (Option Bool)

/-- The condition under which a step counts correctly: a new frame has packets and
finds room, a packet that is sent is marked last or has another packet of its
frame behind it, and a reset finds the buffer empty. -/
def SourceEvent.CountsRight (event : SourceEvent) : Prop :=
  match event.op with
  | .frame _ data _ =>
      frameNum data.size % 2 ^ 16 ≠ 0 ∧ ¬event.before.throttler.buffer.Full
  | .tryConsume clock callback =>
      ∀ packet rest, event.before.queued = packet :: rest →
        event.before.throttler.handed clock = some packet → callback packet = true →
        packet.lastOne = true ∨ ∃ other ∈ rest, other.seq = packet.seq
  | .setThrottle _ => True
  | .reset => event.before.queued = []

/-! ## The packets of one frame -/

theorem FrameData.sized (data : FrameData) :
    ∀ bytes, data.buffer = some bytes → bytes.length = data.size := by
  cases data with
  | bytes buffer =>
      intro bytes equal
      cases equal
      rfl
  | dummy sizeBytes =>
      intro bytes equal
      cases equal

/-- A packet marked last has no packet of its frame behind it. -/
def LastIsLast (packets : List PacketWithMeta) : Prop :=
  packets.Pairwise fun earlier later => earlier.lastOne = true → later.seq ≠ earlier.seq

/-- The packets of a new frame: how many there are, the number they carry, and
that only the last is marked. -/
theorem packetise_frame {arrival : ℚ} {template final : PacketWithMeta} {data : FrameData}
    {packets : List PacketWithMeta}
    (generated : packetise arrival template data.size data.buffer = .ok (packets, final)) :
    template.seq.toNat < final.seq.toNat ∧ packets.length = frameNum data.size % 2 ^ 16 ∧
      (∀ packet ∈ packets, packet.seq = final.seq) ∧ LastIsLast packets := by
  rcases emitted_of_packetise data.sized generated with ⟨seqEq, newer, every⟩
  refine ⟨newer, ?_, ?_, ?_⟩
  · rw [← every.length_eq, offsetRange, List.length_map, List.length_range,
      UInt16.toNat_ofNat']
  · intro packet member
    rcases Sequence.exists_related_of_mem every member with ⟨_, _, emitted⟩
    exact emitted.seq_eq.trans seqEq.symm
  · refine Sequence.pairwise_of_forall₂ every (offsetRange_pairwise _) ?_
    intro first _ second secondMem packet other ordered emitted _ isLast
    rw [emitted.lastOne_eq, beq_iff_eq, ← UInt16.toNat_inj, UInt16.toNat_ofNat'] at isLast
    -- The last offset of the range is the largest one.
    have below := mem_offsetRange.mp secondMem
    rw [UInt16.lt_iff_toNat_lt] at ordered
    omega

/-! ## One step -/

/-- The invariant of the queue: sequence numbers up to the template's, and last
packets behind the others of their frame. -/
structure Source.Ordered (source : Source) : Prop where
  seq_le : ∀ packet ∈ source.queued, packet.seq.toNat ≤ source.template.seq.toNat
  lastIsLast : LastIsLast source.queued

namespace Source

/-- What preparing a frame does to the queue and the count. -/
theorem frame_eq_ok {source next : Source} {arrival : ℚ} {data : FrameData} {now : Time}
    {out : Option Bool} (taken : step source (.frame arrival data now) = .ok (out, next)) :
    ∃ packets, packetise arrival source.template data.size data.buffer =
        .ok (packets, next.template) ∧
      next.queued = source.queued ++ source.throttler.buffer.accepted packets ∧
      next.throttler.frameCount = source.throttler.frameCount + 1 := by
  rcases bind_eq_ok.mp taken with ⟨⟨packets, template⟩, generated, taken⟩
  rcases bind_eq_ok.mp taken with ⟨prepared, returned, equal⟩
  rcases RateThrottler.prepare_eq_ok.mp returned with ⟨_, checked, _, rfl⟩
  cases equal
  exact ⟨packets, generated, CycledVecDequeue.fifo_tryPushAll _ _, rfl⟩

/-- What a call of `try_consume` does to the queue and the count. -/
theorem tryConsume_cases {source next : Source} {clock : Clock}
    {callback : PacketWithMeta → Bool} {out : Option Bool}
    (taken : step source (.tryConsume clock callback) = .ok (out, next)) :
    next.template = source.template ∧
      ((next.queued = source.queued ∧
          next.throttler.frameCount = source.throttler.frameCount ∧
          ∀ packet, source.throttler.handed clock = some packet → callback packet = false) ∨
        ∃ packet rest, source.queued = packet :: rest ∧ next.queued = rest ∧
          source.throttler.handed clock = some packet ∧ callback packet = true ∧
          (packet.lastOne = true → 1 ≤ source.throttler.frameCount) ∧
          next.throttler.frameCount =
            source.throttler.frameCount - if packet.lastOne then 1 else 0) := by
  rcases bind_eq_ok.mp taken with ⟨⟨out, throttler⟩, returned, equal⟩
  cases equal
  refine ⟨rfl, ?_⟩
  cases RateThrottler.tryConsume_eq_ok.mp returned with
  | idle empty =>
      left
      refine ⟨rfl, rfl, ?_⟩
      simp [RateThrottler.handed, CycledVecDequeue.front, empty]
  | refused head admission =>
      left
      refine ⟨congrArg CycledVecDequeue.fifo admission.sameQueue.buffer_eq,
        admission.sameQueue.frameCount_eq, ?_⟩
      simp [RateThrottler.handed_of_admission head admission]
  | failed head admission unsent =>
      left
      refine ⟨congrArg CycledVecDequeue.fifo admission.sameQueue.buffer_eq,
        admission.sameQueue.frameCount_eq, ?_⟩
      simpa [RateThrottler.handed_of_admission head admission] using unsent
  | sent head admission sends counted check =>
      right
      refine ⟨_, _, head, rfl, RateThrottler.handed_of_admission head admission, sends, counted,
        ?_⟩
      simp only [check.sameQueue.frameCount_eq, RateThrottler.released,
        admission.sameQueue.frameCount_eq]

theorem Ordered.step {source next : Source} {op : SourceOp} {out : Option Bool}
    (ordered : source.Ordered) (taken : Source.step source op = .ok (out, next)) :
    next.Ordered := by
  cases op with
  | frame arrival data now =>
      rcases frame_eq_ok taken with ⟨packets, generated, queuedEq, _⟩
      rcases packetise_frame generated with ⟨newer, _, sameSeq, lastIsLast⟩
      have accepted := source.throttler.buffer.accepted_sublist packets
      have seqOf : ∀ packet ∈ source.throttler.buffer.accepted packets,
          packet.seq = next.template.seq :=
        fun packet member => sameSeq packet (accepted.mem member)
      constructor
      · intro packet member
        rw [queuedEq] at member
        rcases List.mem_append.mp member with old | new
        · exact (ordered.seq_le packet old).trans newer.le
        · exact (congrArg UInt32.toNat (seqOf packet new)).le
      · rw [LastIsLast, queuedEq, List.pairwise_append]
        refine ⟨ordered.lastIsLast, lastIsLast.sublist accepted, ?_⟩
        intro earlier old later new _ sameSeq
        have below := (ordered.seq_le earlier old).trans_lt newer
        rw [← seqOf later new, sameSeq] at below
        exact below.false
  | tryConsume clock callback =>
      rcases tryConsume_cases taken with ⟨templateEq, kept | taken⟩
      · constructor
        · rw [kept.1, templateEq]
          exact ordered.seq_le
        · rw [kept.1]
          exact ordered.lastIsLast
      · rcases taken with ⟨packet, rest, queuedEq, restEq, _⟩
        have seqLe := ordered.seq_le
        have lastIsLast := ordered.lastIsLast
        rw [LastIsLast, queuedEq, List.pairwise_cons] at lastIsLast
        rw [queuedEq] at seqLe
        constructor
        · rw [restEq, templateEq]
          exact fun other member => seqLe other (List.mem_cons_of_mem _ member)
        · rw [restEq]
          exact lastIsLast.2
  | setThrottle throttle =>
      cases taken
      exact ⟨ordered.seq_le, ordered.lastIsLast⟩
  | reset =>
      cases taken
      exact ⟨fun packet member => (List.not_mem_nil member).elim, .nil⟩

/-- A step from an exact backlog ends in one exactly when it counts right. -/
theorem backlogExact_iff {source next : Source} {op : SourceOp} {out : Option Bool}
    (ordered : source.Ordered) (exact : source.BacklogExact)
    (taken : step source op = .ok (out, next)) :
    next.BacklogExact ↔ SourceEvent.CountsRight ⟨source, op, out, next⟩ := by
  unfold BacklogExact at exact ⊢
  cases op with
  | frame arrival data now =>
      rcases frame_eq_ok taken with ⟨packets, generated, queuedEq, countEq⟩
      rcases packetise_frame generated with ⟨newer, lengthEq, sameSeq, _⟩
      have accepted := source.throttler.buffer.accepted_sublist packets
      have unused : ∀ packet ∈ source.queued, packet.seq ≠ next.template.seq := by
        intro packet member sameSeq
        have below := (ordered.seq_le packet member).trans_lt newer
        rw [sameSeq] at below
        exact below.false
      have acceptsNone : source.throttler.buffer.accepted packets = [] ↔
          frameNum data.size % 2 ^ 16 = 0 ∨ source.throttler.buffer.Full := by
        rw [← lengthEq, List.length_eq_zero_iff]
        cases packets with
        | nil => simp [CycledVecDequeue.accepted]
        | cons packet packets =>
            by_cases full : source.throttler.buffer.Full
            · simp [CycledVecDequeue.accepted_of_full full, full]
            · simp [CycledVecDequeue.accepted_cons_of_not_full full, full]
      rw [queuedEq, countEq, exact, Sequence.distinct_append_of_fresh
        (fun packet member => sameSeq packet (accepted.mem member)) unused]
      change _ ↔ frameNum data.size % 2 ^ 16 ≠ 0 ∧ ¬source.throttler.buffer.Full
      rw [← not_or, ← acceptsNone]
      split
      next none => simp [none]
      next some => simp [some]
  | tryConsume clock callback =>
      change _ ↔ ∀ packet rest, source.queued = packet :: rest →
        source.throttler.handed clock = some packet → callback packet = true →
        packet.lastOne = true ∨ ∃ other ∈ rest, other.seq = packet.seq
      rcases tryConsume_cases taken with ⟨_, kept | sent⟩
      · rcases kept with ⟨queuedEq, countEq, unsent⟩
        rw [queuedEq, countEq]
        refine iff_of_true exact fun packet rest _ handed sends => ?_
        rw [unsent packet handed] at sends
        cases sends
      · rcases sent with ⟨packet, rest, queuedEq, restEq, handed, sends, counted, countEq⟩
        have lastIsLast := ordered.lastIsLast
        rw [LastIsLast, queuedEq, List.pairwise_cons] at lastIsLast
        have condition : (∀ first others, source.queued = first :: others →
              source.throttler.handed clock = some first → callback first = true →
              first.lastOne = true ∨ ∃ other ∈ others, other.seq = first.seq) ↔
            (packet.lastOne = true ∨ ∃ other ∈ rest, other.seq = packet.seq) := by
          constructor
          · intro every
            exact every packet rest queuedEq handed sends
          · intro holds first others equal _ _
            rcases List.cons.inj (queuedEq.symm.trans equal) with ⟨rfl, rfl⟩
            exact holds
        rw [queuedEq, Sequence.distinct_cons] at exact
        rw [condition, restEq, countEq]
        cases isLast : packet.lastOne with
        | true =>
            have alone : ¬∃ other ∈ rest, other.seq = packet.seq := by
              rintro ⟨other, member, sameSeq⟩
              exact lastIsLast.1 other member isLast sameSeq
            rw [if_neg alone] at exact
            simp [exact]
        | false =>
            by_cases behind : ∃ other ∈ rest, other.seq = packet.seq
            · rw [if_pos behind] at exact
              simp [exact, behind]
            · rw [if_neg behind] at exact
              simp only [exact, behind, or_false, Bool.false_eq_true, if_false, iff_false]
              omega
  | setThrottle throttle =>
      cases taken
      exact iff_of_true exact trivial
  | reset =>
      cases taken
      change source.throttler.frameCount = 0 ↔ source.queued = []
      rw [exact, Sequence.distinct_eq_zero]

end Source

/-- In every run, the backlog is exact in each state reached exactly when every
step counts right. -/
theorem backlog_exact_iff {port : UInt16} {throttle : ℚ} {windowSize : Nat}
    {infiniteBuffer : Bool} {history : List SourceEvent} {state : Source}
    (run : Run Source.step (.new port throttle windowSize infiniteBuffer) history state) :
    (∀ event ∈ history, event.after.BacklogExact) ↔
      ∀ event ∈ history, SourceEvent.CountsRight event := by
  have queuedEq : (Source.new port throttle windowSize infiniteBuffer).queued = [] := by
    cases infiniteBuffer <;> rfl
  have ordered : (Source.new port throttle windowSize infiniteBuffer).Ordered := by
    constructor <;> rw [queuedEq]
    · exact fun packet member => (List.not_mem_nil member).elim
    · exact .nil
  have exact : (Source.new port throttle windowSize infiniteBuffer).BacklogExact := by
    rw [Source.BacklogExact, queuedEq]
    rfl
  exact run.forall_after_iff ordered exact
    (fun _ _ _ _ ordered taken => ordered.step taken)
    fun _ _ _ _ ordered exact taken => Source.backlogExact_iff ordered exact taken

/-- An empty frame is prepared. -/
def emptyFrame : List SourceOp := [.frame 0 (.bytes []) 0]

/-- A frame is prepared and thrown away by a reset. -/
def resetPending : List SourceOp := [.frame 0 (.bytes [7]) 0, .reset]

/-- A frame of one packet too many is prepared, and what the buffer took is sent. -/
def truncatedFrame : List SourceOp :=
  .frame 0 (.dummy (51 * maxPayloadLen)) 0 ::
    List.replicate 50 (.tryConsume (.still 0) fun _ => true)

theorem backlog_exact_iff_one :
    ∃ history state, Run Source.step (.new 0 0 1 false) history state ∧
      history.map Event.op =
        [.frame 0 (.bytes [7]) 0, .tryConsume (.still 0) fun _ => true] ∧
      ((∀ event ∈ history, event.after.BacklogExact) ↔
        ∀ event ∈ history, SourceEvent.CountsRight event) := by
  obtain ⟨history, state, run, opsEq, _⟩ :=
    exists_run_of_any Source.step (.new 0 0 1 false)
      [.frame 0 (.bytes [7]) 0, .tryConsume (.still 0) fun _ => true] (fun _ => true)
      (by decide +kernel)
  exact ⟨history, state, run, opsEq, backlog_exact_iff run⟩

/-- The operations leave an empty buffer and a frame count of one. -/
def Drifts (ops : List SourceOp) : Prop :=
  ∃ history state, Run Source.step (.new 0 0 1 false) history state ∧
    history.map Event.op = ops ∧ state.throttler.frameCount = 1 ∧ state.queued = [] ∧
    ¬state.BacklogExact

theorem drifts_of_any {ops : List SourceOp}
    (passes : (exec Source.step (.new 0 0 1 false) ops).toOption.any (fun state =>
      state.throttler.frameCount == 1 && state.queued.isEmpty) = true) : Drifts ops := by
  rcases exists_run_of_any _ _ _ _ passes with ⟨history, state, run, opsEq, passes⟩
  simp only [Bool.and_eq_true, beq_iff_eq, List.isEmpty_iff] at passes
  rcases passes with ⟨counted, empty⟩
  refine ⟨history, state, run, opsEq, counted, empty, ?_⟩
  rw [Source.BacklogExact, counted, empty]
  exact Nat.one_ne_zero

theorem backlog_drifts :
    Drifts emptyFrame ∧ Drifts resetPending ∧ Drifts truncatedFrame :=
  ⟨drifts_of_any (by decide +kernel), drifts_of_any (by decide +kernel),
    drifts_of_any (by decide +kernel)⟩

end StreamReplay
