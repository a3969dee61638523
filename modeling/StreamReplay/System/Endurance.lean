import StreamReplay.Rx.Acceptance
import StreamReplay.System.Integrity

/-!
# How long the receive loop runs

Arbitrary traffic can stop the receive loop in many ways.  What a source sends leaves
three, whatever the network does to it: the byte counter overflows, no port is left for an
acknowledgement, or the decoder is gone when a frame is forwarded.
-/

namespace StreamReplay

open Checked FallibleRun Guarded

/-- The offsets that have arrived under a number, in order. -/
def offsetsOf (datagrams : List PacketStruct) (seq : UInt32) : List Nat :=
  (datagrams.filter fun sent => sent.seq = seq).map fun sent => sent.offset.toNat

/-- The datagram brings the last offset that is missing of its frame, counting from the last
time that the frame was complete. -/
def Sender.CompletedBy (sender : Sender) (args : Args) (earlier : List PacketStruct)
    (sent : PacketStruct) : Prop :=
  ∃ position data, sender.frames[position]? = some data ∧ sent.seq.toNat = position + 1 ∧
    Deliverable args sent.seq data ∧ Finset.range (frameNum data.size) ⊆
      insert sent.offset.toNat (Rounds.collect (Finset.range (frameNum data.size))
        (offsetsOf earlier sent.seq)).held

section Sessions

variable {emission : Emission} {sender : Sender} {args : Args}

theorem offsetsOf_packets (copies : List (Copy emission)) (seq : UInt32) :
    offsetsOf (copies.map Copy.packet) seq = indicesOf copies seq := by
  have seqs : ((fun sent : PacketStruct => decide (sent.seq = seq)) ∘ Copy.packet) =
      fun copy : Copy emission => decide (copy.seq = seq) := by
    funext copy
    simp only [Function.comp_apply, copy.seq_packet]
  have offsets : ((fun sent : PacketStruct => sent.offset.toNat) ∘ Copy.packet) =
      (Copy.index : Copy emission → Nat) := by
    funext copy
    exact copy.offset_packet
  rw [offsetsOf, indicesOf, List.filter_map, seqs, List.map_map, offsets]

/-- Copies finish the frames that their datagrams complete. -/
theorem Emission.Represents.finishes_iff (represents : emission.Represents sender)
    (earlier : List (Copy emission)) (copy : Copy emission) :
    Finishes args earlier copy ↔
      sender.CompletedBy args (earlier.map Copy.packet) copy.packet := by
  rw [Sender.CompletedBy, copy.seq_packet, copy.offset_packet, offsetsOf_packets]
  constructor
  · rintro ⟨completable, full⟩
    rcases represents.exists_data completable with ⟨position, data, found, seqEq, deliverable⟩
    rw [represents.indices_eq found seqEq deliverable] at full
    exact ⟨position, data, found, seqEq, deliverable, full⟩
  · rintro ⟨position, data, found, seqEq, deliverable, full⟩
    refine ⟨(represents.completable_iff found seqEq).mpr deliverable, ?_⟩
    rwa [represents.indices_eq found seqEq deliverable]

/-- What a turn on a copy in a session needs. -/
theorem Emission.Represents.recvCopy_returns_iff (represents : emission.Represents sender)
    {heard : List (Event RecvState (Copy emission) (Option Pong))} {state : RecvState}
    (run : Run (recvCopy args) .start heard state) (copy : Copy emission) :
    (∃ taken, recvCopy args state copy = .ok taken) ↔
      ((((heard.map Event.op).map Copy.packet) ++ [copy.packet]).map
        fun sent => sent.datagram.length).sum < 2 ^ 32 ∧
      (args.calcRtt = true → Accepts args (sender.CompletedBy args
        ((heard.map Event.op).map Copy.packet) copy.packet) copy.env) := by
  rw [StreamReplay.recvCopy_returns_iff run copy, dataLen_of_run run,
    represents.finishes_iff]
  simp [List.map_map, Function.comp_def]

end Sessions

/-- In every run of a session, the receive loop is running exactly when its byte counter
has counted every byte without a wrap and, if it acknowledges frames and something arrived,
the sample rate is not zero and whatever completed a frame found a port for the
acknowledgement and a decoder to forward it to. -/
theorem receiver_alive_iff {setup : Setup} {throttle targetRtt : ℚ} {windowSize : Nat}
    {ctler : TxPartCtler} {history : List SessionEvent} {session : Session}
    (run : Run (Session.step setup) (.start setup throttle windowSize ctler targetRtt)
      history session) :
    session.receiver.poisoned = false ↔
      ((arrived history).map fun sent => sent.datagram.length).sum < 2 ^ 32 ∧
        (setup.args.calcRtt = true → ∀ earlier sent env later,
          arrivals history = earlier ++ (sent, env) :: later →
            Accepts setup.args
              (session.sender.CompletedBy setup.args (earlier.map Prod.fst) sent) env) := by
  rcases (Sender.Produces.of_session run).exists_emission with ⟨emission, represents⟩
  rcases heard_of_run run represents.covers with ⟨heard, last, hears⟩
  constructor
  · intro alive
    obtain rfl := hears.alive_iff.mp alive
    constructor
    · rw [arrived, ← hears.packets_eq, List.map_map, List.map_map]
      have counted := dataLen_of_run hears.run
      rw [List.map_map] at counted
      exact lt_of_eq_of_lt counted.symm (UInt32.toNat_lt _)
    · intro calcRtt earlier sent env later split
      rw [← hears.delivered_eq rfl, List.map_map] at split
      rcases List.map_eq_append_iff.mp split with ⟨past, rest, rfl, rfl, tail⟩
      rcases List.map_eq_cons_iff.mp tail with ⟨event, rest, rfl, delivery, rfl⟩
      rcases hears.run.cut.of_snoc with ⟨before, taken⟩
      have returned := (represents.recvCopy_returns_iff before event.op).mp ⟨_, taken⟩
      have accepts := returned.2 calcRtt
      cases delivery
      simpa [List.map_map, Function.comp_def, Copy.delivery] using accepts
  · rintro ⟨fits, accepts⟩
    rw [hears.alive_iff]
    cases isLast : last with
    | none => rfl
    | some copy =>
        rcases hears.panics copy isLast with ⟨fault, failed⟩
        obtain ⟨later, split⟩ := isLast ▸ hears.delivered_prefix
        rw [Option.toList_some, List.map_append, List.map_singleton, List.append_assoc,
          List.singleton_append] at split
        have packets : ((heard.map Event.op).map Copy.delivery).map Prod.fst =
            (heard.map Event.op).map Copy.packet := List.map_map
        obtain ⟨taken, returned⟩ : ∃ taken, recvCopy setup.args session.receiver.value copy =
            .ok taken := by
          refine (represents.recvCopy_returns_iff hears.run copy).mpr ⟨?_, fun calcRtt => ?_⟩
          · rw [arrived, ← split, List.map_append, packets] at fits
            simp only [List.map_append, List.sum_append, List.map_cons, List.sum_cons] at fits
            simp only [List.map_append, List.sum_append, List.map_singleton, List.sum_singleton]
            change _ + (copy.packet.datagram.length + _) < _ at fits
            omega
          · exact packets ▸ accepts calcRtt _ _ _ _ split.symm
        rw [failed] at returned
        cases returned

/-- The decoder goes away between two frames. -/
def abandonedDelivery : List SessionOp :=
  twoFrames.map .sender ++
    [.deliver 0 .still, .deliver 1 { RecvEnv.still with receiverAlive := false }]

theorem receiver_alive_iff_abandoned :
    ∃ history session, Run (Session.step plainSetup) plainSession history session ∧
      session.receiver.poisoned = true ∧ session.pongs.length = 2 ∧
      ¬(((arrived history).map fun sent => sent.datagram.length).sum < 2 ^ 32 ∧
        (plainSetup.args.calcRtt = true → ∀ earlier sent env later,
          arrivals history = earlier ++ (sent, env) :: later →
            Accepts plainSetup.args (session.sender.CompletedBy plainSetup.args
              (earlier.map Prod.fst) sent) env)) := by
  rcases exists_run_of_any (Session.step plainSetup) plainSession abandonedDelivery
    (fun session => session.receiver.poisoned = true ∧ session.pongs.length = 2)
    (by decide +kernel) with ⟨history, session, run, _, passes⟩
  rcases of_decide_eq_true passes with ⟨gone, two⟩
  refine ⟨history, session, run, gone, two, fun accepts => ?_⟩
  rw [(receiver_alive_iff run).mpr accepts] at gone
  cases gone

end StreamReplay
