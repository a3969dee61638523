import StreamReplay.Foundation.Sequence
import StreamReplay.Tx.Packetise
import StreamReplay.Tx.Sending

/-!
# The end-of-frame flag

The packetiser marks the last packet of a frame in `u16`; the policies find it
again in `usize`, from a message that outlives packets and frames.  Both agree
for frames of at most 65535 packets, since a message takes the offset and the
count from the packet at hand whenever it is used.
-/

namespace StreamReplay

open Checked FallibleRun Floating

/-- The packets of a frame by offset: all offsets below the count, in order. -/
theorem offsets_of_generatePackets {now : ℚ} {remains : Nat}
    {template final : PacketWithMeta} {buffer : Option (List UInt8)}
    {packets : List PacketWithMeta} (short : template.num ≤ 65535)
    (generated : generatePackets now remains template buffer = .ok (packets, final)) :
    packets.map (fun packet => packet.packet.offset.toNat) = List.range template.num := by
  have indexed := indexed_of_emitPackets generated
  have offsets := Sequence.map_eq_of_forall₂ UInt16.toNat
    (fun packet : PacketWithMeta => packet.packet.offset.toNat) indexed (by
      intro offset packet holds
      rw [holds.offset_eq])
  rw [← offsets, map_toNat_offsetRange, Nat.mod_eq_of_lt (by omega)]

/-- The mark of the packetiser and the test of the policies, for one packet. -/
theorem lastOne_iff {now : ℚ} {remains : Nat} {template final : PacketWithMeta}
    {buffer : Option (List UInt8)} {packets : List PacketWithMeta}
    (short : template.num ≤ 65535)
    (generated : generatePackets now remains template buffer = .ok (packets, final))
    {packet : PacketWithMeta} (member : packet ∈ packets) :
    packet.num = template.num ∧
      (packet.lastOne = true ↔ packet.packet.offset.toNat = template.num - 1) := by
  rcases Sequence.exists_related_of_mem (indexed_of_emitPackets generated) member with
    ⟨offset, _, indexed⟩
  refine ⟨indexed.num_eq, ?_⟩
  rw [indexed.lastOne_eq, indexed.offset_eq, beq_iff_eq, ← UInt16.toNat_inj,
    UInt16.toNat_ofNat']
  change _ = (template.num - 1) % 2 ^ 16 ↔ _
  omega

/-- The flag that a scheduling decision puts on a packet. -/
theorem TxPartCtler.Decides.isLast_eq {round : Rounding} {ctler : TxPartCtler}
    {packet : PacketWithMeta} {message : SchedulingMessage} {packetType : PacketType}
    (decides : ctler.Decides round packet message packetType) :
    packetType.isLast = (packet.packet.offset.toNat == packet.num - 1) := by
  rcases Policy.getPacketState_eq_ok.mp decides.policy with ⟨_, onFirst, _, rfl⟩
  rw [isLast_packetTypeFor, decides.determined.offset_eq, decides.determined.num_eq]

/-- In whatever state a run has left the controller, and whatever attempts have failed
on the packet, a packet that is scheduled gets a last-packet indicator exactly when the
packetiser marked it, and of a frame's offsets that is the last alone. -/
theorem end_flag_agrees {socketInfos : SocketInfo} {start state : TxPartCtler}
    {history : List CtlerEvent}
    (run : Run (TxPartCtler.step socketInfos) start history state)
    {now : ℚ} {remains : Nat} {template final : PacketWithMeta}
    {buffer : Option (List UInt8)} {packets : List PacketWithMeta}
    (short : template.num ≤ 65535)
    (generated : generatePackets now remains template buffer = .ok (packets, final)) :
    packets.map (fun packet => packet.packet.offset.toNat) = List.range template.num ∧
    ∀ packet ∈ packets, ∀ waiting scheduled, packet.Waiting waiting →
      ((∃ next, state.schedule .binary32 waiting = .ok (some scheduled, next)) ∨
        ∃ event ∈ history, ∃ outcome sent, event.op = .attempt waiting outcome ∧
          event.out = some ⟨scheduled, sent⟩) →
      scheduled.packet.offset = packet.packet.offset ∧
        ∃ packetType, scheduled.packet.indicators = toIndicator packetType ∧
          (packetType.isLast = true ↔ packet.lastOne = true) ∧
          (packetType.isLast = true ↔ packet.packet.offset.toNat = template.num - 1) := by
  refine ⟨offsets_of_generatePackets short generated, ?_⟩
  intro packet member waiting scheduled waits yielded
  have decision : ∃ (ctler : TxPartCtler) (message : SchedulingMessage)
      (packetType : PacketType), ctler.Decides .binary32 waiting message packetType ∧
        scheduled = waiting.setIndicator packetType := by
    rcases yielded with ⟨next, returned⟩ | ⟨event, inHistory, outcome, sent, opEq, outEq⟩
    · rcases TxPartCtler.schedule_cases returned with ⟨none, _⟩ | ⟨_, _, decides, some, _⟩
      · cases none
      · exact ⟨_, _, _, decides, Option.some.inj some⟩
    · have taken := run.event_step inHistory
      rw [opEq, outEq] at taken
      rcases TxPartCtler.step_attempt_cases taken with
        ⟨none, _⟩ | ⟨attempt, _, _, attemptEq, attempts⟩
      · cases none
      · cases attemptEq
        exact ⟨_, _, _, attempts.decides, attempts.packet_eq⟩
  rcases decision with ⟨ctler, message, packetType, decides, rfl⟩
  rcases lastOne_iff short generated member with ⟨numEq, lastIff⟩
  rcases waits.fields packetType with ⟨replaced, offsetEq, numKept⟩
  have flag : packetType.isLast = true ↔
      packet.packet.offset.toNat = template.num - 1 := by
    rw [decides.isLast_eq, offsetEq, numKept, numEq, beq_iff_eq]
  rw [replaced]
  exact ⟨rfl, packetType, rfl, flag.trans lastIff.symm, flag⟩

/-- The attempts on a frame of three packets: the first waits for a snapshot, and the second
fails and is scheduled again on another snapshot, under other parameters. -/
def observedAttempts : List PacketWithMeta → List CtlerOp
  | [first, second, last] =>
      [.attempt first .sent, .publish orderedSnapshot, .attempt first .sent,
        .attempt second .wouldBlock, .setPolicyParameters ⟨1, 1, 2, 1⟩,
        .publish { swappedSnapshot with takenAt := 2 },
        .attempt (second.setIndicator .secondLink) .sent, .attempt last .failed]
  | _ => []

/-- The indicator of each attempt of a history, and whether the packet was sent. -/
def indicatorsOf (history : List CtlerEvent) : List (Option (UInt8 × Bool)) :=
  history.map fun event => event.out.map fun attempt =>
    (attempt.packet.packet.indicators, attempt.sent)

theorem end_flag_agrees_observed :
    ∃ packets final history state,
      generatePackets 0 100 (framePacket 0 3) none = .ok (packets, final) ∧
      Run (TxPartCtler.step bothSockets) freshCtler history state ∧
      history.map Event.op = observedAttempts packets ∧
      indicatorsOf history =
        [none, none, some (1, true), some (1, false), none, none, some (0, true),
          some (2, false)] ∧
      packets.map (fun packet => packet.packet.offset.toNat) = List.range 3 ∧
      ∀ packet ∈ packets, ∀ waiting scheduled, packet.Waiting waiting →
        ((∃ next, state.schedule .binary32 waiting = .ok (some scheduled, next)) ∨
          ∃ event ∈ history, ∃ outcome sent, event.op = .attempt waiting outcome ∧
            event.out = some ⟨scheduled, sent⟩) →
        scheduled.packet.offset = packet.packet.offset ∧
          ∃ packetType, scheduled.packet.indicators = toIndicator packetType ∧
            (packetType.isLast = true ↔ packet.lastOne = true) ∧
            (packetType.isLast = true ↔ packet.packet.offset.toNat = 3 - 1) := by
  have passes : (generatePackets 0 100 (framePacket 0 3) none).toOption.any (fun generated =>
      (trace (TxPartCtler.step bothSockets) freshCtler
        (observedAttempts generated.1)).toOption.any fun result => indicatorsOf result.1 ==
          [none, none, some (1, true), some (1, false), none, none, some (0, true),
            some (2, false)]) = true := by
    decide +kernel
  rcases exists_of_any passes with ⟨⟨packets, final⟩, generated, traced⟩
  rcases exists_run_of_trace (TxPartCtler.step bothSockets) freshCtler _
    (fun history _ => indicatorsOf history == _) traced with ⟨history, state, run, opsEq, outs⟩
  exact ⟨packets, final, history, state, generated, run, opsEq, beq_iff_eq.mp outs,
    end_flag_agrees run (by decide) generated⟩

end StreamReplay
