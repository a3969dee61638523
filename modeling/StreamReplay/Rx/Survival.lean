import StreamReplay.Rx.Receiver

/-!
# When the receiver survives

Arbitrary traffic can stop the receive loop: the byte counter is 32 bits wide, an
indicator may be unknown, and a frame may complete with a gap behind its last
packet or with a length that exceeds the payload array.  The loop survives a run
exactly when no datagram of it does any of this.
-/

namespace StreamReplay

open Checked FallibleRun

/-- The packet completes the record: with it everything up to the last packet's
identifier has arrived. -/
def RecvRecord.CompletedBy (record : RecvRecord) (packet : PacketStruct) : Prop :=
  ∃ lastId,
    (if 2 ≤ packet.indicators then some packet.offset else record.lastPacketId) =
      some lastId ∧
    ∀ offset ≤ lastId, offset ∈ record.packets.insert packet.offset packet

/-- The frame that the packet completes can be gathered: its offsets have no gap,
also behind the last packet, and every length fits the payload array. -/
structure RecvRecord.GatherableWith (record : RecvRecord) (packet : PacketStruct) : Prop where
  noGap : NoGap (record.packets.insert packet.offset packet).keys
  lengths : ∀ offset stored,
    (record.packets.insert packet.offset packet).lookup offset = some stored →
      stored.length.toNat ≤ maxPayloadLen

/-- The conditions under which one datagram does no harm. -/
structure Survives (args : Args) (state : RecvState) (received : Received) : Prop where
  totalBytes : state.data.dataLen.toNat + received.bytes.length < 2 ^ 32
  sampled :
    let buffer := state.buffer.receive received.bytes received.short
    let packet := fromBuffer buffer.1 buffer.large
    let entry := (state.data.recvRecords.lookup buffer.seq).getD .new
    buffer.seq % args.sampleRate = 0 →
      packet.indicators ≤ 3 ∧
        (entry.CompletedBy packet →
          entry.GatherableWith packet ∧ received.env.receiverAlive = true ∧
            args.port.toNat + pongPortInc < 2 ^ 16 ∧
            state.data.recevied.toNat + 1 < 2 ^ 32)

section Steps

variable {args : Args}

/-- The completion test of an updated record, in terms of the record before. -/
theorem recordPacket_isComplete {record updated : RecvRecord} {rxTime : ℚ}
    {packet : PacketStruct} (recorded : record.recordPacket rxTime packet = .ok updated) :
    updated.packets = record.packets.insert packet.offset packet ∧
      (updated.isComplete = true ↔ record.CompletedBy packet) := by
  have known := (RecvRecord.recordPacket_returns_iff record rxTime packet).mp ⟨_, recorded⟩
  rcases (getPacketType_returns_iff _).mpr known with ⟨packetType, accepted⟩
  have indicator := getPacketType_eq_ok.mp accepted
  rcases RecvRecord.recordPacket_fields indicator recorded with ⟨packets, lastId, complete⟩
  refine ⟨packets, ?_⟩
  rw [complete, RecvRecord.determineComplete_iff, packets, lastId, RecvRecord.lastIdWith,
    RecvRecord.CompletedBy]
  simp only [isLast_iff_two_le indicator]

theorem gather_returns_iff_gatherableWith {record updated : RecvRecord}
    {packet : PacketStruct}
    (packets : updated.packets = record.packets.insert packet.offset packet) :
    (∃ frame, updated.gather = .ok frame) ↔ record.GatherableWith packet := by
  rw [RecvRecord.gather_returns_iff, packets]
  exact ⟨fun facts => ⟨facts.1, facts.2⟩, fun facts => ⟨facts.noGap, facts.lengths⟩⟩

/-- The receiver state that `handle_rtt` is given for a datagram. -/
def accountBytes (state : RecvState) (received : Received) : RecvData :=
  { state.data with
    dataLen := state.data.dataLen + UInt32.ofNat received.bytes.length
    rxStartTime :=
      if state.started then state.data.rxStartTime else received.env.startTime }

theorem toNat_length (received : Received) :
    (UInt32.ofNat received.bytes.length).toNat = received.bytes.length := by
  have short := received.short
  unfold recvBufferSize at short
  rw [UInt32.toNat_ofNat']
  omega

/-- A turn of the loop with `calc_rtt` on: the byte counter, then `handle_rtt`. -/
theorem recvStep_eq_ok (calcRtt : args.calcRtt = true) {state next : RecvState}
    {received : Received} {pong : Option Pong} :
    recvStep args state received = .ok (pong, next) ↔
      state.data.dataLen.toNat + received.bytes.length < 2 ^ 32 ∧
        handleRtt args received.env (state.buffer.receive received.bytes received.short)
          (accountBytes state received) = .ok ((pong, next.buffer), next.data) ∧
        next.started = true := by
  have started : (if state.started then
        { state.data with
          dataLen := state.data.dataLen + UInt32.ofNat received.bytes.length }
      else { state.data with
          dataLen := state.data.dataLen + UInt32.ofNat received.bytes.length
          rxStartTime := received.env.startTime }) = accountBytes state received := by
    unfold accountBytes
    cases state.started <;> rfl
  have lengthEq := toNat_length received
  simp only [recvStep, calcRtt, if_true, bind_eq_ok, add32_eq_ok, lengthEq]
  constructor
  · rintro ⟨dataLen, ⟨fits, rfl⟩, ⟨⟨otherPong, left⟩, data⟩, handled, same⟩
    rw [started] at handled
    cases same
    exact ⟨fits, handled, rfl⟩
  · rintro ⟨fits, handled, startedEq⟩
    refine ⟨_, ⟨fits, rfl⟩, ((pong, next.buffer), next.data), ?_, ?_⟩
    · rw [started]
      exact handled
    · rw [← startedEq]
      rfl

/-- One turn of the loop returns exactly when the datagram does no harm. -/
theorem recvStep_returns_iff (calcRtt : args.calcRtt = true) (rxMode : args.rxMode = true)
    (rate : args.sampleRate ≠ 0) {state : RecvState} (installed : state.data.tx.isSome = true)
    (received : Received) :
    (∃ taken, recvStep args state received = .ok taken) ↔ Survives args state received := by
  let buffer := state.buffer.receive received.bytes received.short
  let entry := (state.data.recvRecords.lookup buffer.seq).getD .new
  let packet := fromBuffer buffer.1 buffer.large
  have step : (∃ taken, recvStep args state received = .ok taken) ↔
      state.data.dataLen.toNat + received.bytes.length < 2 ^ 32 ∧
        ∃ result, handleRtt args received.env buffer (accountBytes state received) =
          .ok result := by
    constructor
    · rintro ⟨⟨pong, next⟩, taken⟩
      rcases (recvStep_eq_ok calcRtt).mp taken with ⟨fits, handled, _⟩
      exact ⟨fits, _, handled⟩
    · rintro ⟨fits, ⟨⟨pong, left⟩, data⟩, handled⟩
      exact ⟨(pong, ⟨left, data, true⟩), (recvStep_eq_ok calcRtt).mpr ⟨fits, handled, rfl⟩⟩
  rw [step, handleRtt_returns_iff rate]
  have recordEq : recordBuffer received.env buffer (accountBytes state received) =
      entry.recordPacket received.env.rxTime packet := rfl
  have finish : ∀ record, entry.recordPacket received.env.rxTime packet = .ok record →
      ((∃ result, finishFrame args received.env buffer buffer.seq record
          (fileRecord buffer record (accountBytes state received)) = .ok result) ↔
        entry.GatherableWith packet ∧ received.env.receiverAlive = true ∧
          args.port.toNat + pongPortInc < 2 ^ 16 ∧
          state.data.recevied.toNat + 1 < 2 ^ 32) := by
    intro record recorded
    have gathers := gather_returns_iff_gatherableWith (recordPacket_isComplete recorded).1
    rw [finishFrame_returns_iff, forwardFrame_returns_iff, gathers]
    change _ ∧ (args.rxMode = true → state.data.tx.isSome = true → _) ∧
      state.data.recevied.toNat + 1 < 2 ^ 32 ↔ _
    simp only [rxMode, installed, forall_const]
    constructor
    · rintro ⟨port, ⟨gatherable, alive⟩, counter⟩
      exact ⟨gatherable, alive, port, counter⟩
    · rintro ⟨gatherable, alive, port, counter⟩
      exact ⟨port, ⟨gatherable, alive⟩, counter⟩
  constructor
  · rintro ⟨fits, handled⟩
    refine ⟨fits, ?_⟩
    intro _ _ _ sampled
    rcases handled sampled with ⟨record, recorded, finished⟩
    rw [recordEq] at recorded
    refine ⟨(RecvRecord.recordPacket_returns_iff ..).mp ⟨_, recorded⟩, ?_⟩
    intro completes
    exact (finish record recorded).mp
      (finished ((recordPacket_isComplete recorded).2.mpr completes))
  · rintro ⟨fits, harmless⟩
    refine ⟨fits, ?_⟩
    intro sampled
    rcases harmless sampled with ⟨known, completion⟩
    obtain ⟨record, recorded⟩ :=
      (RecvRecord.recordPacket_returns_iff entry received.env.rxTime packet).mpr known
    refine ⟨record, recorded, ?_⟩
    intro complete
    exact (finish record recorded).mpr
      (completion ((recordPacket_isComplete recorded).2.mp complete))

/-- The counters of the receiver count the run, and the decoder channel stays
installed. -/
structure Counts (history : List (Event RecvState Received (Option Pong)))
    (state : RecvState) : Prop where
  dataLen : state.data.dataLen.toNat =
    (history.map fun event => event.op.bytes.length).sum
  recevied : state.data.recevied.toNat =
    (history.filter fun event => event.out.isSome).length
  installed : state.data.tx.isSome = true

/-- Run lemma: no counter wraps in a run that returns. -/
theorem counts_of_run (calcRtt : args.calcRtt = true)
    {history : List (Event RecvState Received (Option Pong))} {state : RecvState}
    (run : Run (recvStep args) .start history state) : Counts history state := by
  induction run with
  | nil => exact ⟨rfl, rfl, rfl⟩
  | @snoc history state next received pong run taken ih =>
      rcases (recvStep_eq_ok calcRtt).mp taken with ⟨fits, handled, _⟩
      rcases handleRtt_counters handled with ⟨dataLen, recevied, installed⟩
      constructor
      · rw [dataLen, List.map_append, List.sum_append, ← ih.dataLen]
        simp only [accountBytes, List.map_cons, List.map_nil, List.sum_cons, List.sum_nil]
        rw [UInt32.toNat_add, toNat_length, Nat.mod_eq_of_lt fits, Nat.add_zero]
      · rw [recevied, List.filter_append, List.length_append, ← ih.recevied]
        cases pong <;> rfl
      · exact installed ih.installed

end Steps

/-- The receive loop survives a run of datagrams, with exact counters, exactly when
every datagram of the run does no harm in the state it meets. -/
theorem receiver_survives_iff (args : Args) (calcRtt : args.calcRtt = true)
    (rxMode : args.rxMode = true) (rate : args.sampleRate ≠ 0)
    (datagrams : List Received) :
    (∃ history state, Run (recvStep args) .start history state ∧
      history.map Event.op = datagrams ∧ Counts history state) ↔
    ∀ earlier received later state, datagrams = earlier ++ received :: later →
      exec (recvStep args) .start earlier = .ok state → Survives args state received := by
  have returns : (∃ final, exec (recvStep args) .start datagrams = .ok final) ↔ _ :=
    exec_returns_iff (fun _ state => state.data.tx.isSome = true)
    (fun _ state received => Survives args state received) rfl
    (by
      intro _ state received pong next installed taken
      rcases (recvStep_eq_ok calcRtt).mp taken with ⟨_, handled, _⟩
      exact (handleRtt_counters handled).2.2 installed)
    (fun _ state received installed =>
      recvStep_returns_iff calcRtt rxMode rate installed received)
    datagrams
  rw [← returns]
  constructor
  · rintro ⟨history, state, run, rfl, _⟩
    exact ⟨state, run.exec_eq⟩
  · rintro ⟨state, executed⟩
    rcases run_of_exec executed with ⟨history, run, ops⟩
    exact ⟨history, state, run, ops, counts_of_run calcRtt run⟩

/-- The only packet of a frame, with a length one above the payload array. -/
def oversizedPacket : PacketStruct := ⟨1, 0, 1464, 2, PacketStruct.dummyPayload⟩

/-- Its nine header bytes as a datagram. -/
def oversizedDatagram : Received where
  bytes := oversizedPacket.header
  short := by
    rw [PacketStruct.length_header]
    decide
  env := .still

theorem receiver_survives_iff_oversized :
    (∃ history state, Run (recvStep ⟨5005, true, true, 1⟩) .start history state ∧
      history.map Event.op = [oversizedDatagram] ∧ Counts history state) ↔
    ∀ earlier received later state, [oversizedDatagram] = earlier ++ received :: later →
      exec (recvStep ⟨5005, true, true, 1⟩) .start earlier = .ok state →
        Survives ⟨5005, true, true, 1⟩ state received :=
  receiver_survives_iff _ rfl rfl (by decide) [oversizedDatagram]

/-- The header fields are read back from any buffer the datagram is received in. -/
theorem oversized_decodes (earlier : RecvBuffer) :
    let buffer := earlier.receive oversizedDatagram.bytes oversizedDatagram.short
    let packet := fromBuffer buffer.1 buffer.large
    buffer.seq = 1 ∧ packet.offset = 0 ∧ packet.length = 1464 ∧ packet.indicators = 2 := by
  intro buffer packet
  obtain ⟨seq, offset, length, indicators, _⟩ :=
    fromBuffer_header oversizedPacket _ buffer.large
  exact ⟨seq, offset, length, indicators⟩

/-- A datagram of nine bytes stops the receiver: its frame is complete at once and
gathering reads behind the payload array. -/
theorem receiver_stopped_by_oversized :
    ¬∃ history state, Run (recvStep ⟨5005, true, true, 1⟩) .start history state ∧
      history.map Event.op = [oversizedDatagram] ∧ Counts history state := by
  rintro ⟨history, state, run, ops, _⟩
  have executed := run.exec_eq
  rw [ops] at executed
  have executed : exec (recvStep ⟨5005, true, true, 1⟩) .start
      ([] ++ oversizedDatagram :: []) = .ok state := executed
  rcases exec_split_eq_ok.mp executed with ⟨middle, pong, next, reached, taken, _⟩
  cases reached
  have survives := (recvStep_returns_iff rfl rfl (by decide) rfl oversizedDatagram).mp
    ⟨_, taken⟩
  have harmless := survives.sampled
  rcases oversized_decodes RecvState.start.buffer with ⟨seq, offset, length, indicators⟩
  dsimp only at harmless seq offset length indicators
  rw [seq] at harmless
  rcases harmless (by decide) with ⟨_, completion⟩
  obtain ⟨gatherable, _⟩ := completion ⟨0, by rw [if_pos (by rw [indicators]; decide), offset],
    by
      intro other le
      rw [Finmap.mem_insert, offset]
      exact Or.inl (UInt16.le_zero_iff.mp le)⟩
  have short := gatherable.lengths _ _ (Finmap.lookup_insert _)
  rw [length] at short
  exact absurd short (by decide)

end StreamReplay
