import StreamReplay.Core.Wire
import Mathlib.Data.Finmap

/-!
# Frame records

`rx/src/record.rs`: the packets of one frame, keyed by offset, the identifier of
its last packet once that is known, and the completion test.  A `HashMap` is a
`Finmap`, which exposes no order.
-/

namespace StreamReplay

open Checked

/-- The arrival time of the latest packet on each link. -/
structure RecvOffsets where
  firstLinkRxTime : Option ℚ
  secondLinkRxTime : Option ℚ

structure RecvRecord where
  packets : Finmap fun _ : UInt16 => PacketStruct
  offsets : RecvOffsets
  lastPacketId : Option UInt16
  isComplete : Bool

namespace RecvRecord

def new : RecvRecord where
  packets := ∅
  offsets := ⟨none, none⟩
  lastPacketId := none
  isComplete := false

/-- Every offset of `0..=last_id` has arrived. -/
def isRangeComplete (packets : Finmap fun _ : UInt16 => PacketStruct) (lastId : UInt16) :
    Bool :=
  (List.range (lastId.toNat + 1)).all fun index => decide (UInt16.ofNat index ∈ packets)

def determineComplete (record : RecvRecord) : Bool :=
  match record.lastPacketId with
  | some lastId => isRangeComplete record.packets lastId
  | none => false

/-- The update of the link times and of the last packet's identifier. -/
def noteIndicator (record : RecvRecord) (rxTime : ℚ) (offset : UInt16) :
    PacketType → RecvRecord
  | .firstLink =>
      { record with offsets := { record.offsets with firstLinkRxTime := some rxTime } }
  | .secondLink =>
      { record with offsets := { record.offsets with secondLinkRxTime := some rxTime } }
  | .lastPacketInFirstLink =>
      { record with
        lastPacketId := some offset
        offsets := { record.offsets with firstLinkRxTime := some rxTime } }
  | .lastPacketInSecondLink =>
      { record with
        lastPacketId := some offset
        offsets := { record.offsets with secondLinkRxTime := some rxTime } }

/-- Store a decoded packet, whose indicator must be known. -/
def recordPacket (record : RecvRecord) (rxTime : ℚ) (packet : PacketStruct) :
    Except Panic RecvRecord := do
  let packetType ← getPacketType packet.indicators
  let record := record.noteIndicator rxTime packet.offset packetType
  let record := { record with packets := record.packets.insert packet.offset packet }
  return { record with isComplete := record.determineComplete }

/-- The method `record` on the receive buffer. -/
def record (self : RecvRecord) (rxTime : ℚ) (data : List UInt8)
    (large : packetSize ≤ data.length) : Except Panic RecvRecord :=
  self.recordPacket rxTime (fromBuffer data large)

/-- The difference of the two link times; a link not seen yet counts as zero. -/
def delta (record : RecvRecord) : ℚ :=
  record.offsets.secondLinkRxTime.getD 0 - record.offsets.firstLinkRxTime.getD 0

/-- The loop of `gather` over the remaining indices. -/
def gatherFrom (packets : Finmap fun _ : UInt16 => PacketStruct) :
    List Nat → Except Panic (List UInt8)
  | [] => .ok []
  | index :: indices => do
      let packet ← unwrap (packets.lookup (UInt16.ofNat index))
      let part ← slice packet.payload.1 0 packet.length.toNat
      let rest ← gatherFrom packets indices
      return part ++ rest

/-- Concatenate the contents of as many packets as the record holds. -/
def gather (record : RecvRecord) : Except Panic (List UInt8) :=
  gatherFrom record.packets (List.range record.packets.keys.card)

/-! ## Recording -/

/-- The last packet's identifier after a packet of the given type at `offset`. -/
def lastIdWith (record : RecvRecord) (offset : UInt16) (packetType : PacketType) :
    Option UInt16 :=
  if packetType.isLast then some offset else record.lastPacketId

@[simp] theorem noteIndicator_packets (record : RecvRecord) (rxTime : ℚ) (offset : UInt16)
    (packetType : PacketType) :
    (record.noteIndicator rxTime offset packetType).packets = record.packets := by
  cases packetType <;> rfl

@[simp] theorem noteIndicator_lastPacketId (record : RecvRecord) (rxTime : ℚ)
    (offset : UInt16) (packetType : PacketType) :
    (record.noteIndicator rxTime offset packetType).lastPacketId =
      record.lastIdWith offset packetType := by
  cases packetType <;> rfl

/-- What recording a packet does to the fields the completion test reads. -/
theorem recordPacket_fields {record updated : RecvRecord} {rxTime : ℚ}
    {packet : PacketStruct} {packetType : PacketType}
    (known : packet.indicators = toIndicator packetType)
    (recorded : record.recordPacket rxTime packet = .ok updated) :
    updated.packets = record.packets.insert packet.offset packet ∧
      updated.lastPacketId = record.lastIdWith packet.offset packetType ∧
      updated.isComplete = updated.determineComplete := by
  simp only [recordPacket, getPacketType_eq_ok.mpr known, ok_bind, pure_eq_ok,
    Except.ok.injEq] at recorded
  subst recorded
  exact ⟨by rw [noteIndicator_packets], noteIndicator_lastPacketId .., rfl⟩

theorem recordPacket_returns_iff (record : RecvRecord) (rxTime : ℚ)
    (packet : PacketStruct) :
    (∃ updated, record.recordPacket rxTime packet = .ok updated) ↔ packet.indicators ≤ 3 := by
  rw [← getPacketType_returns_iff]
  constructor
  · rintro ⟨updated, recorded⟩
    rcases bind_eq_ok.mp recorded with ⟨packetType, known, _⟩
    exact ⟨packetType, known⟩
  · rintro ⟨packetType, known⟩
    exact ⟨_, by simp only [recordPacket, known, ok_bind, pure_eq_ok]; rfl⟩

theorem isRangeComplete_iff (packets : Finmap fun _ : UInt16 => PacketStruct)
    (lastId : UInt16) :
    isRangeComplete packets lastId = true ↔ ∀ offset ≤ lastId, offset ∈ packets := by
  simp only [isRangeComplete, List.all_eq_true, List.mem_range, decide_eq_true_eq]
  constructor
  · intro every offset below
    have member := every offset.toNat (Nat.lt_succ_of_le (UInt16.le_iff_toNat_le.mp below))
    rwa [UInt16.ofNat_toNat] at member
  · intro every index below
    apply every
    rw [UInt16.le_iff_toNat_le, UInt16.toNat_ofNat']
    have small := lastId.toNat_lt
    omega

/-- A record is complete when it knows its last packet and has all up to it. -/
theorem determineComplete_iff (record : RecvRecord) :
    record.determineComplete = true ↔
      ∃ lastId, record.lastPacketId = some lastId ∧
        ∀ offset ≤ lastId, offset ∈ record.packets := by
  unfold determineComplete
  cases record.lastPacketId with
  | none => simp
  | some lastId => simp [isRangeComplete_iff]

/-! ## Gathering -/

theorem gatherFrom_eq_ok {packets : Finmap fun _ : UInt16 => PacketStruct}
    {indices : List Nat} (contents : Nat → PacketStruct)
    (present : ∀ index ∈ indices, packets.lookup (UInt16.ofNat index) = some (contents index) ∧
      (contents index).length.toNat ≤ maxPayloadLen) :
    gatherFrom packets indices =
      .ok (indices.flatMap fun index => (contents index).content) := by
  induction indices with
  | nil => rfl
  | cons index indices ih =>
      rcases present index (by simp) with ⟨found, short⟩
      have sliced : slice (contents index).payload.1 0 (contents index).length.toNat =
          .ok (contents index).content := by
        rw [slice_of_le (Nat.zero_le _) (by rw [(contents index).payload.2]; exact short),
          List.drop_zero, PacketStruct.content]
      rw [gatherFrom, found, unwrap, ok_bind, sliced, ok_bind,
        ih fun other member => present other (by simp [member])]
      rfl

theorem present_of_gatherFrom {packets : Finmap fun _ : UInt16 => PacketStruct}
    {indices : List Nat} {data : List UInt8}
    (gathered : gatherFrom packets indices = .ok data) :
    ∀ index ∈ indices, ∃ packet, packets.lookup (UInt16.ofNat index) = some packet ∧
      packet.length.toNat ≤ maxPayloadLen := by
  induction indices generalizing data with
  | nil => simp
  | cons index indices ih =>
      rw [gatherFrom] at gathered
      rcases bind_eq_ok.mp gathered with ⟨packet, found, step⟩
      rcases bind_eq_ok.mp step with ⟨part, sliced, step⟩
      rcases bind_eq_ok.mp step with ⟨rest, restGathered, _⟩
      intro other member
      rcases List.mem_cons.mp member with rfl | later
      · refine ⟨packet, unwrap_eq_ok.mp found, ?_⟩
        have inBounds := (slice_eq_ok.mp sliced).1.2
        rwa [packet.payload.2] at inBounds
      · exact ih restGathered other later

/-- A set of offsets without gaps: with an offset it has all smaller ones. -/
def NoGap (offsets : Finset UInt16) : Prop :=
  ∀ offset ∈ offsets, ∀ below ≤ offset, below ∈ offsets

theorem card_image_ofNat {count : Nat} (small : count ≤ 2 ^ 16) :
    ((Finset.range count).image UInt16.ofNat).card = count := by
  rw [Finset.card_image_of_injOn, Finset.card_range]
  intro left leftMem right rightMem equal
  have leftLt := Finset.mem_range.mp leftMem
  have rightLt := Finset.mem_range.mp rightMem
  have numbers := congrArg UInt16.toNat equal
  rw [UInt16.toNat_ofNat', UInt16.toNat_ofNat'] at numbers
  omega

private theorem card_le_of_bounded {offsets : Finset UInt16} {bound : Nat}
    (bounded : ∀ offset ∈ offsets, offset.toNat < bound) : offsets.card ≤ bound := by
  have image : offsets.image UInt16.toNat ⊆ Finset.range bound := by
    intro value member
    rcases Finset.mem_image.mp member with ⟨offset, offsetMem, rfl⟩
    exact Finset.mem_range.mpr (bounded offset offsetMem)
  have injective : Function.Injective UInt16.toNat := fun _ _ equal =>
    UInt16.toNat_inj.mp equal
  simpa [Finset.card_image_of_injective _ injective] using Finset.card_le_card image

/-- A set without gaps has more members than any of its offsets says. -/
theorem NoGap.toNat_lt_card {offsets : Finset UInt16} (noGap : NoGap offsets)
    {offset : UInt16} (member : offset ∈ offsets) : offset.toNat < offsets.card := by
  have image : (Finset.range (offset.toNat + 1)).image UInt16.ofNat ⊆ offsets := by
    intro below belowMem
    rcases Finset.mem_image.mp belowMem with ⟨index, indexMem, rfl⟩
    have indexLt := Finset.mem_range.mp indexMem
    apply noGap offset member
    rw [UInt16.le_iff_toNat_le, UInt16.toNat_ofNat']
    omega
  have card := Finset.card_le_card image
  rwa [card_image_ofNat offset.toNat_lt] at card

/-- The offsets `0..count` are all in a set of that many offsets exactly when the
set has no gap. -/
theorem initial_segment_iff (offsets : Finset UInt16) :
    (∀ index < offsets.card, UInt16.ofNat index ∈ offsets) ↔ NoGap offsets := by
  constructor
  · intro initial offset member below le
    have small : offsets.card ≤ 2 ^ 16 := card_le_of_bounded fun offset _ => offset.toNat_lt
    -- The first `card` offsets are all of the set.
    have first : (Finset.range offsets.card).image UInt16.ofNat = offsets := by
      apply Finset.eq_of_subset_of_card_le
      · intro offset member
        rcases Finset.mem_image.mp member with ⟨index, indexMem, rfl⟩
        exact initial index (Finset.mem_range.mp indexMem)
      · rw [card_image_ofNat small]
    rw [← first] at member
    rcases Finset.mem_image.mp member with ⟨index, indexMem, rfl⟩
    have indexLt := Finset.mem_range.mp indexMem
    rw [UInt16.le_iff_toNat_le, UInt16.toNat_ofNat'] at le
    have belowMem := initial below.toNat (by omega)
    rwa [UInt16.ofNat_toNat] at belowMem
  · intro noGap index indexLt
    by_contra missing
    -- Nothing reaches the missing offset, so the set is too small.
    have bound : offsets.card ≤ index := by
      apply card_le_of_bounded
      intro offset member
      by_contra reaches
      apply missing
      apply noGap offset member
      rw [UInt16.le_iff_toNat_le, UInt16.toNat_ofNat']
      omega
    omega

/-- `gather` returns exactly when the stored offsets have no gap and no stored
length exceeds the payload array. -/
theorem gather_returns_iff (record : RecvRecord) :
    (∃ data, record.gather = .ok data) ↔
      NoGap record.packets.keys ∧
        ∀ offset packet, record.packets.lookup offset = some packet →
          packet.length.toNat ≤ maxPayloadLen := by
  rw [← initial_segment_iff]
  constructor
  · rintro ⟨data, gathered⟩
    have present := present_of_gatherFrom gathered
    have initial : ∀ index < record.packets.keys.card,
        UInt16.ofNat index ∈ record.packets.keys := by
      intro index below
      rcases present index (List.mem_range.mpr below) with ⟨packet, found, _⟩
      exact Finmap.mem_keys.mpr (Finmap.mem_of_lookup_eq_some found)
    refine ⟨initial, ?_⟩
    intro offset packet found
    have stored : offset ∈ record.packets.keys :=
      Finmap.mem_keys.mpr (Finmap.mem_of_lookup_eq_some found)
    have visited := ((initial_segment_iff _).mp initial).toNat_lt_card stored
    rcases present offset.toNat (List.mem_range.mpr visited) with ⟨other, otherFound, short⟩
    rw [UInt16.ofNat_toNat, found, Option.some.injEq] at otherFound
    exact otherFound ▸ short
  · rintro ⟨initial, short⟩
    let contents (index : Nat) : PacketStruct :=
      (record.packets.lookup (UInt16.ofNat index)).getD .new
    refine ⟨_, gatherFrom_eq_ok contents ?_⟩
    intro index member
    have stored := Finmap.mem_keys.mp (initial index (List.mem_range.mp member))
    rcases Finmap.mem_iff.mp stored with ⟨packet, found⟩
    have same : contents index = packet := by
      simp only [contents, found, Option.getD_some]
    rw [same]
    exact ⟨found, short _ _ found⟩

end RecvRecord

end StreamReplay
