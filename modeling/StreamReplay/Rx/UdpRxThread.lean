import StreamReplay.Foundation.Run
import StreamReplay.Foundation.Sequence
import StreamReplay.Rx.UdpRx
import Mathlib.Data.Finmap

/-!
# The thread of the Python receiver

`recv_thread` of `udp_rx.py` narrows the offsets of each frame from both sides: datagrams of
channel 0 lower the upper bound, which starts at a packet count, and those of channel 1
raise the lower one.  When the bounds are neighbours the frame is reported, and forgotten.
The thread does this in tables that all frames share.
-/

namespace StreamReplay

namespace UdpRx

open Checked FallibleRun Sequence StructFormat

def pongPortInc : Nat := 1024

/-- The command-line options that the thread reads; the receiving socket is bound to the
port. -/
structure Options where
  calcJitter : Bool
  calcRtt : Bool
  port : Nat

/-- Doubles are given by their bits: their difference, the double of an `int`, and
`struct.pack('d', ..)`. -/
structure Doubles where
  sub : Int → Int → Int
  ofInt : Int → Int
  pack : Int → List UInt8

/-- A value of `received_record`: the tuple of a frame that has begun, or its delay. -/
inductive ReceivedRecord where
  | started (timestamp time : Int)
  | delay (value : Int)
  deriving DecidableEq

/-- `[[low, high], [first, second]]` -/
structure SeqOffset where
  low : Int
  high : Int
  first : Int
  second : Int
  deriving DecidableEq

/-- The globals and the list of the thread; an entry is `[]` once its frame is reported. -/
structure Receiver where
  receivedLength : Nat
  receivedRecord : Finmap fun _ : Nat => ReceivedRecord
  seqOffset : List (Option SeqOffset)

/-- What `recvfrom` delivers, with the readings of the clock in this turn and the error that
the system returns for a datagram sent back. -/
structure Arrival where
  buffer : List UInt8
  address : String
  receivedAt : Int
  repliedAt : Int
  reportedAt : Int
  sendError : Option String

/-- What is sent back, and where to. -/
structure Reply where
  address : String
  port : Nat
  buffer : List UInt8

/-- What `main` leaves behind when it starts the thread: the datagram that it takes itself
only starts the clock of its frame. -/
def Receiver.start (options : Options) (buffer : List UInt8) (time : Int) :
    Except String Receiver :=
  if options.calcJitter then do
    let extracted ← extract buffer
    let record : ReceivedRecord := .started extracted.timestamp time
    return ⟨0, Finmap.singleton extracted.seq.toNat record, []⟩
  else .ok ⟨0, ∅, []⟩

/-- `while seq >= len(seq_offset): seq_offset.append([[num, -1], [0, 0]])` -/
def grow (seqOffset : List (Option SeqOffset)) (seq : Nat) (num : Int) :
    List (Option SeqOffset) :=
  seqOffset ++ List.replicate (seq + 1 - seqOffset.length) (some ⟨num, -1, 0, 0⟩)

/-- The assignment to a slice of a `bytearray`. -/
def setSlice (buffer : List UInt8) (start stop : Nat) (part : List UInt8) : List UInt8 :=
  buffer.take start ++ part ++ buffer.drop stop

namespace SeqOffset

def note (offsets : SeqOffset) (extracted : Extracted) : SeqOffset :=
  if extracted.indicator % 10 = 0 ∧ extracted.offset < offsets.low then
    { offsets with low := extracted.offset }
  else if extracted.indicator % 10 = 1 ∧ extracted.offset > offsets.high then
    { offsets with high := extracted.offset }
  else offsets

/-- Each of the two counters is set behind the other.  There are no more of them: for 2 and
3 a negative index still finds one to read, but none is there to set. -/
def count (options : Options) (offsets : SeqOffset) (extracted : Extracted) :
    Except String SeqOffset :=
  if options.calcRtt ∧ extracted.indicator ≥ 10 then
    if extracted.indicator % 10 = 0 then .ok { offsets with first := offsets.second + 1 }
    else if extracted.indicator % 10 = 1 then .ok { offsets with second := offsets.first + 1 }
    else if extracted.indicator % 10 ≤ 3 then .error "list assignment index out of range"
    else .error "list index out of range"
  else .ok offsets

/-- The datagram that is sent back. -/
def reply (doubles : Doubles) (offsets : SeqOffset) (arrival : Arrival) (time : Int) :
    List UInt8 :=
  let duration := doubles.sub arrival.repliedAt time
  let buffer := setSlice arrival.buffer 10 18 (doubles.pack duration)
  let buffer := setSlice buffer 18 26 (doubles.pack (doubles.ofInt offsets.first))
  setSlice buffer 26 34 (doubles.pack (doubles.ofInt offsets.second))

end SeqOffset

/-- `pong_sock.sendto`: a port is a number of two bytes. -/
def sendto (options : Options) (arrival : Arrival) (buffer : List UInt8) :
    Except String Reply :=
  let pongPort := options.port + pongPortInc
  if pongPort < 2 ^ 16 then
    match arrival.sendError with
    | none => .ok ⟨arrival.address, pongPort, buffer⟩
    | some fault => .error fault
  else .error "sendto(): port must be 0-65535."

/-- The answer to a frame, if one is wanted. -/
def answer (options : Options) (doubles : Doubles) (offsets : SeqOffset) (arrival : Arrival)
    (time : Int) : Except String (Option Reply) :=
  if options.calcRtt then
    (sendto options arrival (offsets.reply doubles arrival time)).map some
  else .ok none

/-- The entry of a frame that is not reported. -/
def entry (seqOffset : List (Option SeqOffset)) (seq : Nat) : Except String SeqOffset :=
  match seqOffset[seq]? with
  | some (some offsets) => .ok offsets
  | _ => .error "list index out of range"

/-- One turn of the loop in `recv_thread`, with what it sends back. -/
def recvThread (options : Options) (doubles : Doubles) :
    Step Receiver Arrival (Option Reply) String := fun receiver arrival =>
  let receivedLength := receiver.receivedLength + arrival.buffer.length
  if options.calcJitter then do
    let extracted ← extract arrival.buffer
    let seq := extracted.seq.toNat
    let record := (receiver.receivedRecord.lookup seq).getD
      (.started extracted.timestamp arrival.receivedAt)
    let receivedRecord := receiver.receivedRecord.insert seq record
    let seqOffset := grow receiver.seqOffset seq extracted.num
    match record with
    | .delay _ => return (none, { receivedLength, receivedRecord, seqOffset })
    | .started timestamp time => do
        let offsets ← entry seqOffset seq
        let offsets ← (offsets.note extracted).count options extracted
        if offsets.low - offsets.high = 1 then
          let reply ← answer options doubles offsets arrival time
          let delay := doubles.sub arrival.reportedAt timestamp
          return (reply, {
            receivedLength
            receivedRecord := receivedRecord.insert seq (.delay delay)
            seqOffset := seqOffset.set seq none })
        else
          return (none, {
            receivedLength, receivedRecord, seqOffset := seqOffset.set seq (some offsets) })
  else .ok (none, { receiver with receivedLength })

/-! ## One frame by itself -/

section Frame

variable (seq : Nat) (seen : List Extracted)

/-- The offsets of a frame that have come over a channel. -/
def offsetsOn (channel : Int) : List Int :=
  (seen.filter fun extracted =>
    extracted.seq.toNat = seq ∧ extracted.indicator % 10 = channel).map Extracted.offset

def lowest (num : Int) : Int := (offsetsOn seq seen 0).foldl min num

def highest : Int := (offsetsOn seq seen 1).foldl max (-1)

/-- The packet count that a frame starts with is that of the first datagram of this frame or
of a later one. -/
def roomFor : Option Int :=
  (seen.find? fun extracted => seq ≤ extracted.seq.toNat).map Extracted.num

def Neighbours : Prop := ∃ num ∈ roomFor seq seen, lowest seq seen num - highest seq seen = 1

instance : Decidable (Neighbours seq seen) :=
  inferInstanceAs (Decidable (∃ num ∈ roomFor seq seen, _))

/-- The bounds of the frame are neighbours when one of its datagrams has come. -/
def Met : Prop := ∃ earlier last, earlier ++ [last] <+: seen ∧ last.seq.toNat = seq ∧
  Neighbours seq (earlier ++ [last])

end Frame

section Snoc

variable {seq : Nat} {seen : List Extracted} {last : Extracted}

theorem roomFor_snoc (seq : Nat) (seen : List Extracted) (last : Extracted) :
    roomFor seq (seen ++ [last]) =
      (roomFor seq seen).or (if seq ≤ last.seq.toNat then some last.num else none) := by
  unfold roomFor
  rw [List.find?_append]
  cases seen.find? fun extracted => seq ≤ extracted.seq.toNat with
  | some found => rfl
  | none => by_cases room : seq ≤ last.seq.toNat <;> simp [room]

theorem offsetsOn_snoc (seq : Nat) (seen : List Extracted) (last : Extracted)
    (channel : Int) : offsetsOn seq (seen ++ [last]) channel = offsetsOn seq seen channel ++
      if last.seq.toNat = seq ∧ last.indicator % 10 = channel then [last.offset] else [] := by
  unfold offsetsOn
  rw [List.filter_append, List.map_append]
  split
  next own => simp [own]
  next other => simp only [List.filter_cons, List.filter_nil, other, decide_false]; rfl

theorem lowest_snoc (seq : Nat) (seen : List Extracted) (last : Extracted) (num : Int) :
    lowest seq (seen ++ [last]) num =
      if last.seq.toNat = seq ∧ last.indicator % 10 = 0 then
        min (lowest seq seen num) last.offset
      else lowest seq seen num := by
  unfold lowest
  rw [offsetsOn_snoc, List.foldl_append]
  split <;> rfl

theorem highest_snoc (seq : Nat) (seen : List Extracted) (last : Extracted) :
    highest seq (seen ++ [last]) =
      if last.seq.toNat = seq ∧ last.indicator % 10 = 1 then
        max (highest seq seen) last.offset
      else highest seq seen := by
  unfold highest
  rw [offsetsOn_snoc, List.foldl_append]
  split <;> rfl

theorem met_snoc : Met seq (seen ++ [last]) ↔
    Met seq seen ∨ last.seq.toNat = seq ∧ Neighbours seq (seen ++ [last]) := by
  constructor
  · rintro ⟨earlier, own, before, numbered, meets⟩
    rcases List.prefix_concat_iff.mp before with whole | before
    · rcases List.append_inj' whole rfl with ⟨rfl, same⟩
      obtain rfl := List.singleton_inj.mp same
      exact .inr ⟨numbered, meets⟩
    · exact .inl ⟨earlier, own, before, numbered, meets⟩
  · rintro (⟨earlier, own, before, numbered, meets⟩ | ⟨numbered, meets⟩)
    · exact ⟨earlier, own, before.trans (List.prefix_append _ _), numbered, meets⟩
    · exact ⟨seen, last, List.prefix_rfl, numbered, meets⟩

theorem met_snoc_other (other : last.seq.toNat ≠ seq) :
    Met seq (seen ++ [last]) ↔ Met seq seen := by
  rw [met_snoc, or_iff_left fun own => other own.1]

/-- Before there is room for a frame, no datagram of it has come. -/
theorem offsetsOn_eq_nil (absent : roomFor seq seen = none) (channel : Int) :
    offsetsOn seq seen channel = [] := by
  rw [roomFor, Option.map_eq_none_iff, List.find?_eq_none] at absent
  rw [offsetsOn, List.map_eq_nil_iff, List.filter_eq_nil_iff]
  intro extracted member own
  have before := absent extracted member
  simp only [decide_eq_true_eq] at own before
  omega

end Snoc

/-! ## One turn -/

section Turns

variable {options : Options} {doubles : Doubles} {receiver next : Receiver} {arrival : Arrival}
  {out : Option Reply} {extracted : Extracted} {seq : Nat} {seen : List Extracted}

theorem getElem?_grow (seqOffset : List (Option SeqOffset)) (seq : Nat) (num : Int)
    (other : Nat) :
    (grow seqOffset seq num)[other]? =
      seqOffset[other]?.or (if other ≤ seq then some (some ⟨num, -1, 0, 0⟩) else none) := by
  rw [grow, List.getElem?_append]
  split
  next old => rw [List.getElem?_eq_getElem old]; rfl
  next new =>
    rw [List.getElem?_eq_none (Nat.le_of_not_lt new), List.getElem?_replicate]
    by_cases le : other ≤ seq
    · rw [if_pos (by omega), if_pos le]; rfl
    · rw [if_neg (by omega), if_neg le]; rfl

/-- The two bounds after a datagram of the frame. -/
theorem SeqOffset.note_eq (offsets : SeqOffset) (extracted : Extracted) :
    (offsets.note extracted).low =
        (if extracted.indicator % 10 = 0 then min offsets.low extracted.offset
          else offsets.low) ∧
      (offsets.note extracted).high =
        if extracted.indicator % 10 = 1 then max offsets.high extracted.offset
        else offsets.high := by
  unfold SeqOffset.note
  split_ifs with lower <;> constructor
  all_goals first | rfl | (simp only; omega) | omega

theorem SeqOffset.of_count {offsets counted : SeqOffset}
    (returned : offsets.count options extracted = .ok counted) :
    counted.low = offsets.low ∧ counted.high = offsets.high := by
  unfold SeqOffset.count at returned
  split_ifs at returned <;> cases returned <;> exact ⟨rfl, rfl⟩

theorem entry_eq_ok {seqOffset : List (Option SeqOffset)} {seq : Nat} {offsets : SeqOffset} :
    entry seqOffset seq = .ok offsets ↔ seqOffset[seq]? = some (some offsets) := by
  unfold entry
  split
  next found => simp [found]
  next other =>
    constructor
    · intro returned
      cases returned
    · intro found
      exact absurd found (other offsets)

/-- The frame is in the records with its delay. -/
def Receiver.Reported (receiver : Receiver) (seq : Nat) : Prop :=
  ∃ delay, receiver.receivedRecord.lookup seq = some (.delay delay)

instance (receiver : Receiver) (seq : Nat) : Decidable (receiver.Reported seq) :=
  match found : receiver.receivedRecord.lookup seq with
  | some (.delay delay) => .isTrue ⟨delay, found⟩
  | some (.started _ _) => .isFalse fun ⟨_, other⟩ => by simp [found] at other
  | none => .isFalse fun ⟨_, other⟩ => by simp [found] at other

/-- The datagram that a frame is answered with cannot be sent. -/
def Unsendable (options : Options) (arrival : Arrival) : Prop :=
  2 ^ 16 ≤ options.port + pongPortInc ∨ arrival.sendError.isSome = true

theorem isSome_of_answer {offsets : SeqOffset} {time : Int}
    (answered : answer options doubles offsets arrival time = .ok out) :
    out.isSome = options.calcRtt := by
  unfold answer at answered
  split at answered
  next wanted =>
    rw [wanted]
    cases sent : sendto options arrival (offsets.reply doubles arrival time) with
    | error fault =>
        rw [sent] at answered
        cases answered
    | ok reply =>
        rw [sent] at answered
        cases answered
        rfl
  next unwanted =>
    cases answered
    simp [unwanted]

theorem answer_fails_iff {offsets : SeqOffset} {time : Int} :
    (∃ fault, answer options doubles offsets arrival time = .error fault) ↔
      options.calcRtt = true ∧ Unsendable options arrival := by
  unfold answer sendto Unsendable
  by_cases wanted : options.calcRtt = true
  · rw [if_pos wanted, and_iff_right wanted]
    by_cases small : options.port + pongPortInc < 2 ^ 16
    · rw [if_pos small, or_iff_right (Nat.not_le.mpr small)]
      cases arrival.sendError <;> simp [Except.map]
    · rw [if_neg small]
      exact iff_of_true ⟨_, rfl⟩ (.inl (Nat.le_of_not_lt small))
  · rw [if_neg wanted]
    exact iff_of_false (by simp) fun unsendable => wanted unsendable.1

/-- What a turn does: it leaves the other frames alone but for making room, passes over a
frame that is reported, and narrows the bounds of one that is not. -/
structure Turns (options : Options) (receiver : Receiver) (extracted : Extracted)
    (out : Option Reply) (next : Receiver) : Prop where
  records : ∀ seq, seq ≠ extracted.seq.toNat →
    next.receivedRecord.lookup seq = receiver.receivedRecord.lookup seq
  entries : ∀ seq, seq ≠ extracted.seq.toNat → next.seqOffset[seq]? =
    (grow receiver.seqOffset extracted.seq.toNat extracted.num)[seq]?
  own : (receiver.Reported extracted.seq.toNat ∧ next.Reported extracted.seq.toNat ∧
      out = none) ∨
    ¬receiver.Reported extracted.seq.toNat ∧ ∃ offsets narrowed,
      (grow receiver.seqOffset extracted.seq.toNat extracted.num)[extracted.seq.toNat]? =
        some (some offsets) ∧
      narrowed.low = (offsets.note extracted).low ∧
      narrowed.high = (offsets.note extracted).high ∧
      if narrowed.low - narrowed.high = 1 then
        next.Reported extracted.seq.toNat ∧ out.isSome = options.calcRtt
      else ¬next.Reported extracted.seq.toNat ∧
        next.seqOffset[extracted.seq.toNat]? = some (some narrowed) ∧ out = none

theorem reported_of_getD {timestamp time value : Int}
    (known : (receiver.receivedRecord.lookup seq).getD (.started timestamp time) =
      .delay value) : receiver.Reported seq := by
  cases found : receiver.receivedRecord.lookup seq with
  | none => simp [found] at known
  | some record =>
      rw [found] at known
      exact ⟨value, found.trans (congrArg some known)⟩

theorem Turns.reported_other (turns : Turns options receiver extracted out next)
    (other : seq ≠ extracted.seq.toNat) : next.Reported seq ↔ receiver.Reported seq := by
  rw [Receiver.Reported, turns.records seq other, Receiver.Reported]

theorem turns_of_taken (calcJitter : options.calcJitter = true)
    (taken : recvThread options doubles receiver arrival = .ok (out, next)) :
    ∃ extracted, extract arrival.buffer = .ok extracted ∧
      Turns options receiver extracted out next := by
  simp only [recvThread, calcJitter, if_true] at taken
  rcases bind_eq_ok.mp taken with ⟨extracted, unpacked, turned⟩
  refine ⟨extracted, unpacked, ?_⟩
  cases known : (receiver.receivedRecord.lookup extracted.seq.toNat).getD
      (.started extracted.timestamp arrival.receivedAt) with
  | delay value =>
      have reported := reported_of_getD known
      simp only [known, pure_eq_ok, Except.ok.injEq, Prod.mk.injEq] at turned
      rcases turned with ⟨rfl, rfl⟩
      exact {
        records := fun seq other => Finmap.lookup_insert_of_ne _ other
        entries := fun _ _ => rfl
        own := .inl ⟨reported, ⟨value, Finmap.lookup_insert _⟩, rfl⟩ }
  | started timestamp time =>
      have fresh : ¬receiver.Reported extracted.seq.toNat := by
        rintro ⟨delay, found⟩
        simp [found] at known
      simp only [known] at turned
      rcases bind_eq_ok.mp turned with ⟨offsets, found, turned⟩
      rcases bind_eq_ok.mp turned with ⟨narrowed, counted, turned⟩
      have present := entry_eq_ok.mp found
      have inside := (List.getElem?_eq_some_iff.mp present).1
      rcases SeqOffset.of_count counted with ⟨low, high⟩
      split at turned
      next neighbours =>
        rcases bind_eq_ok.mp turned with ⟨reply, sent, turned⟩
        simp only [pure_eq_ok, Except.ok.injEq, Prod.mk.injEq] at turned
        rcases turned with ⟨rfl, rfl⟩
        refine ⟨fun seq other => ?_, fun seq other => ?_, .inr ⟨fresh, offsets, narrowed,
          present, low, high, ?_⟩⟩
        · rw [Finmap.lookup_insert_of_ne _ other, Finmap.lookup_insert_of_ne _ other]
        · exact List.getElem?_set_ne (Ne.symm other)
        · rw [if_pos neighbours]
          exact ⟨⟨_, Finmap.lookup_insert _⟩, isSome_of_answer sent⟩
      next apart =>
        simp only [pure_eq_ok, Except.ok.injEq, Prod.mk.injEq] at turned
        rcases turned with ⟨rfl, rfl⟩
        refine ⟨fun seq other => Finmap.lookup_insert_of_ne _ other,
          fun seq other => List.getElem?_set_ne (Ne.symm other),
          .inr ⟨fresh, offsets, narrowed, present, low, high, ?_⟩⟩
        rw [if_neg apart]
        refine ⟨?_, List.getElem?_set_self inside, rfl⟩
        rintro ⟨delay, stored⟩
        rw [Finmap.lookup_insert] at stored
        cases stored

/-- The tables hold a frame as it is by itself. -/
structure Receiver.Holds (receiver : Receiver) (seen : List Extracted) (seq : Nat) :
    Prop where
  reported : receiver.Reported seq ↔ Met seq seen
  bounds : ¬Met seq seen →
    receiver.seqOffset[seq]?.map (Option.map fun offsets => (offsets.low, offsets.high)) =
      (roomFor seq seen).map fun num => some (lowest seq seen num, highest seq seen)

/-- Room is made for a frame with its bounds. -/
theorem Receiver.Holds.grown (holds : receiver.Holds seen seq) (apart : ¬Met seq seen)
    (extracted : Extracted) :
    (grow receiver.seqOffset extracted.seq.toNat extracted.num)[seq]?.map
        (Option.map fun offsets => (offsets.low, offsets.high)) =
      (roomFor seq (seen ++ [extracted])).map fun num =>
        some (lowest seq seen num, highest seq seen) := by
  have bounds := holds.bounds apart
  rw [getElem?_grow, roomFor_snoc]
  cases room : roomFor seq seen with
  | some num =>
      rw [room] at bounds
      cases found : receiver.seqOffset[seq]? with
      | none => rw [found] at bounds; cases bounds
      | some offsets => rw [found] at bounds; exact bounds
  | none =>
      rw [room, Option.map_none, Option.map_eq_none_iff] at bounds
      rw [bounds, Option.none_or, Option.none_or]
      split
      next =>
        simp [lowest, highest, offsetsOn_eq_nil room]
      next => rfl

/-- There is an entry for the frame of the datagram, when it is not reported. -/
theorem Receiver.Holds.exists_entry (holds : receiver.Holds seen extracted.seq.toNat)
    (apart : ¬Met extracted.seq.toNat seen) :
    ∃ offsets, (grow receiver.seqOffset extracted.seq.toNat extracted.num)[
      extracted.seq.toNat]? = some (some offsets) := by
  have grown := holds.grown apart extracted
  rw [roomFor_snoc, if_pos le_rfl] at grown
  have room : ∃ num, (roomFor extracted.seq.toNat seen).or (some extracted.num) = some num := by
    cases roomFor extracted.seq.toNat seen with
    | none => exact ⟨_, rfl⟩
    | some num => exact ⟨_, rfl⟩
  rcases room with ⟨num, room⟩
  rw [room] at grown
  rcases Option.map_eq_some_iff.mp grown with ⟨found, inTable, bounds⟩
  rcases Option.map_eq_some_iff.mp bounds with ⟨offsets, rfl, _⟩
  exact ⟨offsets, inTable⟩

/-- The bounds of the frame of the datagram, when it is not reported. -/
theorem Receiver.Holds.narrowed (holds : receiver.Holds seen extracted.seq.toNat)
    (apart : ¬Met extracted.seq.toNat seen) {offsets narrowed : SeqOffset}
    (found : (grow receiver.seqOffset extracted.seq.toNat extracted.num)[
      extracted.seq.toNat]? = some (some offsets))
    (low : narrowed.low = (offsets.note extracted).low)
    (high : narrowed.high = (offsets.note extracted).high) :
    ∃ num, roomFor extracted.seq.toNat (seen ++ [extracted]) = some num ∧
      narrowed.low = lowest extracted.seq.toNat (seen ++ [extracted]) num ∧
      narrowed.high = highest extracted.seq.toNat (seen ++ [extracted]) := by
  have grown := holds.grown apart extracted
  rw [found] at grown
  rcases Option.map_eq_some_iff.mp grown.symm with ⟨num, room, bounds⟩
  rcases Prod.mk.inj (Option.some.inj bounds) with ⟨lowEq, highEq⟩
  refine ⟨num, room, ?_, ?_⟩
  · rw [low, (offsets.note_eq extracted).1, ← lowEq, lowest_snoc]
    simp
  · rw [high, (offsets.note_eq extracted).2, ← highEq, highest_snoc]
    simp

theorem Receiver.Holds.turn (holds : receiver.Holds seen seq)
    (turns : Turns options receiver extracted out next) :
    next.Holds (seen ++ [extracted]) seq := by
  by_cases numbered : extracted.seq.toNat = seq
  · subst numbered
    rcases turns.own with
      ⟨before, after, _⟩ | ⟨before, offsets, narrowed, found, low, high, own⟩
    · have met : Met extracted.seq.toNat (seen ++ [extracted]) :=
        met_snoc.mpr (.inl (holds.reported.mp before))
      exact ⟨iff_of_true after met, fun apart => absurd met apart⟩
    · have apart := fun met => before (holds.reported.mpr met)
      rcases holds.narrowed apart found low high with ⟨num, room, lowEq, highEq⟩
      have metIff : Met extracted.seq.toNat (seen ++ [extracted]) ↔
          narrowed.low - narrowed.high = 1 := by
        rw [met_snoc, or_iff_right apart, and_iff_right rfl, Neighbours, room, lowEq, highEq]
        simp
      split at own
      next neighbours =>
        have met := metIff.mpr neighbours
        exact ⟨iff_of_true own.1 met, fun apart => absurd met apart⟩
      next distant =>
        refine ⟨iff_of_false own.1 fun met => distant (metIff.mp met), fun _ => ?_⟩
        rw [own.2.1, room, Option.map_some, Option.map_some, Option.map_some, lowEq, highEq]
  · have entries := turns.entries seq (Ne.symm numbered)
    have reported := turns.reported_other (Ne.symm numbered)
    refine ⟨by rw [reported, met_snoc_other numbered, holds.reported], fun apart => ?_⟩
    rw [met_snoc_other numbered] at apart
    rw [entries, holds.grown apart extracted, highest_snoc, if_neg fun own => numbered own.1]
    simp only [lowest_snoc, numbered, false_and, if_false]

end Turns

/-! ## Runs -/

abbrev ThreadEvent := Event Receiver Arrival (Option Reply)

/-- The datagrams that the thread has unpacked. -/
def unpacked (history : List ThreadEvent) : List Extracted :=
  history.filterMap fun event => (extract event.op.buffer).toOption

/-- What an event sends back for a frame. -/
def repliesTo (seq : Nat) (event : ThreadEvent) : Option Reply :=
  if (extract event.op.buffer).toOption.any fun extracted => extracted.seq.toNat = seq then
    event.out
  else none

section Runs

variable {options : Options} {doubles : Doubles} {start receiver next : Receiver}
  {arrival : Arrival} {out : Option Reply} {seq : Nat} {buffer : List UInt8}
  {time : Int} {history : List ThreadEvent}

/-- A frame after some events: its tables are as by themselves, and it has been answered
once if it is reported and answers are wanted. -/
structure Follows (options : Options) (seq : Nat) (history : List ThreadEvent)
    (receiver : Receiver) : Prop where
  holds : receiver.Holds (unpacked history) seq
  answered : (history.filterMap (repliesTo seq)).length =
    if receiver.Reported seq ∧ options.calcRtt = true then 1 else 0

theorem not_met_nil : ¬Met seq [] := by
  rintro ⟨earlier, last, before, _⟩
  exact List.append_ne_nil_of_right_ne_nil _ (List.cons_ne_nil _ _)
    (List.prefix_nil.mp before)

theorem fresh_of_start (begun : Receiver.start options buffer time = .ok start)
    (seq : Nat) : ¬start.Reported seq ∧ start.seqOffset = [] := by
  unfold Receiver.start at begun
  split at begun
  next =>
    rcases bind_eq_ok.mp begun with ⟨extracted, _, equal⟩
    cases equal
    refine ⟨?_, rfl⟩
    rintro ⟨delay, found⟩
    by_cases own : seq = extracted.seq.toNat
    · rw [own, Finmap.lookup_singleton_eq] at found
      cases found
    · rw [Finmap.lookup_eq_none.mpr (by simpa using own)] at found
      cases found
  next =>
    cases begun
    exact ⟨fun ⟨_, found⟩ => by simp at found, rfl⟩

theorem Follows.of_start (begun : Receiver.start options buffer time = .ok start) :
    Follows options seq [] start := by
  rcases fresh_of_start begun seq with ⟨fresh, empty⟩
  refine ⟨⟨iff_of_false fresh not_met_nil, fun _ => ?_⟩, ?_⟩
  · rw [empty]
    rfl
  · rw [if_neg fun reported => fresh reported.1]
    rfl

theorem Follows.step (calcJitter : options.calcJitter = true)
    (follows : Follows options seq history receiver)
    (taken : recvThread options doubles receiver arrival = .ok (out, next)) :
    Follows options seq (history ++ [⟨receiver, arrival, out, next⟩]) next := by
  rcases turns_of_taken calcJitter taken with ⟨extracted, read, turns⟩
  constructor
  · rw [unpacked, filterMap_snoc, read]
    exact follows.holds.turn turns
  · rw [filterMap_snoc, List.length_append, follows.answered]
    simp only [repliesTo, read, Except.toOption, Option.any_some, decide_eq_true_eq]
    by_cases numbered : extracted.seq.toNat = seq
    · subst numbered
      rw [if_pos rfl]
      rcases turns.own with ⟨before, after, rfl⟩ | ⟨before, _, narrowed, _, _, _, own⟩
      · simp [before, after]
      · split at own
        next neighbours =>
          rw [if_neg fun reported => before reported.1]
          cases sent : out <;> simp [sent] at own <;> simp [own]
        next distant => simp [before, own]
    · rw [if_neg numbered]
      simp only [turns.reported_other (Ne.symm numbered)]
      rfl

theorem Follows.of_run (calcJitter : options.calcJitter = true)
    (begun : Receiver.start options buffer time = .ok start)
    (run : Run (recvThread options doubles) start history receiver) (seq : Nat) :
    Follows options seq history receiver := by
  induction run with
  | nil => exact .of_start begun
  | snoc _ taken ih => exact ih.step calcJitter taken

/-- A datagram is refused exactly when it is too short. -/
theorem extract_fails_iff : (∃ fault, extract buffer = .error fault) ↔ buffer.length < 21 := by
  have size : (buffer.take 21).length = calcsize extractFormat ↔ ¬buffer.length < 21 := by
    rw [List.length_take]
    change min 21 buffer.length = 21 ↔ _
    omega
  by_cases short : buffer.length < 21
  · refine iff_of_true ?_ short
    rw [extract, unpack, if_neg fun sized => size.mp sized short]
    exact ⟨_, rfl⟩
  · refine iff_of_false ?_ short
    rw [extract, unpack, if_pos (size.mpr short), extractFormat]
    simp [fields]

theorem SeqOffset.count_fails_iff {offsets : SeqOffset} {extracted : Extracted} :
    (∃ fault, offsets.count options extracted = .error fault) ↔
      options.calcRtt = true ∧ 10 ≤ extracted.indicator ∧ 2 ≤ extracted.indicator % 10 := by
  unfold SeqOffset.count
  split
  next counts =>
    rw [and_iff_right counts.1, and_iff_right counts.2]
    split_ifs <;> simp <;> omega
  next quiet => exact iff_of_false (by simp) fun counts => quiet ⟨counts.1, counts.2.1⟩

/-- A turn on a frame that is reported returns. -/
theorem returns_of_reported {extracted : Extracted}
    (read : extract arrival.buffer = .ok extracted)
    (reported : receiver.Reported extracted.seq.toNat) (options : Options) (doubles : Doubles) :
    ∃ result, recvThread options doubles receiver arrival = .ok result := by
  rcases reported with ⟨delay, found⟩
  unfold recvThread
  split
  next => simp [read, found]
  next => exact ⟨_, rfl⟩

/-- A turn on any other frame that has an entry fails when the counters do, or when it makes
the bounds neighbours and the frame cannot be answered. -/
theorem fails_iff_of_entry (calcJitter : options.calcJitter = true) {extracted : Extracted}
    (read : extract arrival.buffer = .ok extracted)
    (fresh : ¬receiver.Reported extracted.seq.toNat) {offsets : SeqOffset}
    (present : (grow receiver.seqOffset extracted.seq.toNat extracted.num)[
      extracted.seq.toNat]? = some (some offsets)) :
    (∃ fault, recvThread options doubles receiver arrival = .error fault) ↔
      options.calcRtt = true ∧ (10 ≤ extracted.indicator ∧ 2 ≤ extracted.indicator % 10 ∨
        (offsets.note extracted).low - (offsets.note extracted).high = 1 ∧
          Unsendable options arrival) := by
  unfold recvThread
  rw [if_pos calcJitter, read, ok_bind]
  cases known : (receiver.receivedRecord.lookup extracted.seq.toNat).getD
      (.started extracted.timestamp arrival.receivedAt) with
  | delay value => exact absurd (reported_of_getD known) fresh
  | started timestamp clock =>
      simp only [known, entry_eq_ok.mpr present, ok_bind]
      cases counted : (offsets.note extracted).count options extracted with
      | error fault =>
          rcases SeqOffset.count_fails_iff.mp ⟨fault, counted⟩ with ⟨wanted, third⟩
          exact iff_of_true ⟨fault, rfl⟩ ⟨wanted, .inl third⟩
      | ok narrowed =>
          rcases SeqOffset.of_count counted with ⟨low, high⟩
          have passes : ¬(options.calcRtt = true ∧
              10 ≤ extracted.indicator ∧ 2 ≤ extracted.indicator % 10) := by
            intro third
            rcases SeqOffset.count_fails_iff.mpr third with ⟨fault, failed⟩
            rw [counted] at failed
            cases failed
          rw [and_or_left, or_iff_right passes, ok_bind, low, high]
          split
          next neighbours =>
            have answering : (∃ fault, answer options doubles narrowed arrival clock =
                .error fault) ↔ _ := answer_fails_iff
            rw [and_iff_right neighbours, ← answering]
            simp [bind_eq_error]
          next distant => exact iff_of_false (by simp) fun unsendable => distant unsendable.2.1

/-- The bounds of the frame of a datagram, when it is not reported, are neighbours behind it
just if its own offsets have met. -/
theorem Receiver.Holds.neighbours_iff {extracted : Extracted} {seen : List Extracted}
    (holds : receiver.Holds seen extracted.seq.toNat) (apart : ¬Met extracted.seq.toNat seen)
    {offsets : SeqOffset}
    (found : (grow receiver.seqOffset extracted.seq.toNat extracted.num)[
      extracted.seq.toNat]? = some (some offsets)) :
    (offsets.note extracted).low - (offsets.note extracted).high = 1 ↔
      Neighbours extracted.seq.toNat (seen ++ [extracted]) := by
  rcases holds.narrowed apart found rfl rfl with ⟨num, room, low, high⟩
  simp [Neighbours, room, low, high]

/-- In every run with jitter measured, the next datagram ends the thread exactly when it is
too short, or round trips are measured, its frame is not reported, and it counts for a third
channel or completes the frame for an answer that cannot be sent: because the port is too
high, or the system refuses.  The emptied entry of a reported frame is never looked into. -/
theorem thread_ends_iff (calcJitter : options.calcJitter = true)
    (begun : Receiver.start options buffer time = .ok start)
    (run : Run (recvThread options doubles) start history receiver) (arrival : Arrival) :
    (∃ fault, recvThread options doubles receiver arrival = .error fault) ↔
      arrival.buffer.length < 21 ∨ ∃ extracted, extract arrival.buffer = .ok extracted ∧
        options.calcRtt = true ∧ ¬Met extracted.seq.toNat (unpacked history) ∧
        (10 ≤ extracted.indicator ∧ 2 ≤ extracted.indicator % 10 ∨
          Neighbours extracted.seq.toNat (unpacked history ++ [extracted]) ∧
            Unsendable options arrival) := by
  cases read : extract arrival.buffer with
  | error fault =>
      refine iff_of_true ⟨fault, ?_⟩ (.inl (extract_fails_iff.mp ⟨fault, read⟩))
      simp [recvThread, calcJitter, read]
  | ok extracted =>
      have long : ¬arrival.buffer.length < 21 := by
        rw [← extract_fails_iff, read]
        simp
      have holds := (Follows.of_run calcJitter begun run extracted.seq.toNat).holds
      rw [or_iff_right long]
      simp only [Except.ok.injEq, exists_eq_left']
      by_cases met : Met extracted.seq.toNat (unpacked history)
      · rcases returns_of_reported read (holds.reported.mpr met) options doubles with
          ⟨result, returned⟩
        simp [returned, met]
      · rcases holds.exists_entry met with ⟨offsets, present⟩
        have fresh := fun reported => met (holds.reported.mp reported)
        rw [fails_iff_of_entry calcJitter read fresh present,
          holds.neighbours_iff met present, and_iff_right met]

end Runs

/-! ## A frame over two channels -/

def bothOptions : Options := ⟨true, true, 5005⟩

/-- The doubles that this run computes with: it takes no time, and counts to two. -/
def smallDoubles : Doubles where
  sub left right := if left = right then 0 else left
  ofInt value := if value = 1 then 0x3FF0000000000000 else if value = 2 then 0x4000000000000000
    else 0
  pack bits := ByteOrder.toLittleEndian 8 bits.toNat

/-- A datagram of the format that `extract` expects, sent when the clock reads nothing. -/
def timedDatagram (seq offset num : Nat) (indicator : UInt8) : List UInt8 :=
  ByteOrder.toLittleEndian 4 seq ++ ByteOrder.toLittleEndian 2 offset ++ [0, 0, 0, 0] ++
    ByteOrder.toLittleEndian 2 num ++ indicator :: List.replicate 13 0

def timedArrival (seq offset num : Nat) (indicator : UInt8) : Arrival :=
  ⟨timedDatagram seq offset num indicator, "10.0.0.1", 0, 0, 0, none⟩

def timedStart : Receiver := ⟨0, Finmap.singleton 0 (.started 0 0), []⟩

/-- Frame 0 meets between offsets 1 and 0, with a datagram of frame 1 in between. -/
def crossing : List Arrival :=
  [timedArrival 0 1 2 10, timedArrival 1 0 3 11, timedArrival 0 0 2 11, timedArrival 0 0 2 11]

/-- The last datagram of frame 1, whose answer the system refuses. -/
def refusedAnswer : Arrival :=
  { timedArrival 1 1 3 10 with sendError := some "[Errno 101] Network is unreachable" }

/-- A third channel does not matter to frame 0 any more, but ends the thread in frame 1, and
so does an answer that is refused. -/
theorem thread_ends_iff_crossing :
    ∃ history receiver, Run (recvThread bothOptions smallDoubles) timedStart history receiver ∧
      history.map Event.op = crossing ∧
      (¬∃ fault, recvThread bothOptions smallDoubles receiver (timedArrival 0 0 2 12) =
        .error fault) ∧
      (∃ fault, recvThread bothOptions smallDoubles receiver (timedArrival 1 0 3 12) =
        .error fault) ∧
      ∃ fault, recvThread bothOptions smallDoubles receiver refusedAnswer = .error fault := by
  rcases exists_run_of_trace (recvThread bothOptions smallDoubles) timedStart crossing
    (fun history receiver => receiver.Reported 0 ∧ ¬receiver.Reported 1 ∧
      (extract refusedAnswer.buffer).toOption.any fun extracted =>
        Neighbours 1 (unpacked history ++ [extracted]))
    (by decide +kernel) with ⟨history, receiver, run, opsEq, passes⟩
  rcases of_decide_eq_true passes with ⟨first, second, meets⟩
  rcases exists_of_any meets with ⟨last, read, neighbours⟩
  have begun : Receiver.start bothOptions (timedDatagram 0 1 2 10) 0 = .ok timedStart := rfl
  have follows := fun seq => (Follows.of_run rfl begun run seq).holds.reported
  have apart := fun met => second ((follows 1).mpr met)
  have ends := thread_ends_iff rfl begun run
  refine ⟨history, receiver, run, opsEq, fun ended => ?_, ?_, ?_⟩
  · rcases (ends _).mp ended with short | ⟨extracted, read, _, unmet, _⟩
    · exact absurd short (by decide)
    · cases read
      exact unmet ((follows 0).mp first)
  · exact (ends _).mpr (.inr ⟨_, rfl, rfl, apart, .inl ⟨by decide, by decide⟩⟩)
  · cases read
    exact (ends _).mpr (.inr ⟨_, rfl, rfl, apart, .inr ⟨of_decide_eq_true neighbours, .inr rfl⟩⟩)

/-- Above port 64511 the first answer ends the thread. -/
example : ∃ receiver, exec (recvThread ⟨true, true, 64512⟩ smallDoubles) timedStart
      [timedArrival 0 1 2 10] = .ok receiver ∧
    recvThread ⟨true, true, 64512⟩ smallDoubles receiver (timedArrival 0 0 2 11) =
      .error "sendto(): port must be 0-65535." :=
  ⟨_, rfl, rfl⟩

end UdpRx

end StreamReplay
