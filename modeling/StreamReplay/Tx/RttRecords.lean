import StreamReplay.Foundation.Checked
import StreamReplay.Foundation.Run
import Mathlib.Data.Rat.Defs
import Mathlib.Tactic.Ring

/-!
# Round-trip records

`RttRecords` of `tx/src/statistic/rtt_records.rs`: a ring of slots, written by the
source thread for each frame it queues, looked up by the pong thread, and emptied
slot by slot by the statistics poll.  Times are in seconds, as exact rationals.
-/

namespace StreamReplay

open Checked

structure RTTEntry where
  seq : Nat
  arrivalTime : ℚ
  lastOutageTime : ℚ
  pongTime : Option ℚ
  delta : ℚ
  deriving DecidableEq

def RTTEntry.new (seq : Nat) (arrivalTime lastOutageTime : ℚ) : RTTEntry where
  seq
  arrivalTime
  lastOutageTime
  pongTime := none
  delta := 0

def RTTEntry.updateValue (entry : RTTEntry) (value delta : ℚ) : ℚ × RTTEntry :=
  (value - entry.arrivalTime, { entry with pongTime := some value, delta })

/-- A ring of `maxLength` slots; the program makes one of 200. -/
structure RttRecords (maxLength : Nat) where
  queue : Vector (Option RTTEntry) maxLength
  targetRtt : ℚ

/-- What one slot adds to a poll. -/
structure RttTally where
  outages : ℚ
  rtts : ℚ
  count : Nat

def RttTally.add (left right : RttTally) : RttTally :=
  ⟨left.outages + right.outages, left.rtts + right.rtts, left.count + right.count⟩

/-- One turn of the loop in `statistic`: a frame that was answered is counted and
its slot emptied; an open one keeps its slot, with its outage counted up to now. -/
def pollSlot (now : ℚ) : Option RTTEntry → RttTally × Option RTTEntry
  | none => (⟨0, 0, 0⟩, none)
  | some entry =>
      match entry.pongTime with
      | some pongTime =>
          let outage :=
            if pongTime > entry.lastOutageTime then pongTime - entry.lastOutageTime else 0
          (⟨outage, pongTime - entry.arrivalTime, 1⟩, none)
      | none =>
          if now > entry.lastOutageTime then
            (⟨now - entry.lastOutageTime, 0, 0⟩, some { entry with lastOutageTime := now })
          else (⟨0, 0, 0⟩, some entry)

namespace RttRecords

variable {maxLength : Nat}

def new (maxLength : Nat) (targetRtt : ℚ) : RttRecords maxLength where
  queue := .replicate maxLength none
  targetRtt

def slot (records : RttRecords maxLength) (position : Fin maxLength) : Option RTTEntry :=
  records.queue[position]

def setSlot (records : RttRecords maxLength) (position : Fin maxLength)
    (entry : Option RTTEntry) : RttRecords maxLength :=
  { records with queue := records.queue.set position entry }

/-- The mean round-trip time, 0 without any, and the outage rate, `none` when the
target is 0 and the quotient not finite. -/
def statistic (records : RttRecords maxLength) (now : ℚ) :
    (ℚ × Option ℚ) × RttRecords maxLength :=
  let tally : RttTally := records.queue.toList.foldl
    (fun (tally : RttTally) slot => tally.add (pollSlot now slot).1) ⟨0, 0, 0⟩
  let rttAvg := if tally.count = 0 then 0 else tally.rtts / tally.count
  let outageRate :=
    if records.targetRtt = 0 then none else some (tally.outages / records.targetRtt)
  ((rttAvg, outageRate),
    { records with queue := records.queue.map fun slot => (pollSlot now slot).2 })

section

variable [NeZero maxLength]

/-- The slot of a sequence number, `seq % max_length`. -/
def index (maxLength : Nat) [NeZero maxLength] (seq : Nat) : Fin maxLength :=
  Fin.ofNat maxLength seq

def updateArrival (records : RttRecords maxLength) (seq : Nat) (arrivalTime : ℚ) :
    RttRecords maxLength :=
  records.setSlot (index maxLength seq)
    (some (.new seq arrivalTime (arrivalTime + records.targetRtt)))

def update (records : RttRecords maxLength) (seq : Nat) (rtt delta : ℚ) :
    Except Panic (ℚ × RttRecords maxLength) :=
  match records.slot (index maxLength seq) with
  | some entry =>
      if entry.seq = seq then
        let (elapsed, entry) := entry.updateValue rtt delta
        .ok (elapsed, records.setSlot (index maxLength seq) (some entry))
      else .error (.message "explicit panic")
  | none => .error (.message "explicit panic")

end

/-! ## Slots -/

theorem slot_setSlot (records : RttRecords maxLength) (position other : Fin maxLength)
    (entry : Option RTTEntry) :
    (records.setSlot position entry).slot other =
      if position = other then entry else records.slot other := by
  simp only [slot, setSlot, Fin.getElem_fin, Vector.getElem_set, Fin.val_inj]

@[simp] theorem slot_new (targetRtt : ℚ) (position : Fin maxLength) :
    (new maxLength targetRtt).slot position = none := by
  simp [slot, new]

@[simp] theorem slot_statistic (records : RttRecords maxLength) (now : ℚ)
    (position : Fin maxLength) :
    (records.statistic now).2.slot position = (pollSlot now (records.slot position)).2 := by
  simp [slot, statistic]

/-- A poll empties the slots of answered frames. -/
theorem pollSlot_eq_none {now : ℚ} {slot : Option RTTEntry} :
    (pollSlot now slot).2 = none ↔
      slot = none ∨ ∃ entry, slot = some entry ∧ entry.pongTime.isSome = true := by
  cases slot with
  | none => simp [pollSlot]
  | some entry =>
      cases answered : entry.pongTime with
      | some pongTime => simp [pollSlot, answered]
      | none =>
          simp only [pollSlot, answered]
          split <;> simp [answered]

/-- An entry that a poll keeps is an open one, and keeps its sequence number. -/
theorem pollSlot_eq_some {now : ℚ} {slot : Option RTTEntry} {entry : RTTEntry}
    (kept : (pollSlot now slot).2 = some entry) :
    entry.pongTime = none ∧
      ∃ old, slot = some old ∧ old.pongTime = none ∧ old.seq = entry.seq := by
  cases slot with
  | none => simp [pollSlot] at kept
  | some old =>
      cases answered : old.pongTime with
      | some pongTime => simp [pollSlot, answered] at kept
      | none =>
          simp only [pollSlot, answered] at kept
          refine ⟨?_, old, rfl, answered, ?_⟩ <;> split at kept <;> cases kept
          · rfl
          · exact answered
          · rfl
          · rfl

/-- A pong is accepted exactly when its frame is still in its slot. -/
theorem update_eq_ok [NeZero maxLength] {records next : RttRecords maxLength} {seq : Nat}
    {rtt delta elapsed : ℚ} :
    records.update seq rtt delta = .ok (elapsed, next) ↔
      ∃ entry, records.slot (index maxLength seq) = some entry ∧ entry.seq = seq ∧
        elapsed = rtt - entry.arrivalTime ∧
        next = records.setSlot (index maxLength seq)
          (some { entry with pongTime := some rtt, delta }) := by
  unfold update
  cases found : records.slot (index maxLength seq) with
  | none => simp
  | some entry =>
      by_cases same : entry.seq = seq
      · simp [same, RTTEntry.updateValue, eq_comm]
      · simp [same]

end RttRecords

end StreamReplay
