import StreamReplay.Tx.RttRecords

/-!
# Pongs against the ring of round-trip records

Three threads share the records: the source registers frames 1, 2, 3, …, the pong
thread looks frames up, and the statistics poll collects the answered ones.  A
lookup panics unless the frame is still in its slot.
-/

namespace StreamReplay

open Checked FallibleRun

/-- The slots that `RttRecorder::new` asks for. -/
abbrev rttSlots : Nat := 200

inductive RttOp where
  | arrival (time : ℚ)
  | statistic (now : ℚ)
  | pong (seq : Nat) (time delta : ℚ)

inductive RttOut where
  | registered
  | polled (rttAvg : ℚ) (outageRate : Option ℚ)
  | measured (elapsed : ℚ)

/-- The records and the number of the last frame registered. -/
structure RttState where
  records : RttRecords rttSlots
  arrivals : Nat

def RttState.start (targetRtt : ℚ) : RttState := ⟨.new rttSlots targetRtt, 0⟩

/-- One access to the records under their lock. -/
def RttState.step : FallibleRun.Step RttState RttOp RttOut Panic
  | state, .arrival time =>
      .ok (.registered, {
        records := state.records.updateArrival (state.arrivals + 1) time
        arrivals := state.arrivals + 1 })
  | state, .statistic now =>
      let ((rttAvg, outageRate), records) := state.records.statistic now
      .ok (.polled rttAvg outageRate, { state with records })
  | state, .pong seq time delta => do
      let (elapsed, records) ← state.records.update seq time delta
      return (.measured elapsed, { state with records })

/-! ## What a history says about a frame -/

def RttOp.isArrival : RttOp → Bool
  | .arrival _ => true
  | _ => false

/-- How many frames have been registered. -/
def registered (ops : List RttOp) : Nat := ops.countP RttOp.isArrival

def Ponged (ops : List RttOp) (seq : Nat) : Prop :=
  ∃ time delta, .pong seq time delta ∈ ops

/-- A poll came after a pong of the frame. -/
def Collected (ops : List RttOp) (seq : Nat) : Prop :=
  ∃ earlier time delta later now,
    ops = earlier ++ .pong seq time delta :: later ∧ .statistic now ∈ later

/-- A pong of the frame is in time: the frame is registered, fewer than 200 frames
have been registered after it, and no poll has collected it. -/
structure Fresh (ops : List RttOp) (seq : Nat) : Prop where
  positive : 1 ≤ seq
  registered_ge : seq ≤ registered ops
  recent : registered ops < seq + rttSlots
  uncollected : ¬Collected ops seq

theorem registered_snoc (ops : List RttOp) (op : RttOp) :
    registered (ops ++ [op]) = registered ops + if op.isArrival then 1 else 0 := by
  simp [registered, List.countP_cons]

theorem ponged_snoc {ops : List RttOp} {op : RttOp} {seq : Nat} :
    Ponged (ops ++ [op]) seq ↔
      Ponged ops seq ∨ ∃ time delta, op = .pong seq time delta := by
  simp only [Ponged, List.mem_append, List.mem_singleton, exists_or, eq_comm]

theorem collected_snoc {ops : List RttOp} {op : RttOp} {seq : Nat} :
    Collected (ops ++ [op]) seq ↔
      Collected ops seq ∨ (Ponged ops seq ∧ ∃ now, op = .statistic now) := by
  constructor
  · rintro ⟨earlier, time, delta, later, now, split, polled⟩
    rcases List.eq_nil_or_concat later with rfl | ⟨later, last, rfl⟩
    · simp at polled
    · rw [List.concat_eq_append, ← List.cons_append, ← List.append_assoc] at split
      rcases List.append_inj' split rfl with ⟨opsEq, lastEq⟩
      rw [List.concat_eq_append, List.mem_append, List.mem_singleton] at polled
      rcases polled with inLater | isLast
      · exact .inl ⟨earlier, time, delta, later, now, opsEq, inLater⟩
      · refine .inr ⟨⟨time, delta, by simp [opsEq]⟩, now, ?_⟩
        rw [isLast]
        exact List.singleton_inj.mp lastEq
  · rintro (⟨earlier, time, delta, later, now, rfl, polled⟩ | ⟨⟨time, delta, member⟩, now, rfl⟩)
    · exact ⟨earlier, time, delta, later ++ [op], now, by simp, List.mem_append_left _ polled⟩
    · rcases List.append_of_mem member with ⟨earlier, later, rfl⟩
      exact ⟨earlier, time, delta, later ++ [.statistic now], now, by simp, by simp⟩

theorem ponged_of_collected {ops : List RttOp} {seq : Nat} (collected : Collected ops seq) :
    Ponged ops seq := by
  rcases collected with ⟨earlier, time, delta, later, _, rfl, _⟩
  exact ⟨time, delta, by simp⟩

/-! ## The ring invariant -/

theorem index_eq_iff {left right : Nat} :
    RttRecords.index rttSlots left = RttRecords.index rttSlots right ↔
      left % rttSlots = right % rttSlots := by
  simp [RttRecords.index, Fin.ext_iff, Fin.ofNat]

/-- What an entry in a slot says after the operations `ops`: its frame is recent,
has not been collected, and was answered if the entry is. -/
structure Tracks (ops : List RttOp) (position : Fin rttSlots) (entry : RTTEntry) : Prop where
  index_eq : RttRecords.index rttSlots entry.seq = position
  positive : 1 ≤ entry.seq
  registered_ge : entry.seq ≤ registered ops
  recent : registered ops < entry.seq + rttSlots
  answered_iff : entry.pongTime.isSome = true ↔ Ponged ops entry.seq
  uncollected : ¬Collected ops entry.seq

/-- The invariant of the ring: every entry tracks its frame, and a recent frame
without an entry has been collected. -/
structure RingInv (ops : List RttOp) (state : RttState) : Prop where
  arrivals_eq : state.arrivals = registered ops
  ponged_le : ∀ seq, Ponged ops seq → seq ≤ registered ops
  tracks : ∀ position entry,
    state.records.slot position = some entry → Tracks ops position entry
  collected_of_none : ∀ seq, 1 ≤ seq → seq ≤ registered ops →
    registered ops < seq + rttSlots →
    state.records.slot (RttRecords.index rttSlots seq) = none → Collected ops seq

namespace RingInv

variable {ops : List RttOp} {state : RttState}

theorem start (targetRtt : ℚ) : RingInv [] (.start targetRtt) where
  arrivals_eq := rfl
  ponged_le := by simp [Ponged]
  tracks := by simp [RttState.start]
  collected_of_none := by
    intro seq positive bounded
    simp only [registered, List.countP_nil] at bounded
    omega

/-- The slot of a recent frame holds no other frame. -/
theorem seq_eq (inv : RingInv ops state) {seq : Nat} (bounded : seq ≤ registered ops)
    (recent : registered ops < seq + rttSlots) {entry : RTTEntry}
    (found : state.records.slot (RttRecords.index rttSlots seq) = some entry) :
    entry.seq = seq := by
  have tracked := inv.tracks _ _ found
  have sameSlot := index_eq_iff.mp tracked.index_eq
  have le := tracked.registered_ge
  have lt := tracked.recent
  simp only [rttSlots] at *
  omega

theorem arrival (inv : RingInv ops state) (time : ℚ) :
    RingInv (ops ++ [.arrival time]) {
      records := state.records.updateArrival (state.arrivals + 1) time
      arrivals := state.arrivals + 1 } := by
  have countEq : registered (ops ++ [.arrival time]) = registered ops + 1 := by
    simp [registered_snoc, RttOp.isArrival]
  have pongedIff : ∀ seq, Ponged (ops ++ [.arrival time]) seq ↔ Ponged ops seq := by
    simp [ponged_snoc]
  have collectedIff : ∀ seq, Collected (ops ++ [.arrival time]) seq ↔ Collected ops seq := by
    simp [collected_snoc]
  have unponged : ¬Ponged ops (registered ops + 1) := by
    intro ponged
    exact absurd (inv.ponged_le _ ponged) (Nat.not_succ_le_self _)
  constructor
  · rw [countEq, inv.arrivals_eq]
  · intro seq ponged
    rw [countEq]
    exact (inv.ponged_le seq ((pongedIff seq).mp ponged)).trans (Nat.le_succ _)
  · intro position entry found
    simp only [RttRecords.updateArrival, RttRecords.slot_setSlot, inv.arrivals_eq] at found
    split at found
    next here =>
      cases found
      refine ⟨here, Nat.le_add_left 1 _, countEq.ge, ?_, ?_, ?_⟩
      · simp only [countEq, RTTEntry.new]
        omega
      · rw [pongedIff]
        exact iff_of_false (by simp [RTTEntry.new]) unponged
      · rw [collectedIff]
        exact fun collected => unponged (ponged_of_collected collected)
    next elsewhere =>
      have tracked := inv.tracks position entry found
      refine ⟨tracked.index_eq, tracked.positive, ?_, ?_, ?_, ?_⟩
      · rw [countEq]
        exact tracked.registered_ge.trans (Nat.le_succ _)
      · -- Were the frame 200 behind, its slot would be the one just written.
        have recent := tracked.recent
        rw [← tracked.index_eq, index_eq_iff] at elsewhere
        simp only [countEq, rttSlots] at *
        omega
      · rw [pongedIff]
        exact tracked.answered_iff
      · rw [collectedIff]
        exact tracked.uncollected
  · intro seq positive bounded recent missing
    simp only [RttRecords.updateArrival, RttRecords.slot_setSlot, inv.arrivals_eq] at missing
    split at missing
    next => cases missing
    next elsewhere =>
      rw [collectedIff]
      rw [index_eq_iff] at elsewhere
      have old : seq ≠ registered ops + 1 := fun equal => elsewhere (by rw [equal])
      rw [countEq] at bounded recent
      exact inv.collected_of_none seq positive (by omega) (by omega) missing

theorem statistic (inv : RingInv ops state) (now : ℚ) :
    RingInv (ops ++ [.statistic now])
      { state with records := (state.records.statistic now).2 } := by
  have countEq : registered (ops ++ [.statistic now]) = registered ops := by
    simp [registered_snoc, RttOp.isArrival]
  have pongedIff : ∀ seq, Ponged (ops ++ [.statistic now]) seq ↔ Ponged ops seq := by
    simp [ponged_snoc]
  have collectedIff : ∀ seq, Collected (ops ++ [.statistic now]) seq ↔
      Collected ops seq ∨ Ponged ops seq := by
    simp [collected_snoc]
  constructor
  · rw [countEq, inv.arrivals_eq]
  · intro seq ponged
    rw [countEq]
    exact inv.ponged_le seq ((pongedIff seq).mp ponged)
  · intro position entry found
    rw [RttRecords.slot_statistic] at found
    rcases RttRecords.pollSlot_eq_some found with
        ⟨unanswered, old, oldFound, oldUnanswered, seqEq⟩
    have tracked := inv.tracks position old oldFound
    have unponged : ¬Ponged ops entry.seq := by
      rw [← seqEq, ← tracked.answered_iff, oldUnanswered]
      exact Bool.false_ne_true
    refine ⟨?_, ?_, ?_, ?_, ?_, ?_⟩
    · exact seqEq ▸ tracked.index_eq
    · exact seqEq ▸ tracked.positive
    · exact countEq ▸ seqEq ▸ tracked.registered_ge
    · exact countEq ▸ seqEq ▸ tracked.recent
    · rw [pongedIff, unanswered]
      exact iff_of_false Bool.false_ne_true unponged
    · rw [collectedIff]
      rintro (collected | ponged)
      · exact tracked.uncollected (seqEq ▸ collected)
      · exact unponged ponged
  · intro seq positive bounded recent missing
    rw [countEq] at bounded recent
    rw [RttRecords.slot_statistic, RttRecords.pollSlot_eq_none] at missing
    rw [collectedIff]
    rcases missing with gone | ⟨entry, found, answered⟩
    · exact .inl (inv.collected_of_none seq positive bounded recent gone)
    · right
      rw [← inv.seq_eq bounded recent found]
      exact (inv.tracks _ _ found).answered_iff.mp answered

theorem pong (inv : RingInv ops state) {seq : Nat} {time delta : ℚ} {entry : RTTEntry}
    (found : state.records.slot (RttRecords.index rttSlots seq) = some entry)
    (same : entry.seq = seq) :
    RingInv (ops ++ [.pong seq time delta]) { state with
      records := state.records.setSlot (RttRecords.index rttSlots seq)
        (some { entry with pongTime := some time, delta }) } := by
  have countEq : registered (ops ++ [.pong seq time delta]) = registered ops := by
    simp [registered_snoc, RttOp.isArrival]
  have pongedIff : ∀ other, Ponged (ops ++ [.pong seq time delta]) other ↔
      Ponged ops other ∨ seq = other := by
    simp [ponged_snoc]
  have collectedIff : ∀ other, Collected (ops ++ [.pong seq time delta]) other ↔
      Collected ops other := by
    simp [collected_snoc]
  have tracked := inv.tracks _ _ found
  constructor
  · rw [countEq, inv.arrivals_eq]
  · intro other ponged
    rw [countEq]
    rcases (pongedIff other).mp ponged with earlier | rfl
    · exact inv.ponged_le other earlier
    · exact same ▸ tracked.registered_ge
  · intro position other otherFound
    rw [RttRecords.slot_setSlot] at otherFound
    split at otherFound
    next here =>
      cases otherFound
      refine ⟨tracked.index_eq.trans here, tracked.positive, ?_, ?_, ?_, ?_⟩
      · exact countEq ▸ tracked.registered_ge
      · exact countEq ▸ tracked.recent
      · rw [pongedIff]
        exact iff_of_true rfl (.inr same.symm)
      · rw [collectedIff]
        exact tracked.uncollected
    next elsewhere =>
      have otherTracked := inv.tracks position other otherFound
      refine ⟨otherTracked.index_eq, otherTracked.positive, ?_, ?_, ?_, ?_⟩
      · exact countEq ▸ otherTracked.registered_ge
      · exact countEq ▸ otherTracked.recent
      · have different : seq ≠ other.seq := by
          rintro rfl
          exact elsewhere otherTracked.index_eq
        simp only [pongedIff, different, or_false, otherTracked.answered_iff]
      · rw [collectedIff]
        exact otherTracked.uncollected
  · intro other positive bounded recent missing
    rw [countEq] at bounded recent
    rw [RttRecords.slot_setSlot] at missing
    split at missing
    next => cases missing
    next =>
      rw [collectedIff]
      exact inv.collected_of_none other positive bounded recent missing

theorem step (inv : RingInv ops state) {op : RttOp} {out : RttOut} {next : RttState}
    (taken : RttState.step state op = .ok (out, next)) : RingInv (ops ++ [op]) next := by
  cases op with
  | arrival time =>
      cases taken
      exact inv.arrival time
  | statistic now =>
      cases taken
      exact inv.statistic now
  | pong seq time delta =>
      rcases bind_eq_ok.mp taken with ⟨⟨elapsed, records⟩, updated, equal⟩
      rcases RttRecords.update_eq_ok.mp updated with ⟨entry, found, same, _, rfl⟩
      cases equal
      exact inv.pong found same

/-- A pong is accepted exactly when it is fresh; nothing else can fail. -/
theorem step_returns_iff (inv : RingInv ops state) (op : RttOp) :
    (∃ taken, RttState.step state op = .ok taken) ↔
      ∀ seq time delta, op = .pong seq time delta → Fresh ops seq := by
  cases op with
  | arrival time => exact iff_of_true ⟨_, rfl⟩ (by simp)
  | statistic now => exact iff_of_true ⟨_, rfl⟩ (by simp)
  | pong seq time delta =>
      constructor
      · rintro ⟨⟨out, next⟩, taken⟩ _ _ _ equal
        cases equal
        rcases bind_eq_ok.mp taken with ⟨⟨elapsed, records⟩, updated, _⟩
        rcases RttRecords.update_eq_ok.mp updated with ⟨entry, found, rfl, _⟩
        have tracked := inv.tracks _ _ found
        exact ⟨tracked.positive, tracked.registered_ge, tracked.recent, tracked.uncollected⟩
      · intro fresh
        have fresh := fresh seq time delta rfl
        cases found : state.records.slot (RttRecords.index rttSlots seq) with
        | none =>
            exact absurd (inv.collected_of_none seq fresh.positive fresh.registered_ge
              fresh.recent found) fresh.uncollected
        | some entry =>
            have same := inv.seq_eq fresh.registered_ge fresh.recent found
            have updated : state.records.update seq time delta = .ok (_, _) :=
              RttRecords.update_eq_ok.mpr ⟨entry, found, same, rfl, rfl⟩
            exact ⟨_, bind_eq_ok.mpr ⟨_, updated, rfl⟩⟩

end RingInv

/-- The threads' accesses return, in whatever order they come, exactly when every
pong is fresh; and a pong that is accepted changes nothing but the pong time and
delta of its own frame. -/
theorem pongs_accepted_iff (targetRtt : ℚ) (ops : List RttOp) :
    ((∃ final, exec RttState.step (.start targetRtt) ops = .ok final) ↔
      ∀ earlier seq time delta later, ops = earlier ++ .pong seq time delta :: later →
        Fresh earlier seq) ∧
    ∀ state, exec RttState.step (.start targetRtt) ops = .ok state →
      ∀ seq time delta out next, state.step (.pong seq time delta) = .ok (out, next) →
        next.arrivals = state.arrivals ∧
        (∀ position, position ≠ RttRecords.index rttSlots seq →
          next.records.slot position = state.records.slot position) ∧
        ∃ entry, entry.seq = seq ∧
          state.records.slot (RttRecords.index rttSlots seq) = some entry ∧
          next.records.slot (RttRecords.index rttSlots seq) =
            some { entry with pongTime := some time, delta } := by
  constructor
  · constructor
    · rintro ⟨final, executed⟩ earlier seq time delta later rfl
      rcases exec_split_eq_ok.mp executed with ⟨middle, out, next, before, taken, _⟩
      have inv : RingInv earlier middle := exec_invariant (RingInv.start targetRtt)
        (fun _ _ _ _ _ inv taken => inv.step taken) before
      exact (inv.step_returns_iff _).mp ⟨_, taken⟩ seq time delta rfl
    · intro fresh
      refine (exec_returns_iff RingInv
        (fun earlier _ op => ∀ seq time delta, op = .pong seq time delta → Fresh earlier seq)
        (RingInv.start targetRtt)
        (fun _ _ _ _ _ inv taken => inv.step taken)
        (fun _ _ op inv => inv.step_returns_iff op) ops).mpr ?_
      rintro earlier _ later state split _ seq time delta rfl
      exact fresh earlier seq time delta later split
  · intro state _ seq time delta out next taken
    rcases bind_eq_ok.mp taken with ⟨⟨elapsed, records⟩, updated, equal⟩
    rcases RttRecords.update_eq_ok.mp updated with ⟨entry, found, same, _, rfl⟩
    cases equal
    refine ⟨rfl, fun position elsewhere => ?_, entry, same, found, ?_⟩
    · rw [RttRecords.slot_setSlot, if_neg elsewhere.symm]
    · rw [RttRecords.slot_setSlot, if_pos rfl]

/-- A pong is answered, and a poll collects it. -/
def answeredAndPolled : List RttOp := [.arrival 0, .pong 1 1 0, .statistic 2]

/-- Frame 1 is 200 frames behind. -/
def farBehind : List RttOp := List.replicate 201 (.arrival 0)

/-- Frame 1 is registered, and its pong aborts after these operations. -/
def AbortsAfter (earlier : List RttOp) : Prop :=
  1 ≤ registered earlier ∧ ∃ state, exec RttState.step (.start 1) earlier = .ok state ∧
    ∃ fault, state.step (.pong 1 3 0) = .error fault

theorem abortsAfter_of_any {earlier : List RttOp} (known : 1 ≤ registered earlier)
    (passes : (exec RttState.step (.start 1) earlier).toOption.any
      (fun state => (state.step (.pong 1 3 0)).toOption.isNone) = true) :
    AbortsAfter earlier := by
  rcases exists_of_any passes with ⟨state, executed, fails⟩
  exact ⟨known, state, executed, exists_of_isNone fails⟩

theorem registered_pongs_abort : AbortsAfter answeredAndPolled ∧ AbortsAfter farBehind :=
  ⟨abortsAfter_of_any (by decide) (by decide +kernel),
    abortsAfter_of_any (by decide +kernel) (by decide +kernel)⟩

end StreamReplay
