import StreamReplay.System.Integrity

/-!
# The pong thread in a session

The lookup of an acknowledged frame panics unless the frame is still in the ring of
round-trip records.  A frame is reported before its packets go out, so an acknowledgement
never comes too early; it can come too late, or again after a poll has collected it.
-/

namespace StreamReplay

open Checked FallibleRun Guarded

/-- What a step does to the records, if their lock is not poisoned. -/
def SessionEvent.rttOps (setup : Setup) (event : SessionEvent) : List RttOp :=
  match event.op with
  | .sender (.register time) =>
      if event.before.sender.phase = .queued then [.arrival time] else []
  | .pong position time =>
      match event.before.pongs[position]? with
      | some pong => [.pong pong.bytes.seq.toNat time (setup.seconds pong.bytes.deltaBytes)]
      | none => []
  | .poll now => [.statistic now]
  | _ => []

/-- The operations on the records in a history. -/
def rttLog (setup : Setup) (history : List SessionEvent) : List RttOp :=
  history.flatMap (SessionEvent.rttOps setup)

/-- An acknowledgement comes in time: fewer than 200 frames have been reported since its
own, and no poll has collected an earlier one of the same frame. -/
structure Timely (ops : List RttOp) (seq : Nat) : Prop where
  recent : registered ops < seq + rttSlots
  uncollected : ¬Collected ops seq

/-- The acknowledgement that a step delivers, if any, comes in time. -/
def SessionEvent.InTime (setup : Setup) (earlier : List SessionEvent) (event : SessionEvent) :
    Prop :=
  ∀ position time pong, event.op = .pong position time →
    event.before.pongs[position]? = some pong →
    Timely (rttLog setup earlier) pong.bytes.seq.toNat

theorem rttLog_snoc (setup : Setup) (history : List SessionEvent) (event : SessionEvent) :
    rttLog setup (history ++ [event]) =
      rttLog setup history ++ SessionEvent.rttOps setup event := by
  simp [rttLog]

/-! ## Reports before packets -/

/-- The frames that the thread has reported. -/
def Sender.reports (sender : Sender) : Nat :=
  sender.frames.length - if sender.phase = .queued then 1 else 0

/-- Nothing of a frame is on the wire before its arrival is reported. -/
structure Sender.Reports (sender : Sender) : Prop where
  taken : sender.phase = .queued → 1 ≤ sender.frames.length
  wire_le : ∀ sent ∈ sender.outlet.wire, sent.seq.toNat ≤ sender.reports

namespace Sender

variable {sender : Sender}

/-- How many frames a step reports. -/
theorem reports_apply (socketInfos : SocketInfo) (reports : sender.Reports) (op : SenderOp) :
    let next := sender.apply socketInfos op
    next.reports = sender.reports +
        (match op with
          | .register _ => if sender.phase = .queued then 1 else 0
          | _ => 0) ∧
      (next.phase = .queued → 1 ≤ next.frames.length) ∧
      (next.phase = .queued → next.outlet.wire = sender.outlet.wire) := by
  cases op with
  | frame arrival data now =>
      rw [apply]
      split
      next waiting =>
        unfold takeFrame
        split
        next => simp [Sender.reports, waiting]
        next => simp [Sender.reports, waiting]
      next => exact ⟨rfl, reports.taken, fun _ => rfl⟩
  | register time =>
      rw [apply]
      split
      next queued =>
        have some := reports.taken queued
        simp [Sender.reports, queued]
        omega
      next => exact ⟨rfl, reports.taken, fun _ => rfl⟩
  | turn clock outcome =>
      rw [apply]
      split
      next sending =>
        have other := sender.phase_turn_ne socketInfos clock outcome
        have frames := (sender.turn_cases socketInfos clock outcome).1
        simp [Sender.reports, other, frames, sending]
      next => exact ⟨rfl, reports.taken, fun _ => rfl⟩
  | leave | finish =>
      rw [apply]
      split
      next here => simp [Sender.reports, here]
      next => exact ⟨rfl, reports.taken, fun _ => rfl⟩
  | setThrottle | setPolicyParameters | publish => exact ⟨rfl, reports.taken, fun _ => rfl⟩

theorem Reports.new (port : UInt16) (throttle : ℚ) (windowSize : Nat) (ctler : TxPartCtler) :
    (Sender.new port throttle windowSize ctler).Reports where
  taken := fun queued => by cases queued
  wire_le := fun _ member => absurd member List.not_mem_nil

/-- Step lemma: outside of the phase before the report, all frames are reported. -/
theorem Reports.apply (socketInfos : SocketInfo) (reports : sender.Reports)
    (produces : sender.Produces) (op : SenderOp) :
    (sender.apply socketInfos op).Reports := by
  have after := produces.apply socketInfos op
  rcases reports_apply socketInfos reports op with ⟨count, taken, wire⟩
  refine ⟨taken, fun sent member => ?_⟩
  by_cases queued : (sender.apply socketInfos op).phase = .queued
  · rw [wire queued] at member
    have bound := reports.wire_le sent member
    omega
  · have bound := after.seq_le (after.wire_sent sent member)
    rw [after.seq_eq] at bound
    rwa [Sender.reports, if_neg queued]

end Sender

/-! ## The records of a session -/

section Sessions

variable {setup : Setup} {throttle targetRtt : ℚ} {windowSize : Nat} {ctler : TxPartCtler}
  {history : List SessionEvent} {session : Session}

/-- Only what was sent is delivered. -/
theorem arrived_subset
    (run : Run (Session.step setup) (.start setup throttle windowSize ctler targetRtt)
      history session) : arrived history ⊆ session.sender.outlet.wire := by
  induction run with
  | nil => exact List.nil_subset _
  | @snoc history session next op out run taken ih =>
      cases taken
      rw [arrived, arrivals, Sequence.filterMap_snoc, List.map_append]
      have kept : session.sender.outlet.wire ⊆ (session.apply setup op).sender.outlet.wire := by
        rcases session.sender_apply_cases setup op with ⟨inner, _, same⟩ | ⟨_, same⟩
        · exact same ▸ (session.sender.wire_prefix setup.socketInfos inner).subset
        · exact same ▸ List.Subset.refl _
      refine List.append_subset.mpr
        ⟨fun sent found => kept (ih found), fun sent member => kept ?_⟩
      cases op with
      | deliver position env =>
          rcases List.mem_map.mp member with ⟨arrival, delivered, rfl⟩
          rcases Option.map_eq_some_iff.mp (Option.mem_toList.mp delivered) with
            ⟨sent, found, rfl⟩
          exact List.mem_of_getElem? found
      | sender | pong | poll => exact absurd member List.not_mem_nil

/-- The number of an acknowledgement was on a datagram. -/
theorem exists_sent_of_pong
    (run : Run (Session.step setup) (.start setup throttle windowSize ctler targetRtt)
      history session) {pong : Pong} (member : pong ∈ session.pongs) :
    ∃ sent ∈ session.sender.outlet.wire, sent.seq = pong.bytes.seq := by
  rcases (Sender.Produces.of_session run).exists_emission with ⟨emission, represents⟩
  rcases heard_of_run run represents.covers with ⟨heard, last, hears⟩
  rcases hears.pongs_eq with ⟨tail, pongs, ends⟩
  have sentOf : ∀ copy ∈ heard.map Event.op ++ last.toList,
      copy.packet ∈ session.sender.outlet.wire := by
    intro copy among
    exact arrived_subset run (hears.packets_subset (List.mem_map_of_mem among))
  have among := List.mem_map_of_mem (f := fun pong : Pong => pong.bytes.seq) member
  rw [pongs] at among
  rcases List.mem_append.mp among with acked | isLast
  · rcases exists_of_acknowledged acked with ⟨event, inHeard, seqEq, _⟩
    exact ⟨_, sentOf event.op (List.mem_append_left _ (List.mem_map_of_mem inHeard)),
      event.op.seq_packet.trans seqEq⟩
  · rcases ends with rfl | ⟨copy, ack, record, rfl, completes, rfl⟩
    · exact absurd isLast List.not_mem_nil
    · rw [List.mem_singleton.mp isLast]
      exact ⟨_, sentOf copy (by simp), copy.seq_packet⟩

/-- The lookup of an acknowledged frame returns exactly when it is still in its slot. -/
theorem RingInv.update_returns_iff {ops : List RttOp} {state : RttState}
    (inv : RingInv ops state) {seq : Nat} {time delta : ℚ} :
    (∃ result, state.records.update seq time delta = .ok result) ↔ Fresh ops seq := by
  have returns := inv.step_returns_iff (.pong seq time delta)
  constructor
  · rintro ⟨result, updated⟩
    exact returns.mp ⟨_, bind_eq_ok.mpr ⟨result, updated, rfl⟩⟩ _ _ _ rfl
  · intro fresh
    have accepted : ∀ number time' delta',
        RttOp.pong seq time delta = .pong number time' delta' → Fresh ops number := by
      rintro _ _ _ ⟨⟩
      exact fresh
    rcases returns.mpr accepted with ⟨_, taken⟩
    rcases bind_eq_ok.mp taken with ⟨result, updated, _⟩
    exact ⟨result, updated⟩

/-- The records after the operations of a history: as many frames are registered as the
thread has reported, and until the lock is poisoned the ring is in order. -/
structure Answers (session : Session) (log : List RttOp) : Prop where
  reports : session.sender.Reports
  count : registered log = session.sender.reports
  ring : session.rtt.poisoned = false → RingInv log ⟨session.rtt.value, registered log⟩

namespace Answers

variable {log : List RttOp}

/-- A step that does nothing to the records. -/
theorem congr {next : Session} (answers : Answers session log)
    (reports : next.sender.Reports) (count : next.sender.reports = session.sender.reports)
    (rtt : next.rtt = session.rtt) : Answers next log where
  reports := reports
  count := answers.count.trans count.symm
  ring := rtt ▸ answers.ring

/-- The report of an arrival. -/
theorem register (answers : Answers session log) (produces : session.sender.Produces)
    (time : ℚ) (queued : session.sender.phase = .queued) :
    Answers (session.apply setup (.sender (.register time))) (log ++ [.arrival time]) := by
  rcases Sender.reports_apply setup.socketInfos answers.reports (.register time) with ⟨count, _⟩
  refine ⟨answers.reports.apply setup.socketInfos produces (.register time), ?_, ?_⟩
  · rw [registered_snoc, answers.count]
    refine Eq.trans ?_ count.symm
    simp [queued, RttOp.isArrival]
  · intro alive
    have running : session.rtt.poisoned = false := by
      simpa only [Session.apply, Session.reported, queued, if_true, Mutex.poisoned_modify]
        using alive
    have number : session.sender.source.template.seq.toNat = registered log + 1 := by
      have some := answers.reports.taken queued
      rw [produces.seq_eq, answers.count, Sender.reports, if_pos queued]
      omega
    have ring := (answers.ring running).arrival time
    simp only [Session.apply, Session.reported, queued, if_true, Mutex.modify, running, number]
    rw [registered_snoc]
    exact ring

/-- An acknowledgement that is looked up. -/
theorem answer (answers : Answers session log) (pong : Pong) (time : ℚ) :
    let op : RttOp := .pong pong.bytes.seq.toNat time (setup.seconds pong.bytes.deltaBytes)
    Answers (session.answer setup pong time) (log ++ [op]) := by
  intro op
  have count : registered (log ++ [op]) = registered log := by
    simp [registered_snoc, op, RttOp.isArrival]
  refine ⟨answers.reports, count.trans answers.count, fun alive => ?_⟩
  simp only [Session.answer, Mutex.run] at alive ⊢
  split at alive
  next poisoned =>
    rw [poisoned] at alive
    cases alive
  next running =>
    split at alive
    next elapsed records updated =>
      have taken : RttState.step ⟨session.rtt.value, registered log⟩ op =
          .ok (.measured elapsed, ⟨records, registered log⟩) :=
        bind_eq_ok.mpr ⟨_, updated, rfl⟩
      have ring := (answers.ring (by simpa using running)).step taken
      rw [count]
      simpa only [running, Bool.false_eq_true, if_false, updated] using ring
    next => cases alive

/-- Step lemma. -/
theorem apply (answers : Answers session log) (produces : session.sender.Produces)
    (op : SessionOp) :
    Answers (session.apply setup op)
      (log ++ SessionEvent.rttOps setup ⟨session, op, (), session.apply setup op⟩) := by
  cases op with
  | sender inner =>
      by_cases reported : ∃ time, inner = .register time ∧ session.sender.phase = .queued
      · rcases reported with ⟨time, rfl, queued⟩
        simpa only [SessionEvent.rttOps, queued, if_true] using
          answers.register produces time queued
      · rcases Sender.reports_apply setup.socketInfos answers.reports inner with ⟨count, _⟩
        have quiet : session.reported inner = session.rtt ∧ SessionEvent.rttOps setup
            ⟨session, .sender inner, (), session.apply setup (.sender inner)⟩ = [] ∧
            (session.sender.apply setup.socketInfos inner).reports =
              session.sender.reports := by
          cases inner with
          | register time =>
              have other : session.sender.phase ≠ .queued := fun queued =>
                reported ⟨time, rfl, queued⟩
              simpa [Session.reported, SessionEvent.rttOps, other] using count
          | _ => exact ⟨rfl, rfl, count⟩
        rw [quiet.2.1, List.append_nil]
        exact answers.congr (answers.reports.apply setup.socketInfos produces inner) quiet.2.2
          quiet.1
  | deliver position env =>
      have same := session.rtt_apply_deliver setup position env
      rcases session.sender_apply_cases setup (.deliver position env) with
        ⟨_, other, _⟩ | ⟨_, sender⟩
      · cases other
      · rw [SessionEvent.rttOps, List.append_nil]
        exact answers.congr (sender ▸ answers.reports) (by rw [sender]) same
  | pong position time =>
      simp only [Session.apply, SessionEvent.rttOps]
      split
      next none => simpa only [none, List.append_nil] using answers
      next pong found => simpa only [found] using answers.answer pong time
  | poll now =>
      have count : registered (log ++ [.statistic now]) = registered log := by
        simp [registered_snoc, RttOp.isArrival]
      refine ⟨answers.reports, count.trans answers.count, fun alive => ?_⟩
      have running : session.rtt.poisoned = false := by
        simpa only [Session.apply, Mutex.poisoned_modify] using alive
      have ring := (answers.ring running).statistic now
      simpa only [SessionEvent.rttOps, count, Session.apply, Mutex.modify, running,
        Bool.false_eq_true, if_false] using ring

/-- A step leaves the lock unpoisoned exactly when an acknowledgement that it delivers comes
in time: too early it cannot come. -/
theorem alive_apply_iff (answers : Answers session log)
    (known : ∀ pong ∈ session.pongs, 1 ≤ pong.bytes.seq.toNat ∧
      pong.bytes.seq.toNat ≤ registered log) (op : SessionOp) :
    (session.apply setup op).rtt.poisoned = false ↔
      session.rtt.poisoned = false ∧ ∀ position time pong, op = .pong position time →
        session.pongs[position]? = some pong → Timely log pong.bytes.seq.toNat := by
  cases op with
  | sender inner =>
      have same : (session.reported inner).poisoned = session.rtt.poisoned := by
        unfold Session.reported
        split
        next => split <;> simp
        next => rfl
      simp [Session.apply, same]
  | deliver position env =>
      have same := session.rtt_apply_deliver setup position env
      simp [same]
  | pong position time =>
      simp only [Session.apply]
      cases found : session.pongs[position]? with
      | none =>
          refine (and_iff_left ?_).symm
          rintro _ _ _ ⟨⟩ same
          rw [found] at same
          cases same
      | some pong =>
          simp only [Session.answer, Mutex.poisoned_run_eq_false]
          refine and_congr_right fun running => ?_
          rcases known pong (List.mem_of_getElem? found) with ⟨positive, reported⟩
          rw [(answers.ring running).update_returns_iff]
          constructor
          · rintro fresh _ _ _ ⟨⟩ same
            cases found.symm.trans same
            exact ⟨fresh.recent, fresh.uncollected⟩
          · intro timely
            have inTime := timely position time pong rfl found
            exact ⟨positive, reported, inTime.recent, inTime.uncollected⟩
  | poll now => simp [Session.apply]

/-- Run lemma. -/
theorem of_run
    (run : Run (Session.step setup) (.start setup throttle windowSize ctler targetRtt)
      history session) : Answers session (rttLog setup history) := by
  induction run with
  | nil => exact {
      reports := .new setup.args.port throttle windowSize ctler
      count := rfl
      ring := fun _ => .start targetRtt }
  | snoc run taken ih =>
      cases taken
      rw [rttLog_snoc]
      exact ih.apply (.of_session run) _

end Answers

/-- An acknowledgement is for a frame that has been reported. -/
theorem reported_of_pong
    (run : Run (Session.step setup) (.start setup throttle windowSize ctler targetRtt)
      history session) {pong : Pong} (member : pong ∈ session.pongs) :
    1 ≤ pong.bytes.seq.toNat ∧ pong.bytes.seq.toNat ≤ registered (rttLog setup history) := by
  have answers := Answers.of_run run
  rcases exists_sent_of_pong run member with ⟨sent, onWire, seqEq⟩
  rcases (Sender.Produces.of_session run).wire_sent sent onWire with ⟨_, _, _, number, _⟩
  rw [← seqEq, answers.count]
  exact ⟨number ▸ Nat.le_add_left 1 _, answers.reports.wire_le sent onWire⟩

/-- The pong thread survives a session exactly when every acknowledgement that reaches it
comes in time.  An acknowledgement never exists before its frame has been reported, whatever
the network and the receiver do, so there is nothing else that the lookup can fail on. -/
theorem pong_thread_alive_iff
    (run : Run (Session.step setup) (.start setup throttle windowSize ctler targetRtt)
      history session) :
    (session.rtt.poisoned = false ↔
      ∀ earlier event later, history = earlier ++ event :: later →
        SessionEvent.InTime setup earlier event) ∧
    ∀ pong ∈ session.pongs,
      1 ≤ pong.bytes.seq.toNat ∧ pong.bytes.seq.toNat ≤ registered (rttLog setup history) := by
  refine ⟨?_, fun _ member => reported_of_pong run member⟩
  induction run with
  | nil => simp [Session.start, Mutex.new]
  | snoc run taken ih =>
      cases taken
      rw [Sequence.forall_split_snoc_iff, ← ih]
      exact (Answers.of_run run).alive_apply_iff (fun _ => reported_of_pong run) _

end Sessions

/-- Both frames are acknowledged; the second acknowledgement comes once more, after a poll. -/
def lateRepeat : List SessionOp :=
  swappedDelivery ++ [.pong 1 5, .pong 0 6, .poll 7, .pong 0 8]

theorem pong_thread_alive_iff_repeat :
    ∃ history session, Run (Session.step plainSetup) plainSession history session ∧
      session.pongs.length = 2 ∧ session.rtt.poisoned = true ∧
      (¬∀ earlier event later, history = earlier ++ event :: later →
        SessionEvent.InTime plainSetup earlier event) ∧
      ∀ pong ∈ session.pongs, 1 ≤ pong.bytes.seq.toNat ∧
        pong.bytes.seq.toNat ≤ registered (rttLog plainSetup history) := by
  rcases exists_run_of_any (Session.step plainSetup) plainSession lateRepeat
    (fun session => session.pongs.length = 2 ∧ session.rtt.poisoned = true)
    (by decide +kernel) with ⟨history, session, run, _, passes⟩
  rcases of_decide_eq_true passes with ⟨two, poisoned⟩
  rcases pong_thread_alive_iff run with ⟨alive, reported⟩
  refine ⟨history, session, run, two, poisoned, fun inTime => ?_, reported⟩
  have unpoisoned := alive.mpr inTime
  rw [poisoned] at unpoisoned
  cases unpoisoned

end StreamReplay
