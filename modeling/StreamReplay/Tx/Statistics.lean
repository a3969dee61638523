import StreamReplay.Tx.SourceManager

/-!
# Statistics of a source

A statistics query collects the answered frames of the round-trip records before
it asks for the version manager.  Only a versioned video has one, so for any other
source the query ends there, and what it has collected is lost.
-/

namespace StreamReplay

open Checked FallibleRun Guarded

namespace RttRecords

variable {maxLength : Nat}

/-- A poll at this time finds neither an answered frame nor an overdue one. -/
def Settled (records : RttRecords maxLength) (now : ℚ) : Prop :=
  ∀ position entry, records.slot position = some entry →
    entry.pongTime = none ∧ now ≤ entry.lastOutageTime

theorem pollSlot_eq_self_iff {now : ℚ} {slot : Option RTTEntry} :
    (pollSlot now slot).2 = slot ↔
      ∀ entry, slot = some entry → entry.pongTime = none ∧ now ≤ entry.lastOutageTime := by
  cases slot with
  | none => simp [pollSlot]
  | some entry =>
      rcases entry with ⟨seq, arrivalTime, lastOutageTime, pongTime, delta⟩
      cases pongTime with
      | some pongTime => simp [pollSlot]
      | none =>
          simp only [pollSlot, gt_iff_lt, Option.some.injEq, forall_eq', true_and]
          split
          next overdue => simp [overdue.ne', overdue]
          next waiting => simp [not_lt.mp waiting]

/-- A poll leaves the records as they are exactly when they are settled. -/
theorem statistic_eq_self_iff {records : RttRecords maxLength} {now : ℚ} :
    (records.statistic now).2 = records ↔ records.Settled now := by
  constructor
  · intro same position entry found
    have slotEq := records.slot_statistic now position
    rw [same] at slotEq
    exact pollSlot_eq_self_iff.mp slotEq.symm entry found
  · intro settled
    have queueEq : (records.queue.map fun slot => (pollSlot now slot).2) = records.queue := by
      refine Vector.ext fun position below => ?_
      rw [Vector.getElem_map]
      exact pollSlot_eq_self_iff.mpr (settled ⟨position, below⟩)
    simp only [statistic, queueEq]

end RttRecords

namespace SourceManager

/-- One of the locks that a statistics query takes is poisoned. -/
def LockPoisoned (manager : SourceManager) : Prop :=
  manager.throttler.poisoned = true ∨
    (∃ rtt, manager.rtt = some rtt ∧ rtt.poisoned = true) ∨
    manager.versionManager.poisoned = true

/-- A query that yields nothing is outside the interval or finds a poisoned lock, and
leaves the round-trip records alone. -/
def QueriesHarmlessly (manager : SourceManager) (now : Time) (pollTime : ℚ) : Prop :=
  (manager.statistics now pollTime).1 = none →
    (manager.Outside now ∨ manager.LockPoisoned) ∧
      (manager.statistics now pollTime).2.rtt = manager.rtt

/-- The records, if there are any, are settled. -/
def RttSettled (manager : SourceManager) (pollTime : ℚ) : Prop :=
  ∀ rtt, manager.rtt = some rtt → rtt.value.Settled pollTime

/-- The condition under which a query is harmless: it ends before the poll, or there
is a version manager to be had, or its lock is poisoned and the poll finds nothing. -/
def QuerySafe (manager : SourceManager) (now : Time) (pollTime : ℚ) : Prop :=
  manager.Outside now ∨ manager.throttler.poisoned = true ∨
    (∃ rtt, manager.rtt = some rtt ∧ rtt.poisoned = true) ∨
    (manager.versionManager.poisoned = false ∧
      manager.stream.npyFile.endsWith ".json" = true) ∨
    (manager.versionManager.poisoned = true ∧ manager.RttSettled pollTime)

/-! ## The kind of a source -/

/-- A source has a version manager exactly when it is a versioned video. -/
def KindFits (manager : SourceManager) : Prop :=
  manager.versionManager.value.isSome = manager.stream.npyFile.endsWith ".json"

theorem kindFits_new {load : String → Except Panic VersionManager.Config}
    {params : ConnParams} {windowSize : Nat} {macInfoBus : LatestBus}
    {started stopped : Time} {manager : SourceManager}
    (created : new load params windowSize macInfoBus started stopped = .ok manager) :
    manager.KindFits := by
  obtain ⟨_, versions, rtt, chosen, _, rfl⟩ := new_eq_ok.mp created
  change versions.isSome = params.npyFile.endsWith ".json"
  unfold openVersions at chosen
  split at chosen
  next versioned =>
    rcases bind_eq_ok.mp chosen with ⟨cfg, _, chosen⟩
    rcases bind_eq_ok.mp chosen with ⟨built, _, equal⟩
    cases equal
    exact versioned.symm
  next other =>
    cases chosen
    exact (Bool.eq_false_iff.mpr other).symm

theorem isSome_of_nextOf {kind loads : Bool} {versions next : Option VersionManager}
    {path : String} (fits : versions.isSome = kind)
    (returned : VersionManager.nextOf loads versions = .ok (path, next)) :
    next.isSome = kind := by
  rcases bind_eq_ok.mp returned with ⟨manager, found, returned⟩
  rcases bind_eq_ok.mp returned with ⟨⟨other, advanced⟩, _, returned⟩
  cases loads with
  | false => cases returned
  | true =>
  cases returned
  rw [← fits, unwrap_eq_ok.mp found]
  rfl

theorem pollRtt_versionManager (manager : SourceManager) (pollTime : ℚ) :
    (manager.pollRtt pollTime).2.versionManager = manager.versionManager ∧
      (manager.pollRtt pollTime).2.stream = manager.stream := by
  unfold pollRtt
  split
  · exact ⟨rfl, rfl⟩
  · split
    · exact ⟨rfl, rfl⟩
    · exact ⟨rfl, rfl⟩

/-- The four ways in which a query ends. -/
theorem statistics_cases (manager : SourceManager) (now : Time) (pollTime : ℚ) :
    ((manager.Outside now ∨ manager.throttler.poisoned = true) ∧
      manager.statistics now pollTime = (none, manager)) ∨
    ¬manager.Outside now ∧ manager.throttler.poisoned = false ∧
      (((manager.pollRtt pollTime).1 = none ∧
          manager.statistics now pollTime = (none, (manager.pollRtt pollTime).2)) ∨
        (manager.pollRtt pollTime).1.isSome = true ∧
          (manager.statistics now pollTime).2 = (manager.pollRtt pollTime).2 ∧
          ((manager.statistics now pollTime).1 = none ↔
            manager.versionManager.poisoned = true ∨
              manager.versionManager.value = none)) := by
  unfold statistics
  by_cases outside : manager.Outside now
  · exact .inl ⟨.inl outside, if_pos outside⟩
  rw [if_neg outside]
  cases held : manager.throttler.lock with
  | none => exact .inl ⟨.inr (Mutex.lock_eq_none.mp held), rfl⟩
  | some throttler =>
      refine .inr ⟨outside, (Mutex.lock_eq_some.mp held).1, ?_⟩
      have versionsEq := (manager.pollRtt_versionManager pollTime).1
      rcases polled : manager.pollRtt pollTime with ⟨result, after⟩
      rw [polled] at versionsEq
      cases result with
      | none => exact .inl ⟨rfl, rfl⟩
      | some values =>
          refine .inr ⟨rfl, ?_⟩
          dsimp only at versionsEq ⊢
          rw [versionsEq]
          cases versions : manager.versionManager.lock with
          | none =>
              refine ⟨rfl, ?_⟩
              simp [Mutex.lock_eq_none.mp versions]
          | some value =>
              rcases Mutex.lock_eq_some.mp versions with ⟨alive, valueEq⟩
              cases value with
              | none =>
                  refine ⟨rfl, ?_⟩
                  simp [← valueEq]
              | some value =>
                  refine ⟨rfl, ?_⟩
                  simp [alive, ← valueEq]

/-- What a statistics query leaves of a source: at most the records change. -/
theorem kindFits_statistics {manager : SourceManager} (fits : manager.KindFits)
    (now : Time) (pollTime : ℚ) : (manager.statistics now pollTime).2.KindFits := by
  rcases manager.pollRtt_versionManager pollTime with ⟨versionsEq, streamEq⟩
  have polled : (manager.pollRtt pollTime).2.KindFits := by
    rw [KindFits, versionsEq, streamEq]
    exact fits
  rcases manager.statistics_cases now pollTime with
    ⟨_, equal⟩ | ⟨_, _, ⟨_, equal⟩ | ⟨_, equal, _⟩⟩
  · rw [equal]
    exact fits
  · rw [equal]
    exact polled
  · rw [equal]
    exact polled

theorem kindFits_setVersion {manager : SourceManager} (fits : manager.KindFits)
    (version : UInt32) : (manager.setVersion version).2.KindFits := by
  unfold setVersion
  split
  · exact fits
  · exact fits
  next versions found =>
    rcases Mutex.lock_eq_some.mp found with ⟨_, valueEq⟩
    rw [KindFits, ← valueEq] at fits
    exact fits

theorem kindFits_step {socketInfos : SocketInfo} {manager next : SourceManager}
    {op : ManagerOp} {out : Option FlowStatistics} (fits : manager.KindFits)
    (taken : manager.step socketInfos op = .ok (out, next)) : next.KindFits := by
  cases op with
  | nextSegment loads =>
      cases taken
      exact Mutex.run_keeps (fun versions : Option VersionManager =>
        versions.isSome = manager.stream.npyFile.endsWith ".json") fits
        fun _ _ _ fits returned => isSome_of_nextOf fits returned
  | setVersion version =>
      cases taken
      exact kindFits_setVersion fits version
  | statistics now pollTime =>
      have after : (manager.statistics now pollTime).2 = next :=
        congrArg Prod.snd (Except.ok.inj taken)
      rw [← after]
      exact kindFits_statistics fits now pollTime
  | start now =>
      cases taken
      rcases manager.start_snd now with ⟨_, _, equal⟩
      rw [equal]
      exact fits
  | operate | attempt | arrival | pong | publish | setThrottle | setPolicyParameters =>
      cases taken
      exact fits

/-! ## When a query is harmless -/

/-- The poll fails on a poisoned lock, or leaves settled records alone. -/
theorem pollRtt_cases (manager : SourceManager) (pollTime : ℚ) :
    ((∃ rtt, manager.rtt = some rtt ∧ rtt.poisoned = true) ∧
        manager.pollRtt pollTime = (none, manager)) ∨
      ((¬∃ rtt, manager.rtt = some rtt ∧ rtt.poisoned = true) ∧
        (manager.pollRtt pollTime).1.isSome = true ∧
        ((manager.pollRtt pollTime).2.rtt = manager.rtt ↔ manager.RttSettled pollTime)) := by
  unfold pollRtt RttSettled
  cases kept : manager.rtt with
  | none => exact .inr ⟨by simp, rfl, by simp [kept]⟩
  | some rtt =>
      cases held : rtt.lock with
      | none =>
          exact .inl ⟨⟨rtt, rfl, Mutex.lock_eq_none.mp held⟩, by simp only [held]⟩
      | some records =>
          right
          rcases Mutex.lock_eq_some.mp held with ⟨alive, rfl⟩
          have same : ({ rtt with value := (rtt.value.statistic pollTime).2 } : Mutex _) = rtt ↔
              rtt.value.Settled pollTime := by
            rw [Mutex.ext_iff]
            simp only [and_true, RttRecords.statistic_eq_self_iff]
          simp only [held, Option.some.injEq, forall_eq', same, Option.isSome_some,
            and_true]
          rintro ⟨other, rfl, poisoned⟩
          rw [alive] at poisoned
          cases poisoned

theorem harmless_iff {manager : SourceManager} (fits : manager.KindFits) (now : Time)
    (pollTime : ℚ) :
    manager.QueriesHarmlessly now pollTime ↔ manager.QuerySafe now pollTime := by
  rcases manager.statistics_cases now pollTime with
    ⟨early, equal⟩ | ⟨inside, alive, ended⟩
  · refine iff_of_true (fun _ => ⟨?_, by rw [equal]⟩) ?_
    · rcases early with outside | poisoned
      · exact .inl outside
      · exact .inr (.inl poisoned)
    · rcases early with outside | poisoned
      · exact .inl outside
      · exact .inr (.inl poisoned)
  rcases manager.pollRtt_cases pollTime with ⟨rttPoisoned, polled⟩ | ⟨rttAlive, polled, same⟩
  · rcases ended with ⟨_, equal⟩ | ⟨isSome, _, _⟩
    · refine iff_of_true (fun _ => ⟨.inr (.inr (.inl rttPoisoned)), ?_⟩)
        (.inr (.inr (.inl rttPoisoned)))
      rw [equal, polled]
    · rw [polled] at isSome
      cases isSome
  · rcases ended with ⟨isNone, _⟩ | ⟨_, afterEq, noneIff⟩
    · rw [isNone] at polled
      cases polled
    · unfold QueriesHarmlessly QuerySafe LockPoisoned
      rw [noneIff, afterEq, same, ← fits]
      simp only [inside, alive, rttAlive, false_or, Bool.false_eq_true]
      cases manager.versionManager.poisoned with
      | true => simp
      | false => cases manager.versionManager.value <;> simp

/-- In every state that a source of any kind reaches, a query that yields nothing is
outside the interval or finds a poisoned lock, and leaves the round-trip records as
they are, exactly when it is safe. -/
theorem statistics_harmless_iff {load : String → Except Panic VersionManager.Config}
    {params : ConnParams} {windowSize : Nat} {macInfoBus : LatestBus}
    {started stopped : Time} {manager : SourceManager}
    (created : new load params windowSize macInfoBus started stopped = .ok manager)
    {socketInfos : SocketInfo}
    {history : List (Event SourceManager ManagerOp (Option FlowStatistics))}
    {state : SourceManager} (run : Run (step socketInfos) manager history state)
    (now : Time) (pollTime : ℚ) :
    state.QueriesHarmlessly now pollTime ↔ state.QuerySafe now pollTime := by
  have fits : state.KindFits :=
    run.invariant (kindFits_new created) fun _ _ _ _ fits taken => kindFits_step fits taken
  exact harmless_iff fits now pollTime

/-- A replayed trace whose round-trip times are measured. -/
def measuredTrace : ConnParams where
  npyFile := "trace.npy"
  port := 1000
  tos := 0
  duration := (0, 100)
  targetRtt := 1
  throttle := 0
  calcRtt := true
  policy := .hardThreshold
  policyParameters := ⟨0, 0, 0, 0⟩

def quietBus : LatestBus := ⟨false, 0, ∅, ∅⟩

/-- No file of versions can be read. -/
def noVersions (_ : String) : Except Panic VersionManager.Config := .error .unwrapErr

/-- Frame 1 is registered and answered. -/
def oneAnswered : List ManagerOp := [.start 0, .arrival 1 0, .pong 1 1 0]

theorem statistics_harmless_iff_answered :
    ∃ manager, new noVersions measuredTrace 100 quietBus 0 0 = .ok manager ∧
      ∃ history state, Run (step ∅) manager history state ∧
        history.map Event.op = oneAnswered ∧
        (state.QueriesHarmlessly 50 2 ↔ state.QuerySafe 50 2) := by
  have answered : (new noVersions measuredTrace 100 quietBus 0 0).toOption.any
      (fun manager => (exec (step ∅) manager oneAnswered).toOption.any fun _ => true) =
        true := by
    decide +kernel
  rcases exists_of_any answered with ⟨manager, created, passes⟩
  rcases exists_run_of_any (step ∅) manager oneAnswered (fun _ => true) passes with
    ⟨history, state, run, opsEq, _⟩
  exact ⟨manager, created, history, state, run, opsEq,
    statistics_harmless_iff created run 50 2⟩

/-- The records hold an entry of frame 1. -/
def holdsFirst (manager : SourceManager) : Bool :=
  manager.rtt.any fun rtt => (rtt.value.slot 1).isSome

/-- The query happens at this time, without a poisoned lock, and yields nothing. -/
def yieldsNothing (manager : SourceManager) : Bool :=
  (manager.statistics 50 2).1.isNone && !decide (manager.Outside 50) &&
    !manager.throttler.poisoned && !manager.rtt.any Mutex.poisoned &&
    !manager.versionManager.poisoned

theorem not_lockPoisoned {manager : SourceManager} (nothing : manager.yieldsNothing = true) :
    (manager.statistics 50 2).1 = none ∧ ¬manager.Outside 50 ∧ ¬manager.LockPoisoned := by
  simp only [yieldsNothing, Bool.and_eq_true, Bool.not_eq_true', decide_eq_false_iff_not,
    Option.isNone_iff_eq_none] at nothing
  rcases nothing with ⟨⟨⟨⟨isNone, inside⟩, throttler⟩, rtt⟩, versions⟩
  refine ⟨isNone, inside, ?_⟩
  rintro (poisoned | ⟨records, kept, poisoned⟩ | poisoned)
  · rw [throttler] at poisoned
    cases poisoned
  · rw [kept, Option.any_some, poisoned] at rtt
    cases rtt
  · rw [versions] at poisoned
    cases poisoned

/-- The sample of an answered frame is lost to a query that yields nothing. -/
theorem answered_frame_lost :
    ∃ manager, new noVersions measuredTrace 100 quietBus 0 0 = .ok manager ∧
      ∃ history state, Run (step ∅) manager history state ∧
        history.map Event.op = oneAnswered ∧
        (state.statistics 50 2).1 = none ∧ ¬state.Outside 50 ∧ ¬state.LockPoisoned ∧
        (state.statistics 50 2).2.rtt ≠ state.rtt := by
  have lost : (new noVersions measuredTrace 100 quietBus 0 0).toOption.any
      (fun manager => (exec (step ∅) manager oneAnswered).toOption.any fun state =>
        state.yieldsNothing && state.holdsFirst && !(state.statistics 50 2).2.holdsFirst) =
          true := by
    decide +kernel
  rcases exists_of_any lost with ⟨manager, created, passes⟩
  rcases exists_run_of_any (step ∅) manager oneAnswered _ passes with
    ⟨history, state, run, opsEq, observed⟩
  simp only [Bool.and_eq_true, Bool.not_eq_true'] at observed
  rcases observed with ⟨⟨nothing, before⟩, after⟩
  rcases not_lockPoisoned nothing with ⟨isNone, inside, alive⟩
  refine ⟨manager, created, history, state, run, opsEq, isNone, inside, alive, ?_⟩
  intro same
  rw [holdsFirst, same] at after
  exact absurd before (by rw [holdsFirst, after]; decide)

end SourceManager

end StreamReplay
