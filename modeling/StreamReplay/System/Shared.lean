import StreamReplay.System.Integrity
import StreamReplay.Tx.Statistics

/-!
# The locks that a session shares

The source thread and the pong thread of a session work on parts of the source object that
the control channel holds, each behind its lock.  Seen from there, a step of the session is
a few operations on these parts.  A panic of the source thread is seen as a poisoned lock.
-/

namespace StreamReplay

open Checked FallibleRun Guarded

namespace SourceManager

/-- What an operation leaves of the source. -/
def perform (socketInfos : SocketInfo) (manager : SourceManager) (op : ManagerOp) :
    SourceManager :=
  match manager.step socketInfos op with
  | .ok (_, next) => next
  | .error _ => manager

/-- Operations done one after the other are a run. -/
theorem exists_run_of_perform (socketInfos : SocketInfo) (manager : SourceManager)
    (ops : List ManagerOp) :
    ∃ log, Run (step socketInfos) manager log (ops.foldl (perform socketInfos) manager) ∧
      log.map Event.op = ops := by
  refine run_of_exec ?_
  induction ops generalizing manager with
  | nil => rfl
  | cons op rest ih =>
      have taken : ∃ out, manager.step socketInfos op =
          .ok (out, manager.perform socketInfos op) := by
        unfold perform
        cases op <;> exact ⟨_, rfl⟩
      rcases taken with ⟨out, taken⟩
      rw [exec, taken, List.foldl_cons]
      exact ih _

/-- A query does not change the interval in which statistics are reported. -/
theorem outside_statistics (manager : SourceManager) (asked now : Time) (pollTime : ℚ) :
    (manager.statistics now pollTime).2.Outside asked ↔ manager.Outside asked := by
  have polled : (manager.pollRtt pollTime).2.Outside asked ↔ manager.Outside asked := by
    unfold pollRtt
    split
    · rfl
    · split <;> rfl
  rcases manager.statistics_cases now pollTime with
    ⟨_, equal⟩ | ⟨_, _, ⟨_, equal⟩ | ⟨_, equal, _⟩⟩
  · rw [equal]
  · rwa [equal]
  · rwa [equal]

/-- A lock is never healed. -/
theorem poisoned_foldl (socketInfos : SocketInfo) {manager : SourceManager}
    (poisoned : manager.throttler.poisoned = true) (ops : List ManagerOp) :
    (ops.foldl (perform socketInfos) manager).throttler.poisoned = true := by
  induction ops generalizing manager with
  | nil => exact poisoned
  | cons op rest ih =>
      refine ih ?_
      cases op with
      | start now =>
          rcases manager.start_snd now with ⟨_, _, equal⟩
          simpa only [perform, step, equal] using poisoned
      | operate op => simp [perform, step, Mutex.run, poisoned]
      | attempt packet outcome =>
          simp only [perform, step, attempt]
          split
          next => rfl
          next => exact poisoned
      | setThrottle throttle =>
          rw [← poisoned]
          exact Mutex.poisoned_modify ..
      | setVersion version =>
          simp only [perform, step, setVersion]
          split <;> exact poisoned
      | statistics now pollTime =>
          have held : manager.throttler.lock = none := Mutex.lock_eq_none.mpr poisoned
          simp only [perform, step, statistics, held, ite_self]
          exact poisoned
      | arrival | pong | nextSegment | publish | setPolicyParameters => exact poisoned

end SourceManager

/-! ## A step, seen from the locks -/

/-- The packet that is handed out is attempted, and leaves the queue if it is sent. -/
def Sender.turnOps (socketInfos : SocketInfo) (sender : Sender) (clock : Clock)
    (outcome : SendOutcome) : List ManagerOp :=
  match sender.source.throttler.handed clock with
  | none => [.operate (.tryConsume clock fun _ => false)]
  | some packet =>
      let sent := match sender.outlet.ctler.step socketInfos (.attempt packet outcome) with
        | .ok (some attempt, _) => attempt.sent
        | _ => false
      [.attempt packet outcome, .operate (.tryConsume clock fun _ => sent)]

/-- What a step of the source thread does to the shared parts. -/
def Sender.managerOps (socketInfos : SocketInfo) (sender : Sender) : SenderOp → List ManagerOp
  | .frame arrival data now =>
      if sender.phase = .waiting then
        match packetise arrival sender.source.template data.size data.buffer with
        | .ok (packets, _) => [.operate (.prepare now packets)]
        | .error _ => []
      else []
  | .register time =>
      if sender.phase = .queued then [.arrival sender.source.template.seq.toNat time] else []
  | .turn clock outcome =>
      if sender.phase = .sending then sender.turnOps socketInfos clock outcome else []
  | .leave => []
  | .finish => if sender.phase = .waiting then [.operate .reset] else []
  | .setThrottle throttle => [.setThrottle throttle]
  | .setPolicyParameters parameters => [.setPolicyParameters parameters]
  | .publish snapshot => [.publish snapshot]

/-- What a step of a session does to the shared parts; a poll is a query at this time. -/
def Session.managerOps (setup : Setup) (asked : Time) (session : Session) :
    SessionOp → List ManagerOp
  | .sender op => session.sender.managerOps setup.socketInfos op
  | .deliver _ _ => []
  | .pong position time =>
      match session.pongs[position]? with
      | some pong =>
          [.pong pong.bytes.seq.toNat time (setup.seconds pong.bytes.deltaBytes)]
      | none => []
  | .poll now => [.statistics asked now]

/-- The source thread is given a frame and has no number left for it. -/
def Session.RunsOut (session : Session) (op : SessionOp) : Prop :=
  ∃ arrival data now, op = .sender (.frame arrival data now) ∧
    session.sender.phase = .waiting ∧ session.sender.source.template.seq.toNat + 1 = 2 ^ 32

/-- The locks hold what the session has, or the source thread is gone: then it has left its
throttler poisoned, unless it ran out of numbers for its frames. -/
structure Mirrors (asked : Time) (ranOut : Prop) (session : Session) (manager : SourceManager) :
    Prop where
  inside : ¬manager.Outside asked
  running : session.sender.phase ≠ .panicked →
    manager.throttler = .new session.sender.source.throttler ∧
      manager.txPartCtler = .new session.sender.outlet.ctler ∧ manager.rtt = some session.rtt
  gone : session.sender.phase = .panicked → manager.throttler.poisoned = true ∨
    session.sender.source.template.seq.toNat + 1 = 2 ^ 32 ∧ ranOut

/-- That ends the thread. -/
theorem Session.RunsOut.panicked {session : Session} {op : SessionOp} (runsOut : session.RunsOut op)
    (setup : Setup) : (session.apply setup op).sender.phase = .panicked := by
  rcases runsOut with ⟨arrival, data, now, rfl, waiting, last⟩
  simp only [Session.apply, Session.reported, Sender.apply, waiting, if_true, Sender.takeFrame,
    Source.step]
  cases generated : packetise arrival session.sender.source.template data.size data.buffer with
  | error fault => rfl
  | ok result =>
      have fits := (packetise_returns_iff arrival session.sender.source.template data.sized).mp
        ⟨result, generated⟩
      exact absurd last fits.ne

namespace Mirrors

variable {asked : Time} {ranOut other : Prop} {session : Session} {manager : SourceManager}

theorem weaken (mirrors : Mirrors asked ranOut session manager) (covers : ranOut → other) :
    Mirrors asked other session manager :=
  ⟨mirrors.inside, mirrors.running, fun gone =>
    (mirrors.gone gone).imp_right (And.imp_right covers)⟩

theorem frame {setup : Setup} (mirrors : Mirrors asked ranOut session manager)
    (waiting : session.sender.phase = .waiting) (arrival : ℚ) (data : FrameData) (now : Time) :
    let op := SenderOp.frame arrival data now
    Mirrors asked (session.RunsOut (.sender op)) (session.apply setup (.sender op))
      ((session.sender.managerOps setup.socketInfos op).foldl
        (SourceManager.perform setup.socketInfos) manager) := by
  have alive : session.sender.phase ≠ .panicked := by simp [waiting]
  rcases mirrors.running alive with ⟨throttler, txPartCtler, rtt⟩
  simp only [Session.apply, Session.reported, Sender.apply, Sender.managerOps, waiting, if_true,
    Sender.takeFrame, Source.step]
  cases generated : packetise arrival session.sender.source.template data.size data.buffer with
  | error fault =>
      refine ⟨mirrors.inside, fun alive => absurd rfl alive, fun _ => .inr ?_⟩
      have full : ¬session.sender.source.template.seq.toNat + 1 < 2 ^ 32 := by
        intro fits
        rcases (packetise_returns_iff arrival session.sender.source.template data.sized).mpr fits
          with ⟨result, returned⟩
        rw [generated] at returned
        cases returned
      have below := session.sender.source.template.seq.toNat_lt
      have last : session.sender.source.template.seq.toNat + 1 = 2 ^ 32 := by omega
      exact ⟨last, arrival, data, now, rfl, waiting, last⟩
  | ok result =>
      rcases result with ⟨packets, template⟩
      cases queued : session.sender.source.throttler.prepare now packets with
      | error fault =>
          simp only [ok_bind, queued, error_bind, List.foldl_cons, List.foldl_nil]
          refine ⟨mirrors.inside, fun alive => absurd rfl alive, fun _ => .inl ?_⟩
          simp [SourceManager.perform, SourceManager.step, throttler, Mutex.run, Mutex.new,
            RateThrottler.step, queued, Mutex.poison]
      | ok after =>
          simp only [ok_bind, queued, List.foldl_cons, List.foldl_nil]
          refine ⟨mirrors.inside, fun _ => ⟨?_, txPartCtler, rtt⟩, fun gone => by cases gone⟩
          simp [SourceManager.perform, SourceManager.step, throttler, Mutex.run, Mutex.new,
            RateThrottler.step, queued]

/-- A call of `try_consume` whose callback returns `sent`, under the throttler's lock. -/
theorem consume (mirrors : Mirrors asked ranOut session manager) (socketInfos : SocketInfo)
    (alive : session.sender.phase ≠ .panicked) (clock : Clock) (sent : Bool) {outlet : Outlet}
    {ctler : Mutex TxPartCtler} (held : ctler = .new outlet.ctler) :
    Mirrors asked ranOut
      { session with
        sender := session.sender.settle
          (session.sender.source.throttler.tryConsume clock fun _ => sent, outlet) }
      (SourceManager.perform socketInfos { manager with txPartCtler := ctler }
        (.operate (.tryConsume clock fun _ => sent))) := by
  rcases mirrors.running alive with ⟨throttler, _, rtt⟩
  cases consumed : session.sender.source.throttler.tryConsume clock fun _ => sent with
  | error fault =>
      refine ⟨mirrors.inside, fun alive => absurd rfl alive, fun _ => .inl ?_⟩
      simp [SourceManager.perform, SourceManager.step, throttler, Mutex.run, Mutex.new,
        RateThrottler.step, consumed, Mutex.poison]
  | ok result =>
      rcases result with ⟨out, after⟩
      refine ⟨mirrors.inside, fun _ => ⟨?_, held, rtt⟩, fun gone => ?_⟩
      · simp [SourceManager.perform, SourceManager.step, throttler, Mutex.run, Mutex.new,
          RateThrottler.step, consumed, Sender.settle]
      · simp only [Sender.settle] at gone
        split at gone <;> cases gone

theorem turn {setup : Setup} (mirrors : Mirrors asked ranOut session manager)
    (sending : session.sender.phase = .sending) (clock : Clock) (outcome : SendOutcome) :
    Mirrors asked ranOut { session with sender := session.sender.turn setup.socketInfos clock outcome }
      ((session.sender.turnOps setup.socketInfos clock outcome).foldl
        (SourceManager.perform setup.socketInfos) manager) := by
  have alive : session.sender.phase ≠ .panicked := by simp [sending]
  rcases mirrors.running alive with ⟨throttler, txPartCtler, rtt⟩
  unfold Sender.turn Sender.turnOps
  rw [RateThrottler.tryConsumeWith_eq]
  cases handed : session.sender.source.throttler.handed clock with
  | none => exact mirrors.consume setup.socketInfos alive clock false txPartCtler
  | some packet =>
      simp only [Outlet.attempt, List.foldl_cons, List.foldl_nil]
      cases stepped : session.sender.outlet.ctler.step setup.socketInfos
          (.attempt packet outcome) with
      | error fault =>
          refine ⟨mirrors.inside, fun alive => absurd rfl alive, fun _ => .inl ?_⟩
          refine SourceManager.poisoned_foldl setup.socketInfos ?_
            [.operate (.tryConsume clock fun _ => false)]
          simp [SourceManager.perform, SourceManager.step, SourceManager.attempt, txPartCtler,
            Mutex.run, Mutex.new, stepped, Mutex.poison]
      | ok result =>
          rcases result with ⟨attempt, ctler⟩
          have performed : manager.perform setup.socketInfos (.attempt packet outcome) =
              { manager with txPartCtler := .new ctler } := by
            simp [SourceManager.perform, SourceManager.step, SourceManager.attempt, txPartCtler,
              Mutex.run, Mutex.new, stepped]
          rw [performed]
          cases attempt with
          | none => exact mirrors.consume setup.socketInfos alive clock false rfl
          | some attempt => exact mirrors.consume setup.socketInfos alive clock attempt.sent rfl

/-- A step of the source thread. -/
theorem sender {setup : Setup} (mirrors : Mirrors asked ranOut session manager)
    (alive : session.sender.phase ≠ .panicked) (op : SenderOp) :
    Mirrors asked (ranOut ∨ session.RunsOut (.sender op)) (session.apply setup (.sender op))
      ((session.sender.managerOps setup.socketInfos op).foldl
        (SourceManager.perform setup.socketInfos) manager) := by
  rcases mirrors.running alive with ⟨throttler, txPartCtler, rtt⟩
  cases op with
  | frame arrival data now =>
      by_cases waiting : session.sender.phase = .waiting
      · exact (mirrors.frame waiting arrival data now).weaken .inr
      · simp only [Session.apply, Session.reported, Sender.apply, Sender.managerOps, waiting,
          if_false]
        exact mirrors.weaken .inl
  | register time =>
      simp only [Session.apply, Session.reported, Sender.apply, Sender.managerOps]
      split
      next queued =>
        refine ⟨mirrors.inside, fun _ => ⟨throttler, txPartCtler, ?_⟩, fun gone => by cases gone⟩
        simp [SourceManager.perform, SourceManager.step, rtt]
      next => exact mirrors.weaken .inl
  | turn clock outcome =>
      simp only [Session.apply, Session.reported, Sender.apply, Sender.managerOps]
      split
      next sending => exact (mirrors.turn sending clock outcome).weaken .inl
      next => exact mirrors.weaken .inl
  | leave =>
      simp only [Session.apply, Session.reported, Sender.apply, Sender.managerOps]
      split
      next =>
        exact ⟨mirrors.inside, fun _ => ⟨throttler, txPartCtler, rtt⟩, fun gone => by cases gone⟩
      next => exact mirrors.weaken .inl
  | finish =>
      simp only [Session.apply, Session.reported, Sender.apply, Sender.managerOps]
      split
      next =>
        refine ⟨mirrors.inside, fun _ => ⟨?_, txPartCtler, rtt⟩, fun gone => by cases gone⟩
        simp [SourceManager.perform, SourceManager.step, throttler, Mutex.run, Mutex.new,
          RateThrottler.step]
      next => exact mirrors.weaken .inl
  | setThrottle throttle =>
      refine ⟨mirrors.inside, fun _ => ⟨?_, txPartCtler, rtt⟩, fun gone => absurd gone alive⟩
      simp [SourceManager.perform, SourceManager.step, SourceManager.throttle,
        Session.apply, Sender.apply, throttler, Mutex.modify, Mutex.new, Sender.managerOps]
  | setPolicyParameters parameters =>
      refine ⟨mirrors.inside, fun _ => ⟨throttler, ?_, rtt⟩, fun gone => absurd gone alive⟩
      simp [SourceManager.perform, SourceManager.step, SourceManager.setPolicyParameters,
        Session.apply, Sender.apply, txPartCtler, Mutex.modify, Mutex.new, Sender.managerOps]
  | publish snapshot =>
      refine ⟨mirrors.inside, fun _ => ⟨throttler, ?_, rtt⟩, fun gone => absurd gone alive⟩
      simp [SourceManager.perform, SourceManager.step, SourceManager.publish,
        Session.apply, Sender.apply, txPartCtler, Mutex.new, Sender.managerOps]

/-- Without the source thread its locks stay as it has left them, or its numbers used up. -/
theorem without_sender {setup : Setup} (mirrors : Mirrors asked ranOut session manager)
    (panicked : session.sender.phase = .panicked) (op : SenderOp) :
    Mirrors asked ranOut (session.apply setup (.sender op))
      ((session.sender.managerOps setup.socketInfos op).foldl
        (SourceManager.perform setup.socketInfos) manager) := by
  have stays : (session.sender.apply setup.socketInfos op).phase = .panicked ∧
      (session.sender.apply setup.socketInfos op).source.template =
        session.sender.source.template := by
    cases op <;> simp [Sender.apply, panicked]
  refine ⟨?_, fun alive => absurd stays.1 alive, fun _ => ?_⟩
  · cases op with
    | frame | register | turn | finish =>
        simp only [Sender.managerOps, panicked, reduceCtorEq, if_false, List.foldl_nil]
        exact mirrors.inside
    | leave | setThrottle | setPolicyParameters | publish => exact mirrors.inside
  · rcases mirrors.gone panicked with poisoned | full
    · exact .inl (SourceManager.poisoned_foldl setup.socketInfos poisoned _)
    · refine .inr ?_
      simp only [Session.apply, stays.2]
      exact full

/-- What the receiver, the pong thread and the polls do. -/
theorem elsewhere {setup : Setup} (mirrors : Mirrors asked ranOut session manager) (op : SessionOp)
    (away : ∀ taken, op ≠ .sender taken) :
    Mirrors asked ranOut (session.apply setup op) ((session.managerOps setup asked op).foldl
      (SourceManager.perform setup.socketInfos) manager) := by
  cases op with
  | sender taken => exact absurd rfl (away taken)
  | deliver position env =>
      have rtt := session.rtt_apply_deliver setup position env
      have sender : (session.apply setup (.deliver position env)).sender = session.sender := by
        simp only [Session.apply]
        split
        next => rfl
        next => exact Session.sender_deliver ..
      refine ⟨mirrors.inside, ?_, ?_⟩
      · rw [sender, rtt]
        exact mirrors.running
      · rw [sender]
        exact mirrors.gone
  | pong position time =>
      simp only [Session.apply, Session.managerOps]
      cases session.pongs[position]? with
      | none => exact mirrors
      | some pong =>
          refine ⟨mirrors.inside, fun alive => ?_, mirrors.gone⟩
          rcases mirrors.running alive with ⟨throttler, txPartCtler, rtt⟩
          refine ⟨throttler, txPartCtler, ?_⟩
          simp [SourceManager.perform, SourceManager.step, rtt, Session.answer]
  | poll now =>
      have asks : manager.perform setup.socketInfos (.statistics asked now) =
          (manager.statistics asked now).2 := rfl
      simp only [Session.apply, Session.managerOps, List.foldl_cons, List.foldl_nil]
      refine ⟨?_, fun alive => ?_, fun gone => ?_⟩
      · rw [asks, SourceManager.outside_statistics]
        exact mirrors.inside
      · rcases mirrors.running alive with ⟨throttler, txPartCtler, rtt⟩
        have leaves : (manager.statistics asked now).2 = (manager.pollRtt now).2 := by
          rcases manager.statistics_cases asked now with
            ⟨outside | poisoned, _⟩ | ⟨_, _, ⟨_, equal⟩ | ⟨_, equal, _⟩⟩
          · exact absurd outside mirrors.inside
          · rw [throttler] at poisoned
            cases poisoned
          · rw [equal]
          · exact equal
        rw [asks, leaves]
        cases poisoned : session.rtt.poisoned with
        | true =>
            simp [SourceManager.pollRtt, rtt, Mutex.lock, Mutex.modify, poisoned, throttler,
              txPartCtler]
        | false =>
            simp [SourceManager.pollRtt, rtt, Mutex.lock, Mutex.modify, poisoned, throttler,
              txPartCtler]
      · rcases mirrors.gone gone with poisoned | full
        · exact .inl (SourceManager.poisoned_foldl setup.socketInfos poisoned
            [.statistics asked now])
        · exact .inr full

/-- Step lemma. -/
theorem apply {setup : Setup} (mirrors : Mirrors asked ranOut session manager) (op : SessionOp) :
    Mirrors asked (ranOut ∨ session.RunsOut op) (session.apply setup op)
      ((session.managerOps setup asked op).foldl
        (SourceManager.perform setup.socketInfos) manager) := by
  cases op with
  | sender op =>
      by_cases panicked : session.sender.phase = .panicked
      · exact (mirrors.without_sender panicked op).weaken .inl
      · exact mirrors.sender panicked op
  | deliver | pong | poll =>
      exact (mirrors.elsewhere _ fun _ equal => by cases equal).weaken .inl

/-- Run lemma. -/
theorem of_run {setup : Setup} {start : Session} {history : List SessionEvent}
    (run : Run (Session.step setup) start history session)
    (mirrors : Mirrors asked False start manager) :
    Mirrors asked (∃ event ∈ history, event.before.RunsOut event.op ∧
      event.after.sender.phase = .panicked) session ((history.flatMap fun event =>
      event.before.managerOps setup asked event.op).foldl
        (SourceManager.perform setup.socketInfos) manager) := by
  induction run with
  | nil => exact mirrors.weaken False.elim
  | snoc _ taken ih =>
      cases taken
      rw [List.flatMap_append, List.foldl_append, List.flatMap_singleton]
      refine (ih.apply _).weaken ?_
      rintro (⟨event, member, runsOut⟩ | runsOut)
      · exact ⟨event, List.mem_append_left _ member, runsOut⟩
      · exact ⟨_, List.mem_append_right _ (List.mem_singleton_self _), runsOut,
          runsOut.panicked setup⟩

/-- The source that has been created for a session starts out with what the session has. -/
theorem of_new {load : String → Except Panic VersionManager.Config} {params : ConnParams}
    {windowSize : Nat} {macInfoBus : LatestBus} {started stopped : Time}
    (created : SourceManager.new load params windowSize macInfoBus started stopped = .ok manager)
    (measured : params.calcRtt = true) (setup : Setup) {now : Time}
    (inside : ¬(manager.start now).2.Outside asked) :
    Mirrors asked False (.start setup params.throttle windowSize
        (.new params.policy params.policyParameters macInfoBus) params.targetRtt)
      (manager.start now).2 := by
  obtain ⟨_, versions, rtt, _, opened, rfl⟩ := SourceManager.new_eq_ok.mp created
  rw [SourceManager.openRtt, if_pos measured] at opened
  rcases bind_eq_ok.mp opened with ⟨_, _, opened⟩
  cases opened
  refine ⟨inside, fun _ => ?_, fun gone => by cases gone⟩
  rcases SourceManager.start_snd _ now with ⟨_, _, equal⟩
  rw [equal]
  exact ⟨rfl, rfl, rfl⟩

end Mirrors

/-- Two frames are sent, acknowledged and answered, and then the statistics are polled. -/
def polledDelivery : List SessionOp :=
  swappedDelivery ++ [.pong 0 6, .pong 1 6, .poll 7]

end StreamReplay
