import StreamReplay.Tx.Progress
import StreamReplay.Tx.Serving
import Mathlib.Data.List.TakeWhile

/-!
# What the control channel has set

A stream has three attributes, each behind a lock of its own, and requests, replays,
polls and panics go on around them.  Seen from the control channel it is a record that
each setting overwrites in part.  The record and the stream agree wherever the lock is
alive.
-/

namespace StreamReplay

open Checked Enumeration FallibleRun Guarded

/-! ## The record -/

namespace Attributes

/-- A version that does not exist is passed over. -/
def select (count : Nat) (attributes : Attributes) (index : UInt32) : Attributes :=
  { attributes with
    version := attributes.version.map fun current =>
      if index.toNat < count then index else current }

/-- Overwrite what the setting names; `count` is the number of versions of the stream. -/
def set (count : Nat) (attributes : Attributes) : Setting → Attributes
  | .throttle value => { attributes with throttle := value }
  | .policyParameters parameters => { attributes with policyParameters := parameters }
  | .version index => attributes.select count index
  | .control info =>
      { attributes.select count info.version with policyParameters := info.policyParameters }

end Attributes

/-- The operations of a stream that set an attribute. -/
def ManagerOp.setting : ManagerOp → Option Setting
  | .operate (.setThrottle throttle) | .setThrottle throttle => some (.throttle throttle)
  | .setPolicyParameters parameters => some (.policyParameters parameters)
  | .setVersion version => some (.version version)
  | _ => none

namespace SourceManager

def versionCount (manager : SourceManager) : Nat :=
  manager.versionManager.value.elim 0 fun versions => versions.cfg.versions.length

/-- The stream agrees with the record behind each lock that is alive. -/
structure Agrees (manager : SourceManager) (attributes : Attributes) : Prop where
  throttle : manager.throttler.poisoned = false →
    manager.throttler.value.throttle = attributes.throttle
  policyParameters : manager.txPartCtler.poisoned = false →
    manager.txPartCtler.value.policyParameters = attributes.policyParameters
  version : manager.versionManager.poisoned = false →
    manager.versionManager.value.map VersionManager.currentVersion = attributes.version

theorem agrees_self (manager : SourceManager) : manager.Agrees manager.attributes :=
  ⟨fun _ => rfl, fun _ => rfl, fun _ => rfl⟩

/-! ## One setting -/

theorem versionCount_setVersion (manager : SourceManager) (index : UInt32) :
    (manager.setVersion index).2.versionCount = manager.versionCount := by
  unfold setVersion
  split
  next => rfl
  next => rfl
  next versions held =>
    have valueEq := (Mutex.lock_eq_some.mp held).2
    have cfgEq : (versions.setVersion index).cfg = versions.cfg := by
      unfold VersionManager.setVersion
      split <;> rfl
    simp [versionCount, ← valueEq, cfgEq]

namespace Agrees

variable {manager : SourceManager} {attributes : Attributes}

theorem setThrottle (agrees : manager.Agrees attributes) (value : ℚ) :
    (manager.throttle value).Agrees { attributes with throttle := value } := by
  refine ⟨fun alive => ?_, agrees.policyParameters, agrees.version⟩
  simp only [SourceManager.throttle, Mutex.poisoned_modify] at alive
  simp [SourceManager.throttle, Mutex.modify, alive]

theorem setPolicyParameters (agrees : manager.Agrees attributes)
    (parameters : PolicyParameter) :
    (manager.setPolicyParameters parameters).Agrees
      { attributes with policyParameters := parameters } := by
  refine ⟨agrees.throttle, fun alive => ?_, agrees.version⟩
  simp only [SourceManager.setPolicyParameters, Mutex.poisoned_modify] at alive
  simp [SourceManager.setPolicyParameters, Mutex.modify, alive]

/-- Without a version manager the lock is poisoned afterwards. -/
theorem setVersion (agrees : manager.Agrees attributes) (index : UInt32) :
    (manager.setVersion index).2.Agrees (attributes.select manager.versionCount index) := by
  unfold SourceManager.setVersion
  split
  next held =>
    refine ⟨agrees.throttle, agrees.policyParameters, fun alive => ?_⟩
    rw [Mutex.lock_eq_none.mp held] at alive
    cases alive
  next => exact ⟨agrees.throttle, agrees.policyParameters, fun alive => by cases alive⟩
  next versions held =>
    rcases Mutex.lock_eq_some.mp held with ⟨alive, valueEq⟩
    refine ⟨agrees.throttle, agrees.policyParameters, fun _ => ?_⟩
    have version := agrees.version alive
    rw [← valueEq, Option.map_some] at version
    simp only [Attributes.select, versionCount, ← version, ← valueEq, Option.map_some,
      Option.elim_some, currentVersion_setVersion]

theorem setVersion_failed (agrees : manager.Agrees attributes) {index : UInt32}
    {next : SourceManager} {fault : Panic}
    (failed : manager.setVersion index = (.error fault, next)) : next.Agrees attributes := by
  unfold SourceManager.setVersion at failed
  split at failed
  next => cases failed
  next =>
    cases failed
    exact ⟨agrees.throttle, agrees.policyParameters, fun alive => by cases alive⟩
  next => cases failed

theorem assign (agrees : manager.Agrees attributes) {setting : Setting}
    {next : SourceManager} (carried : setting.assign manager = (.ok (), next)) :
    next.Agrees (attributes.set manager.versionCount setting) := by
  cases setting with
  | throttle value =>
      cases carried
      exact agrees.setThrottle value
  | policyParameters parameters =>
      cases carried
      exact agrees.setPolicyParameters parameters
  | version index =>
      have selected := agrees.setVersion index
      rw [Setting.assign] at carried
      rwa [carried] at selected
  | control info =>
      have selected := agrees.setVersion info.version
      simp only [Setting.assign, IPCDaemon.setControl] at carried
      split at carried
      next assigned =>
        cases carried
        rw [assigned] at selected
        exact selected.setPolicyParameters info.policyParameters
      next => cases carried

theorem assign_failed (agrees : manager.Agrees attributes) {setting : Setting}
    {next : SourceManager} {fault : Panic}
    (failed : setting.assign manager = (.error fault, next)) : next.Agrees attributes := by
  cases setting with
  | throttle | policyParameters => cases failed
  | version index => exact agrees.setVersion_failed failed
  | control info =>
      simp only [Setting.assign, IPCDaemon.setControl] at failed
      split at failed
      next => cases failed
      next assigned =>
        cases failed
        exact agrees.setVersion_failed assigned

end Agrees

theorem versionCount_assign (manager : SourceManager) (setting : Setting) :
    (setting.assign manager).2.versionCount = manager.versionCount := by
  cases setting with
  | throttle | policyParameters => rfl
  | version index => exact manager.versionCount_setVersion index
  | control info =>
      have kept := manager.versionCount_setVersion info.version
      simp only [Setting.assign, IPCDaemon.setControl]
      split
      next assigned =>
        rw [assigned] at kept
        exact kept
      next assigned =>
        rw [assigned] at kept
        exact kept

end SourceManager

/-! ## A stream at work -/

theorem RateThrottler.throttle_of_step {throttler next : RateThrottler} {op : ThrottlerOp}
    {out : Option Bool} (unset : (ManagerOp.operate op).setting = none)
    (taken : throttler.step op = .ok (out, next)) : next.throttle = throttler.throttle := by
  cases op with
  | prepare now packets =>
      rcases bind_eq_ok.mp taken with ⟨prepared, queued, equal⟩
      cases equal
      rcases prepare_eq_ok.mp queued with ⟨rate, checked, check, rfl⟩
      exact check.sameQueue.throttle_eq
  | tryConsume clock callback => exact (tryConsume_eq_ok.mp taken).throttle_eq
  | setThrottle throttle => cases unset
  | reset =>
      cases taken
      rfl

theorem TxPartCtler.policyParameters_of_attempt {socketInfos : SocketInfo}
    {ctler next : TxPartCtler} {packet : PacketWithMeta} {outcome : SendOutcome}
    {out : Option Attempt}
    (taken : ctler.step socketInfos (.attempt packet outcome) = .ok (out, next)) :
    next.policyParameters = ctler.policyParameters := by
  rcases step_attempt_cases taken with ⟨_, _, rfl⟩ | ⟨attempt, message, packetType, _, attempts⟩
  · rfl
  · rw [attempts.next_eq]
    rfl

theorem VersionManager.selected_of_nextOf {loads : Bool}
    {versions after : Option VersionManager} {path : String}
    (returned : nextOf loads versions = .ok (path, after)) :
    after.map currentVersion = versions.map currentVersion ∧
      after.map cfg = versions.map cfg := by
  rcases bind_eq_ok.mp returned with ⟨manager, found, returned⟩
  rcases bind_eq_ok.mp returned with ⟨⟨other, advanced⟩, moved, returned⟩
  rcases bind_eq_ok.mp moved with ⟨_, _, moved⟩
  rcases bind_eq_ok.mp moved with ⟨_, _, moved⟩
  rcases bind_eq_ok.mp moved with ⟨_, _, moved⟩
  rcases bind_eq_ok.mp moved with ⟨_, _, equal⟩
  cases equal
  cases loads with
  | false => cases returned
  | true =>
      cases returned
      rw [unwrap_eq_ok.mp found]
      exact ⟨rfl, rfl⟩

namespace SourceManager

variable {manager next : SourceManager} {attributes : Attributes}

theorem versionCount_congr
    (same : next.versionManager.value.map VersionManager.cfg =
      manager.versionManager.value.map VersionManager.cfg) :
    next.versionCount = manager.versionCount := by
  have counts : ∀ manager : SourceManager, manager.versionCount =
      (manager.versionManager.value.map VersionManager.cfg).elim 0 fun cfg =>
        cfg.versions.length := by
    intro manager
    rw [versionCount]
    cases manager.versionManager.value <;> rfl
  rw [counts, counts, same]

theorem Agrees.operate (agrees : manager.Agrees attributes) {op : ThrottlerOp}
    (unset : (ManagerOp.operate op).setting = none) :
    { manager with throttler := manager.throttler.run (·.step op) : SourceManager }.Agrees
      attributes := by
  refine ⟨fun alive => ?_, agrees.policyParameters, agrees.version⟩
  have before := (Mutex.poisoned_run_eq_false.mp alive).1
  refine Mutex.run_keeps (fun throttler : RateThrottler =>
    throttler.throttle = attributes.throttle) (agrees.throttle before) ?_
  intro throttler out next throttle stepped
  exact (RateThrottler.throttle_of_step unset stepped).trans throttle

/-- A panic in the callback leaves both locks poisoned. -/
theorem Agrees.attempt (agrees : manager.Agrees attributes) (socketInfos : SocketInfo)
    (packet : PacketWithMeta) (outcome : SendOutcome) :
    (manager.attempt socketInfos packet outcome).Agrees attributes := by
  refine ⟨fun alive => ?_, fun alive => ?_, agrees.version⟩
  · simp only [SourceManager.attempt] at alive ⊢
    split at alive
    next => cases alive
    next passes =>
      rw [if_neg passes]
      exact agrees.throttle alive
  · have before := (Mutex.poisoned_run_eq_false.mp alive).1
    refine Mutex.run_keeps (fun ctler : TxPartCtler =>
      ctler.policyParameters = attributes.policyParameters)
      (agrees.policyParameters before) ?_
    intro ctler out next parameters stepped
    exact (TxPartCtler.policyParameters_of_attempt stepped).trans parameters

theorem Agrees.nextSegment (agrees : manager.Agrees attributes) (loads : Bool) :
    { manager with
      versionManager := manager.versionManager.run (VersionManager.nextOf loads) :
        SourceManager }.Agrees attributes := by
  refine ⟨agrees.throttle, agrees.policyParameters, fun alive => ?_⟩
  have before := (Mutex.poisoned_run_eq_false.mp alive).1
  refine Mutex.run_keeps (fun versions : Option VersionManager =>
    versions.map VersionManager.currentVersion =
    attributes.version) (agrees.version before) ?_
  intro versions path next version stepped
  exact (VersionManager.selected_of_nextOf stepped).1.trans version

theorem Agrees.statistics (agrees : manager.Agrees attributes) (now : Time) (pollTime : ℚ) :
    (manager.statistics now pollTime).2.Agrees attributes ∧
      (manager.statistics now pollTime).2.versionCount = manager.versionCount := by
  have polled : (manager.pollRtt pollTime).2.Agrees attributes ∧
      (manager.pollRtt pollTime).2.versionCount = manager.versionCount := by
    unfold pollRtt
    split
    · exact ⟨agrees, rfl⟩
    · split
      · exact ⟨agrees, rfl⟩
      · exact ⟨⟨agrees.throttle, agrees.policyParameters, agrees.version⟩, rfl⟩
  rcases manager.statistics_cases now pollTime with
    ⟨_, equal⟩ | ⟨_, _, ⟨_, equal⟩ | ⟨_, equal, _⟩⟩
  · rw [equal]
    exact ⟨agrees, rfl⟩
  · rwa [equal]
  · rwa [equal]

/-- Behind its live locks a stream at work changes by the settings alone. -/
theorem Agrees.step (agrees : manager.Agrees attributes) {socketInfos : SocketInfo}
    {op : ManagerOp} {out : Option FlowStatistics}
    (taken : manager.step socketInfos op = .ok (out, next)) :
    next.Agrees (op.setting.elim attributes (attributes.set manager.versionCount)) ∧
      next.versionCount = manager.versionCount := by
  cases op with
  | start now =>
      cases taken
      rcases manager.start_snd now with ⟨_, _, equal⟩
      rw [equal]
      exact ⟨⟨agrees.throttle, agrees.policyParameters, agrees.version⟩, rfl⟩
  | operate op =>
      cases taken
      cases op with
      | setThrottle throttle =>
          refine ⟨⟨fun alive => ?_, agrees.policyParameters, agrees.version⟩, rfl⟩
          have before := (Mutex.poisoned_run_eq_false.mp alive).1
          simp [Mutex.run, before, RateThrottler.step, ManagerOp.setting, Attributes.set]
      | prepare | tryConsume | reset => exact ⟨agrees.operate rfl, rfl⟩
  | attempt packet outcome =>
      cases taken
      exact ⟨agrees.attempt socketInfos packet outcome, rfl⟩
  | arrival seq time =>
      cases taken
      exact ⟨⟨agrees.throttle, agrees.policyParameters, agrees.version⟩, rfl⟩
  | pong seq time delta =>
      cases taken
      exact ⟨⟨agrees.throttle, agrees.policyParameters, agrees.version⟩, rfl⟩
  | nextSegment loads =>
      cases taken
      refine ⟨agrees.nextSegment loads, versionCount_congr ?_⟩
      refine Mutex.run_keeps (fun versions : Option VersionManager =>
        versions.map VersionManager.cfg =
        manager.versionManager.value.map VersionManager.cfg) rfl ?_
      intro versions path next cfg stepped
      exact (VersionManager.selected_of_nextOf stepped).2.trans cfg
  | publish snapshot =>
      cases taken
      exact ⟨⟨agrees.throttle, agrees.policyParameters, agrees.version⟩, rfl⟩
  | setThrottle throttle =>
      cases taken
      exact ⟨agrees.setThrottle throttle, rfl⟩
  | setPolicyParameters parameters =>
      cases taken
      exact ⟨agrees.setPolicyParameters parameters, rfl⟩
  | setVersion version =>
      cases taken
      exact ⟨agrees.setVersion version, manager.versionCount_setVersion version⟩
  | statistics now pollTime =>
      have leaves : (manager.statistics now pollTime).2 = next :=
        congrArg Prod.snd (Except.ok.inj taken)
      rw [← leaves]
      exact agrees.statistics now pollTime

end SourceManager

/-! ## The control loop -/

namespace IpcLoop

open IPCDaemon SourceManager

variable {socketInfos : String → SocketInfo} {parse : Nat → String → Option Request}
  {name : String} {count : Nat} {attributes : Attributes}

/-- The settings of a datagram that are carried out: those before the first one for a stream
that does not exist, or for a version where there are none. -/
def carriedOut (parse : Nat → String → Option Request) (sources : Sources)
    (datagram : Datagram) : List (Σ _ : String, Setting) :=
  match decode parse datagram with
  | .ok req => carried Setting.assign sources req.settings.entries
  | .error _ => []

/-- What an event sets on the stream of this name. -/
def settingFor (parse : Nat → String → Option Request) (name : String) (event : LoopEvent) :
    Option Setting :=
  match event.op with
  | .turn _ _ => (received event).bind fun datagram =>
      (carriedOut parse event.before.sources datagram).dlookup name
  | .work other op => if other = name then op.setting else none

/-- The stream of this name agrees with the record. -/
structure Records (name : String) (count : Nat) (attributes : Attributes) (sources : Sources)
    (manager : SourceManager) : Prop where
  found : sources.lookup name = some manager
  agrees : manager.Agrees attributes
  count_eq : manager.versionCount = count

/-- A statistics query asks all sources and sets nothing. -/
theorem handleRequest_of_statistics (clocks : String → Time × ℚ) (sources : Sources)
    {req : Request} {data : Table String ℚ} (polls : req.cmd = .statistics data) :
    (handleRequest clocks sources req).2 = IPCDaemon.polled clocks sources ∧
      req.settings = ∅ := by
  refine ⟨?_, by rw [Request.settings, polls]⟩
  simp only [handleRequest, polls]
  split <;> rfl

theorem Records.receive {sources : Sources} {manager : SourceManager}
    (records : Records name count attributes sources manager) (datagram : Datagram) :
    ∃ next, Records name count
      (((carriedOut parse sources datagram).dlookup name).elim attributes
        (attributes.set count)) (receive parse datagram sources).2 next := by
  obtain ⟨found, agrees, rfl⟩ := records
  unfold carriedOut
  cases decoded : decode parse datagram with
  | error fault =>
      rw [receive_of_error decoded]
      exact ⟨manager, found, agrees, rfl⟩
  | ok req =>
      rw [receive_snd decoded]
      rcases handleRequest_cases datagram.clocks sources req with ⟨data, polls⟩ | equal
      · rcases handleRequest_of_statistics datagram.clocks sources polls with
          ⟨leaves, none⟩
        simp only [leaves, none]
        rcases agrees.statistics (datagram.clocks name).1 (datagram.clocks name).2 with
          ⟨kept, counted⟩
        refine ⟨_, ?_, kept, counted⟩
        rw [IPCDaemon.polled, lookup_mapValues, found, Option.map_some]
      · rw [equal]
        rcases lookup_assignAll_cases .unwrapNone Setting.assign req.settings.nodupKeys found
          with ⟨next, present,
            ⟨setting, named, assigned⟩ | ⟨unnamed, rfl | ⟨setting, fault, failed⟩⟩⟩
        · rw [named]
          refine ⟨next, present, agrees.assign assigned, ?_⟩
          have kept := manager.versionCount_assign setting
          rwa [assigned] at kept
        · rw [unnamed]
          exact ⟨next, present, agrees, rfl⟩
        · rw [unnamed]
          refine ⟨next, present, agrees.assign_failed failed, ?_⟩
          have kept := manager.versionCount_assign setting
          rwa [failed] at kept

theorem sources_of_unreceived {before after : IpcLoop} {now : Time}
    {datagrams : Option Datagram} {out : Option Response}
    (taken : before.turn parse now datagrams = (out, after))
    (unreceived : received ⟨before, .turn now datagrams, out, after⟩ = none) :
    after.sources = before.sources := by
  simp only [received] at unreceived
  unfold turn at taken
  split at taken
  next serving =>
    split at taken
    next early =>
      rw [if_pos ⟨serving, early⟩] at unreceived
      subst unreceived
      cases taken
      rfl
    next =>
      cases taken
      rfl
  next =>
    cases taken
    rfl

/-- What an event changes behind the live locks of a stream is what it sets. -/
theorem Records.step {before after : IpcLoop} {op : LoopOp} {out : Option Response}
    {manager : SourceManager} (records : Records name count attributes before.sources manager)
    (taken : step socketInfos parse before op = .ok (out, after)) :
    ∃ next, Records name count
      ((settingFor parse name ⟨before, op, out, after⟩).elim attributes (attributes.set count))
      after.sources next := by
  cases op with
  | turn now datagrams =>
      simp only [settingFor]
      cases arrived : received ⟨before, .turn now datagrams, out, after⟩ with
      | none =>
          rw [sources_of_unreceived (Except.ok.inj taken) arrived]
          exact ⟨manager, records⟩
      | some datagram =>
          have served : after = (before.serve parse datagram).2 :=
            (serve_of_received taken arrived).2
          rw [served, sources_serve]
          exact records.receive datagram
  | work other op =>
      cases taken
      obtain ⟨found, agrees, rfl⟩ := records
      simp only [settingFor, work]
      by_cases same : other = name
      · subst same
        rw [if_pos rfl]
        cases stepped : manager.step (socketInfos other) op with
        | error => cases op <;> cases stepped
        | ok result =>
            rcases agrees.step stepped with ⟨kept, counted⟩
            refine ⟨result.2, ?_, kept, counted⟩
            rw [lookup_adjust_self found, stepped]
      · rw [if_neg same]
        exact ⟨manager, (lookup_adjust_of_ne (Ne.symm same) _ _).trans found, agrees, rfl⟩

/-- All settings of a request are carried out exactly when each stream that it names exists
and none of them panics. -/
theorem carriedOut_eq_iff {sources : Sources} {datagram : Datagram} {req : Request}
    (decoded : decode parse datagram = .ok req) :
    carriedOut parse sources datagram = req.settings.entries ↔ req.Passes sources := by
  have takes : ∀ name (setting : Setting),
      Takes Setting.assign sources ⟨name, setting⟩ = true ↔
        ∃ manager, sources.lookup name = some manager ∧ ¬setting.Panics manager := by
    intro name setting
    simp only [Takes, Option.any_eq_true]
    refine exists_congr fun manager => and_congr_right fun _ => ?_
    rw [← Setting.assign_returns_iff]
    cases (setting.assign manager).1 <;> simp [Except.isOk, Except.toBool]
  simp only [carriedOut, decoded, carried, List.takeWhile_eq_self_iff, Request.Passes]
  constructor
  · intro every name setting named
    exact (takes name setting).mp (every _ (AList.mem_lookup_iff.mp named))
  · rintro passes ⟨name, setting⟩ member
    exact (takes name setting).mpr (passes name setting (AList.mem_lookup_iff.mpr member))

/-- A loop that has panicked stays that way. -/
theorem status_of_panicked {before after : IpcLoop} {op : LoopOp} {out : Option Response}
    {fault : Panic} (panicked : before.status = .panicked fault)
    (taken : step socketInfos parse before op = .ok (out, after)) :
    after.status = .panicked fault := by
  cases op with
  | turn now datagrams =>
      have turned : before.turn parse now datagrams = (out, after) := Except.ok.inj taken
      simp only [turn, panicked] at turned
      cases turned
      exact panicked
  | work name op =>
      cases taken
      exact panicked

/-- A datagram after which the loop has not panicked is a request that passes. -/
theorem passes_of_unpanicked {event : LoopEvent} {datagram : Datagram}
    (taken : step socketInfos parse event.before event.op = .ok (event.out, event.after))
    (arrived : received event = some datagram)
    (unpanicked : ∀ fault, event.after.status ≠ .panicked fault) :
    ∃ req, decode parse datagram = .ok req ∧ req.Passes event.before.sources := by
  rw [(serve_of_received taken arrived).2] at unpanicked
  cases decoded : decode parse datagram with
  | error fault =>
      exact absurd (status_serve_of_error (by rw [receive_of_error decoded])) (unpanicked fault)
  | ok req =>
      refine ⟨req, rfl, ?_⟩
      by_contra stuck
      rcases status_serve_of_stuck decoded stuck with ⟨fault, panicked⟩
      exact unpanicked fault panicked

/-- Run lemma. -/
theorem Records.of_run {sources : Sources} {deadline : Time} {history : List LoopEvent}
    {state : IpcLoop}
    (run : Run (IpcLoop.step socketInfos parse) (start sources deadline) history state)
    {manager : SourceManager} (found : sources.lookup name = some manager) :
    ∃ current, Records name manager.versionCount
      ((history.filterMap (settingFor parse name)).foldl (Attributes.set manager.versionCount)
        manager.attributes) state.sources current := by
  induction run with
  | nil => exact ⟨manager, found, manager.agrees_self, rfl⟩
  | snoc run taken ih =>
      rcases ih with ⟨current, records⟩
      rcases records.step taken with ⟨next, records⟩
      refine ⟨next, ?_⟩
      rw [Sequence.filterMap_snoc, List.foldl_append]
      cases changed : settingFor parse name ⟨_, _, _, _⟩ with
      | none => rwa [changed] at records
      | some setting => rwa [changed] at records

/-- A throttle for the one stream, whatever the text: its order is its value. -/
def parseSeed (seed : Nat) (_ : String) : Option Request :=
  some ⟨.throttle (AList.singleton "1000@0" seed)⟩

/-- Two throttles, and work of the stream around them. -/
def twoSettings : List LoopOp :=
  [.work "1000@0" (.operate (.prepare 1 [])), .turn 50 (some ⟨[], 5, fun _ => (0, 0), true⟩),
    .work "1000@0" (.publish ⟨0, ∅, ∅⟩), .turn 60 (some ⟨[], 7, fun _ => (0, 0), true⟩),
    .work "1000@0" (.operate .reset)]

end IpcLoop

end StreamReplay
