import StreamReplay.System.Settings
import StreamReplay.Tx.Monitor

/-!
# The program

`main` of `tx/src/main.rs`, with `validate` of `tx/src/conf.rs`: the streams of the manifest
whose files exist become the sources that the control loop serves.  Of two streams with one
name the later one is served.  Both are created, so that each can keep the program from its
loop.
-/

namespace StreamReplay

open Checked Enumeration FallibleRun Floating Guarded

/-! ## From the manifest to the sources -/

/-- What `validate` asks of the file system. -/
structure FileSystem where
  cwd : String
  join : String → String → String
  /-- `Path::exists` -/
  present : String → Bool

namespace ConnParams

/-- A file is looked for in the working directory, then beside the manifest. -/
def locate (files : FileSystem) (root : Option String) (params : ConnParams) :
    Option ConnParams :=
  if params.npyFile.startsWith streamProto then some params
  else
    let pathTrail1 := files.join files.cwd params.npyFile
    let pathTrail2 := files.join (root.getD files.cwd) params.npyFile
    if files.present pathTrail1 then some { params with npyFile := pathTrail1 }
    else if files.present pathTrail2 then some { params with npyFile := pathTrail2 }
    else none

def validate (files : FileSystem) (root : Option String) (duration : Number)
    (params : ConnParams) : Option ConnParams :=
  (params.locate files root).map fun params =>
    if duration.lt params.duration.2 then
      { params with duration := (params.duration.1, duration) }
    else params

/-- What the manifest says of the attributes. -/
def attributes (params : ConnParams) : Attributes where
  throttle := params.throttle
  policyParameters := params.policyParameters
  version := if params.npyFile.endsWith ".json" then some VersionManager.initialVersion else none

def versionCount (load : String → Except Panic VersionManager.Config) (params : ConnParams) :
    Nat :=
  if params.npyFile.endsWith ".json" then
    (load params.npyFile).toOption.elim 0 fun cfg => cfg.versions.length
  else 0

/-- What the source of a stream needs: a window for which there can be a buffer, a
configuration with a bitrate for the version that comes first, and a port for its
acknowledgements. -/
structure Creatable (load : String → Except Panic VersionManager.Config) (windowSize : Nat)
    (params : ConnParams) : Prop where
  window : cycledRatio * windowSize * packetWithMetaBytes < 2 ^ 63
  versions : params.npyFile.endsWith ".json" = true → ∃ cfg, load params.npyFile = .ok cfg ∧
    VersionManager.initialVersion.toNat < cfg.bitratesBps.length
  port : params.calcRtt = true → params.port.toNat + SourceManager.pongPortInc < 2 ^ 16

/-- What its start needs: a time for both ends of its interval. -/
def Startable (now : Time) (params : ConnParams) : Prop :=
  Reaches now params.duration.1 ∧ Reaches now params.duration.2

end ConnParams

structure Manifest where
  windowSize : Nat
  streams : List ConnParams

/-- What the program is started with, and what it finds. -/
structure Program where
  files : FileSystem
  load : String → Except Panic VersionManager.Config
  manifest : Manifest
  root : Option String
  duration : Number
  monMac : Bool
  /-- The time of the first snapshot, which is empty. -/
  openedAt : Time
  /-- The first timestamps of a source, which its start replaces. -/
  created : Time × Time
  startedAt : String → Time
  servedAt : Time
  /-- The order in which the sources are enumerated. -/
  order : Arrangement

namespace Program

def macInfoBus (program : Program) : LatestBus := ⟨program.monMac, ⟨program.openedAt, ∅, ∅⟩⟩

def streams (program : Program) : List ConnParams :=
  program.manifest.streams.filterMap
    (ConnParams.validate program.files program.root program.duration)

def source (program : Program) (stream : ConnParams) : Except Panic SourceManager :=
  SourceManager.new program.load stream program.manifest.windowSize program.macInfoBus
    program.created.1 program.created.2

/-- Create a source and put it under its name. -/
def collect (program : Program) (sources : Sources) (stream : ConnParams) :
    Except Panic Sources := do
  let src ← program.source stream
  return sources.insert src.name src

def startSource (program : Program) (name : String) (src : SourceManager) :
    Except Panic Unit × SourceManager :=
  src.start (program.startedAt name)

/-- Start all sources, in the order of their enumeration. -/
def startAll (program : Program) (sources : Sources) : Except Panic Sources :=
  match visitAll .unwrapNone program.startSource sources with
  | (.ok (), sources) => .ok sources
  | (.error fault, _) => .error fault

/-- The sources that the control loop is started with. -/
def sources (program : Program) : Except Panic Sources := do
  let sources ← program.streams.foldlM program.collect ∅
  program.startAll (program.order.arrange sources)

/-- The control loop that `main` ends in. -/
def loop (program : Program) : Except Panic IpcLoop := do
  let sources ← program.sources
  IpcLoop.startLoop sources program.servedAt program.duration

/-- The last of the valid streams with this name. -/
def lastNamed (program : Program) (name : String) : Option ConnParams :=
  (program.streams.filter fun stream => stream.sourceName = name).getLast?

end Program

/-! ## One source -/

namespace SourceManager

variable {load : String → Except Panic VersionManager.Config} {params : ConnParams}
  {windowSize : Nat} {macInfoBus : LatestBus} {started stopped : Time} {manager : SourceManager}

theorem openVersions_returns_iff :
    (∃ versions, openVersions load params = .ok versions) ↔
      (params.npyFile.endsWith ".json" = true → ∃ cfg, load params.npyFile = .ok cfg ∧
        VersionManager.initialVersion.toNat < cfg.bitratesBps.length) := by
  unfold openVersions
  split
  next versioned =>
    constructor
    · rintro ⟨versions, opened⟩ _
      rcases bind_eq_ok.mp opened with ⟨cfg, loaded, opened⟩
      rcases bind_eq_ok.mp opened with ⟨manager, created, _⟩
      rcases bind_eq_ok.mp created with ⟨bitrate, found, _⟩
      exact ⟨cfg, loaded, lt_length_of_index found⟩
    · intro served
      rcases served versioned with ⟨cfg, loaded, long⟩
      rcases index_of_lt long with ⟨bitrate, found⟩
      rw [loaded, ok_bind, VersionManager.new, found]
      exact ⟨_, rfl⟩
  next plain => exact iff_of_true ⟨none, rfl⟩ fun versioned => absurd versioned plain

theorem openRtt_returns_iff :
    (∃ rtt, openRtt params = .ok rtt) ↔
      (params.calcRtt = true → params.port.toNat + pongPortInc < 2 ^ 16) := by
  unfold openRtt
  split
  next asked =>
    simp only [asked, forall_const]
    constructor
    · rintro ⟨rtt, opened⟩
      rcases bind_eq_ok.mp opened with ⟨port, fits, _⟩
      exact (add_eq_ok.mp fits).1
    · intro fits
      rw [add_eq_ok.mpr ⟨fits, rfl⟩]
      exact ⟨_, rfl⟩
  next unasked => exact iff_of_true ⟨none, rfl⟩ fun asked => absurd asked unasked

theorem new_returns_iff :
    (∃ manager, new load params windowSize macInfoBus started stopped = .ok manager) ↔
      params.Creatable load windowSize := by
  simp only [new_eq_ok]
  constructor
  · rintro ⟨manager, fits, versions, rtt, opened, recorded, _⟩
    exact ⟨fits, openVersions_returns_iff.mp ⟨versions, opened⟩,
      openRtt_returns_iff.mp ⟨rtt, recorded⟩⟩
  · intro creatable
    rcases openVersions_returns_iff.mpr creatable.versions with ⟨versions, opened⟩
    rcases openRtt_returns_iff.mpr creatable.port with ⟨rtt, recorded⟩
    exact ⟨_, creatable.window, versions, rtt, opened, recorded, rfl⟩

/-- The version manager is at the first version of the configuration. -/
theorem of_openVersions {versions : Option VersionManager}
    (opened : openVersions load params = .ok versions) :
    versions.map VersionManager.currentVersion = params.attributes.version ∧
      (versions.elim 0 fun versions => versions.cfg.versions.length) =
        params.versionCount load := by
  unfold openVersions at opened
  unfold ConnParams.attributes ConnParams.versionCount
  split at opened
  next versioned =>
    rcases bind_eq_ok.mp opened with ⟨cfg, loaded, opened⟩
    rcases bind_eq_ok.mp opened with ⟨manager, created, equal⟩
    cases equal
    rcases bind_eq_ok.mp created with ⟨bitrate, _, equal⟩
    cases equal
    simp only [if_pos versioned, loaded]
    exact ⟨rfl, rfl⟩
  next plain =>
    cases opened
    simp only [if_neg plain]
    exact ⟨rfl, rfl⟩

theorem of_new (created : new load params windowSize macInfoBus started stopped = .ok manager) :
    manager.name = params.sourceName ∧ manager.stream = params ∧
      manager.attributes = params.attributes ∧
      manager.versionCount = params.versionCount load := by
  obtain ⟨_, versions, rtt, opened, _, rfl⟩ := new_eq_ok.mp created
  rcases of_openVersions opened with ⟨version, count⟩
  exact ⟨rfl, rfl, Attributes.ext rfl rfl version, count⟩

/-- The start changes neither the attributes nor the versions. -/
theorem attributes_start (manager : SourceManager) (now : Time) :
    (manager.start now).2.attributes = manager.attributes ∧
      (manager.start now).2.versionCount = manager.versionCount := by
  rcases manager.start_snd now with ⟨_, _, equal⟩
  rw [equal]
  exact ⟨rfl, rfl⟩

end SourceManager

/-! ## All sources -/

namespace Program

variable {program : Program}

/-- The sources are created one by one, and none is left out. -/
theorem foldlM_collect_returns_iff {streams : List ConnParams} {start : Sources} :
    (∃ sources, streams.foldlM program.collect start = .ok sources) ↔
      ∀ stream ∈ streams, stream.Creatable program.load program.manifest.windowSize := by
  induction streams generalizing start with
  | nil => exact iff_of_true ⟨start, rfl⟩ (List.forall_mem_nil _)
  | cons stream rest ih =>
      rw [List.foldlM_cons, List.forall_mem_cons]
      constructor
      · rintro ⟨sources, collected⟩
        rcases bind_eq_ok.mp collected with ⟨next, taken, collected⟩
        rcases bind_eq_ok.mp taken with ⟨src, created, _⟩
        exact ⟨SourceManager.new_returns_iff.mp ⟨src, created⟩, ih.mp ⟨sources, collected⟩⟩
      · rintro ⟨creatable, others⟩
        rcases SourceManager.new_returns_iff.mpr creatable with ⟨src, created⟩
        rw [collect, source, created]
        exact ih.mpr others

/-- The last source of a name is the one that stays. -/
theorem lookup_foldlM_collect {streams : List ConnParams} {start sources : Sources}
    (collected : streams.foldlM program.collect start = .ok sources) (name : String) :
    match (streams.filter fun stream => stream.sourceName = name).getLast? with
    | none => sources.lookup name = start.lookup name
    | some stream => ∃ src, program.source stream = .ok src ∧
        sources.lookup name = some src := by
  induction streams generalizing start with
  | nil =>
      cases collected
      rfl
  | cons stream rest ih =>
      rw [List.foldlM_cons] at collected
      rcases bind_eq_ok.mp collected with ⟨next, taken, collected⟩
      rcases bind_eq_ok.mp taken with ⟨src, created, equal⟩
      cases equal
      have nameEq := (SourceManager.of_new created).1
      have later := ih collected
      by_cases same : stream.sourceName = name
      · rw [List.filter_cons_of_pos (by simp [same]), List.getLast?_cons]
        cases found : (rest.filter fun stream => stream.sourceName = name).getLast? with
        | none =>
            simp only [found, nameEq, same, AList.lookup_insert] at later
            exact ⟨src, created, later⟩
        | some other =>
            rw [found] at later
            exact later
      · rw [List.filter_cons_of_neg (by simp [same])]
        rw [nameEq, AList.lookup_insert_ne (Ne.symm same)] at later
        exact later

/-- Under a name is the source of its last stream. -/
theorem lookup_arrange {collected : Sources}
    (every : program.streams.foldlM program.collect ∅ = .ok collected) (name : String) :
    match program.lastNamed name with
    | none => (program.order.arrange collected).lookup name = none
    | some stream => ∃ src, program.source stream = .ok src ∧
        (program.order.arrange collected).lookup name = some src := by
  have last := lookup_foldlM_collect every name
  rw [← lastNamed] at last
  rw [AList.perm_lookup (program.order.perm collected)]
  cases named : program.lastNamed name with
  | none =>
      rw [named] at last
      exact last.trans (AList.lookup_empty name)
  | some stream =>
      rw [named] at last
      exact last

theorem startAll_returns_iff {before : Sources} :
    (∃ after, program.startAll before = .ok after) ↔
      ∀ name src, before.lookup name = some src →
        src.stream.Startable (program.startedAt name) := by
  have returns : (visitAll Panic.unwrapNone program.startSource before).1 = .ok () ↔
      ∀ name src, before.lookup name = some src →
        src.stream.Startable (program.startedAt name) := by
    simp only [visitAll_returns_iff, startSource, SourceManager.start_returns_iff,
      ConnParams.Startable]
  rw [← returns, startAll]
  split
  next visited => simp [visited]
  next visited => simp [visited]

theorem lookup_startAll {before after : Sources} (begun : program.startAll before = .ok after)
    (name : String) :
    after.lookup name =
      (before.lookup name).map fun src => (src.start (program.startedAt name)).2 := by
  unfold startAll at begun
  split at begun
  next visited =>
    cases begun
    have visits := lookup_visitAll (congrArg Prod.fst visited) name
    rwa [visited] at visits
  next => cases begun

/-- Every stream must be created, and the last of each name started. -/
theorem sources_returns_iff :
    (∃ sources, program.sources = .ok sources) ↔
      (∀ stream ∈ program.streams, stream.Creatable program.load program.manifest.windowSize) ∧
      ∀ name stream, program.lastNamed name = some stream →
        stream.Startable (program.startedAt name) := by
  rw [← foldlM_collect_returns_iff]
  constructor
  · rintro ⟨sources, returned⟩
    rcases bind_eq_ok.mp returned with ⟨collected, every, begun⟩
    refine ⟨⟨collected, every⟩, ?_⟩
    intro name stream named
    have last := lookup_arrange every name
    rw [named] at last
    rcases last with ⟨src, created, found⟩
    have startable := startAll_returns_iff.mp ⟨sources, begun⟩ name src found
    rwa [(SourceManager.of_new created).2.1] at startable
  · rintro ⟨⟨collected, every⟩, startable⟩
    rw [sources, every, ok_bind, startAll_returns_iff]
    intro name src found
    have last := lookup_arrange every name
    cases named : program.lastNamed name with
    | none =>
        rw [named] at last
        rw [last] at found
        cases found
    | some stream =>
        rw [named] at last
        rcases last with ⟨other, created, present⟩
        rw [present, Option.some.injEq] at found
        rw [← found, (SourceManager.of_new created).2.1]
        exact startable name stream named

theorem lookup_sources {sources : Sources} (returned : program.sources = .ok sources)
    (name : String) :
    match program.lastNamed name with
    | none => sources.lookup name = none
    | some stream => ∃ src, program.source stream = .ok src ∧
        sources.lookup name = some (src.start (program.startedAt name)).2 := by
  rcases bind_eq_ok.mp returned with ⟨collected, every, begun⟩
  have last := lookup_arrange every name
  rw [lookup_startAll begun]
  cases named : program.lastNamed name with
  | none =>
      rw [named] at last
      simp only [last, Option.map_none]
  | some stream =>
      rw [named] at last
      rcases last with ⟨src, created, found⟩
      exact ⟨src, created, by rw [found, Option.map_some]⟩

theorem loop_returns_iff :
    (∃ loop, program.loop = .ok loop) ↔
      (∃ sources, program.sources = .ok sources) ∧
        Reaches program.servedAt program.duration := by
  rw [← after_returns_iff]
  constructor
  · rintro ⟨loop, returned⟩
    rcases bind_eq_ok.mp returned with ⟨sources, collected, served⟩
    rcases bind_eq_ok.mp served with ⟨deadline, reached, _⟩
    exact ⟨⟨sources, collected⟩, deadline, reached⟩
  · rintro ⟨⟨sources, collected⟩, deadline, reached⟩
    rw [loop, collected, ok_bind, IpcLoop.startLoop, reached]
    exact ⟨_, rfl⟩

end Program

/-! ## Every run -/

namespace IpcLoop

open IPCDaemon

variable {socketInfos : String → SocketInfo} {parse : Nat → String → Option Request}
  {name : String}

/-- A stream that is not there does not come up. -/
theorem lookup_eq_none_of_step {before after : IpcLoop} {op : LoopOp} {out : Option Response}
    (absent : before.sources.lookup name = none)
    (taken : step socketInfos parse before op = .ok (out, after)) :
    after.sources.lookup name = none := by
  cases op with
  | turn now datagrams =>
      cases arrived : received ⟨before, .turn now datagrams, out, after⟩ with
      | none =>
          rw [sources_of_unreceived (Except.ok.inj taken) arrived]
          exact absent
      | some datagram =>
          have served : after = (before.serve parse datagram).2 :=
            (serve_of_received taken arrived).2
          rw [served, sources_serve]
          cases decoded : decode parse datagram with
          | error fault =>
              rw [receive_of_error decoded]
              exact absent
          | ok req =>
              rw [receive_snd decoded]
              rcases handleRequest_cases datagram.clocks before.sources req with
                ⟨data, polls⟩ | equal
              · rw [(handleRequest_of_statistics _ _ polls).1, IPCDaemon.polled,
                  lookup_mapValues, absent, Option.map_none]
              · rw [equal]
                exact lookup_assignAll_eq_none absent
  | work other op =>
      cases taken
      simp only [work]
      rw [lookup_adjust, absent, Option.map_none]

end IpcLoop

/-- Two streams with one name, and one whose file does not exist. -/
def namesakes : Program where
  files := ⟨"/run", fun dir file => dir ++ "/" ++ file, fun path => path = "/run/trace.npy"⟩
  load := SourceManager.noVersions
  manifest := ⟨100, [SourceManager.measuredTrace,
    { SourceManager.measuredTrace with throttle := 2 },
    { SourceManager.measuredTrace with npyFile := "absent.npy", port := 2000 }]⟩
  root := none
  duration := 10
  monMac := false
  openedAt := 0
  created := (0, 0)
  startedAt _ := 0
  servedAt := 0
  order := .asBuilt

/-- A stream that is to begin a second before its start keeps the program from its loop. -/
example :
    ({ namesakes with
      manifest := ⟨100, [{ SourceManager.measuredTrace with duration := (.finite true 1, 10) }]⟩ :
      Program }).loop.toOption.isNone = true := by
  decide +kernel

end StreamReplay
