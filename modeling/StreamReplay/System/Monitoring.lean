import StreamReplay.Tx.Availability
import StreamReplay.Tx.Monitor

/-!
# Scheduling on monitored queues

The monitor publishes snapshots while the controllers of the sources make decisions on
them.  A controller waits until there is a snapshot that lists a device, and a policy that
measures both links can then decide exactly when two addresses are monitored and the link
of each device has a rate.
-/

namespace StreamReplay

open Checked Enumeration FallibleRun

/-- The monitor and one of the controllers that read its bus; a monitor that has panicked
publishes nothing any more. -/
structure Monitoring where
  monitor : MACQueueMonitor
  running : Bool
  ctler : TxPartCtler

inductive MonitoringOp where
  | poll (poll : Poll)
  | attempt (packet : PacketWithMeta) (outcome : SendOutcome)
  | setPolicyParameters (parameters : PolicyParameter)

namespace Monitoring

/-- `main` with `--mon-mac`, at `startTime`. -/
def start (getDevFromIp : String → Option String) (ips : List String) (policy : Policy)
    (parameters : PolicyParameter) (startTime : Time) : Monitoring where
  monitor := .new getDevFromIp ips
  running := true
  ctler := .new policy parameters ⟨true, ⟨startTime, ∅, ∅⟩⟩

/-- A turn of the monitor, if it is running. -/
def poll (state : Monitoring) (poll : Poll) : Monitoring :=
  if state.running then
    match state.monitor.turn poll with
    | .ok (snapshot, monitor) =>
        { state with monitor, ctler := state.ctler.observe snapshot }
    | .error _ => { state with running := false }
  else state

/-- The monitor's panics are its own, those of the controller end the source. -/
def step (socketInfos : SocketInfo) :
    FallibleRun.Step Monitoring MonitoringOp (Option Attempt) Panic
  | state, .poll found => .ok (none, state.poll found)
  | state, .attempt packet outcome => do
      let (attempt, ctler) ← TxPartCtler.step socketInfos state.ctler (.attempt packet outcome)
      return (attempt, { state with ctler })
  | state, .setPolicyParameters parameters => do
      let (attempt, ctler) ←
        TxPartCtler.step socketInfos state.ctler (.setPolicyParameters parameters)
      return (attempt, { state with ctler })

end Monitoring

abbrev MonitoringEvent := Event Monitoring MonitoringOp (Option Attempt)

/-- The turn of the monitor that an event is, if it has returned. -/
def MonitoringEvent.polled (event : MonitoringEvent) : Option Poll :=
  match event.op with
  | .poll poll => if event.after.running then some poll else none
  | _ => none

/-- The turns of the monitor that have returned, in order. -/
def polled (history : List MonitoringEvent) : List Poll :=
  history.filterMap MonitoringEvent.polled

/-- The monitored addresses, without repetitions. -/
def monitoredIps (getDevFromIp : String → Option String) (ips : List String) : List String :=
  (ips.filter fun ip => (getDevFromIp ip).isSome).dedup

/-- The snapshot measures two devices, with a rate for each link. -/
structure MACQueuesSnapshot.MeasuresBoth (snapshot : MACQueuesSnapshot) : Prop where
  queues : 2 ≤ snapshot.queues.entries.length
  link : 2 ≤ snapshot.link.entries.length
  rates : ∀ info ∈ values snapshot.link, info.txMbitS.isSome = true

/-! ## What a snapshot shows -/

section Snapshots

variable {getDevFromIp : String → Option String} {ips : List String} {polls : List Poll}
  {snapshot : MACQueuesSnapshot}

theorem mem_monitoredIps {ip : String} :
    ip ∈ monitoredIps getDevFromIp ips ↔ (deviceOf getDevFromIp ips ip).isSome = true := by
  rw [monitoredIps, List.mem_dedup, List.mem_filter, deviceOf]
  split
  next known => simp [known]
  next unknown => simp [unknown]

/-- A table with one entry for each monitored address. -/
theorem length_entries {ν : Type} {table : Table String ν}
    (keys : ∀ ip, ip ∈ table ↔ (deviceOf getDevFromIp ips ip).isSome = true) :
    table.entries.length = (monitoredIps getDevFromIp ips).length := by
  have once : (monitoredIps getDevFromIp ips).Nodup := List.nodup_dedup _
  have perm : table.keys.Perm (monitoredIps getDevFromIp ips) := by
    refine (List.perm_ext_iff_of_nodup table.keys_nodup once).mpr fun ip => ?_
    rw [← AList.mem_keys, keys, mem_monitoredIps]
  rw [← perm.length_eq, AList.keys, List.keys, List.length_map]

namespace MACQueuesSnapshot.Shows

variable (shows : snapshot.Shows (deviceOf getDevFromIp ips) polls)
include shows

theorem mem_queues (ip : String) :
    ip ∈ snapshot.queues ↔ (deviceOf getDevFromIp ips ip).isSome = true := by
  have here := shows ip
  rw [← AList.lookup_isSome]
  cases known : deviceOf getDevFromIp ips ip with
  | none =>
      rw [known] at here
      simp [here.1]
  | some dev =>
      rw [known] at here
      rcases here.1 with ⟨_, found, _⟩
      simp [found]

theorem mem_link (ip : String) :
    ip ∈ snapshot.link ↔ (deviceOf getDevFromIp ips ip).isSome = true := by
  have here := shows ip
  rw [← AList.lookup_isSome]
  cases known : deviceOf getDevFromIp ips ip with
  | none =>
      rw [known] at here
      simp [here.2]
  | some dev =>
      rw [known] at here
      simp [here.2]

/-- Both links are measured when two addresses are monitored and all rates are known. -/
theorem measuresBoth_iff :
    snapshot.MeasuresBoth ↔ 2 ≤ (monitoredIps getDevFromIp ips).length ∧
      ∀ ip dev, deviceOf getDevFromIp ips ip = some dev →
        (lastLink polls dev).txMbitS.isSome = true := by
  have rates : (∀ info ∈ values snapshot.link, info.txMbitS.isSome = true) ↔
      ∀ ip dev, deviceOf getDevFromIp ips ip = some dev →
        (lastLink polls dev).txMbitS.isSome = true := by
    constructor
    · intro known ip dev device
      have here := shows ip
      rw [device] at here
      exact known _ (mem_values.mpr ⟨ip, here.2⟩)
    · intro known info member
      rcases mem_values.mp member with ⟨ip, found⟩
      have here := shows ip
      cases device : deviceOf getDevFromIp ips ip with
      | none =>
          rw [device, found] at here
          cases here.2
      | some dev =>
          rw [device, found] at here
          cases here.2
          exact known ip dev device
  constructor
  · rintro ⟨queues, _, known⟩
    rw [length_entries shows.mem_queues] at queues
    exact ⟨queues, rates.mp known⟩
  · rintro ⟨two, known⟩
    refine ⟨?_, ?_, rates.mpr known⟩
    · rwa [length_entries shows.mem_queues]
    · rwa [length_entries shows.mem_link]

end MACQueuesSnapshot.Shows

end Snapshots

/-! ## Messages and snapshots -/

namespace TxPartCtler

variable {ctler next : TxPartCtler}

/-- A message that was made for the latest snapshot measures what the snapshot does. -/
def Current (ctler : TxPartCtler) : Prop :=
  ∀ message, ctler.scheduleMessage = some message →
    message.currentTime = ctler.macInfoBus.latest.takenAt →
    (message.MeasuresBoth ↔ ctler.macInfoBus.latest.MeasuresBoth)

/-- The message of a decision does. -/
theorem Determined.measuresBoth_iff {packet : PacketWithMeta} {message : SchedulingMessage}
    (determined : ctler.Determined packet message) (current : ctler.Current) :
    message.MeasuresBoth ↔ ctler.macInfoBus.latest.MeasuresBoth := by
  rcases determined.measured with ⟨_, rfl⟩ | ⟨stored, held, time, queues, rates⟩
  · rw [measuresBoth_buildMessage_iff]
    exact ⟨fun facts => ⟨facts.1, facts.2.1, facts.2.2⟩,
      fun facts => ⟨facts.queues, facts.link, facts.rates⟩⟩
  · rw [← current stored held time]
    constructor
    · exact fun measures => ⟨queues ▸ measures.queues, rates ▸ measures.rates⟩
    · exact fun measures => ⟨queues.symm ▸ measures.queues, rates.symm ▸ measures.rates⟩

/-- Where the packets of a frame fit into every queue, those that a policy adds do. -/
theorem roomFor_of_fits {message : SchedulingMessage} {packets num : Nat}
    (measures : message.MeasuresBoth) (fits : ∀ queue ∈ message.ac1Info, num + queue < 2 ^ 64)
    (fewer : packets ≤ num) {link : Nat} (below : link < 2) : message.RoomFor packets link := by
  have inRange : link < message.ac1Info.length := below.trans_le measures.queues
  have room := fits _ (List.getElem_mem inRange)
  exact ⟨_, List.getElem?_eq_getElem inRange, by omega⟩

/-- A decision of a policy that measures both links completes when there are two links to
measure, and their queues are short of the largest by a frame. -/
theorem Determined.completes_iff {packet : PacketWithMeta} {message : SchedulingMessage}
    (determined : ctler.Determined packet message) (counted : 1 ≤ packet.num)
    (within : packet.packet.offset.toNat ≤ packet.num)
    (fits : ∀ queue ∈ message.ac1Info, packet.num + queue < 2 ^ 64)
    (measuring : ctler.policy = .queueAware ∨ ctler.policy = .simpleQueueAware) :
    ctler.Completes message ↔ message.MeasuresBoth := by
  have informed : ctler.policy.Informed message ↔ message.MeasuresBoth := by
    rcases measuring with policy | policy
    · rw [policy]
      exact and_iff_left_of_imp fun measures _ below =>
        roomFor_of_fits measures fits counted below
    · rw [policy, Policy.Informed, determined.offset_eq, determined.num_eq, and_iff_right within]
      exact and_iff_left_of_imp fun measures _ below =>
        roomFor_of_fits measures fits (Nat.sub_le ..) below
  constructor
  · exact fun completes => informed.mp completes.informed
  · intro measures
    exact ⟨determined.num_eq ▸ counted, informed.mpr measures,
      fun _ _ => roomFor_of_fits measures fits counted (by decide),
      fun _ _ => roomFor_of_fits measures fits counted (by decide)⟩

/-- What an attempt does to a controller: a message that it stores is that of a decision. -/
theorem attempt_fields {socketInfos : SocketInfo} {packet : PacketWithMeta}
    {outcome : SendOutcome} {out : Option Attempt}
    (taken : step socketInfos ctler (.attempt packet outcome) = .ok (out, next)) :
    next.macInfoBus = ctler.macInfoBus ∧ next.policy = ctler.policy ∧
      (next.scheduleMessage = ctler.scheduleMessage ∨
        ∃ message stored, ctler.Determined packet message ∧
          next.scheduleMessage = some stored ∧ stored.currentTime = message.currentTime ∧
          (stored.MeasuresBoth ↔ message.MeasuresBoth)) := by
  rcases step_attempt_cases taken with
    ⟨_, _, rfl⟩ | ⟨attempt, message, packetType, _, attempts⟩
  · exact ⟨rfl, rfl, .inl rfl⟩
  · have nextEq := attempts.next_eq
    subst nextEq
    refine ⟨rfl, rfl, .inr ⟨message, _, attempts.decides.determined, rfl, ?_⟩⟩
    -- Counting the packet on its link changes a queue length, not how many there are.
    split
    next =>
      refine ⟨rfl, fun measures => ⟨?_, measures.rates⟩, fun measures => ⟨?_, measures.rates⟩⟩
      · have queues := measures.queues
        rwa [List.length_set] at queues
      · have queues := measures.queues
        rwa [← List.length_set] at queues
    next => exact ⟨rfl, Iff.rfl⟩

theorem Current.attempt {socketInfos : SocketInfo} (current : ctler.Current)
    {packet : PacketWithMeta} {outcome : SendOutcome} {out : Option Attempt}
    (taken : step socketInfos ctler (.attempt packet outcome) = .ok (out, next)) :
    next.Current := by
  rcases attempt_fields taken with ⟨bus, _, same | ⟨message, stored, determined, held, _, both⟩⟩
  · intro other found
    rw [same] at found
    rw [bus]
    exact current other found
  · intro other found _
    rw [held] at found
    cases found
    rw [bus, both]
    exact determined.measuresBoth_iff current

end TxPartCtler

/-! ## Runs -/

/-- What holds of the monitor and a controller after some turns of the monitor. -/
structure Monitors (device : String → Option String) (policy : Policy) (polls : List Poll)
    (state : Monitoring) : Prop where
  tracks : state.monitor.Tracks device polls
  isMon : state.ctler.macInfoBus.isMon = true
  policy_eq : state.ctler.policy = policy
  sound : state.ctler.Sound
  quiet : polls = [] → state.ctler.macInfoBus.latest.queues.entries = []
  shows : polls ≠ [] → state.ctler.macInfoBus.latest.Shows device polls ∧
    state.ctler.macInfoBus.latest.takenAt ∈ polls.map Poll.takenAt
  stored : ∀ message, state.ctler.scheduleMessage = some message →
    message.currentTime ∈ polls.map Poll.takenAt
  current : (polls.map Poll.takenAt).Nodup → state.ctler.Current

namespace Monitors

variable {getDevFromIp : String → Option String} {ips : List String}
  {device : String → Option String} {policy : Policy} {parameters : PolicyParameter}
  {startTime : Time} {socketInfos : SocketInfo} {polls : List Poll} {state next : Monitoring}

theorem start : Monitors (deviceOf getDevFromIp ips) policy []
    (.start getDevFromIp ips policy parameters startTime) where
  tracks := MACQueueMonitor.tracks_new getDevFromIp ips
  isMon := rfl
  policy_eq := rfl
  sound := TxPartCtler.sound_new ..
  quiet := fun _ => rfl
  shows := fun some => absurd rfl some
  stored := fun _ found => by cases found
  current := fun _ _ found => by cases found

/-- A snapshot is published. -/
theorem publish (monitors : Monitors device policy polls state) {poll : Poll}
    {snapshot : MACQueuesSnapshot} {monitor : MACQueueMonitor}
    (returned : state.monitor.turn poll = .ok (snapshot, monitor)) :
    Monitors device policy (polls ++ [poll])
      { state with monitor, ctler := state.ctler.observe snapshot } := by
  rcases monitors.tracks.turn returned with ⟨tracks, shows, time⟩
  have published : TxPartCtler.step ∅ state.ctler (.publish snapshot) =
      .ok (none, state.ctler.observe snapshot) := rfl
  refine ⟨tracks, monitors.isMon, monitors.policy_eq, monitors.sound.step published, ?_, ?_,
    ?_, ?_⟩
  · simp
  · refine fun _ => ⟨shows, ?_⟩
    change snapshot.takenAt ∈ _
    simp [time]
  · intro message found
    rw [List.map_append]
    exact List.mem_append_left _ (monitors.stored message found)
  · -- The stored message is of an earlier snapshot, which has another time.
    intro clock message found same
    rw [List.map_append, List.map_singleton] at clock
    have earlier := monitors.stored message found
    have new : snapshot.takenAt ∉ polls.map Poll.takenAt := by
      rw [time]
      exact fun member => List.disjoint_of_nodup_append clock member (List.mem_singleton_self _)
    change message.currentTime = snapshot.takenAt at same
    rw [same] at earlier
    exact absurd earlier new

/-- An attempt by the controller. -/
theorem attempt (monitors : Monitors device policy polls state) {packet : PacketWithMeta}
    {outcome : SendOutcome} {out : Option Attempt} {ctler : TxPartCtler}
    (taken : TxPartCtler.step socketInfos state.ctler (.attempt packet outcome) =
      .ok (out, ctler)) : Monitors device policy polls { state with ctler } := by
  rcases TxPartCtler.attempt_fields taken with ⟨bus, same, fields⟩
  constructor
  · exact monitors.tracks
  · exact bus ▸ monitors.isMon
  · exact same.trans monitors.policy_eq
  · exact monitors.sound.step taken
  · exact fun none => bus ▸ monitors.quiet none
  · exact fun some => bus ▸ monitors.shows some
  · intro message found
    rcases fields with kept | ⟨decided, stored, determined, held, time, _⟩
    · exact monitors.stored message (kept ▸ found)
    · cases held.symm.trans found
      rw [time, determined.currentTime_eq]
      refine (monitors.shows fun none => ?_).2
      exact (determined.available monitors.isMon).1 (monitors.quiet none)
  · exact fun clock => (monitors.current clock).attempt taken

/-- Step lemma. -/
theorem step (monitors : Monitors device policy polls state) {op : MonitoringOp}
    {out : Option Attempt} (taken : Monitoring.step socketInfos state op = .ok (out, next)) :
    Monitors device policy
      (polls ++ (MonitoringEvent.polled ⟨state, op, out, next⟩).toList) next := by
  cases op with
  | poll found =>
      cases taken
      simp only [MonitoringEvent.polled, Monitoring.poll]
      split
      next running =>
        split
        next snapshot monitor returned => simpa [running] using monitors.publish returned
        next => simpa using { monitors with }
      next stopped => simpa [stopped] using monitors
  | attempt packet outcome =>
      rcases bind_eq_ok.mp taken with ⟨⟨attempt, ctler⟩, stepped, equal⟩
      cases equal
      simpa [MonitoringEvent.polled] using monitors.attempt stepped
  | setPolicyParameters parameters =>
      cases taken
      simpa [MonitoringEvent.polled] using
        { monitors with sound := ⟨monitors.sound.signals⟩ }

/-- Run lemma. -/
theorem of_run {history : List MonitoringEvent}
    (run : Run (Monitoring.step socketInfos)
      (.start getDevFromIp ips policy parameters startTime) history state) :
    Monitors (deviceOf getDevFromIp ips) policy (polled history) state := by
  induction run with
  | nil => exact start
  | @snoc history state next op out run taken ih =>
      rw [polled, Sequence.filterMap_snoc]
      exact ih.step taken

end Monitors

/-- In every run, the published snapshot has one entry in each table for each monitored
address with a device: its queues are those of the last report of the device that could be
read, and its link information is what was printed last, whatever could not be read in
between.  A controller waits exactly as long as no snapshot has a device. -/
theorem snapshot_shows_last {getDevFromIp : String → Option String} {ips : List String}
    {policy : Policy} {parameters : PolicyParameter} {startTime : Time}
    {socketInfos : SocketInfo} {history : List MonitoringEvent} {state : Monitoring}
    (run : Run (Monitoring.step socketInfos)
      (.start getDevFromIp ips policy parameters startTime) history state) :
    (polled history ≠ [] → state.ctler.macInfoBus.latest.Shows (deviceOf getDevFromIp ips)
      (polled history)) ∧
    (state.ctler.Uninformed ↔ polled history = [] ∨ monitoredIps getDevFromIp ips = []) := by
  have monitors := Monitors.of_run run
  refine ⟨fun some => (monitors.shows some).1, ?_⟩
  by_cases none : polled history = []
  · refine iff_of_true ?_ (.inl none)
    simp [TxPartCtler.Uninformed, monitors.isMon, monitors.quiet none]
  · have shows := (monitors.shows none).1
    have queues := length_entries shows.mem_queues
    have link := length_entries shows.mem_link
    rw [or_iff_right none, ← List.length_eq_zero_iff, TxPartCtler.Uninformed, monitors.isMon,
      Bool.true_and, Bool.or_eq_true, List.isEmpty_iff, List.isEmpty_iff,
      ← List.length_eq_zero_iff, ← List.length_eq_zero_iff, queues, link, or_self]

/-- Two addresses with a device each. -/
def twoDevices (ip : String) : Option String :=
  if ip = "10.0.0.1" then some "wlan0" else if ip = "10.0.0.2" then some "wlan1" else none

/-- One device reports three packets, the other cannot be read; both links have a rate. -/
def readablePoll : Poll where
  takenAt := 1
  report dev := if dev = "wlan0" then some (ascii "head:0, tail:0, pkt_num:3, macid:1, ac:1")
    else none
  iwLink _ := .ok (some ⟨some 100⟩)
  queuesOrder := .asBuilt
  linkOrder := .asBuilt

/-- Neither device can be read any more. -/
def silentPoll : Poll where
  takenAt := 2
  report _ := none
  iwLink _ := .ok none
  queuesOrder := .asBuilt
  linkOrder := .asBuilt

def monitoredStart : Monitoring :=
  .start twoDevices ["10.0.0.1", "10.0.0.2", "10.0.0.3"] .queueAware unitParameters 0

def monitoredSockets : SocketInfo := dispatch (fun _ => true) [busyLink, idleLink]

def monitoredOps : List MonitoringOp :=
  [.poll readablePoll, .attempt singlePacket .sent, .poll silentPoll]

theorem snapshot_shows_last_two :
    ∃ history state, Run (Monitoring.step monitoredSockets) monitoredStart history state ∧
      (polled history).length = 2 ∧ ¬state.ctler.Uninformed ∧
      state.ctler.macInfoBus.latest.Shows
        (deviceOf twoDevices ["10.0.0.1", "10.0.0.2", "10.0.0.3"]) (polled history) := by
  rcases exists_run_of_trace (Monitoring.step monitoredSockets) monitoredStart monitoredOps
    (fun history state => (polled history).length = 2 ∧ ¬state.ctler.Uninformed)
    (by decide +kernel) with ⟨history, state, run, _, passes⟩
  rcases of_decide_eq_true passes with ⟨two, informed⟩
  refine ⟨history, state, run, two, informed, (snapshot_shows_last run).1 fun none => ?_⟩
  rw [none] at two
  cases two

/-- When no two turns of the monitor read the same time, and a frame fits into every queue,
the decision of a policy that measures both links completes exactly when two addresses are
monitored and the link of every monitored device had a rate when it was printed last. -/
theorem measuring_decision_completes_iff {getDevFromIp : String → Option String}
    {ips : List String} {policy : Policy} {parameters : PolicyParameter} {startTime : Time}
    {socketInfos : SocketInfo} {history : List MonitoringEvent} {state : Monitoring}
    (run : Run (Monitoring.step socketInfos)
      (.start getDevFromIp ips policy parameters startTime) history state)
    (clock : ((polled history).map Poll.takenAt).Nodup)
    (measuring : policy = .queueAware ∨ policy = .simpleQueueAware) {packet : PacketWithMeta}
    (counted : 1 ≤ packet.num) (within : packet.packet.offset.toNat ≤ packet.num)
    {message : SchedulingMessage} {held : TxPartCtler}
    (determined : state.ctler.determineScheduleInfo packet = (some message, held))
    (fits : ∀ queue ∈ message.ac1Info, packet.num + queue < 2 ^ 64) :
    (∃ result, held.getPacketState .binary32 message = .ok result) ↔
      2 ≤ (monitoredIps getDevFromIp ips).length ∧
        ∀ ip dev, deviceOf getDevFromIp ips ip = some dev →
          (lastLink (polled history) dev).txMbitS.isSome = true := by
  have monitors := Monitors.of_run run
  rcases TxPartCtler.determined_of_eq determined with ⟨rfl, facts⟩
  have some : polled history ≠ [] := fun none =>
    (facts.available monitors.isMon).1 (monitors.quiet none)
  rw [TxPartCtler.getPacketState_returns_iff monitors.sound facts,
    facts.completes_iff counted within fits (monitors.policy_eq ▸ measuring),
    facts.measuresBoth_iff (monitors.current clock), (monitors.shows some).1.measuresBoth_iff]

theorem measuring_decision_completes_iff_two :
    ∃ history state message held,
      Run (Monitoring.step monitoredSockets) monitoredStart history state ∧
      state.ctler.determineScheduleInfo singlePacket = (some message, held) ∧
      ((∃ result, held.getPacketState .binary32 message = .ok result) ↔
        2 ≤ (monitoredIps twoDevices ["10.0.0.1", "10.0.0.2", "10.0.0.3"]).length ∧
          ∀ ip dev, deviceOf twoDevices ["10.0.0.1", "10.0.0.2", "10.0.0.3"] ip = some dev →
            (lastLink (polled history) dev).txMbitS.isSome = true) := by
  rcases exists_run_of_trace (Monitoring.step monitoredSockets) monitoredStart monitoredOps
    (fun history state => ((polled history).map Poll.takenAt).Nodup ∧
      ¬state.ctler.Uninformed ∧
      ∀ queue ∈ (state.ctler.nextMessage singlePacket).ac1Info,
        singlePacket.num + queue < 2 ^ 64) (by decide +kernel) with
    ⟨history, state, run, _, passes⟩
  rcases of_decide_eq_true passes with ⟨clock, informed, fits⟩
  have determined := state.ctler.determineScheduleInfo_eq singlePacket
  rw [if_neg informed] at determined
  exact ⟨history, state, _, _, run, determined, measuring_decision_completes_iff run clock
    (.inl rfl) (by decide) (by decide) determined fits⟩

end StreamReplay
