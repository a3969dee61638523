import StreamReplay.Tx.MacQueue

/-!
# The queue monitor

`mon_mac_thread` of `tx/src/statistic/mac_queue.rs` polls the devices behind the monitored
addresses in a loop and publishes what it knows of them.  A device whose report cannot be
read keeps the queues of its last one, and one without a link keeps the link information
of its last one.
-/

namespace StreamReplay

open Checked Enumeration

/-- The order in which a new hash map happens to enumerate its entries. -/
structure Arrangement where
  arrange : {ν : Type} → Table String ν → Table String ν
  perm : ∀ {ν : Type} (table : Table String ν), (arrange table).entries.Perm table.entries

def Arrangement.asBuilt : Arrangement := ⟨id, fun _ => .refl _⟩

/-- What one turn finds: the clock, the report of each device as far as it can be read, what
`iw` prints about its link if it succeeds, and the orders of the two maps that the turn
makes.  Starting `iw` may panic. -/
structure Poll where
  takenAt : Time
  report : String → Option (List UInt8)
  iwLink : String → Except Panic (Option LinkInfo)
  queuesOrder : Arrangement
  linkOrder : Arrangement

def LinkInfo.default : LinkInfo := ⟨none⟩

/-- The queues of a device with its name and its link. -/
structure MonitoredQuery extends MACQueueQuery where
  dev : String
  linkInfo : LinkInfo

namespace MonitoredQuery

def new (dev : String) : MonitoredQuery := ⟨⟨∅⟩, dev, .default⟩

def updateLinkInfo (query : MonitoredQuery) (poll : Poll) : Except Panic MonitoredQuery := do
  match ← poll.iwLink query.dev with
  | some linkInfo => return { query with linkInfo }
  | none => return query

/-- The part of a turn that is about one device. -/
def update (poll : Poll) (query : MonitoredQuery) : Except Panic MonitoredQuery := do
  let queues ← query.updateQueueInfo (poll.report query.dev)
  updateLinkInfo { query with toMACQueueQuery := queues } poll

end MonitoredQuery

structure MACQueueMonitor where
  query : Table String MonitoredQuery

namespace MACQueueMonitor

/-- Watch one more address, if it has a device. -/
def watch (getDevFromIp : String → Option String) (query : Table String MonitoredQuery)
    (ip : String) : Table String MonitoredQuery :=
  match getDevFromIp ip with
  | some dev => query.insert ip (.new dev)
  | none => query

def new (getDevFromIp : String → Option String) (ips : List String) : MACQueueMonitor :=
  ⟨ips.foldl (watch getDevFromIp) ∅⟩

/-- One turn of the loop in `mon_mac_thread`, with the snapshot that it publishes. -/
def turn (monitor : MACQueueMonitor) (poll : Poll) :
    Except Panic (MACQueuesSnapshot × MACQueueMonitor) := do
  let query ← collectM (MonitoredQuery.update poll) monitor.query
  let all := collect (fun device => device.queueInfo) query
  let link := collect MonitoredQuery.linkInfo query
  return ({
    takenAt := poll.takenAt
    queues := poll.queuesOrder.arrange all
    link := poll.linkOrder.arrange link }, ⟨query⟩)

end MACQueueMonitor

/-! ## What the monitor knows -/

/-- The last report of a device that could be read. -/
def lastReport (polls : List Poll) (dev : String) : Option (List UInt8) :=
  (polls.filterMap fun poll => poll.report dev).getLast?

/-- What `iw` printed last about the link of a device. -/
def lastLink (polls : List Poll) (dev : String) : LinkInfo :=
  ((polls.filterMap fun poll => (poll.iwLink dev).toOption.join).getLast?).getD .default

/-- The queues are those of the report, and empty without one. -/
def Reads (queueInfo : MACQueueInfo) : Option (List UInt8) → Prop
  | none => queueInfo = ∅
  | some data => MACQueueQuery.updateQueueInfo ⟨∅⟩ (some data) = .ok ⟨queueInfo⟩

/-- What is known of a device after some turns. -/
structure MonitoredQuery.Knows (query : MonitoredQuery) (polls : List Poll) (dev : String) :
    Prop where
  dev_eq : query.dev = dev
  queues : Reads query.queueInfo (lastReport polls dev)
  link : query.linkInfo = lastLink polls dev

/-- The device of a monitored address. -/
def deviceOf (getDevFromIp : String → Option String) (ips : List String) (ip : String) :
    Option String :=
  if ip ∈ ips then getDevFromIp ip else none

/-- The monitor has one entry for each address with a device, and knows the device. -/
def MACQueueMonitor.Tracks (monitor : MACQueueMonitor) (device : String → Option String)
    (polls : List Poll) : Prop :=
  ∀ ip, match device ip with
    | none => monitor.query.lookup ip = none
    | some dev => ∃ query, monitor.query.lookup ip = some query ∧ query.Knows polls dev

/-- A snapshot shows the same. -/
def MACQueuesSnapshot.Shows (snapshot : MACQueuesSnapshot) (device : String → Option String)
    (polls : List Poll) : Prop :=
  ∀ ip, match device ip with
    | none => snapshot.queues.lookup ip = none ∧ snapshot.link.lookup ip = none
    | some dev => (∃ queueInfo, snapshot.queues.lookup ip = some queueInfo ∧
        Reads queueInfo (lastReport polls dev)) ∧
      snapshot.link.lookup ip = some (lastLink polls dev)

/-! ## The loop -/

section Loop

variable {getDevFromIp : String → Option String} {ips : List String}
  {device : String → Option String} {polls : List Poll} {poll : Poll} {dev : String}

theorem lastReport_snoc (polls : List Poll) (poll : Poll) (dev : String) :
    lastReport (polls ++ [poll]) dev =
      match poll.report dev with
      | some data => some data
      | none => lastReport polls dev := by
  cases read : poll.report dev with
  | none => simp [lastReport, read]
  | some data => simp [lastReport, read]

theorem lastLink_snoc (polls : List Poll) (poll : Poll) (dev : String) :
    lastLink (polls ++ [poll]) dev =
      match (poll.iwLink dev).toOption.join with
      | some linkInfo => linkInfo
      | none => lastLink polls dev := by
  cases read : (poll.iwLink dev).toOption.join with
  | none => simp [lastLink, read]
  | some linkInfo => simp [lastLink, read]

namespace MonitoredQuery

variable {query next : MonitoredQuery}

theorem Knows.new (dev : String) : (MonitoredQuery.new dev).Knows [] dev := ⟨rfl, rfl, rfl⟩

/-- The queues after a turn are those of its report, if that could be read. -/
theorem reads_updateQueueInfo {queues : MACQueueQuery}
    (reads : Reads query.queueInfo (lastReport polls dev))
    (updated : query.updateQueueInfo (poll.report dev) = .ok queues) :
    Reads queues.queueInfo (lastReport (polls ++ [poll]) dev) := by
  rw [lastReport_snoc]
  cases read : poll.report dev with
  | none =>
      rw [read] at updated
      cases updated
      exact reads
  | some data =>
      rw [read] at updated
      rcases bind_eq_ok.mp updated with ⟨queueInfo, scanned, equal⟩
      cases equal
      exact bind_eq_ok.mpr ⟨queueInfo, scanned, rfl⟩

/-- Step lemma: a device keeps what a turn does not find out. -/
theorem Knows.update (knows : query.Knows polls dev) (updated : query.update poll = .ok next) :
    next.Knows (polls ++ [poll]) dev := by
  rcases knows with ⟨rfl, queues, link⟩
  rcases bind_eq_ok.mp updated with ⟨read, scanned, linked⟩
  rcases bind_eq_ok.mp linked with ⟨printed, started, equal⟩
  have started : poll.iwLink query.dev = .ok printed := started
  have reads := reads_updateQueueInfo queues scanned
  cases printed with
  | some linkInfo =>
      cases equal
      exact ⟨rfl, reads, by simp [lastLink_snoc, started, Except.toOption]⟩
  | none =>
      cases equal
      exact ⟨rfl, reads, by simp [lastLink_snoc, started, Except.toOption, link]⟩

end MonitoredQuery

namespace MACQueueMonitor

variable {monitor next : MACQueueMonitor}

theorem lookup_watch (query : Table String MonitoredQuery) (watched ip : String) :
    (watch getDevFromIp query watched).lookup ip =
      if ip = watched then ((getDevFromIp ip).map MonitoredQuery.new).or (query.lookup ip)
      else query.lookup ip := by
  unfold watch
  by_cases same : ip = watched
  · subst same
    cases found : getDevFromIp ip with
    | none => simp
    | some dev => simp [AList.lookup_insert]
  · rw [if_neg same]
    cases found : getDevFromIp watched with
    | none => rfl
    | some dev => exact AList.lookup_insert_ne same

/-- The monitor starts with the addresses that have a device. -/
theorem tracks_new (getDevFromIp : String → Option String) (ips : List String) :
    (new getDevFromIp ips).Tracks (deviceOf getDevFromIp ips) [] := by
  have watched : ∀ (ips : List String) (start : Table String MonitoredQuery) (ip : String),
      (ips.foldl (watch getDevFromIp) start).lookup ip =
        ((deviceOf getDevFromIp ips ip).map MonitoredQuery.new).or (start.lookup ip) := by
    intro ips
    induction ips with
    | nil => simp [deviceOf]
    | cons first ips ih =>
        intro start ip
        rw [List.foldl_cons, ih, lookup_watch]
        unfold deviceOf
        by_cases here : ip = first
        · subst here
          by_cases again : ip ∈ ips
          · cases getDevFromIp ip <;> simp [again]
          · simp [again]
        · simp [here]
  intro ip
  have found := watched ips ∅ ip
  rw [AList.lookup_empty, Option.or_none] at found
  cases known : deviceOf getDevFromIp ips ip with
  | none => rw [known] at found; exact found
  | some dev => rw [known] at found; exact ⟨_, found, .new dev⟩

/-- Step lemma: a turn that returns leaves the monitored addresses alone, and its snapshot
shows what the monitor knows then. -/
theorem Tracks.turn (tracks : monitor.Tracks device polls) {snapshot : MACQueuesSnapshot}
    (returned : monitor.turn poll = .ok (snapshot, next)) :
    next.Tracks device (polls ++ [poll]) ∧ snapshot.Shows device (polls ++ [poll]) ∧
      snapshot.takenAt = poll.takenAt := by
  rcases bind_eq_ok.mp returned with ⟨query, visited, equal⟩
  cases equal
  have after : (⟨query⟩ : MACQueueMonitor).Tracks device (polls ++ [poll]) := by
    intro ip
    have before := tracks ip
    rcases lookup_collectM visited ip with ⟨absent, present⟩
    cases known : device ip with
    | none =>
        rw [known] at before
        exact absent before
    | some dev =>
        rw [known] at before
        rcases before with ⟨old, found, knows⟩
        rcases present old found with ⟨updated, visit, stored⟩
        exact ⟨updated, stored, knows.update visit⟩
  refine ⟨after, fun ip => ?_, rfl⟩
  have here := after ip
  rw [AList.perm_lookup (poll.queuesOrder.perm _), AList.perm_lookup (poll.linkOrder.perm _),
    lookup_collect, lookup_collect]
  cases known : device ip with
  | none =>
      rw [known] at here
      change query.lookup ip = none at here
      simp [here]
  | some dev =>
      rw [known] at here
      rcases here with ⟨stored, found, knows⟩
      change query.lookup ip = some stored at found
      rw [found]
      exact ⟨⟨_, rfl, knows.queues⟩, congrArg some knows.link⟩

end MACQueueMonitor

end Loop

end StreamReplay
