import StreamReplay.Foundation.Assignment
import StreamReplay.Tx.SourceManager

/-!
# The control channel

`IPCDaemon` of `tx/src/ipc.rs`: a loop that takes requests from a socket and
carries them out on the sources.  Whatever is wrong with a request, the code
unwraps it, so the loop ends there with a panic; what the request has changed by
then stays.

A turn of the loop is one step.  The threads of the sources share their locks with
the loop and act between its turns.
-/

namespace StreamReplay

open Checked Enumeration FallibleRun

structure ControlInfo where
  version : UInt32
  policyParameters : PolicyParameter

/-- The maps of a request, each in the order in which it is enumerated. -/
inductive RequestValue where
  | throttle (data : Table String ℚ)
  | policyParameters (data : Table String PolicyParameter)
  | statistics (data : Table String ℚ)
  | version (data : Table String UInt32)
  | control (data : Table String ControlInfo)

structure Request where
  cmd : RequestValue

structure Statistics where
  flowStat : Table String FlowStatistics
  deviceStat : MACQueuesSnapshot

inductive ResponseValue where
  | statistics (statistics : Statistics)

structure Response where
  cmd : ResponseValue

/-- The sources by name, in the order in which they are enumerated. -/
abbrev Sources := Table String SourceManager

/-- What one turn of the loop receives and meets. -/
structure Datagram where
  bytes : List UInt8
  /-- What the enumeration order of the request's map depends on. -/
  seed : Nat
  /-- The clock readings of a statistics query, for each source. -/
  clocks : String → Time × ℚ
  /-- The reply can be sent. -/
  sendable : Bool

namespace IPCDaemon

/-! ## Carrying out a request -/

def setControl (manager : SourceManager) (info : ControlInfo) :
    Except Panic Unit × SourceManager :=
  match manager.setVersion info.version with
  | (.ok (), manager) => (.ok (), manager.setPolicyParameters info.policyParameters)
  | (.error fault, manager) => (.error fault, manager)

/-- Carry out the entries of a request one by one; there is no reply. -/
def forEach {ν : Type} (assign : SourceManager → ν → Except Panic Unit × SourceManager)
    (data : Table String ν) (sources : Sources) :
    Except Panic (Option Response) × Sources :=
  let (result, sources) := assignAll .unwrapNone assign data.entries sources
  (result.map fun _ => none, sources)

/-- The answers of all sources that have one. -/
def flowStat (clocks : String → Time × ℚ) (sources : Sources) :
    Table String FlowStatistics :=
  (sources.entries.filterMap fun ⟨name, manager⟩ =>
    (manager.statistics (clocks name).1 (clocks name).2).1.map fun stat =>
      ⟨name, stat⟩).toAList

/-- The sources after each of them was asked. -/
def polled (clocks : String → Time × ℚ) (sources : Sources) : Sources :=
  mapValues (fun name manager => (manager.statistics (clocks name).1 (clocks name).2).2)
    sources

def handleRequest (clocks : String → Time × ℚ) (sources : Sources) (req : Request) :
    Except Panic (Option Response) × Sources :=
  match req.cmd with
  | .throttle data =>
      forEach (fun manager value => (.ok (), manager.throttle value)) data sources
  | .policyParameters data =>
      forEach (fun manager value => (.ok (), manager.setPolicyParameters value)) data sources
  | .version data => forEach SourceManager.setVersion data sources
  | .control data => forEach setControl data sources
  | .statistics _ =>
      let flowStat := flowStat clocks sources
      let sources := polled clocks sources
      -- The device statistics are those of the first source there is.
      match values sources with
      | [] => (.error .unwrapNone, sources)
      | firstSource :: _ =>
          let deviceStat := firstSource.deviceStatistics
          (.ok (some ⟨.statistics { flowStat, deviceStat }⟩), sources)

/-! ## The loop -/

/-- The size of the buffer that a datagram is read into. -/
def bufLen : Nat := 2048

/-- `parse` is `serde_json::from_str`, given what its maps' orders depend on. -/
def decode (parse : Nat → String → Option Request) (datagram : Datagram) :
    Except Panic Request :=
  match String.fromUTF8? (datagram.bytes.take bufLen).toByteArray with
  | none => .error .unwrapErr
  | some text =>
      match parse datagram.seed text with
      | none => .error .unwrapErr
      | some req => .ok req

def receive (parse : Nat → String → Option Request) (datagram : Datagram)
    (sources : Sources) : Except Panic (Option Response) × Sources :=
  match decode parse datagram with
  | .error fault => (.error fault, sources)
  | .ok req =>
      match handleRequest datagram.clocks sources req with
      | (.ok (some response), sources) =>
          if datagram.sendable then (.ok (some response), sources)
          else (.error .unwrapErr, sources)
      | handled => handled

end IPCDaemon

inductive LoopStatus where
  | serving
  | expired
  | panicked (fault : Panic)
  deriving DecidableEq

/-- The loop of the daemon and the sources it shares with their threads. -/
structure IpcLoop where
  sources : Sources
  deadline : Time
  status : LoopStatus

inductive LoopOp where
  /-- A turn begins at `now` and finds a datagram, or none. -/
  | turn (now : Time) (received : Option Datagram)
  /-- A thread of the source acts. -/
  | work (name : String) (op : ManagerOp)

namespace IpcLoop

def start (sources : Sources) (deadline : Time) : IpcLoop := ⟨sources, deadline, .serving⟩

/-- `start_loop`, up to its first turn. -/
def startLoop (sources : Sources) (now : Time) (duration : Floating.Number) :
    Except Panic IpcLoop := do
  let deadline ← after now duration
  return start sources deadline

def serve (parse : Nat → String → Option Request) (loop : IpcLoop) (datagram : Datagram) :
    Option Response × IpcLoop :=
  match IPCDaemon.receive parse datagram loop.sources with
  | (.ok reply, sources) => (reply, { loop with sources })
  | (.error fault, sources) => (none, { loop with sources, status := .panicked fault })

def turn (parse : Nat → String → Option Request) (loop : IpcLoop) (now : Time)
    (received : Option Datagram) : Option Response × IpcLoop :=
  match loop.status with
  | .serving =>
      if now < loop.deadline then
        match received with
        | none => (none, loop)
        | some datagram => loop.serve parse datagram
      else (none, { loop with status := .expired })
  | _ => (none, loop)

def work (socketInfos : String → SocketInfo) (loop : IpcLoop) (name : String)
    (op : ManagerOp) : IpcLoop :=
  { loop with
    sources := adjust name (fun manager =>
      match manager.step (socketInfos name) op with
      | .ok (_, next) => next
      | .error _ => manager) loop.sources }

/-- A loop that has ended takes no more turns, so no step fails. -/
def step (socketInfos : String → SocketInfo) (parse : Nat → String → Option Request) :
    Step IpcLoop LoopOp (Option Response) Panic
  | loop, .turn now received => .ok (loop.turn parse now received)
  | loop, .work name op => .ok (none, loop.work socketInfos name op)

end IpcLoop

end StreamReplay
