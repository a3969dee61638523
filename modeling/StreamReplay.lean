import StreamReplay.Foundation.Checked
import StreamReplay.Foundation.Run
import StreamReplay.Foundation.ByteOrder
import StreamReplay.Foundation.Sequence
import StreamReplay.Foundation.Enumeration
import StreamReplay.Core.Packet
import StreamReplay.Core.Wire
import StreamReplay.Tx.Packetise
import StreamReplay.Tx.Lossless
import StreamReplay.Rx.Record
import StreamReplay.Rx.Receiver
import StreamReplay.Rx.Frame
import StreamReplay.Rx.Reassembly
import StreamReplay.Rx.Survival
import StreamReplay.Tx.CycledQueue
import StreamReplay.Tx.Throttle
import StreamReplay.Tx.Admission
import StreamReplay.Tx.Conservation
import StreamReplay.Tx.Burst
import StreamReplay.Tx.Refusal
import StreamReplay.Tx.Accounting
import StreamReplay.Tx.Backlog
import StreamReplay.Tx.RttRecords
import StreamReplay.Tx.Pong
import StreamReplay.Tx.Policies
import StreamReplay.Tx.Schedule
import StreamReplay.Foundation.Balance
import StreamReplay.Foundation.Pacing
import StreamReplay.Foundation.StructFormat
import StreamReplay.Foundation.Rounds
import StreamReplay.Foundation.Floating
import StreamReplay.Tx.Decision
import StreamReplay.Tx.Sending
import StreamReplay.Tx.EndFlag
import StreamReplay.Tx.Availability
import StreamReplay.Tx.Estimate
import StreamReplay.Tx.Blocking
import StreamReplay.Tx.Balance
import StreamReplay.Tx.Outage
import StreamReplay.Rx.UdpRx
import StreamReplay.Rx.UdpRxThread
import StreamReplay.Rx.Sent
import StreamReplay.Rx.Copies
import StreamReplay.Rx.Delivery
import StreamReplay.Rx.Loss
import StreamReplay.Foundation.Framing
import StreamReplay.Tx.VersionManager
import StreamReplay.Tx.Switching
import StreamReplay.Tx.TraceReader
import StreamReplay.Tx.TraceFormat
import StreamReplay.Tx.Replay
import StreamReplay.Tx.Video
import StreamReplay.Foundation.Guarded
import StreamReplay.Tx.Calls
import StreamReplay.Tx.Window
import StreamReplay.Tx.Counters
import StreamReplay.Tx.Reset
import StreamReplay.Tx.SourceManager
import StreamReplay.Tx.Statistics
import StreamReplay.Foundation.Assignment
import StreamReplay.Tx.Ipc
import StreamReplay.Tx.Control
import StreamReplay.Tx.Serving
import StreamReplay.Foundation.Gaps
import StreamReplay.Rx.Stuttering
import StreamReplay.Foundation.Search
import StreamReplay.Foundation.Tally
import StreamReplay.Foundation.Decimal
import StreamReplay.Tx.MacQueue
import StreamReplay.Tx.QueueFormat
import StreamReplay.Tx.Monitor
import StreamReplay.Foundation.Progress
import StreamReplay.Tx.Pace
import StreamReplay.Tx.Progress
import StreamReplay.Tx.SourceThread
import StreamReplay.System.Provenance
import StreamReplay.System.Draining
import StreamReplay.System.WireRate
import StreamReplay.System.Playback
import StreamReplay.Rx.Forwarding
import StreamReplay.Rx.Acceptance
import StreamReplay.Rx.LinkTimes
import StreamReplay.System.Session
import StreamReplay.System.Reception
import StreamReplay.System.Integrity
import StreamReplay.System.Complete
import StreamReplay.System.Answering
import StreamReplay.System.Endurance
import StreamReplay.System.Measurement
import StreamReplay.System.Monitoring
import StreamReplay.System.Settings
import StreamReplay.System.Program
import StreamReplay.System.TraceReplay
import StreamReplay.System.Shared
