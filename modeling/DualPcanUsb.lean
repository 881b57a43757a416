import DualPcanUsb.Types
import DualPcanUsb.TimeRef
import DualPcanUsb.Lib.LittleEndian
import DualPcanUsb.Lib.Ownership
import DualPcanUsb.PacketCodec
import DualPcanUsb.RecordSpec
import DualPcanUsb.DataRecord
import DualPcanUsb.StatusRecord
import DualPcanUsb.PacketFate
import DualPcanUsb.PacketLoop
import DualPcanUsb.ReadBounds
import DualPcanUsb.PacketGrammar
import DualPcanUsb.SkbOwnership
import DualPcanUsb.FrameLayout
import DualPcanUsb.Lib.LowByteClock
import DualPcanUsb.RoundTrip
import DualPcanUsb.Lib.RingWindow
import DualPcanUsb.Lib.Runs
import DualPcanUsb.RxRing
import DualPcanUsb.Lib.RefPower
import DualPcanUsb.PacketFrame
import DualPcanUsb.Interfaces
import DualPcanUsb.BusPower
import DualPcanUsb.RxUrbs
import DualPcanUsb.Operations
import DualPcanUsb.Lifecycle
import DualPcanUsb.ErrorFrames
import DualPcanUsb.UseAfterFree
import DualPcanUsb.Lib.SlotLedger
import DualPcanUsb.Transmit
import DualPcanUsb.TxAccounting
import DualPcanUsb.TxQueue
import DualPcanUsb.ErrorState
import DualPcanUsb.MixedTicks
import DualPcanUsb.NetIsolation
import DualPcanUsb.RecordClock
import DualPcanUsb.SlowReader
import DualPcanUsb.Lib.StampQueue
import DualPcanUsb.Session
import DualPcanUsb.ReportedTimes
import DualPcanUsb.Recovery
import DualPcanUsb.Lib.Rundown
import DualPcanUsb.Teardown
import DualPcanUsb.PendingOps
import DualPcanUsb.TxBuffer
import DualPcanUsb.CommandBuffer
import DualPcanUsb.BitTiming
import DualPcanUsb.Lib.SharedCell
import DualPcanUsb.Lib.Printf
import DualPcanUsb.ReadText
import DualPcanUsb.RecvMsgs
import DualPcanUsb.Commands
import DualPcanUsb.Lib.Roles
import DualPcanUsb.Lib.CountedGate
import DualPcanUsb.ExclusiveOpen
import DualPcanUsb.WholeOperations
import DualPcanUsb.StageLaw
import DualPcanUsb.RingContents
import DualPcanUsb.Probe
import DualPcanUsb.Lib.RefCount
import DualPcanUsb.UrbCounts
import DualPcanUsb.UrbLedger
import DualPcanUsb.Lib.TickCounter
import DualPcanUsb.KernelTime
import DualPcanUsb.TickCount
import DualPcanUsb.MessageTime
import DualPcanUsb.FrameRecovery
import DualPcanUsb.Lib.StructBytes
import DualPcanUsb.ReaderCalls
import DualPcanUsb.FailedReads
import DualPcanUsb.MessageBytes
import DualPcanUsb.StreamRead
import DualPcanUsb.MappedRead
import DualPcanUsb.RejectedRecord
import DualPcanUsb.FailedProbe
import DualPcanUsb.IoctlTables
import DualPcanUsb.Lib.CString
import DualPcanUsb.TestApp
import DualPcanUsb.Lib.TaggedCell
import DualPcanUsb.ReadBuffer
import DualPcanUsb.Lib.WaitQueue
import DualPcanUsb.Sleepers
import DualPcanUsb.WakeUps
import DualPcanUsb.PacketRecords
import DualPcanUsb.RecordMeaning
import DualPcanUsb.Lib.Tally
import DualPcanUsb.RxCounters
import DualPcanUsb.Lib.Mailbox
import DualPcanUsb.Reception
import DualPcanUsb.TxLedger
import DualPcanUsb.Lib.Scanf
import DualPcanUsb.TextStream
import DualPcanUsb.SentRecords
import DualPcanUsb.DeviceSettings
import DualPcanUsb.FileOwners
import DualPcanUsb.Unload
import DualPcanUsb.OpeningRing
import DualPcanUsb.Reports
import DualPcanUsb.InFlightFrames
