import CsiDsp.Base.Runs
import CsiDsp.Base.Window
import CsiDsp.IspCommon
import CsiDsp.IspHandler
import CsiDsp.IspStream
import CsiDsp.PostIsp
import CsiDsp.FrontEnd
import CsiDsp.PostIspRing
import CsiDsp.AcceptedGeometry
import CsiDsp.IspSteps
import CsiDsp.IspRecovery
import CsiDsp.ReadyTable
import CsiDsp.XrpDsp
import CsiDsp.CommandLoop
import CsiDsp.VipreHandler
import CsiDsp.SwBackEnd
import CsiDsp.Task
import CsiDsp.TaskInterrupt
import CsiDsp.TaskCommands
import CsiDsp.TaskEffects
import CsiDsp.InterruptChain
import CsiDsp.TaskHeap
import CsiDsp.TaskStatus
import CsiDsp.HwTask
import CsiDsp.Scheduler
import CsiDsp.FrontEndLoop
import CsiDsp.QuietCommands
import CsiDsp.TaskRun
import CsiDsp.RunningTasks
import CsiDsp.ReportMailbox
import CsiDsp.LineRing
import CsiDsp.LineTransfer
import CsiDsp.TaskNames
import CsiDsp.NsRouting
import CsiDsp.CommandChannel
import CsiDsp.AlgoMemory
import CsiDsp.VipreFrames
import CsiDsp.Firmware
import CsiDsp.FailedCommands
import CsiDsp.SwTask
import CsiDsp.HostBounds
import CsiDsp.Base.Transcript
import CsiDsp.LifeCycle
import CsiDsp.LifeRepeat
import CsiDsp.TaskLife
import CsiDsp.SlotCover
import CsiDsp.CoveredLoop
import CsiDsp.CommandEffects
import CsiDsp.ReusedSlot
import CsiDsp.FrameStream
import CsiDsp.EvenOdd
import CsiDsp.FrameLayout
import CsiDsp.RefusedPop
import CsiDsp.SwRing
import CsiDsp.RingCounts
import CsiDsp.LineCounter
import CsiDsp.FrameAccount
import CsiDsp.FrameReports
import CsiDsp.HeldEntry
import CsiDsp.StrandedEntry
import CsiDsp.LineArithmetic
import CsiDsp.ConfigArithmetic
import CsiDsp.VipreLines
import CsiDsp.Base.KeyedWrites
import CsiDsp.ReadyQueue
import CsiDsp.EntrySplit
import CsiDsp.IntrTrace
import CsiDsp.BufUpdate
import CsiDsp.DmaAlign
import CsiDsp.Base.RowCopy
import CsiDsp.Base.Holders
import CsiDsp.Dmaif
import CsiDsp.DmaWait
import CsiDsp.DmaCopy
import CsiDsp.TileManager
import CsiDsp.TilePool
import CsiDsp.Base.Tiling
import CsiDsp.ChunkCopy
import CsiDsp.Base.Fields
import CsiDsp.SwToHw
import CsiDsp.TileBanks
import CsiDsp.TileRuns
import CsiDsp.DspProfile
import CsiDsp.Handshake
