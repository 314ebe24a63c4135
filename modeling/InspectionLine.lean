import InspectionLine.InputRuns
import InspectionLine.OrderedDict
import InspectionLine.Constants
import InspectionLine.ProductFlow
import InspectionLine.ProductEffects
import InspectionLine.ProductLedger
import InspectionLine.ActiveFifo
import InspectionLine.LedgerRuns
import InspectionLine.StationMessage
import InspectionLine.PassSafety
import InspectionLine.ReplayedTerminals
import InspectionLine.Idempotency
import InspectionLine.NodeBase
import InspectionLine.NewSession
import InspectionLine.ControlActuation
import InspectionLine.MegaSerial
import InspectionLine.MegaFirmware
import InspectionLine.RejectArm
import InspectionLine.InferenceQueue
import InspectionLine.WorkerPool
import InspectionLine.CancellationFinality
import InspectionLine.JobAccounting
import InspectionLine.OperationRuntime
import InspectionLine.SensorEvents
import InspectionLine.SensorAcceptance
import InspectionLine.ResultOrder
import InspectionLine.SystemFsm
import InspectionLine.MasterConfig
import InspectionLine.LineFlow
import InspectionLine.ProductMoves
import InspectionLine.LockOrder
import InspectionLine.LineSupervision
import InspectionLine.WorkerSupervision
import InspectionLine.LineClearLatch
import InspectionLine.FaultFreeze
import InspectionLine.ResumeSafety
import InspectionLine.LineConsistency
import InspectionLine.CycleConsistency
import InspectionLine.LineBookkeeping
import InspectionLine.LineOccupancy
import InspectionLine.SkipPolicy
import InspectionLine.RunRequests
import InspectionLine.QueuePause
import InspectionLine.MasterState
import InspectionLine.MasterControl
import InspectionLine.MasterWorkers
import InspectionLine.MasterStations
import InspectionLine.MasterHandlers
import InspectionLine.MasterMoves
import InspectionLine.ControlMoves
import InspectionLine.WorkerMoves
import InspectionLine.StationMoves
import InspectionLine.ResetMoves
import InspectionLine.HandlerMoves
import InspectionLine.MasterRefinement
import InspectionLine.FaultRuns
import InspectionLine.ConveyorRuns
import InspectionLine.ProductRuns
import InspectionLine.LineClearConfirmation
import InspectionLine.ForwardMotion
import InspectionLine.FifoAlignment
import InspectionLine.CalmStops
import InspectionLine.OverdueCaptures
import InspectionLine.QueueRuns
import InspectionLine.QueueInvariant
import InspectionLine.JsonValues
import InspectionLine.LogRepository
import InspectionLine.LogIdempotency
import InspectionLine.LogSpool
import InspectionLine.LogNode
import InspectionLine.LogDelivery
import InspectionLine.OffsetPaging
import InspectionLine.ReplayPaging
import InspectionLine.ExecutorLock
import InspectionLine.CaptureContract
import InspectionLine.CaptureGoals
import InspectionLine.CaptureRecords
import InspectionLine.CaptureOnce
import InspectionLine.JsonText
import InspectionLine.JsonRoundTrip
import InspectionLine.VisionEvents
import InspectionLine.FailureLatch
import InspectionLine.ResultDelivery
import InspectionLine.StationANg
import InspectionLine.DeliveryOrder
import InspectionLine.Crc
import InspectionLine.MegaProtocol
import InspectionLine.LineBuffer
import InspectionLine.LineFraming
import InspectionLine.MegaEffects
import InspectionLine.SerialAgreement
import InspectionLine.FrameErrors
import InspectionLine.RejectCycles
import InspectionLine.PositionReports
import InspectionLine.SeparatedFrames
import InspectionLine.ArtifactFingerprint
import InspectionLine.RecentKeys
import InspectionLine.CommandReplays
import InspectionLine.LockHandover
import InspectionLine.SensorClear
import InspectionLine.MegaReader
import InspectionLine.JobExecution
import InspectionLine.StoreHistory
import InspectionLine.WorkerFrames
import InspectionLine.WorkerHeartbeats
import InspectionLine.WorkerEvidence
import InspectionLine.MasterEvidence
import InspectionLine.VersionStamps
import InspectionLine.ProductRevisions
import InspectionLine.GuardedUpdates
import InspectionLine.EventProjection
import InspectionLine.WholeRuntime
import InspectionLine.GpuMetrics
import InspectionLine.SortedPrefix
import InspectionLine.SpoolOrder
import InspectionLine.RankedRows
import InspectionLine.SessionReport
import InspectionLine.ByteFrames
import InspectionLine.PngChunks
import InspectionLine.PngFiles
import InspectionLine.ScoringPolicy
import InspectionLine.OrderStatistics
import InspectionLine.SpatialScores
import InspectionLine.FprThresholds
import InspectionLine.ParallelLoading
import InspectionLine.SuccessfulRuns
import InspectionLine.ImageArtifacts
import InspectionLine.BlockedCaptures
import InspectionLine.SavedImages
import InspectionLine.TerminalReplays
import InspectionLine.NewestKept
import InspectionLine.ImageRetention
import InspectionLine.CandidateSelection
import InspectionLine.DeployedPolicy
import InspectionLine.ManifestAcceptance
import InspectionLine.RaisingPrograms
import InspectionLine.MvsLibrary
import InspectionLine.MvsSession
import InspectionLine.MvsBackend
import InspectionLine.MvsLifecycle
import InspectionLine.MvsCaptures
import InspectionLine.MvsRuns
import InspectionLine.MvsBatches
import InspectionLine.MvsRecovery
import InspectionLine.ResumeRequests
import InspectionLine.NestedStops
