import DownloadEngine.Chunk.Layout
import DownloadEngine.Chunk.Merge
import DownloadEngine.Chunk.Plan
import DownloadEngine.CommandLine.Arguments
import DownloadEngine.CommandLine.Command
import DownloadEngine.CommandLine.Session
import DownloadEngine.Config.Basic
import DownloadEngine.Config.Decode
import DownloadEngine.Config.Text
import DownloadEngine.Control
import DownloadEngine.Controller.Engine
import DownloadEngine.Controller.Entry
import DownloadEngine.Controller.Worker
import DownloadEngine.Decimal.Fixed
import DownloadEngine.Decimal.Shortest
import DownloadEngine.Duration
import DownloadEngine.EngineError
import DownloadEngine.Fault
import DownloadEngine.FileTree
import DownloadEngine.Filename.Derive
import DownloadEngine.Filename.Disposition
import DownloadEngine.Filename.Sanitize
import DownloadEngine.FsPath
import DownloadEngine.HeaderLine
import DownloadEngine.IoError
import DownloadEngine.Main
import DownloadEngine.Network
import DownloadEngine.Probe.Headers
import DownloadEngine.Probe.Info
import DownloadEngine.Probe.Query
import DownloadEngine.Progress
import DownloadEngine.Project
import DownloadEngine.Proofs.AttemptLoop
import DownloadEngine.Proofs.Backoff
import DownloadEngine.Proofs.Binary64Magnitudes
import DownloadEngine.Proofs.CancelRace
import DownloadEngine.Proofs.ChunkPool
import DownloadEngine.Proofs.ChunkSlices
import DownloadEngine.Proofs.Destination
import DownloadEngine.Proofs.DispositionNames
import DownloadEngine.Proofs.EngineLifecycle
import DownloadEngine.Proofs.EntryChange
import DownloadEngine.Proofs.EventOrder
import DownloadEngine.Proofs.FinalResponse
import DownloadEngine.Proofs.Lifecycle
import DownloadEngine.Proofs.MergeAtomic
import DownloadEngine.Proofs.ModeChoice
import DownloadEngine.Proofs.PathPieces
import DownloadEngine.Proofs.PercentDecoding
import DownloadEngine.Proofs.PlanTiling
import DownloadEngine.Proofs.ProgressSampling
import DownloadEngine.Proofs.ProjectResolve
import DownloadEngine.Proofs.QuietRun
import DownloadEngine.Proofs.Registry
import DownloadEngine.Proofs.RunSettles
import DownloadEngine.Proofs.SafeNames
import DownloadEngine.Proofs.SinkIntake
import DownloadEngine.Proofs.StartChecks
import DownloadEngine.Proofs.StreamAttempts
import DownloadEngine.Proofs.TaskPaths
import DownloadEngine.Proofs.TokenSignals
import DownloadEngine.Proofs.TransferCounts
import DownloadEngine.Proofs.TreeLaws
import DownloadEngine.Proofs.WorkerHandles
import DownloadEngine.Proofs.WorkerSuccession
import DownloadEngine.Retry.Failure
import DownloadEngine.Retry.Kind
import DownloadEngine.Retry.Loop
import DownloadEngine.Retry.Policy
import DownloadEngine.Rounding
import DownloadEngine.Source
import DownloadEngine.Task.Record
import DownloadEngine.Task.Status
import DownloadEngine.Text.BidiClass
import DownloadEngine.Text.CodePointTable
import DownloadEngine.Text.CombiningClass
import DownloadEngine.Text.Decomposition
import DownloadEngine.Text.GeneralCategory
import DownloadEngine.Text.GraphemeExtend
import DownloadEngine.Text.Hex
import DownloadEngine.Text.JoiningType
import DownloadEngine.Text.Json
import DownloadEngine.Text.Normalization
import DownloadEngine.Text.Percent
import DownloadEngine.Text.Unicode
import DownloadEngine.Text.Utf8
import DownloadEngine.Toml.Document
import DownloadEngine.Toml.Parse
import DownloadEngine.Toml.Scalar
import DownloadEngine.Toml.Value
import DownloadEngine.Transfer.Chunk
import DownloadEngine.Transfer.Finish
import DownloadEngine.Transfer.Parallel
import DownloadEngine.Transfer.Sink
import DownloadEngine.Transfer.Stream
import DownloadEngine.Transport
import DownloadEngine.Url.Address
import DownloadEngine.Url.EncodeSet
import DownloadEngine.Url.Error
import DownloadEngine.Url.Host
import DownloadEngine.Url.Idna
import DownloadEngine.Url.IdnaMapping
import DownloadEngine.Url.Parse
import DownloadEngine.Url.Punycode
import DownloadEngine.Url.Record
import DownloadEngine.Word
import DownloadEngine.World
