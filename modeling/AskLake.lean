import AskLake.CatalogDeletion.OwnData
import AskLake.ContinuousRuntime.ConsumerIdentity
import AskLake.ContinuousRuntime.FenceFreshness
import AskLake.ContinuousRuntime.IngestIntent
import AskLake.ContinuousRuntime.ReplayCounters
import AskLake.ContinuousRuntime.TerminalOutcome
import AskLake.ContinuousSql.Containment
import AskLake.ContinuousSql.CrashSafety
import AskLake.ContinuousSql.ProgressCrashes
import AskLake.ContinuousSql.RevisionRefresh
import AskLake.ContinuousSql.RevisionRunner
import AskLake.ContinuousSql.SourceBinding
import AskLake.ContinuousSql.TreeOwnership
import AskLake.ControlPlane.Lease
import AskLake.Dashboard.WidgetRefresh
import AskLake.Dashboard.WindowPruning
import AskLake.Events.StreamJoin
import AskLake.Kafka.CompactRanges
import AskLake.KafkaPublication.CatalogCursor
import AskLake.KafkaPublication.PartitionCursors
import AskLake.KafkaPublication.StagedCrashes
import AskLake.KafkaPublication.WorkflowRecord
import AskLake.Realtime.BoundaryIdentity
import AskLake.Realtime.CheckpointChain
import AskLake.Realtime.DimensionPlan
import AskLake.Realtime.IngestBinding
import AskLake.Realtime.MaterializationLaw
import AskLake.Realtime.Parity
import AskLake.Realtime.ReceiptLedger
import AskLake.Realtime.Replays
import AskLake.Realtime.Revisions
import AskLake.Realtime.ServingBinding
import AskLake.Realtime.ServingKey
import AskLake.Rules.RowConservation
import AskLake.Schedule.NextRun
import AskLake.SnapshotRun.RunProgress
import AskLake.SparkJob.PublishFaults
import AskLake.StaticJoins.KeyUniqueness
import AskLake.StreamWorker.ExactlyOnce
import AskLake.Trino.ResultPages
import AskLake.Trino.ResultPaging
import AskLake.Trino.SqlJobOrder
import AskLake.Trino.StrandedRuns
import AskLake.Trino.Submission
