import PumpLaunchTrader.Curve.Convergence
import PumpLaunchTrader.Engine.Resolution
import PumpLaunchTrader.Engine.DeliveryOrder
import PumpLaunchTrader.Engine.TentativeBuys
import PumpLaunchTrader.Supervisor.Replay
import PumpLaunchTrader.ShredExit.Flags
import PumpLaunchTrader.ShredExit.Refinement
import PumpLaunchTrader.ShredExit.Duplicates
import PumpLaunchTrader.Supervisor.EdgeCollector
import PumpLaunchTrader.Supervisor.SegmentLog
import PumpLaunchTrader.Supervisor.ScenarioSums
import PumpLaunchTrader.Stream.ReconnectGaps
import PumpLaunchTrader.Normalizer.FailedTransactions
import PumpLaunchTrader.Stream.Completion
import PumpLaunchTrader.ShredExit.Restart
import PumpLaunchTrader.Executor.Conservation
import PumpLaunchTrader.Segments.Order
import PumpLaunchTrader.Segments.Pruning
import PumpLaunchTrader.Engine.DeveloperIndices
import PumpLaunchTrader.Engine.Archived
import PumpLaunchTrader.Engine.Signatures
import PumpLaunchTrader.Ingest.SlotGaps
import PumpLaunchTrader.Ingest.ShredReconciliation
import PumpLaunchTrader.Features.Windows
import PumpLaunchTrader.Features.CohortRanks
import PumpLaunchTrader.Decision.Arming
import PumpLaunchTrader.Storage.ReplayOrder
import PumpLaunchTrader.Storage.CsvExport
import PumpLaunchTrader.Normalizer.HolderEvents
import PumpLaunchTrader.Normalizer.CurveArrival
import PumpLaunchTrader.Normalizer.TradeAmounts
import PumpLaunchTrader.Features.VectorHash
import PumpLaunchTrader.Storage.FilteredReading
import PumpLaunchTrader.Storage.FeatureStore
import PumpLaunchTrader.Stream.ReconnectBound
import PumpLaunchTrader.Stream.RelayOrder
import PumpLaunchTrader.Router.FairSchedule
import PumpLaunchTrader.Router.Accounting
import PumpLaunchTrader.Strategy.Splits
import PumpLaunchTrader.Strategy.ForwardEvidence
import PumpLaunchTrader.Strategy.ReviewGates
import PumpLaunchTrader.Storage.GarbageCollection
import PumpLaunchTrader.Strategy.PromotionAgreement
import PumpLaunchTrader.Segments.Truncation
import PumpLaunchTrader.Features.DiagnosticRisk
import PumpLaunchTrader.Holder.RankingOrder
import PumpLaunchTrader.Holder.CostBasisConservation
import PumpLaunchTrader.Engine.CreatorHoldings
import PumpLaunchTrader.Holder.Concentration
import PumpLaunchTrader.Engine.ClusterCache
import PumpLaunchTrader.ShredExit.SellerClass
import PumpLaunchTrader.ShredExit.Rates
import PumpLaunchTrader.ShredExit.Buckets
import PumpLaunchTrader.Normalizer.PriorityFees
import PumpLaunchTrader.Router.TopKeys
import PumpLaunchTrader.Idl.PrefixFree
import PumpLaunchTrader.Idl.Termination
import PumpLaunchTrader.Executor.Labels
import PumpLaunchTrader.Executor.Live
import PumpLaunchTrader.Holder.Audit
import PumpLaunchTrader.Risk.DataGap
import PumpLaunchTrader.Storage.DatasetIndex
import PumpLaunchTrader.Storage.Retention
import PumpLaunchTrader.Supervisor.LiveData
import PumpLaunchTrader.Supervisor.Queues
import PumpLaunchTrader.Supervisor.SnapshotThinning
