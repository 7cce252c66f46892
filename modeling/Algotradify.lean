import Algotradify.Paper.PipelineOrders
import Algotradify.Core.ApprovalHistory
import Algotradify.Core.ApprovalInterleaving
import Algotradify.Paper.ClosingFills
import Algotradify.Paper.Reconciliation
import Algotradify.Paper.JournalRebuild
import Algotradify.Core.FillEmitters
import Algotradify.Core.RiskHalts
import Algotradify.Orders.ReconciliationRaces
import Algotradify.Execution.PretradeLimits
import Algotradify.Paper.BundleIntegrity
import Algotradify.Core.ManagedPositions
import Algotradify.Core.Breakers
import Algotradify.Core.RunLock
import Algotradify.Execution.TradeKeys
import Algotradify.Core.AuditAppends
import Algotradify.Core.EventLog
import Algotradify.Execution.Safety
import Algotradify.Approvals.Creation
import Algotradify.Approvals.DryRun
import Algotradify.Execution.PaperBroker
import Algotradify.Agents.ChangedFiles
import Algotradify.Agents.PatchApproval
import Algotradify.Agents.TaskStore
import Algotradify.Paper.AverageFillPrice
import Algotradify.Paper.AverageEntryPrice
import Algotradify.Paper.OrderingGrammar
import Algotradify.Paper.SnapshotSources
import Algotradify.Paper.SlippageAverage
import Algotradify.Core.HoldingPairs
import Algotradify.Execution.FailClosed
import Algotradify.Candidates.Matching
import Algotradify.Core.TrailPaths
import Algotradify.Core.OrderLifecycle
import Algotradify.Core.BlockerRuns
import Algotradify.Movement.PipelineRuns
import Algotradify.Market.QuoteReadings
import Algotradify.Market.MonitorFlags
import Algotradify.Outcomes.FillLifecycle
import Algotradify.Candidates.RankScores
import Algotradify.Broker.Readiness
import Algotradify.Candidates.QualityRecords
import Algotradify.Backtest.ExitOrder
import Algotradify.Backtest.WalkForward
import Algotradify.Core.TickViews
import Algotradify.Core.EmptyBook
import Algotradify.Backtest.FillBounds
import Algotradify.Core.FillPromises
