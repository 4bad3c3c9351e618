import QuantAgent.Economic.FundingOnce
import QuantAgent.Economic.LookAhead
import QuantAgent.Economic.Exposure
import QuantAgent.Signals.Lifecycle
import QuantAgent.Approval.Lifecycle
import QuantAgent.Approval.Lease
import QuantAgent.AccountWatch.Equity
import QuantAgent.AccountWatch.Freshness
import QuantAgent.Supervisor.Drained
import QuantAgent.Supervisor.Alternation
import QuantAgent.Microstructure.OrderBook
import QuantAgent.Economic.RoundTripLedger
import QuantAgent.Replay.Causality
import QuantAgent.CausalClock.Soundness
import QuantAgent.Microstructure.OrphanGaps
import QuantAgent.Microstructure.Completeness
import QuantAgent.Lifecycle.FailedPersist
import QuantAgent.SearchBudget.Budget
import QuantAgent.Backtest.Causality
import QuantAgent.Validation.Ingestion
import QuantAgent.Validation.OneShotRuns
import QuantAgent.Grid.DecisionBoundary
import QuantAgent.Execution.IntentFields
import QuantAgent.Execution.DryRunLedger
import QuantAgent.Execution.EntryRuns
import QuantAgent.Execution.Authorizations
import QuantAgent.Economic.OrderCausality
import QuantAgent.Economic.StandingExits
import QuantAgent.MarketWatch.ShadowFunding
import QuantAgent.MarketWatch.ShadowRoundTrip
import QuantAgent.MarketWatch.CoarseOutcomes
import QuantAgent.MarketWatch.ShadowSealed
import QuantAgent.Discovery.Decisions
import QuantAgent.Discovery.Isotonic
import QuantAgent.Inference.BlockBootstrap
import QuantAgent.Inference.JointBootstrap
import QuantAgent.Inference.FamilySelection
import QuantAgent.Inference.ConditionalTest
import QuantAgent.Backtest.Frames
import QuantAgent.MarketWatch.GridPlans
import QuantAgent.Forward.MovementOutcomes
import QuantAgent.Forward.Export
import QuantAgent.Economic.TimeExposure
import QuantAgent.Features.SmoothedBounds
import QuantAgent.MarketWatch.DirectionalPlans
