import RoqSamples.Algo.Dispatcher
import RoqSamples.Algo.Framework
import RoqSamples.Algo.IndexBounds
import RoqSamples.Algo.IndexRefinement
import RoqSamples.Algo.Indexed
import RoqSamples.Algo.Strategy
import RoqSamples.Algo.StrategyRules
import RoqSamples.Algo.TargetRefinement
import RoqSamples.AlgoProto.Bridge
import RoqSamples.AlgoProto.Configuration
import RoqSamples.AlgoProto.Directory
import RoqSamples.AlgoProto.IndexSafety
import RoqSamples.AlgoProto.OrderIds
import RoqSamples.AlgoProto.OrderKeeping
import RoqSamples.AlgoProto.OrderLifecycle
import RoqSamples.AlgoProto.Parties
import RoqSamples.AlgoProto.Readiness
import RoqSamples.AlgoProto.Routing
import RoqSamples.AlgoProto.Sources
import RoqSamples.AlgoProto.SpreadPricing
import RoqSamples.AlgoProto.UserOrders
import RoqSamples.Arith.Bits
import RoqSamples.Arith.Rounding
import RoqSamples.Arith.Smoothing
import RoqSamples.Arith.Span
import RoqSamples.Arith.TickGrid
import RoqSamples.Client.Messages
import RoqSamples.Client.Utils
import RoqSamples.Example2.AverageBounds
import RoqSamples.Example2.Instrument
import RoqSamples.Example2.Readiness
import RoqSamples.Example3.AverageBounds
import RoqSamples.Example3.AverageMemory
import RoqSamples.Example3.DownloadPosition
import RoqSamples.Example3.Instrument
import RoqSamples.Example3.OrderRequests
import RoqSamples.Example3.PositionBound
import RoqSamples.Example3.Reconnect
import RoqSamples.Example3.SampleRate
import RoqSamples.Example3.Signals
import RoqSamples.Example3.Strategy
import RoqSamples.Example3.WorkingOrder
import RoqSamples.Example7.PublishedWindow
import RoqSamples.Example7.Strategy
import RoqSamples.Example8.OrderPacing
import RoqSamples.Example8.Strategy
import RoqSamples.Example8.WellFormedOrders
import RoqSamples.Execution.Calls
import RoqSamples.Execution.Closing
import RoqSamples.Execution.CoarseClock
import RoqSamples.Execution.Components
import RoqSamples.Execution.Framing
import RoqSamples.Execution.KeyedStore
import RoqSamples.Execution.Prompts
import RoqSamples.Execution.Runs
import RoqSamples.Execution.SlidingWindow
import RoqSamples.Execution.Switches
import RoqSamples.Execution.Throttle
import RoqSamples.Import.Base64
import RoqSamples.Import.Base64Loops
import RoqSamples.Import.Base64Text
import RoqSamples.Import.FileFormat
import RoqSamples.Import.Processor
import RoqSamples.IoContext.Server
import RoqSamples.IoContext.SessionLife
import RoqSamples.IoContext.Subscriptions
import RoqSamples.Maker.AckMatching
import RoqSamples.Maker.CrossedQuotes
import RoqSamples.Maker.CurrentFacts
import RoqSamples.Maker.Gateway
import RoqSamples.Maker.OrderRecords
import RoqSamples.Maker.Position
import RoqSamples.Maker.Quote
import RoqSamples.Maker.QuoteArithmetic
import RoqSamples.Maker.QuoteRepresentation
import RoqSamples.Maker.RateLimit
import RoqSamples.Maker.RequestAtomicity
import RoqSamples.Maker.RequestCauses
import RoqSamples.Maker.Requests
import RoqSamples.Maker.RoundAway
import RoqSamples.Maker.SingleLiveOrder
import RoqSamples.Maker.Strategy
import RoqSamples.Maker.TargetDelivery
import RoqSamples.Polling.Lifecycle
import RoqSamples.Polling.SingleOrder
import RoqSamples.Polling.Strategy
import RoqSamples.Polling.Timing
import RoqSamples.Strategy1.Calls
import RoqSamples.Strategy1.Leg
import RoqSamples.Strategy1.LegCompletion
import RoqSamples.Strategy1.LegDiscipline
import RoqSamples.Strategy1.LegProgress
import RoqSamples.Strategy1.LegSteps
import RoqSamples.Strategy1.LegTokens
import RoqSamples.Strategy1.Retracement
import RoqSamples.Strategy1.Strategy
import RoqSamples.Vwap.Isolation
import RoqSamples.Vwap.Processor
