/- Strategy1/Strategy
   digest: The two managed orders of the strategy, the events that reach them, and what they do. -/
import RoqSamples.Strategy1.LegDiscipline

set_option autoImplicit false
set_option relaxedAutoImplicit false

namespace RoqSamples.Strategy1

open RoqSamples.Arith (Double)
open RoqSamples.Client
open RoqSamples.Strategy1.LegDiscipline (exactly successes)

/-- The members `high_` and `low_`. -/
inductive LegName
  | high | low
  deriving DecidableEq

namespace LegName

def other : LegName → LegName
  | .high => .low
  | .low => .high

def side : LegName → Side
  | .high => .sell
  | .low => .buy

end LegName

/-- The flags of the sample. -/
structure StrategySettings extends Settings where
  quantity : Double
  priceHigh : Double
  priceLow : Double

namespace StrategySettings

/-- The price with which a leg is constructed. -/
def price (settings : StrategySettings) : LegName → Double
  | .high => settings.priceHigh
  | .low => settings.priceLow

/-- The price to which a leg is modified when the other leg has finished: 1/3 pull-back from the
high for the low leg, and 1/3 pull-back from the low for the high leg. -/
def pullBack (settings : StrategySettings) : LegName → Double
  | .low => (settings.priceLow + 2 * settings.priceHigh) / 3
  | .high => (2 * settings.priceLow + settings.priceHigh) / 3

end StrategySettings

/-- What the record of a run keeps: what a handler did, and the price of a request whose success
was delivered. -/
inductive Entry
  | did (effect : Effect)
  | acknowledged (price : Double)

/-- Both legs, with a record of all that has happened, which no handler reads. -/
structure Strategy where
  high : Session
  low : Session
  record : List (LegName × Entry)

/-- Everything that can reach the strategy. A market event is delivered to both legs. An
OrderUpdate, of one of the two orders or of any other, reaches the handler of its leg and the one of
the strategy; the framework decides which of them comes first. -/
inductive StrategyEvent
  | market (ready : Bool) (tradingStatus : TradingStatus) (high low : Link)
  | response (leg : LegName) (index : Nat) (response : Response) (link : Link)
  | timer (leg : LegName) (index : Nat) (link : Link)
  | orderUpdate (order : Option LegName) (orderStatus : OrderStatus) (legFirst : Bool) (link : Link)

namespace Strategy

variable (settings : StrategySettings)

def leg (s : Strategy) : LegName → Session
  | .high => s.high
  | .low => s.low

def setLeg (s : Strategy) (session : Session) : LegName → Strategy
  | .high => { s with high := session }
  | .low => { s with low := session }

/-- Whether log::fatal has been reached, or the behaviour has become undefined. -/
def stopped (s : Strategy) : Bool := s.high.ended || s.low.ended

/-- `Strategy::operator()(Event<AddMarket>)`. -/
def onAddMarket : Strategy where
  high := .initial .sell settings.quantity settings.priceHigh
  low := .initial .buy settings.quantity settings.priceLow
  record := []

/-- What is recorded of a call. -/
def entries (session : Session) (e : Event) : List Entry :=
  (successes session e).map (fun success => .acknowledged success.2) ++
    (session.effects exactly settings.toSettings e).map .did

/-- Call a handler of a leg. After that no handler is called any more. -/
def call (s : Strategy) (name : LegName) (e : Event) : Option Strategy :=
  if s.stopped then some s
  else
    ((s.leg name).next exactly settings.toSettings e).map fun session =>
      { s.setLeg session name with
        record := s.record ++ (entries settings (s.leg name) e).map fun entry => (name, entry) }

/-- `Leg::operator()(Event<OrderUpdate>)` of the leg whose order is updated. -/
def onLegOrderUpdate (s : Strategy) (order : Option LegName) (orderStatus : OrderStatus) :
    Option Strategy :=
  match order with
  | some name => s.call settings name (.orderUpdate orderStatus)
  | none => some s

/-- `Strategy::operator()(Event<OrderUpdate>)`. -/
def onOrderUpdate (s : Strategy) (link : Link) : Option Strategy :=
  let high := s.high.leg.isFinished
  let low := s.low.leg.isFinished
  if high && low then some s
  else if high && !low then
    s.call settings .low (.modifyOrder (settings.pullBack .low) link)
  else if !high && low then
    s.call settings .high (.modifyOrder (settings.pullBack .high) link)
  else some s

def handle (s : Strategy) : StrategyEvent → Option Strategy
  | .market ready tradingStatus high low => do
      let s ← s.call settings .high (.market ready tradingStatus high)
      s.call settings .low (.market ready tradingStatus low)
  | .response leg index response link => s.call settings leg (.response index response link)
  | .timer leg index link => s.call settings leg (.timer index link)
  | .orderUpdate order orderStatus true link => do
      let s ← s.onLegOrderUpdate settings order orderStatus
      s.onOrderUpdate settings link
  | .orderUpdate order orderStatus false link => do
      let s ← s.onOrderUpdate settings link
      s.onLegOrderUpdate settings order orderStatus

def next (s : Strategy) (e : StrategyEvent) : Option Strategy :=
  if s.stopped then none else s.handle settings e

end Strategy

end RoqSamples.Strategy1
