/- Example8/Strategy
   digest: The strategy of example-8: from market data it sends up to 16 limit orders, spaced in
     time, at an offset below the best bid. -/
import RoqSamples.Example3.Model

set_option autoImplicit false
set_option relaxedAutoImplicit false

namespace RoqSamples.Example8

open RoqSamples.Arith (Double)
open RoqSamples.Client
open RoqSamples.Example3 (Layer)

/-- The flags that the strategy reads, with their defaults. -/
structure Settings where
  exchange : String := "deribit"
  symbol : String := "BTC-PERPETUAL"
  account : String := "A1"
  quantity : Double := 1
  tickOffset : Int := 100
  topOfBook : Bool := false

/-- Only the book reads the layers of an update. -/
structure MarketByPriceUpdate (Layers : Type) where
  updateType : UpdateType
  layers : Layers

/-- The order book of the client library, which is not part of the samples. `extract` fills a
buffer of one layer as far as there are layers. -/
structure MarketByPrice (Book Layers : Type) where
  create : String → String → Book
  update : Book → MarketByPriceUpdate Layers → Book
  extract : Book → Option Layer

/-- The events that the strategy handles. Market data tells whether a send would go through; an
OrderAck is only logged. -/
inductive Event (Layers : Type)
  | downloadBegin (account : String)
  | downloadEnd (account : String) (maxOrderId : Nat)
  | referenceData (tickSize : Double)
  | topOfBook (receiveTime : Int) (layer : Layer) (connected : Bool)
  | marketByPriceUpdate (receiveTime : Int) (marketByPriceUpdate : MarketByPriceUpdate Layers)
      (connected : Bool)
  | orderAck

structure Strategy (Book : Type) where
  settings : Settings
  downloading : Bool := false
  orderId : Nat := 0
  tickSize : Double := .nan
  marketByPrice : Book
  nextRequest : Int := 0
  countdown : Nat := 16

namespace Strategy

variable {Book Layers : Type} (mbp : MarketByPrice Book Layers)
  (compare : Double → Double → Ordering)

def new (settings : Settings) : Strategy Book where
  settings := settings
  marketByPrice := mbp.create settings.exchange settings.symbol

def nanosecondsPerSecond : Int := 10 ^ 9

/-- `DELAY_1`: the warmup. -/
def warmupDelay : Int := 30 * nanosecondsPerSecond

/-- `DELAY_2`: from one order to the next. -/
def requestDelay : Int := 100 * nanosecondsPerSecond

def price (s : Strategy Book) (layer : Layer) : Double :=
  layer.bidPrice - .num s.settings.tickOffset * s.tickSize

def createOrderRequest (s : Strategy Book) (orderId : Nat) (layer : Layer) : CreateOrder where
  account := s.settings.account
  orderId := orderId
  exchange := s.settings.exchange
  symbol := s.settings.symbol
  side := .buy
  maxShowQuantity := .nan
  orderType := .limit
  timeInForce := .gtc
  executionInstructions := []
  quantity := s.settings.quantity
  price := s.price layer
  stopPrice := .nan
  leverage := .nan
  strategyId := 0

/-- A send that fails leaves the strategy with the order id that it took. Times are nanoseconds
whose sums stay within 64 bits. -/
def createOrder (s : Strategy Book) (receiveTime : Int) (layer : Layer) (connected : Bool) :
    Strategy Book × List CreateOrder :=
  if s.countdown = 0 then (s, [])
  else if s.nextRequest ≠ 0 then
    if receiveTime < s.nextRequest then (s, [])
    else if compare s.tickSize 0 = .eq then (s, [])
    else
      let orderId := uint64 (s.orderId + 1)
      if connected then
        ({ s with
            orderId
            countdown := s.countdown - 1
            nextRequest := receiveTime + requestDelay },
          [s.createOrderRequest orderId layer])
      else ({ s with orderId }, [])
  else ({ s with nextRequest := receiveTime + warmupDelay }, [])

def handle (s : Strategy Book) : Event Layers → Strategy Book × List CreateOrder
  | .downloadBegin account =>
      (if s.settings.account = account then { s with downloading := true } else s, [])
  | .downloadEnd account maxOrderId =>
      (if s.settings.account = account then
          { s with orderId := max s.orderId (uint64 maxOrderId), downloading := false }
        else s, [])
  | .referenceData tickSize => ({ s with tickSize }, [])
  | .topOfBook receiveTime layer connected =>
      if s.settings.topOfBook then s.createOrder compare receiveTime layer connected else (s, [])
  | .marketByPriceUpdate receiveTime update connected =>
      if s.settings.topOfBook then (s, [])
      else
        let book := mbp.update s.marketByPrice update
        if update.updateType ≠ .incremental then ({ s with marketByPrice := book }, [])
        else
          match mbp.extract book with
          | none => ({ s with marketByPrice := book }, [])
          | some layer =>
              { s with marketByPrice := book }.createOrder compare receiveTime layer connected
  | .orderAck => (s, [])

/-- The strategy after some events. -/
def after (settings : Settings) (events : List (Event Layers)) : Strategy Book :=
  events.foldl (fun s event => (s.handle mbp compare event).1) (new mbp settings)

end Strategy

end RoqSamples.Example8
