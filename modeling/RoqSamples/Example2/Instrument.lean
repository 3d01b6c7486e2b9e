/- Example2/Instrument
   digest: The instrument of example-2: its readiness, its order book and its moving average. -/
import RoqSamples.Arith.Rounding
import RoqSamples.Example3.Instrument

set_option autoImplicit false
set_option relaxedAutoImplicit false

namespace RoqSamples.Example2

open RoqSamples.Arith (Double Rounding)
open RoqSamples.Client
open RoqSamples.Example3 (Layer SupportType)

/-- The `MAX_DEPTH` = 2 levels, from the best one on. -/
structure Depth where
  first : Layer := {}
  second : Layer := {}
  deriving DecidableEq

def Depth.layers (depth : Depth) : List Layer := [depth.first, depth.second]

/-- The order book of the client library. An extraction fills the depth and tells how many levels
the book has. -/
structure MarketByPrice (Book Update : Type) where
  empty : Book
  apply : Book → Update → Book
  extract : Book → Depth × Nat
  clear : Book → Book

/-- What the instrument receives. -/
inductive Message (Update : Type)
  | connected
  | disconnected
  | downloadBegin (account : String)
  | downloadEnd (account : String) (maxOrderId : Nat)
  | gatewayStatus (account : String) (available unavailable : List SupportType)
  | referenceData (exchange symbol : String) (tickSize minTradeVol multiplier : Double)
  | marketStatus (exchange symbol : String) (tradingStatus : TradingStatus)
  | marketByPriceUpdate (exchange symbol : String) (update : Update)
  deriving DecidableEq

/-- The reason to end in log::fatal. -/
inductive Fatal
  | probablySomethingWrong (exchange symbol : String) (depth : Depth)
  deriving DecidableEq

structure Instrument (Book : Type) where
  exchange : String
  symbol : String
  alpha : Double
  connected : Bool := false
  download : Bool := false
  tickSize : Double := .nan
  minTradeVol : Double := .nan
  multiplier : Double := .nan
  tradingStatus : TradingStatus := .undefined
  marketData : Bool := false
  depth : Depth := {}
  marketByPrice : Book
  midPrice : Double := .nan
  avgPrice : Double := .nan
  ready : Bool := false

namespace Instrument

variable {Book Update : Type} (rounding : Rounding) (mbp : MarketByPrice Book Update)

def new (exchange symbol : String) (alpha : Double) : Instrument Book where
  exchange := exchange
  symbol := symbol
  alpha := alpha
  marketByPrice := mbp.empty

variable [Utils]

def checkReady (instrument : Instrument Book) : Instrument Book :=
  { instrument with
    ready := instrument.connected && !instrument.download &&
      Utils.isGreater instrument.tickSize 0 && Utils.isGreater instrument.minTradeVol 0 &&
      Utils.isGreater instrument.multiplier 0 &&
      decide (instrument.tradingStatus = .«open») && instrument.marketData }

/-- The members that `reset` writes; the multiplier and the depth are not among them. -/
def reset (instrument : Instrument Book) : Instrument Book :=
  { instrument with
    connected := false
    download := false
    tickSize := .nan
    minTradeVol := .nan
    tradingStatus := .undefined
    marketData := false
    marketByPrice := mbp.clear instrument.marketByPrice
    midPrice := .nan
    avgPrice := .nan
    ready := false }

def onConnected (instrument : Instrument Book) : Instrument Book :=
  if instrument.connected then instrument
  else { instrument with connected := true }.checkReady

def onDisconnected (instrument : Instrument Book) : Instrument Book :=
  if instrument.connected then { instrument with connected := false }.reset mbp else instrument

/-- Downloads of an account are ignored. -/
def onDownloadBegin (instrument : Instrument Book) (account : String) : Instrument Book :=
  if account = "" then { instrument with download := true } else instrument

def onDownloadEnd (instrument : Instrument Book) (account : String) : Instrument Book :=
  if account = "" then { instrument with download := false }.checkReady else instrument

/-- The status of an account is ignored. -/
def onGatewayStatus (instrument : Instrument Book) (account : String)
    (available unavailable : List SupportType) : Instrument Book :=
  if account = "" then
    { instrument with
      marketData :=
        Example3.Instrument.supports [.referenceData, .marketStatus, .marketByPrice] available
          unavailable }.checkReady
  else instrument

def onReferenceData (instrument : Instrument Book) (tickSize minTradeVol multiplier : Double) :
    Instrument Book :=
  { instrument with
    tickSize := tickSize
    minTradeVol := minTradeVol
    multiplier := multiplier }.checkReady

def onMarketStatus (instrument : Instrument Book) (tradingStatus : TradingStatus) :
    Instrument Book :=
  { instrument with tradingStatus := tradingStatus }.checkReady

/-- The sums of the prices of both sides of all levels, weighted with their quantities, and of the
quantities. Every operation rounds its result. -/
def sums (depth : Depth) : Double × Double :=
  depth.layers.foldl (fun (sum1, sum2) layer =>
    (rounding (sum1 + rounding (rounding (layer.bidPrice * layer.bidQuantity) +
        rounding (layer.askPrice * layer.askQuantity))),
      rounding (sum2 + rounding (layer.bidQuantity + layer.askQuantity)))) (0, 0)

def weightedMid (depth : Depth) : Double :=
  rounding ((sums rounding depth).1 / (sums rounding depth).2)

/-- A one-sided market leaves the model alone. -/
def updateModel (instrument : Instrument Book) : Except Fatal (Instrument Book) :=
  let best := instrument.depth.first
  if Utils.isZero best.bidQuantity || Utils.isZero best.askQuantity then .ok instrument
  else if Utils.isLessOrEqual (rounding (best.askPrice - best.bidPrice)) 0 then
    .error (.probablySomethingWrong instrument.exchange instrument.symbol instrument.depth)
  else
    let midPrice := weightedMid rounding instrument.depth
    .ok { instrument with
      midPrice := midPrice
      avgPrice :=
        if instrument.avgPrice.isNaN then midPrice
        else
          rounding (rounding (instrument.alpha * midPrice) +
            rounding (rounding (1 - instrument.alpha) * instrument.avgPrice)) }

def onMarketByPriceUpdate (instrument : Instrument Book) (update : Update) :
    Except Fatal (Instrument Book) :=
  let book := mbp.apply instrument.marketByPrice update
  let (depth, size) := mbp.extract book
  let filled := { instrument with marketByPrice := book, depth := depth }
  if 0 < size ∧ instrument.ready = true then filled.updateModel rounding else .ok filled

def handle (instrument : Instrument Book) : Message Update → Except Fatal (Instrument Book)
  | .connected => .ok instrument.onConnected
  | .disconnected => .ok (instrument.onDisconnected mbp)
  | .downloadBegin account => .ok (instrument.onDownloadBegin account)
  | .downloadEnd account _ => .ok (instrument.onDownloadEnd account)
  | .gatewayStatus account available unavailable =>
      .ok (instrument.onGatewayStatus account available unavailable)
  | .referenceData _ _ tickSize minTradeVol multiplier =>
      .ok (instrument.onReferenceData tickSize minTradeVol multiplier)
  | .marketStatus _ _ tradingStatus => .ok (instrument.onMarketStatus tradingStatus)
  | .marketByPriceUpdate _ _ update => instrument.onMarketByPriceUpdate rounding mbp update

/-- The assertions of the handlers, which a release build does not evaluate. -/
def asserts (instrument : Instrument Book) : Message Update → Bool
  | .downloadBegin account => account = "" → instrument.download = false
  | .downloadEnd account _ => account = "" → instrument.download = true
  | .referenceData exchange symbol _ _ _ =>
      instrument.exchange = exchange ∧ instrument.symbol = symbol
  | .marketStatus exchange symbol _ =>
      instrument.exchange = exchange ∧ instrument.symbol = symbol
  | .marketByPriceUpdate exchange symbol _ =>
      instrument.exchange = exchange ∧ instrument.symbol = symbol
  | .connected | .disconnected | .gatewayStatus _ _ _ => true

end Instrument

end RoqSamples.Example2
