/- Example3/Model
   digest: The moving averages of example-3 and the signals that its model takes from the depth. -/
import RoqSamples.Client.Utils

set_option autoImplicit false
set_option relaxedAutoImplicit false

namespace RoqSamples.Example3

open RoqSamples.Arith (Double)
open RoqSamples.Client

/-- One level of the order book; a level that does not exist has no price and no quantity. -/
structure Layer where
  bidPrice : Double := .nan
  bidQuantity : Double := 0
  askPrice : Double := .nan
  askQuantity : Double := 0
  deriving DecidableEq

/-- The `MAX_DEPTH` = 3 levels, from the best one on. -/
structure Depth where
  first : Layer := {}
  second : Layer := {}
  third : Layer := {}
  deriving DecidableEq

def Depth.layers (depth : Depth) : List Layer := [depth.first, depth.second, depth.third]

/-- The flags that the strategy reads, with their defaults; `sample_freq` is in nanoseconds. -/
structure Settings where
  exchange : String := "deribit"
  symbol : String := "BTC-PERPETUAL"
  account : String := "A1"
  sampleFreq : Int := 10 ^ 9
  emaAlpha : Double := .num (33 / 100)
  warmup : Nat := 120
  enableTrading : Bool := false
  allowPriceInversion : Bool := false

structure EMA where
  alpha : Double
  warmup : Nat
  value : Double := .nan
  countdown : Nat
  deriving DecidableEq

namespace EMA

def new (alpha : Double) (warmup : Nat) : EMA where
  alpha := alpha
  warmup := warmup
  countdown := warmup

def reset (ema : EMA) : EMA :=
  { ema with value := .nan, countdown := ema.warmup }

def isReady (ema : EMA) : Bool := ema.countdown = 0

/-- The countdown is decremented down to zero. -/
def update (ema : EMA) (value : Double) : EMA :=
  { ema with
    countdown := max 1 ema.countdown - 1
    value :=
      if ema.value.isNaN then value else ema.alpha * value + (1 - ema.alpha) * ema.value }

end EMA

structure Model where
  bidEma : EMA
  askEma : EMA
  selling : Bool := false
  buying : Bool := false
  deriving DecidableEq

namespace Model

def new (settings : Settings) : Model where
  bidEma := EMA.new settings.emaAlpha settings.warmup
  askEma := EMA.new settings.emaAlpha settings.warmup

def reset (model : Model) : Model where
  bidEma := model.bidEma.reset
  askEma := model.askEma.reset
  selling := false
  buying := false

/-- Full depth is required. -/
def validate [Utils] (depth : Depth) : Bool :=
  depth.layers.foldl (fun value layer =>
    value && Utils.isGreater layer.bidQuantity 0 && Utils.isGreater layer.askQuantity 0) true

/-- The average price of the levels, weighted with their quantities. -/
def weightedBid (depth : Depth) : Double :=
  let (sum1, sum2) := depth.layers.foldl (fun (sum1, sum2) layer =>
    (sum1 + layer.bidQuantity * layer.bidPrice, sum2 + layer.bidQuantity)) (0, 0)
  sum1 / sum2

def weightedAsk (depth : Depth) : Double :=
  let (sum1, sum2) := depth.layers.foldl (fun (sum1, sum2) layer =>
    (sum1 + layer.askQuantity * layer.askPrice, sum2 + layer.askQuantity)) (0, 0)
  sum1 / sum2

/-- The first half of `update`: a falling market ends with a signal to buy. -/
def updateSelling (model : Model) (ready : Bool) (askFast bidSlow askSlow : Double) :
    Model × Side :=
  if model.selling then
    if ready && askSlow.lt askFast then ({ model with selling := false }, .buy)
    else (model, .undefined)
  else if askFast.lt bidSlow && askFast.lt askSlow then
    ({ model with selling := true, buying := false }, .undefined)
  else (model, .undefined)

/-- The second half of `update`; once `buying` is set it sells while the bid is above its
average. -/
def updateBuying (model : Model) (result : Side) (ready : Bool)
    (bidFast bidSlow askSlow : Double) : Model × Side :=
  if model.buying then
    if ready && bidSlow.lt bidFast then ({ model with buying := false }, .sell)
    else (model, result)
  else if askSlow.lt bidFast && bidSlow.lt bidFast then
    ({ model with buying := true, selling := false }, result)
  else (model, result)

def update [Utils] (model : Model) (depth : Depth) : Model × Side :=
  if validate depth then
    let bidFast := weightedBid depth
    let bidEma := model.bidEma.update bidFast
    let askFast := weightedAsk depth
    let askEma := model.askEma.update askFast
    let ready := bidEma.isReady && askEma.isReady
    let averaged := { model with bidEma := bidEma, askEma := askEma }
    let (model, result) := averaged.updateSelling ready askFast bidEma.value askEma.value
    model.updateBuying result ready bidFast bidEma.value askEma.value
  else (model, .undefined)

end Model

end RoqSamples.Example3
