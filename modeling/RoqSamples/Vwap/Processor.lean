/- Vwap/Processor
   digest: The vwap processor keeps one book for each symbol; its lines depend on one instrument
     alone as long as no symbol is traded on two exchanges. -/
import RoqSamples.Example3.Model
import RoqSamples.Execution.KeyedStore

set_option autoImplicit false
set_option relaxedAutoImplicit false

namespace RoqSamples.Vwap

open RoqSamples.Arith (Double)
open RoqSamples.Example3 (Layer)
open RoqSamples.Execution.Calls (Map)
open RoqSamples.Execution.KeyedStore

/-- Only the book reads the layers of an update. -/
structure MarketByPriceUpdate (Layers : Type) where
  exchange : String
  symbol : String
  layers : Layers

/-- The order book of the client library, which is not part of the samples. -/
structure MarketByPrice (Book Layers : Type) where
  create : String → String → Book
  update : Book → MarketByPriceUpdate Layers → Book
  computeVwap : Book → Double → Layer

structure Event (Layers : Type) where
  receiveTime : Int
  marketByPriceUpdate : MarketByPriceUpdate Layers

/-- One line of the output. -/
structure Line where
  receiveTime : Int
  symbol : String
  bidPrice : Double
  bidQuantity : Double
  askPrice : Double
  askQuantity : Double
  deriving DecidableEq

structure Processor (Book : Type) where
  quantity : Double
  marketByPrice : Map String Book := ∅

section Processor

variable {Book Layers : Type} (mbp : MarketByPrice Book Layers)

def line (event : Event Layers) (layer : Layer) : Line where
  receiveTime := event.receiveTime
  symbol := event.marketByPriceUpdate.symbol
  bidPrice := layer.bidPrice
  bidQuantity := layer.bidQuantity
  askPrice := layer.askPrice
  askQuantity := layer.askQuantity

/-- The book of a symbol; the first update of the symbol creates it. -/
def Processor.getMarketByPrice (p : Processor Book) (value : MarketByPriceUpdate Layers) : Book :=
  match p.marketByPrice.lookup value.symbol with
  | some book => book
  | none => mbp.create value.exchange value.symbol

/-- The handler updates the book in place and prints a line. -/
def Processor.handle (p : Processor Book) (event : Event Layers) : Processor Book × Line :=
  let book := mbp.update (p.getMarketByPrice mbp event.marketByPriceUpdate)
    event.marketByPriceUpdate
  ({ p with marketByPrice := p.marketByPrice.insert event.marketByPriceUpdate.symbol book },
    line event (mbp.computeVwap book p.quantity))

/-- The lines for an event log. -/
def Processor.dispatch (p : Processor Book) : List (Event Layers) → List Line
  | [] => []
  | event :: log => (p.handle mbp event).2 :: dispatch (p.handle mbp event).1 log

/-- The updates of one instrument. -/
def ofInstrument (exchange symbol : String) (log : List (Event Layers)) : List (Event Layers) :=
  log.filter fun event => event.marketByPriceUpdate.exchange = exchange ∧
    event.marketByPriceUpdate.symbol = symbol

/-- A fresh book with exactly the updates of one instrument. -/
def ownBook (exchange symbol : String) (log : List (Event Layers)) : Book :=
  (ofInstrument exchange symbol log).foldl (fun book event =>
    mbp.update book event.marketByPriceUpdate) (mbp.create exchange symbol)

/-- Each line is that of the instrument of its update, as if there were no other. -/
def Isolated (quantity : Double) (log : List (Event Layers)) : Prop :=
  ∀ past event rest, log = past ++ event :: rest →
    (({ quantity } : Processor Book).dispatch mbp log)[past.length]? =
      some (line event (mbp.computeVwap
        (ownBook mbp event.marketByPriceUpdate.exchange event.marketByPriceUpdate.symbol
          (past ++ [event])) quantity))

end Processor

/-- No symbol comes from two exchanges. -/
def OneExchange {Layers : Type} (log : List (Event Layers)) : Prop :=
  ∀ first ∈ log, ∀ second ∈ log,
    first.marketByPriceUpdate.symbol = second.marketByPriceUpdate.symbol →
      first.marketByPriceUpdate.exchange = second.marketByPriceUpdate.exchange

end RoqSamples.Vwap
