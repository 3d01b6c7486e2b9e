/- Example3/Strategy
   digest: The strategy of example-3: it samples its model and trades the signals, with one order
     working at a time. -/
import RoqSamples.Example3.Instrument

set_option autoImplicit false
set_option relaxedAutoImplicit false

namespace RoqSamples.Example3

open RoqSamples.Arith (Double)
open RoqSamples.Client

/-- The requests that have been sent. -/
inductive Effect
  | createOrder (createOrder : CreateOrder)
  | cancelOrder (cancelOrder : CancelOrder)
  deriving DecidableEq

/-- The events of the client. A timer tells whether a send would go through; the source of a
message is the gateway it comes from. -/
inductive Event (Update : Type)
  | timer (now : Int) (connected : Bool)
  | ready
  | message (source : Nat) (message : Message Update)
  | orderAck (orderAck : OrderAck)
  deriving DecidableEq

structure Strategy (Book : Type) where
  settings : Settings
  instrument : Instrument Book
  maxOrderId : Nat := 0
  model : Model
  nextSample : Int := 0
  workingOrderId : Nat := 0
  workingSide : Side := .undefined

/-- How a function is left: it returns, or NotConnected passes through it. -/
structure Outcome (Book : Type) where
  strategy : Strategy Book
  effects : List Effect := []
  result : Except NotConnected Unit := .ok ()

namespace Strategy

variable {Book Update : Type} (mbp : MarketByPrice Book Update)

def new (settings : Settings) : Strategy Book where
  settings := settings
  instrument := Instrument.new mbp settings
  model := Model.new settings

def cancelOrderRequest (s : Strategy Book) : CancelOrder where
  account := s.settings.account
  orderId := s.workingOrderId

def createOrderRequest (s : Strategy Book) (orderId : Nat) (side : Side) (price : Double) :
    CreateOrder where
  account := s.settings.account
  orderId := orderId
  exchange := s.settings.exchange
  symbol := s.settings.symbol
  side := side
  maxShowQuantity := .nan
  orderType := .limit
  timeInForce := .gtc
  executionInstructions := []
  quantity := s.instrument.minTradeVol
  price := price
  stopPrice := .nan
  leverage := .nan
  strategyId := 0

variable [Utils]

/-- The order id is taken before the send, the order works only after it. -/
def tryTrade (s : Strategy Book) (side : Side) (price : Double) (connected : Bool) :
    Outcome Book :=
  if s.settings.enableTrading = false then { strategy := s }
  else if s.workingOrderId ≠ 0 then
    if side ≠ s.workingSide then
      if connected then { strategy := s, effects := [.cancelOrder s.cancelOrderRequest] }
      else { strategy := s, result := .error .notConnected }
    else { strategy := s }
  else if s.instrument.canTrade side = false then { strategy := s }
  else
    let orderId := uint64 (s.maxOrderId + 1)
    let s := { s with maxOrderId := orderId }
    if connected then
      { strategy := { s with workingOrderId := orderId, workingSide := side }
        effects := [.createOrder (s.createOrderRequest orderId side price)] }
    else { strategy := s, result := .error .notConnected }

def updateModel (s : Strategy Book) (connected : Bool) : Outcome Book :=
  if s.instrument.ready then
    let (model, side) := s.model.update s.instrument.depth
    let s := { s with model := model }
    match side with
    | .undefined => { strategy := s }
    | .buy => s.tryTrade .buy s.instrument.bestBid connected
    | .sell => s.tryTrade .sell s.instrument.bestAsk connected
  else { strategy := { s with model := s.model.reset } }

def nanosecondsPerSecond : Int := 10 ^ 9

/-- The first timer only schedules the next sample; an exception leaves the schedule alone. Times
are nanoseconds whose sums stay within 64 bits. -/
def onTimer (s : Strategy Book) (now : Int) (connected : Bool) : Strategy Book × List Effect :=
  if now < s.nextSample then (s, [])
  else
    let outcome := if s.nextSample ≠ 0 then s.updateModel connected else { strategy := s }
    match outcome.result with
    | .ok _ =>
        let seconds := now.tdiv nanosecondsPerSecond
        let nextSample := seconds * nanosecondsPerSecond + outcome.strategy.settings.sampleFreq
        ({ outcome.strategy with nextSample := nextSample }, outcome.effects)
    | .error _ => (outcome.strategy, outcome.effects)

/-- Only the first gateway concerns the instrument. -/
def dispatch (s : Strategy Book) (source : Nat) (message : Message Update) :
    Except Fatal (Strategy Book) :=
  if source = 0 then
    (s.instrument.handle mbp message).map fun instrument => { s with instrument := instrument }
  else .ok s

/-- What the strategy does with a message besides dispatching it, whatever its source. -/
def react (s : Strategy Book) : Message Update → Strategy Book
  | .downloadEnd _ maxOrderId => { s with maxOrderId := max s.maxOrderId (uint64 maxOrderId) }
  | .orderUpdate orderUpdate =>
      if Utils.isOrderComplete orderUpdate.orderStatus then
        { s with workingOrderId := 0, workingSide := .undefined }
      else s
  | _ => s

def handle (s : Strategy Book) : Event Update → Except Fatal (Strategy Book × List Effect)
  | .timer now connected => .ok (s.onTimer now connected)
  | .ready | .orderAck _ => .ok (s, [])
  | .message source message =>
      (s.dispatch mbp source message).map fun s => (s.react message, [])

/-- What a timer can do: send nothing, cancel the working order, or create an order. -/
inductive Trades (s : Strategy Book) : Strategy Book → List Effect → Prop
  | none (model : Model) (nextSample : Int) (maxOrderId : Nat) :
      Trades s { s with model := model, nextSample := nextSample, maxOrderId := maxOrderId } []
  | cancel (model : Model) (nextSample : Int) {side : Side} (trading : s.settings.enableTrading)
      (working : s.workingOrderId ≠ 0) (opposite : side ≠ s.workingSide) :
      Trades s { s with model := model, nextSample := nextSample }
        [.cancelOrder s.cancelOrderRequest]
  | create (model : Model) (nextSample : Int) {side : Side} {price : Double}
      (trading : s.settings.enableTrading) (free : s.workingOrderId = 0)
      (allowed : s.instrument.canTrade side = true) :
      Trades s
        { s with
          model := model
          nextSample := nextSample
          maxOrderId := uint64 (s.maxOrderId + 1)
          workingOrderId := uint64 (s.maxOrderId + 1)
          workingSide := side }
        [.createOrder (s.createOrderRequest (uint64 (s.maxOrderId + 1)) side price)]

/-- What the strategy can do with an event, as far as it does not end in log::fatal. -/
inductive Step (s : Strategy Book) : Event Update → Strategy Book → List Effect → Prop
  | timer {now : Int} {connected : Bool} {t : Strategy Book} {effects : List Effect}
      (trades : Trades s t effects) : Step s (.timer now connected) t effects
  | ready : Step s .ready s []
  | orderAck {orderAck : OrderAck} : Step s (.orderAck orderAck) s []
  | message {source : Nat} {message : Message Update} {t : Strategy Book}
      (dispatched : s.dispatch mbp source message = .ok t) :
      Step s (.message source message) (t.react message) []

variable {mbp}

private theorem Trades.rescheduled {s t : Strategy Book} {effects : List Effect}
    (trades : Trades s t effects) (nextSample : Int) :
    Trades s { t with nextSample := nextSample } effects := by
  cases trades with
  | none model _ maxOrderId => exact .none model nextSample maxOrderId
  | cancel model _ trading working opposite =>
      exact .cancel model nextSample trading working opposite
  | create model _ trading free allowed => exact .create model nextSample trading free allowed

private theorem tryTrade_trades (s : Strategy Book) (model : Model) (side : Side) (price : Double)
    (connected : Bool) :
    let outcome := { s with model := model }.tryTrade side price connected
    Trades s outcome.strategy outcome.effects := by
  dsimp only
  unfold tryTrade
  dsimp only
  split
  · exact .none model _ _
  rename_i trading
  have trading : s.settings.enableTrading = true := by simpa using trading
  split
  · rename_i working
    split
    · rename_i opposite
      split
      · exact .cancel model _ trading working opposite
      · exact .none model _ _
    · exact .none model _ _
  · rename_i free
    have free : s.workingOrderId = 0 := not_not.mp free
    split
    · exact .none model _ _
    · rename_i allowed
      have allowed : s.instrument.canTrade side = true := by simpa using allowed
      split
      · exact .create model _ trading free allowed
      · exact .none model _ _

private theorem updateModel_trades (s : Strategy Book) (connected : Bool) :
    Trades s (s.updateModel connected).strategy (s.updateModel connected).effects := by
  unfold updateModel
  split
  · dsimp only
    split
    · exact .none _ _ _
    · exact tryTrade_trades s _ .buy _ connected
    · exact tryTrade_trades s _ .sell _ connected
  · exact .none _ _ _

private theorem onTimer_trades (s : Strategy Book) (now : Int) (connected : Bool) :
    Trades s (s.onTimer now connected).1 (s.onTimer now connected).2 := by
  unfold onTimer
  split
  · exact .none _ _ _
  · have sampled := updateModel_trades s connected
    dsimp only
    by_cases initialized : s.nextSample ≠ 0
    · rw [if_pos initialized]
      split
      · exact sampled.rescheduled _
      · exact sampled
    · rw [if_neg initialized]
      exact .none _ _ _

theorem handle_step {s t : Strategy Book} {e : Event Update} {effects : List Effect}
    (handled : s.handle mbp e = .ok (t, effects)) : Step mbp s e t effects := by
  cases e with
  | timer now connected =>
      have outcome : s.onTimer now connected = (t, effects) := Except.ok.inj handled
      have trades := onTimer_trades s now connected
      rw [outcome] at trades
      exact .timer trades
  | ready =>
      cases handled
      exact .ready
  | orderAck orderAck =>
      cases handled
      exact .orderAck
  | message source message =>
      obtain ⟨_, dispatched, same⟩ := ok_of_map handled
      cases same
      exact .message dispatched

/-- Messages reach the instrument from the first gateway only. -/
theorem dispatch_cases {s t : Strategy Book} {source : Nat} {message : Message Update}
    (dispatched : s.dispatch mbp source message = .ok t) :
    source ≠ 0 ∧ t = s ∨
      source = 0 ∧ ∃ instrument, s.instrument.handle mbp message = .ok instrument ∧
        t = { s with instrument := instrument } := by
  unfold dispatch at dispatched
  split at dispatched
  · rename_i first
    obtain ⟨instrument, handled, rfl⟩ := ok_of_map dispatched
    exact .inr ⟨first, instrument, handled, rfl⟩
  · rename_i other
    cases dispatched
    exact .inl ⟨other, rfl⟩

/-- Trading without a warmup, where a sample has as much weight as the average before it. -/
def halfWeights : Settings := { emaAlpha := .num (1 / 2), warmup := 0, enableTrading := true }

/-- Three levels on each side, from a best bid and a best ask on. -/
def levels (bid ask : ℚ) : Depth where
  first := { bidPrice := .num bid, bidQuantity := 1, askPrice := .num ask, askQuantity := 1 }
  second := {
    bidPrice := .num (bid - 1), bidQuantity := 1, askPrice := .num (ask + 1), askQuantity := 1 }
  third := {
    bidPrice := .num (bid - 2), bidQuantity := 1, askPrice := .num (ask + 2), askQuantity := 1 }

/-- The depth of a second, followed by the timer that samples it. -/
def sample (second : Int) (bid ask : ℚ) : List (Event Depth) :=
  [.message 0 (.marketByPriceUpdate "deribit" "BTC-PERPETUAL" (levels bid ask)),
    .timer (second * 10 ^ 9) true]

/-- The market falls and recovers, which is a signal to buy. -/
def recovery (second : Int) : List (Event Depth) :=
  sample second 90 91 ++ sample (second + 1) 100 101

end Strategy

end RoqSamples.Example3
