/- AlgoProto/Bridge
   digest: The bridge between the client and the strategies: routes, gateways, and who hears of
     what. -/
import RoqSamples.Algo.Strategy
import RoqSamples.Execution.Runs
import Mathlib.Data.List.Perm.Basic

set_option autoImplicit false
set_option relaxedAutoImplicit false

namespace RoqSamples.AlgoProto

open RoqSamples.Algo
open RoqSamples.Arith (Double)
open RoqSamples.Client (Utils)
open RoqSamples.Execution.Calls (Map emplace forEach)

/-- A market and the ids of the strategies that have it among their instruments. -/
structure Route (C : Caches) where
  market : Market C
  strategies : List Nat := []

/-- `Route::add`; an id that is there is not added again. -/
def Route.add {C : Caches} (strategyId : Nat) (route : Route C) : Route C :=
  { route with strategies := route.strategies.insert strategyId }

/-- The wrap-around of a `uint32_t`. -/
def uint32 (n : Nat) : Nat := n % 2 ^ 32

/-- `routes_` has the keys of the configuration; find_route fails for every other key. -/
structure Bridge (C : Caches) where
  config : Config
  routes : Key → Route C
  gateways : Nat → C.Gateway
  strategies : Map Nat (Spread C) := ∅
  routingIdToStrategy : Map String Nat := ∅
  strategyId : Nat := 0
  dispatcher : Dispatcher := {}

/-- The events of the client that the bridge handles, with their source. -/
inductive Event (C : Caches)
  | timer
  | gateway (source : Nat) (message : GatewayMessage C.Payload)
  | market (source : Nat) (key : Key) (message : MarketMessage C.Payload)
  | orderAck (source : Nat) (orderAck : OrderAck)
  | orderUpdate (source : Nat) (orderUpdate : OrderUpdate)

/-- The order id that an event reports. -/
def Event.orderId {C : Caches} : Event C → Nat
  | .gateway _ (.downloadEnd maxOrderId _) => maxOrderId
  | .orderAck _ ack => ack.orderId
  | .orderUpdate _ update => update.orderId
  | .timer | .gateway _ _ | .market _ _ _ => 0

/-- An event together with what the environment decides: the order in which a loop over an
unordered container comes to its elements, and which sends throw. -/
structure Occurrence (C : Caches) where
  event : Event C
  order : List Nat := []
  refuses : Request → Bool := fun _ => false

/-- What can be done with a bridge. Strategies call `set_target` while they handle an event; the
last action is a call of it for its own sake. -/
inductive Action (C : Caches)
  | createStrategy (request : CreateOrder)
  | event (occurrence : Occurrence C)
  | setTarget (strategyId position : Nat) (quantity price : Double) (refuses : Request → Bool)

namespace Bridge

variable {C : Caches}

/-- The bridge before the first strategy is created. -/
def initial (C : Caches) (config : Config) : Bridge C where
  config := config
  routes := fun key => { market := { market := C.newMarket key.1 key.2 } }
  gateways := fun _ => C.newGateway

def view (s : Bridge C) : View C where
  market := fun key => (s.routes key).market
  gateway := s.gateways

def context (refuses : Request → Bool) (s : Bridge C) : Context C where
  toView := s.view
  routed := s.config.exchangeSymbols
  refuses := refuses

/-- Call the strategy of an id. -/
def visit (call : Spread C → Dispatcher → (Spread C × Dispatcher) × Option Stop) (strategyId : Nat)
    (parties : Map Nat (Spread C) × Dispatcher) :
    (Map Nat (Spread C) × Dispatcher) × Option Stop :=
  match parties.1.lookup strategyId with
  | none => ((parties.1, parties.2.check false (.unknownStrategy strategyId)), none)
  | some spread =>
      let result := call spread parties.2
      ((parties.1.insert strategyId result.1.1, result.1.2), result.2)

variable [Utils]

/-- Hand a message over to a strategy. -/
def deliver (context : Context C) (source : Nat) (message : Message C) :
    Nat → Map Nat (Spread C) × Dispatcher → (Map Nat (Spread C) × Dispatcher) × Option Stop :=
  visit fun spread => (spread.hear source message).handle context source message

def withParties (result : (Map Nat (Spread C) × Dispatcher) × Option Stop) (s : Bridge C) :
    Bridge C × Option Stop :=
  ({ s with strategies := result.1.1, dispatcher := result.1.2 }, result.2)

/-- Hand a message over to strategies, one after the other. -/
def notify (refuses : Request → Bool) (order : List Nat) (source : Nat) (message : Message C)
    (s : Bridge C) : Bridge C × Option Stop :=
  s.withParties
    (forEach (deliver (s.context refuses) source message) order (s.strategies, s.dispatcher))

def check (holds : Bool) (assertion : Assertion) (s : Bridge C) : Bridge C :=
  { s with dispatcher := s.dispatcher.check holds assertion }

def report (orderId : Nat) (s : Bridge C) : Bridge C :=
  { s with dispatcher := s.dispatcher.report orderId }

/-- DownloadEnd alone reports an order id. -/
def reported (message : GatewayMessage C.Payload) (s : Bridge C) : Bridge C :=
  match message with
  | .downloadEnd maxOrderId _ => s.report maxOrderId
  | _ => s

/-- The cache of a gateway handles the message. -/
def cacheGateway (source : Nat) (message : GatewayMessage C.Payload) (s : Bridge C) : Bridge C :=
  { s with
    gateways := Function.update s.gateways source (C.onGateway message (s.gateways source)).1 }

/-- The market of a route handles the message. -/
def cacheMarket (source : Nat) (key : Key) (message : MarketMessage C.Payload) (s : Bridge C) :
    Bridge C :=
  { s with
    routes := Function.update s.routes key
      { s.routes key with market := ((s.routes key).market.handle source message).1 } }

/-- What the handlers of the gateway messages have in common. -/
def refresh (refuses : Request → Bool) (order : List Nat) (source : Nat)
    (message : GatewayMessage C.Payload) (s : Bridge C) : Bridge C × Option Stop :=
  if (C.onGateway message (s.gateways source)).2 then
    (s.cacheGateway source message).notify refuses order source (.gateway message)
  else (s.cacheGateway source message, none)

/-- The handlers of the gateway messages. -/
def onGateway (refuses : Request → Bool) (order : List Nat) (source : Nat)
    (message : GatewayMessage C.Payload) (s : Bridge C) : Bridge C × Option Stop :=
  (s.reported message).refresh refuses order source message

/-- `Bridge::dispatch` and `Route::dispatch`. -/
def dispatch (refuses : Request → Bool) (order : List Nat) (source : Nat) (key : Key)
    (message : MarketMessage C.Payload) (s : Bridge C) : Bridge C × Option Stop :=
  if key ∈ s.config.exchangeSymbols then
    if ((s.routes key).market.handle source message).2 then
      (s.cacheMarket source key message).notify refuses order source (.market key message)
    else (s.cacheMarket source key message, none)
  else (s.check false .unknownRoute, none)

/-- `find_strategy`. -/
def findStrategy (routingId : String) (s : Bridge C) : Option Nat :=
  (s.routingIdToStrategy.lookup routingId).filter fun strategyId => strategyId ∈ s.strategies

/-- The handlers of OrderAck and OrderUpdate. -/
def onOrder (refuses : Request → Bool) (source orderId : Nat) (routingId : String)
    (message : Message C) (s : Bridge C) : Bridge C × Option Stop :=
  match (s.report orderId).findStrategy routingId with
  | none => (s.report orderId, some (.fatal (.unexpectedRoutingId routingId)))
  | some strategyId => (s.report orderId).notify refuses [strategyId] source message

def onEvent (occurrence : Occurrence C) (s : Bridge C) : Bridge C × Option Stop :=
  match occurrence.event with
  | .timer => s.notify occurrence.refuses occurrence.order 0 .timer
  | .gateway source message => s.onGateway occurrence.refuses occurrence.order source message
  | .market source key message =>
      s.dispatch occurrence.refuses occurrence.order source key message
  | .orderAck source orderAck =>
      s.onOrder occurrence.refuses source orderAck.orderId orderAck.routingId (.orderAck orderAck)
  | .orderUpdate source orderUpdate =>
      s.onOrder occurrence.refuses source orderUpdate.orderId orderUpdate.routingId
        (.orderUpdate orderUpdate)

/-- A strategy that has been created under the latest id. -/
def addStrategy (spread : Spread C) (s : Bridge C) : Bridge C :=
  { s with
    strategies := emplace s.strategyId spread s.strategies
    routes := fun key =>
      if key ∈ spread.instruments.map Instrument.key then (s.routes key).add s.strategyId
      else s.routes key
    routingIdToStrategy := emplace spread.routingId s.strategyId s.routingIdToStrategy }

/-- `Factory::create`, and what `create_strategy` does with the strategy. -/
def instantiate (encode : Nat → String) (compare : Double → Double → Ordering)
    (strategy : StrategyConfig) (request : CreateOrder) (s : Bridge C) : Bridge C × Option Stop :=
  if strategy.type ≠ "spread" then (s, some (.unknownType strategy.type))
  else
    match Spread.create compare strategy.instruments (encode s.strategyId) request with
    | .error reason => (s, some (.fatal reason))
    | .ok spread =>
        if s.strategyId ∈ s.strategies then
          (s.check (request.routingId = "") .routingIdGiven, some .strategyIdTaken)
        else ((s.check (request.routingId = "") .routingIdGiven).addStrategy spread, none)

/-- The next strategy id is taken. -/
def numbered (s : Bridge C) : Bridge C := { s with strategyId := uint32 (s.strategyId + 1) }

/-- `create_strategy`. `client::Base64::encode` is a parameter. -/
def createStrategy (encode : Nat → String) (compare : Double → Double → Ordering)
    (request : CreateOrder) (s : Bridge C) : Bridge C × Option Stop :=
  match s.config.strategies.lookup request.symbol with
  | none => (s, some (.fatal (.invalidSymbol request.symbol)))
  | some strategy => s.numbered.instantiate encode compare strategy request

/-- The elements of the container that the handler of an event loops over. -/
def audience (s : Bridge C) : Event C → List Nat
  | .timer | .gateway _ _ => s.strategies.keys
  | .market _ key _ => (s.routes key).strategies
  | .orderAck _ _ | .orderUpdate _ _ => []

/-- A loop comes to every element once, and order ids are 64 bits wide. -/
def Possible (s : Bridge C) : Action C → Prop
  | .createStrategy _ => True
  | .event occurrence =>
      occurrence.order.Perm (s.audience occurrence.event) ∧ occurrence.event.orderId < 2 ^ 64
  | .setTarget strategyId _ _ _ _ => strategyId ∈ s.strategies

instance (s : Bridge C) : ∀ action, Decidable (s.Possible action)
  | .createStrategy _ => inferInstanceAs (Decidable True)
  | .event _ => inferInstanceAs (Decidable (_ ∧ _))
  | .setTarget strategyId _ _ _ _ => inferInstanceAs (Decidable (strategyId ∈ s.strategies))

def perform (encode : Nat → String) (compare : Double → Double → Ordering) (s : Bridge C) :
    Action C → Bridge C × Option Stop
  | .createStrategy request => s.createStrategy encode compare request
  | .event occurrence => s.onEvent occurrence
  | .setTarget strategyId position quantity price refuses =>
      s.withParties
        (visit (fun spread => spread.setTarget (s.context refuses) position quantity price)
          strategyId (s.strategies, s.dispatcher))

/-- The bridge when the client library does not catch exceptions either: nothing in the source does,
and the first one that escapes from a handler is the end of the run. -/
def nextUncaught (encode : Nat → String) (compare : Double → Double → Ordering) (s : Bridge C)
    (action : Action C) : Option (Bridge C) :=
  if s.Possible action then
    match s.perform encode compare action with
    | (t, none) => some t
    | (_, some _) => none
  else none

/-- The bridge when whoever calls it catches the exceptions and goes on. -/
def nextCaught (encode : Nat → String) (compare : Double → Double → Ordering) (s : Bridge C)
    (action : Action C) : Option (Bridge C) :=
  if s.Possible action then
    match s.perform encode compare action with
    | (t, none) => some t
    | (t, some stop) => if stop.isException then some t else none
  else none

end Bridge

section Sample

/-- The strategy of config.toml. -/
def spreadBtc : StrategyConfig where
  type := "spread"
  instruments :=
    [{ exchange := "deribit", symbol := "BTC-PERPETUAL", weight := 1, named := by decide },
      { exchange := "deribit", symbol := "BTC-27MAY22", weight := .num (-1), named := by decide }]
  complete := ⟨by decide, nofun⟩

/-- config.toml. -/
def sampleConfig : Config where
  strategies := AList.insert "spread_btc" spreadBtc ∅

/-- `utils::compare` of two numbers. -/
def compareNumbers : Double → Double → Ordering
  | .num x, .num y => if x < y then .lt else if x = y then .eq else .gt
  | _, _ => .gt

def base64Digits : List Char :=
  "ABCDEFGHIJKLMNOPQRSTUVWXYZabcdefghijklmnopqrstuvwxyz0123456789-_".toList

/-- The text of the four bytes of a strategy id, the lowest one first. -/
def base64OfId (id : Nat) : String :=
  let digit (n : Nat) : Char := base64Digits.getD n 'A'
  let byte (k : Nat) : Nat := id / 256 ^ k % 256
  String.ofList
    [digit (byte 0 / 4), digit (byte 0 % 4 * 16 + byte 1 / 16),
      digit (byte 1 % 16 * 4 + byte 2 / 64), digit (byte 2 % 64),
      digit (byte 3 / 4), digit (byte 3 % 4 * 16)]

/-- The order that the constructor of the bridge takes from the flags. -/
def userOrder : CreateOrder where
  account := "A1"
  orderId := 0
  exchange := ""
  symbol := "spread_btc"
  side := .buy
  maxShowQuantity := .nan
  orderType := .limit
  timeInForce := .gtc
  executionInstructions := []
  quantity := 1
  price := 10
  stopPrice := .nan
  leverage := .nan
  routingId := ""
  strategyId := 0

def perpetual : Key := ("deribit", "BTC-PERPETUAL")

def future : Key := ("deribit", "BTC-27MAY22")

def marketEvent (key : Key) (message : MarketMessage Payload) : Action plain :=
  .event { event := .market 0 key message, order := [1] }

def bookEvent (key : Key) (bidPrice askPrice : Double) : Action plain :=
  marketEvent key (.marketByPriceUpdate (.best
    { bidPrice := bidPrice, bidQuantity := 1, askPrice := askPrice, askQuantity := 1 }))

/-- The gateway supports everything that is required; the markets are OPEN. -/
def sampleOpening : List (Action plain) :=
  [.createStrategy userOrder,
    .event {
      event := .gateway 0 (.gatewayStatus
        (.supports [.referenceData, .marketStatus, .marketByPrice, .createOrder, .cancelOrder]))
      order := [1] },
    marketEvent perpetual (.referenceData (.tickSize 1)),
    marketEvent future (.referenceData (.tickSize 1)),
    marketEvent perpetual (.marketStatus (.tradingStatus .«open»)),
    marketEvent future (.marketStatus (.tradingStatus .«open»)),
    bookEvent perpetual 100 101]

end Sample

end RoqSamples.AlgoProto
