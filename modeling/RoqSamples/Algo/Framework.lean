/- Algo/Framework
   digest: The algo framework: caches of gateways and markets, instruments, and when they are
     ready. -/
import RoqSamples.Example3.Instrument
import RoqSamples.Execution.Calls

set_option autoImplicit false
set_option relaxedAutoImplicit false

namespace RoqSamples.Algo

open RoqSamples.Arith (Double)
open RoqSamples.Client
open RoqSamples.Example3 (Layer SupportType)
open RoqSamples.Execution.Calls (Map)

/-- The messages of a gateway. The caches alone read the payload. -/
inductive GatewayMessage (Payload : Type)
  | connected (payload : Payload)
  | disconnected (payload : Payload)
  | downloadBegin (payload : Payload)
  | downloadEnd (maxOrderId : Nat) (payload : Payload)
  | gatewaySettings (payload : Payload)
  | gatewayStatus (payload : Payload)

/-- The messages of a market; exchange and symbol are kept apart from them. -/
inductive MarketMessage (Payload : Type)
  | referenceData (payload : Payload)
  | marketStatus (payload : Payload)
  | topOfBook (payload : Payload)
  | marketByPriceUpdate (payload : Payload)

/-- `cache::Gateway` and `cache::Market`, which are not part of the source. A handler also reports
whether it has changed its cache; `extract` asks the book for one layer. -/
structure Caches where
  Gateway : Type
  Market : Type
  Payload : Type
  newGateway : Gateway
  newMarket : String → String → Market
  onGateway : GatewayMessage Payload → Gateway → Gateway × Bool
  onMarket : MarketMessage Payload → Market → Market × Bool
  ready : List SupportType → Option String → Gateway → Bool
  tickSize : Market → Double
  tradingStatus : Market → TradingStatus
  extract : Market → Option Layer

/-- What the caches promise. A handler reports every change of what `Instrument::ready` reads, and
only the messages of reference data and of the market status write those two members of a market.
A market starts with a trading status other than OPEN. -/
structure Caches.Reporting (C : Caches) : Prop where
  gateway : ∀ message gateway, (C.onGateway message gateway).2 = false → ∀ mask account,
    C.ready mask account (C.onGateway message gateway).1 = C.ready mask account gateway
  market : ∀ message market, (C.onMarket message market).2 = false →
    C.tickSize (C.onMarket message market).1 = C.tickSize market ∧
      C.tradingStatus (C.onMarket message market).1 = C.tradingStatus market
  topOfBook : ∀ payload market,
    C.tickSize (C.onMarket (.topOfBook payload) market).1 = C.tickSize market ∧
      C.tradingStatus (C.onMarket (.topOfBook payload) market).1 = C.tradingStatus market
  marketByPriceUpdate : ∀ payload market,
    C.tickSize (C.onMarket (.marketByPriceUpdate payload) market).1 = C.tickSize market ∧
      C.tradingStatus (C.onMarket (.marketByPriceUpdate payload) market).1 =
        C.tradingStatus market
  closed : ∀ exchange symbol, C.tradingStatus (C.newMarket exchange symbol) ≠ .«open»

/-- The payloads of the caches below. -/
inductive Payload
  | nothing
  | supports (available : List SupportType)
  | tickSize (tickSize : Double)
  | tradingStatus (tradingStatus : TradingStatus)
  | best (layer : Layer)
  deriving DecidableEq

structure PlainMarket where
  tickSize : Double := .nan
  tradingStatus : TradingStatus := .undefined
  best : Option Layer := none
  deriving DecidableEq

/-- Caches that keep what the messages say, for every account alike. -/
def plain : Caches where
  Gateway := List SupportType
  Market := PlainMarket
  Payload := Payload
  newGateway := []
  newMarket := fun _ _ => {}
  onGateway := fun message gateway =>
    match message with
    | .gatewayStatus (.supports available) => (available, true)
    | .disconnected _ => ([], true)
    | _ => (gateway, false)
  onMarket := fun message market =>
    match message with
    | .referenceData (.tickSize tickSize) => ({ market with tickSize := tickSize }, true)
    | .marketStatus (.tradingStatus status) => ({ market with tradingStatus := status }, true)
    | .marketByPriceUpdate (.best layer) => ({ market with best := some layer }, true)
    | _ => (market, false)
  ready := fun mask _ gateway => mask.all fun type => type ∈ gateway
  tickSize := PlainMarket.tickSize
  tradingStatus := PlainMarket.tradingStatus
  extract := PlainMarket.best

theorem plain_reporting : plain.Reporting where
  gateway := by
    intro message gateway unchanged mask account
    cases message with
    | gatewayStatus payload => cases payload <;> first | rfl | cases unchanged
    | disconnected => cases unchanged
    | connected | downloadBegin | downloadEnd | gatewaySettings => rfl
  market := by
    intro message market unchanged
    cases message with
    | referenceData payload | marketStatus payload | marketByPriceUpdate payload =>
        cases payload <;> first | exact ⟨rfl, rfl⟩ | cases unchanged
    | topOfBook => exact ⟨rfl, rfl⟩
  topOfBook := fun _ _ => ⟨rfl, rfl⟩
  marketByPriceUpdate := by
    intro payload market
    cases payload <;> exact ⟨rfl, rfl⟩
  closed := fun _ _ => nofun

/-- Exchange and symbol. -/
abbrev Key := String × String

instance (key : Key) (keys : List Key) : Decidable (key ∈ keys) :=
  inferInstanceAs (Decidable (key ∈ keys))

/-- An instrument that the configuration accepts: `parse_instrument` asks for both names. -/
structure Instrument where
  exchange : String
  symbol : String
  weight : Double := .nan
  named : exchange ≠ "" ∧ symbol ≠ ""

def Instrument.key (instrument : Instrument) : Key := (instrument.exchange, instrument.symbol)

def requiredMarketData : List SupportType := [.referenceData, .marketStatus, .marketByPrice]

def requiredOrderManagement : List SupportType := [.createOrder, .cancelOrder]

/-- No member of the instrument itself is read. -/
def Instrument.ready [Utils] (C : Caches) (gateway : C.Gateway) (market : C.Market)
    (account : String) : Bool :=
  if C.ready requiredMarketData none gateway = false then false
  else if Utils.isZero (C.tickSize market) then false
  else if C.tradingStatus market ≠ .«open» then false
  else if C.ready requiredOrderManagement (some account) gateway = false then false
  else true

theorem Instrument.ready_eq [Utils] (C : Caches) (gateway : C.Gateway) (market : C.Market)
    (account : String) :
    Instrument.ready C gateway market account =
      (C.ready requiredMarketData none gateway && !Utils.isZero (C.tickSize market) &&
        decide (C.tradingStatus market = .«open») &&
        C.ready requiredOrderManagement (some account) gateway) := by
  unfold Instrument.ready
  cases C.ready requiredMarketData none gateway <;> cases Utils.isZero (C.tickSize market) <;>
    cases C.ready requiredOrderManagement (some account) gateway <;> simp

/-- `framework::Market`: the source of the first message is kept. There is none as long as it is
SOURCE_SELF. -/
structure Market (C : Caches) where
  market : C.Market
  source : Option Nat := none

def Market.handle {C : Caches} (source : Nat) (message : MarketMessage C.Payload)
    (m : Market C) : Market C × Bool :=
  let result := C.onMarket message m.market
  ({ market := result.1, source := some (m.source.getD source) }, result.2)

/-- What a `State` points to: the market of every route and the gateways by their source. -/
structure View (C : Caches) where
  market : Key → Market C
  gateway : Nat → C.Gateway

/-- `State::ready`: the value that `result` has afterwards. -/
def View.ready [Utils] {C : Caches} (view : View C) (instrument : Instrument) (source : Nat)
    (account : String) (result : Bool) : Bool :=
  if (view.market instrument.key).source = some source then
    Instrument.ready C (view.gateway source) (view.market instrument.key).market account
  else result

/-- `framework::Config`; `parse_strategy` asks for a type and for instruments. -/
structure StrategyConfig where
  type : String
  instruments : List Instrument
  complete : type ≠ "" ∧ instruments ≠ []

structure Config where
  strategies : Map String StrategyConfig

/-- `exchange_symbols`: the keys of all instruments. -/
def Config.exchangeSymbols (config : Config) : List Key :=
  config.strategies.entries.flatMap fun entry => entry.2.instruments.map Instrument.key

theorem Config.key_mem_exchangeSymbols {config : Config} {name : String}
    {strategy : StrategyConfig} (found : config.strategies.lookup name = some strategy)
    {instrument : Instrument} (mem : instrument ∈ strategy.instruments) :
    instrument.key ∈ config.exchangeSymbols := by
  have entry := AList.mem_lookup_iff.mp (Option.mem_def.mpr found)
  exact List.mem_flatMap.mpr ⟨⟨name, strategy⟩, entry, List.mem_map_of_mem mem⟩

end RoqSamples.Algo
