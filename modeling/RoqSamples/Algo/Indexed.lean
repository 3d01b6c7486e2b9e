/- Algo/Indexed
   digest: Strategies with their vectors and every access to them by index. -/
import RoqSamples.Algo.Strategy

set_option autoImplicit false
set_option relaxedAutoImplicit false

namespace RoqSamples.Algo

open RoqSamples.Arith (Double)
open RoqSamples.Client (Utils)
open RoqSamples.Example3 (Layer)

/-- `framework::State`: a market is known by the key of its route. -/
structure State where
  instruments : List Instrument
  markets : List Key

/-- `strategies::Factory`. -/
structure Factory where
  type : String
  state : State

/-- A strategy together with the markets of its state, which run parallel to the instruments. -/
structure Indexed (C : Caches) extends Spread C where
  markets : List Key

namespace Factory

/-- `create_factories` for one strategy, with the keys of the routes; no result is log::fatal. -/
def new (routed : List Key) (strategy : StrategyConfig) : Option Factory :=
  (strategy.instruments.mapM fun instrument =>
    if instrument.key ∈ routed then some instrument.key else none).map fun markets =>
      { type := strategy.type, state := { instruments := strategy.instruments, markets } }

def create {C : Caches} (compare : Double → Double → Ordering) (routingId : String)
    (request : CreateOrder) (factory : Factory) : Except Stop (Indexed C) :=
  if factory.type = "spread" then
    match Spread.create compare factory.state.instruments routingId request with
    | .error reason => .error (.fatal reason)
    | .ok spread => .ok { spread with markets := factory.state.markets }
  else .error (.unknownType factory.type)

end Factory

namespace Indexed

variable {C : Caches}

def withSpread (spread : Spread C) (s : Indexed C) : Indexed C := { s with toSpread := spread }

variable [Utils]

/-- `State::ready`: the value that `result` has afterwards. -/
def stateReady (view : View C) (source : Nat) (s : Indexed C) (index : Nat) (result : Bool) :
    Option Bool :=
  match s.markets[index]? with
  | none => none
  | some key =>
      if (view.market key).source ≠ some source then some result
      else
        match s.instruments[index]? with
        | none => none
        | some _ =>
            some (Instrument.ready C (view.gateway source) (view.market key).market s.account)

/-- One turn of the loop in `Base::update`, on `ready_by_instrument_` and `ready`. -/
def refresh (view : View C) (source : Nat) (s : Indexed C) (loop : List Bool × Bool)
    (index : Nat) : Option (List Bool × Bool) :=
  match loop.1[index]? with
  | none => none
  | some result =>
      match s.stateReady view source index result with
      | none => none
      | some tmp => some (loop.1.set index tmp, loop.2 && tmp)

/-- `Base::update` with the callback that follows, if any. -/
def updateBase (view : View C) (source : Nat) (s : Indexed C) : Option (Indexed C × Option Bool) :=
  match (List.range s.instruments.length).foldlM (s.refresh view source)
      (s.readyByInstrument, true) with
  | none => none
  | some (readyByInstrument, ready) =>
      if Utils.updated s.ready ready then
        some ({ s with readyByInstrument := readyByInstrument, ready := ready
                       callbacks := s.callbacks ++ [ready] }, some ready)
      else some ({ s with readyByInstrument := readyByInstrument }, none)

/-- `Base::extract`: the best layer of the market at an index. -/
def extract (context : Context C) (index : Nat) (s : Indexed C) : Option (Option Layer) :=
  match s.markets[index]? with
  | none => none
  | some key => some (C.extract (context.market key).market)

def setTarget (context : Context C) (position : Nat) (quantity price : Double) (s : Indexed C)
    (d : Dispatcher) : (Indexed C × Dispatcher) × Option Stop :=
  match s.toSpread.setTarget context position quantity price d with
  | ((spread, d), stop) => ((s.withSpread spread, d), stop)

/-- `Spread::update`. -/
def update (context : Context C) (s : Indexed C) (d : Dispatcher) :
    (Indexed C × Dispatcher) × Option Stop :=
  if s.ready = false then ((s, d), none)
  else
    match s.extract context 0, s.extract context 1 with
    | some depth0, some depth1 =>
        match depth0, depth1 with
        | some _, some best =>
            if (s.limit best).isNaN then
              ((s, d.check (s.side ≠ .undefined) .undefinedSide), none)
            else s.setTarget context 0 s.quantity (s.limit best) d
        | _, _ => ((s, d), none)
    | _, _ => ((s, d), some .outOfRange)

def currentSpread (context : Context C) (s : Indexed C) : Option Double :=
  match s.extract context 0, s.extract context 1 with
  | some depth0, some depth1 =>
      match depth0, depth1 with
      | some first, some second =>
          match s.side with
          | .undefined => some .nan
          | .buy => some (first.askPrice - second.bidPrice)
          | .sell => some (first.bidPrice - second.askPrice)
      | _, _ => some .nan
  | _, _ => none

/-- `Base::update` and the callbacks. -/
def notify (context : Context C) (source : Nat) (s : Indexed C) (d : Dispatcher) :
    (Indexed C × Dispatcher) × Option Stop :=
  match s.updateBase context.toView source with
  | none => ((s, d), some .outOfRange)
  | some (s, some true) => s.update context d
  | some (s, some false) | some (s, none) => ((s, d), none)

def dispatch (orderId : Nat) (note : Note) (s : Indexed C) (d : Dispatcher) :
    (Indexed C × Dispatcher) × Option Stop :=
  match s.toSpread.dispatch orderId note d with
  | ((spread, d), stop) => ((s.withSpread spread, d), stop)

/-- The handler of a message. -/
def handle (context : Context C) (source : Nat) (message : Message C) (s : Indexed C)
    (d : Dispatcher) : (Indexed C × Dispatcher) × Option Stop :=
  match message with
  | .timer | .market _ (.topOfBook _) => ((s, d), none)
  | .gateway _ | .market _ (.referenceData _) | .market _ (.marketStatus _) =>
      s.notify context source d
  | .market _ (.marketByPriceUpdate _) => s.update context d
  | .orderAck orderAck => s.dispatch orderAck.orderId (.acked orderAck) d
  | .orderUpdate orderUpdate => s.dispatch orderUpdate.orderId (.updated orderUpdate) d

/-- The vectors of a strategy are parallel. -/
structure Parallel (s : Indexed C) : Prop where
  markets : s.markets = s.instruments.map Instrument.key
  readyByInstrument : s.readyByInstrument.length = s.instruments.length

end Indexed

end RoqSamples.Algo
