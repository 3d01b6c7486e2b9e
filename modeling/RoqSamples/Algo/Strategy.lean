/- Algo/Strategy
   digest: The strategies of the algo framework: order managers, the base that knows when the
     instruments are ready, and the spread strategy. -/
import RoqSamples.Algo.Dispatcher

set_option autoImplicit false
set_option relaxedAutoImplicit false

namespace RoqSamples.Algo

open RoqSamples.Arith (Double)
open RoqSamples.Client (Side Utils)
open RoqSamples.Example3 (Layer)
open RoqSamples.Execution.Calls (Map emplace)

structure OrderAck extends Client.OrderAck where
  routingId : String
  deriving DecidableEq

structure OrderUpdate extends Client.OrderUpdate where
  routingId : String
  deriving DecidableEq

/-- What has happened to an order manager: a target that differs from the one before, an order whose
CreateOrder was dispatched, a ModifyOrder that was to be dispatched, and the messages it
received. -/
inductive Note
  | target (quantity price : Double)
  | created (orderId : Nat)
  | modified (orderId : Nat)
  | acked (orderAck : OrderAck)
  | updated (orderUpdate : OrderUpdate)
  deriving DecidableEq

/-- The notes that messages leave. -/
def Note.isReceived : Note → Bool
  | .acked _ | .updated _ => true
  | .target _ _ | .created _ | .modified _ => false

structure OrderManager where
  index : Nat
  side : Side
  targetQuantity : Double := .nan
  targetPrice : Double := .nan
  orderId : Nat := 0
  journal : List Note := []

namespace OrderManager

def note (notes : List Note) (manager : OrderManager) : OrderManager :=
  { manager with journal := manager.journal ++ notes }

/-- Take over the target. -/
def aim (quantity price : Double) (manager : OrderManager) : OrderManager :=
  { manager.note [.target quantity price] with targetQuantity := quantity, targetPrice := price }

/-- The quantity or the price differs from the target; NaN does not differ from NaN. -/
def changes [Utils] (quantity price : Double) (manager : OrderManager) : Bool :=
  Utils.updated manager.targetQuantity quantity || Utils.updated manager.targetPrice price

/-- An order has been created, and its id is kept. -/
def hold (orderId : Nat) (manager : OrderManager) : OrderManager :=
  { manager.note [.created orderId] with orderId := orderId }

def createOrderRequest (account routingId : String) (instrument : Instrument) (orderId : Nat)
    (manager : OrderManager) : CreateOrder where
  account := account
  orderId := orderId
  exchange := instrument.exchange
  symbol := instrument.symbol
  side := manager.side
  maxShowQuantity := .nan
  orderType := .limit
  timeInForce := .gtc
  executionInstructions := []
  quantity := manager.targetQuantity
  price := manager.targetPrice
  stopPrice := .nan
  leverage := .nan
  routingId := routingId
  strategyId := 0

def modifyOrderRequest (account routingId : String) (manager : OrderManager) : ModifyOrder where
  account := account
  orderId := manager.orderId
  quantity := .nan
  price := manager.targetPrice
  routingId := routingId

end OrderManager

/-- `utils::invert`. -/
def invert : Side → Side
  | .undefined => .undefined
  | .buy => .sell
  | .sell => .buy

/-- `create_order_managers`, from an index on. `utils::compare` is a parameter. -/
def createOrderManagers (compare : Double → Double → Ordering) (side : Side) :
    Nat → List Instrument → Except Fatal (List OrderManager)
  | _, [] => .ok []
  | index, instrument :: instruments =>
      match compare instrument.weight 0 with
      | .eq => .error (.zeroWeight index)
      | .gt => do
          let rest ← createOrderManagers compare side (index + 1) instruments
          return { index := index, side := side } :: rest
      | .lt => do
          let rest ← createOrderManagers compare side (index + 1) instruments
          return { index := index, side := invert side } :: rest

/-- A strategy: the instruments of its `State`, and whether Ready or NotReady was called, in order,
with true for Ready. -/
structure Base where
  instruments : List Instrument
  routingId : String
  account : String
  orderManagers : List OrderManager
  orderIdToOrderManagerIndex : Map Nat Nat := ∅
  readyByInstrument : List Bool
  ready : Bool := false
  callbacks : List Bool := []

namespace Base

variable {C : Caches}

/-- `Base::update`: the callback that follows, if any. -/
def update [Utils] (view : View C) (source : Nat) (b : Base) : Base × Option Bool :=
  let readyByInstrument := List.zipWith
    (fun instrument result => view.ready instrument source b.account result)
    b.instruments b.readyByInstrument
  let ready := readyByInstrument.all id
  if Utils.updated b.ready ready then
    ({ b with readyByInstrument := readyByInstrument, ready := ready
              callbacks := b.callbacks ++ [ready] }, some ready)
  else ({ b with readyByInstrument := readyByInstrument }, none)

def put (position : Nat) (manager : OrderManager) (b : Base) : Base :=
  { b with orderManagers := b.orderManagers.set position manager }

/-- The order manager has created an order. -/
def register (position orderId : Nat) (manager : OrderManager) (b : Base) : Base :=
  { b.put position (manager.hold orderId) with
    orderIdToOrderManagerIndex := emplace orderId manager.index b.orderIdToOrderManagerIndex }

/-- The branch of `set_target` that creates an order. -/
def placeOrder (context : Context C) (position : Nat) (manager : OrderManager) (b : Base)
    (d : Dispatcher) : (Base × Dispatcher) × Option Stop :=
  match b.instruments[manager.index]? with
  | none => ((b, d), some .outOfRange)
  | some instrument =>
      match d.createOrder context
          (manager.createOrderRequest b.account b.routingId instrument d.nextOrderId) with
      | (d', some stop) => ((b.put position manager, d'), some stop)
      | (d', none) =>
          ((b.register position d.nextOrderId manager,
            d'.check (d.nextOrderId ∉ b.orderIdToOrderManagerIndex)
              (.orderIdTaken d.nextOrderId)), none)

/-- The branch of `set_target` that modifies the order. -/
def amendOrder (context : Context C) (position : Nat) (manager : OrderManager) (b : Base)
    (d : Dispatcher) : (Base × Dispatcher) × Option Stop :=
  let result := d.modifyOrder context (manager.modifyOrderRequest b.account b.routingId)
  ((b.put position (manager.note [.modified manager.orderId]), result.1), result.2)

/-- `OrderManager::set_target` of the order manager at a position. -/
def setTarget [Utils] (context : Context C) (position : Nat) (quantity price : Double) (b : Base)
    (d : Dispatcher) : (Base × Dispatcher) × Option Stop :=
  match b.orderManagers[position]? with
  | none => ((b, d), some .outOfRange)
  | some manager =>
      if manager.changes quantity price = false then ((b, d.check b.ready .notReady), none)
      else if manager.orderId = 0 then
        b.placeOrder context position (manager.aim quantity price) (d.check b.ready .notReady)
      else b.amendOrder context position (manager.aim quantity price) (d.check b.ready .notReady)

/-- `Base::dispatch`: the order manager that has created the order takes note of the message. -/
def dispatch (orderId : Nat) (note : Note) (b : Base) : Base × Option Stop :=
  match b.orderIdToOrderManagerIndex.lookup orderId with
  | none => (b, none)
  | some index =>
      match b.orderManagers[index]? with
      | none => (b, some .outOfRange)
      | some manager => (b.put index (manager.note [note]), none)

end Base

/-- What a handler can be called with, after its source. -/
inductive Message (C : Caches)
  | timer
  | gateway (message : GatewayMessage C.Payload)
  | market (key : Key) (message : MarketMessage C.Payload)
  | orderAck (orderAck : OrderAck)
  | orderUpdate (orderUpdate : OrderUpdate)

/-- The spread strategy, and the messages it was called with. -/
structure Spread (C : Caches) extends Base where
  side : Side
  quantity : Double
  price : Double
  inbox : List (Nat × Message C) := []

namespace Spread

variable {C : Caches}

def withBase (b : Base) (s : Spread C) : Spread C := { s with toBase := b }

variable [Utils]

def setTarget (context : Context C) (position : Nat) (quantity price : Double) (s : Spread C)
    (d : Dispatcher) : (Spread C × Dispatcher) × Option Stop :=
  match s.toBase.setTarget context position quantity price d with
  | ((b, d), stop) => ((s.withBase b, d), stop)

/-- The price of the first instrument against the best layer of the second one. -/
def limit (best : Layer) (s : Spread C) : Double :=
  match s.side with
  | .undefined => .nan
  | .buy => best.bidPrice - s.price
  | .sell => best.askPrice - s.price

/-- `Spread::update`. -/
def update (context : Context C) (s : Spread C) (d : Dispatcher) :
    (Spread C × Dispatcher) × Option Stop :=
  if s.ready = false then ((s, d), none)
  else
    match s.instruments[0]?, s.instruments[1]? with
    | some first, some second =>
        match C.extract (context.market first.key).market,
            C.extract (context.market second.key).market with
        | some _, some best =>
            if (s.limit best).isNaN then
              ((s, d.check (s.side ≠ .undefined) .undefinedSide), none)
            else s.setTarget context 0 s.quantity (s.limit best) d
        | _, _ => ((s, d), none)
    | _, _ => ((s, d), some .outOfRange)

/-- `Base::update` and the callbacks: Ready looks at the market at once. -/
def notify (context : Context C) (source : Nat) (s : Spread C) (d : Dispatcher) :
    (Spread C × Dispatcher) × Option Stop :=
  match s.toBase.update context.toView source with
  | (b, some true) => (s.withBase b).update context d
  | (b, some false) | (b, none) => ((s.withBase b, d), none)

def dispatch (orderId : Nat) (note : Note) (s : Spread C) (d : Dispatcher) :
    (Spread C × Dispatcher) × Option Stop :=
  ((s.withBase (s.toBase.dispatch orderId note).1, d), (s.toBase.dispatch orderId note).2)

/-- The handler of a message. -/
def handle (context : Context C) (source : Nat) (message : Message C) (s : Spread C)
    (d : Dispatcher) : (Spread C × Dispatcher) × Option Stop :=
  match message with
  | .timer | .market _ (.topOfBook _) => ((s, d), none)
  | .gateway _ | .market _ (.referenceData _) | .market _ (.marketStatus _) =>
      s.notify context source d
  | .market _ (.marketByPriceUpdate _) => s.update context d
  | .orderAck orderAck => s.dispatch orderAck.orderId (.acked orderAck) d
  | .orderUpdate orderUpdate => s.dispatch orderUpdate.orderId (.updated orderUpdate) d

def hear (source : Nat) (message : Message C) (s : Spread C) : Spread C :=
  { s with inbox := s.inbox ++ [(source, message)] }

/-- The constructors of `Base` and `Spread`. -/
def create (compare : Double → Double → Ordering) (instruments : List Instrument)
    (routingId : String) (request : CreateOrder) : Except Fatal (Spread C) :=
  (createOrderManagers compare request.side 0 instruments).map fun orderManagers =>
    { instruments := instruments
      routingId := routingId
      account := request.account
      orderManagers := orderManagers
      readyByInstrument := List.replicate instruments.length false
      side := request.side
      quantity := request.quantity
      price := request.price }

end Spread

end RoqSamples.Algo
