/- Algo/Dispatcher
   digest: The requests of the strategies and the dispatcher that numbers them and finds their
     source. -/
import RoqSamples.Algo.Framework

set_option autoImplicit false
set_option relaxedAutoImplicit false

namespace RoqSamples.Algo

open RoqSamples.Client (uint64)
open RoqSamples.Execution.Calls (Map emplace lookup_emplace_of_some)

structure CreateOrder extends Client.CreateOrder where
  routingId : String
  deriving DecidableEq

def CreateOrder.key (request : CreateOrder) : Key := (request.exchange, request.symbol)

structure ModifyOrder extends Client.ModifyOrder where
  routingId : String
  deriving DecidableEq

structure CancelOrder extends Client.CancelOrder where
  routingId : String
  deriving DecidableEq

inductive Request
  | create (request : CreateOrder)
  | modify (request : ModifyOrder)
  | cancel (request : CancelOrder)
  deriving DecidableEq

def Request.orderId : Request → Nat
  | .create request => request.orderId
  | .modify request => request.orderId
  | .cancel request => request.orderId

def Request.routingId : Request → String
  | .create request => request.routingId
  | .modify request => request.routingId
  | .cancel request => request.routingId

/-- The assertions of the bridge and of the strategies. -/
inductive Assertion
  | notReady
  | orderIdTaken (orderId : Nat)
  | noRoutingId
  | routingIdGiven
  | undefinedSide
  | unknownStrategy (strategyId : Nat)
  | unknownRoute
  deriving DecidableEq

/-- The reasons to end in log::fatal. -/
inductive Fatal
  | unknownRoute (exchange symbol : String)
  | unexpectedOrderId
  | unexpectedRoutingId (routingId : String)
  | invalidSymbol (symbol : String)
  | zeroWeight (index : Nat)
  deriving DecidableEq

/-- Why a call has not returned: an exception of a send or of the factory, log::fatal, a strategy id
that is taken, or an access outside of a vector. -/
inductive Stop
  | sendFailed
  | unknownType (type : String)
  | fatal (reason : Fatal)
  | strategyIdTaken
  | outOfRange
  deriving DecidableEq

/-- An exception, which is not the end of the program when a caller catches it. -/
def Stop.isException : Stop → Bool
  | .sendFailed | .unknownType _ => true
  | .fatal _ | .strategyIdTaken | .outOfRange => false

/-- What the dispatcher has seen: requests that were passed to the client together with the source
they were sent to, and order ids that were reported. -/
inductive Entry
  | sent (request : Request) (source : Option Nat)
  | reported (orderId : Nat)
  deriving DecidableEq

def Entry.orderId : Entry → Nat
  | .sent request _ => request.orderId
  | .reported orderId => orderId

/-- The part of the bridge behind `framework::Dispatcher`, with the history of what it has sent and
the assertions that have failed. -/
structure Dispatcher where
  maxOrderId : Nat := 0
  orderIdToSource : Map Nat (Option Nat) := ∅
  log : List Entry := []
  failures : List Assertion := []

/-- What a call of a strategy can read: the caches, the routes that exist, and which sends the
client refuses with an exception. -/
structure Context (C : Caches) extends View C where
  routed : List Key
  refuses : Request → Bool

namespace Dispatcher

/-- Assertions are not compiled in; a failing one is noted. -/
def check (holds : Bool) (assertion : Assertion) (d : Dispatcher) : Dispatcher :=
  if holds then d else { d with failures := d.failures ++ [assertion] }

def nextOrderId (d : Dispatcher) : Nat := uint64 (d.maxOrderId + 1)

def raise (orderId : Nat) (d : Dispatcher) : Dispatcher :=
  { d with maxOrderId := max d.maxOrderId orderId }

/-- The order id of an event. -/
def report (orderId : Nat) (d : Dispatcher) : Dispatcher :=
  { d.raise orderId with log := d.log ++ [.reported orderId] }

/-- `client::Dispatcher::send`. -/
def send (refuses : Request → Bool) (request : Request) (source : Option Nat) (d : Dispatcher) :
    Dispatcher × Option Stop :=
  ({ d with log := d.log ++ [.sent request source] },
    if refuses request then some .sendFailed else none)

/-- What every request is met with. -/
def accept (request : Request) (d : Dispatcher) : Dispatcher :=
  (d.check (request.routingId ≠ "") .noRoutingId).raise request.orderId

/-- A new order belongs to a source. -/
def assign (orderId : Nat) (source : Option Nat) (d : Dispatcher) : Dispatcher :=
  { d with orderIdToSource := emplace orderId source d.orderIdToSource }

variable {C : Caches}

def createOrder (context : Context C) (request : CreateOrder) (d : Dispatcher) :
    Dispatcher × Option Stop :=
  if request.key ∈ context.routed then
    ((d.accept (.create request)).assign request.orderId (context.market request.key).source).send
      context.refuses (.create request) (context.market request.key).source
  else
    (d.accept (.create request), some (.fatal (.unknownRoute request.exchange request.symbol)))

/-- A request for an order that has been created goes to the source of the order. -/
def followUp (context : Context C) (request : Request) (d : Dispatcher) :
    Dispatcher × Option Stop :=
  match (d.accept request).orderIdToSource.lookup request.orderId with
  | some source => (d.accept request).send context.refuses request source
  | none => (d.accept request, some (.fatal .unexpectedOrderId))

def modifyOrder (context : Context C) (request : ModifyOrder) : Dispatcher →
    Dispatcher × Option Stop := followUp context (.modify request)

def cancelOrder (context : Context C) (request : CancelOrder) : Dispatcher →
    Dispatcher × Option Stop := followUp context (.cancel request)

@[simp] theorem check_true (assertion : Assertion) (d : Dispatcher) :
    d.check true assertion = d := rfl

@[simp] theorem check_maxOrderId (holds : Bool) (assertion : Assertion) (d : Dispatcher) :
    (d.check holds assertion).maxOrderId = d.maxOrderId := by
  cases holds <;> rfl

@[simp] theorem check_orderIdToSource (holds : Bool) (assertion : Assertion) (d : Dispatcher) :
    (d.check holds assertion).orderIdToSource = d.orderIdToSource := by
  cases holds <;> rfl

@[simp] theorem check_log (holds : Bool) (assertion : Assertion) (d : Dispatcher) :
    (d.check holds assertion).log = d.log := by
  cases holds <;> rfl

@[simp] theorem accept_log (request : Request) (d : Dispatcher) :
    (d.accept request).log = d.log := check_log _ _ d

@[simp] theorem accept_orderIdToSource (request : Request) (d : Dispatcher) :
    (d.accept request).orderIdToSource = d.orderIdToSource := check_orderIdToSource _ _ d

theorem mem_check_failures {holds : Bool} {assertion other : Assertion} {d : Dispatcher} :
    other ∈ (d.check holds assertion).failures ↔
      other ∈ d.failures ∨ holds = false ∧ other = assertion := by
  cases holds <;> simp [check]

/-- What no call takes back. -/
structure Grows (d d' : Dispatcher) : Prop where
  maxOrderId : d.maxOrderId ≤ d'.maxOrderId
  orderIdToSource : ∀ orderId source, d.orderIdToSource.lookup orderId = some source →
    d'.orderIdToSource.lookup orderId = some source
  log : d.log <+: d'.log

theorem Grows.refl (d : Dispatcher) : Grows d d :=
  ⟨Nat.le_refl _, fun _ _ => id, List.prefix_refl _⟩

theorem Grows.trans {d e f : Dispatcher} (first : Grows d e) (second : Grows e f) : Grows d f :=
  ⟨first.maxOrderId.trans second.maxOrderId,
    fun orderId source found =>
      second.orderIdToSource orderId source (first.orderIdToSource orderId source found),
    first.log.trans second.log⟩

theorem grows_check (holds : Bool) (assertion : Assertion) (d : Dispatcher) :
    d.Grows (d.check holds assertion) := by
  refine ⟨?_, ?_, ?_⟩
  · rw [check_maxOrderId]
  · rw [check_orderIdToSource]
    exact fun _ _ => id
  · have same := check_log holds assertion d
    exact same.symm ▸ List.prefix_refl d.log

theorem grows_raise (orderId : Nat) (d : Dispatcher) : d.Grows (d.raise orderId) :=
  ⟨Nat.le_max_left _ _, fun _ _ => id, List.prefix_refl _⟩

theorem grows_report (orderId : Nat) (d : Dispatcher) : d.Grows (d.report orderId) :=
  ⟨Nat.le_max_left _ _, fun _ _ => id, List.prefix_append _ _⟩

theorem grows_send (refuses : Request → Bool) (request : Request) (source : Option Nat)
    (d : Dispatcher) : d.Grows (d.send refuses request source).1 :=
  ⟨Nat.le_refl _, fun _ _ => id, List.prefix_append _ _⟩

theorem createOrder_failures (context : Context C) (request : CreateOrder) (d : Dispatcher) :
    (d.createOrder context request).1.failures = (d.accept (.create request)).failures := by
  unfold createOrder
  split <;> rfl

theorem followUp_failures (context : Context C) (request : Request) (d : Dispatcher) :
    (d.followUp context request).1.failures = (d.accept request).failures := by
  unfold followUp
  split <;> rfl

/-- A request without a routing id is all that its dispatch can hold against it. -/
theorem mem_accept_failures {request : Request} {assertion : Assertion} {d : Dispatcher} :
    assertion ∈ (d.accept request).failures ↔
      assertion ∈ d.failures ∨ request.routingId = "" ∧ assertion = .noRoutingId := by
  show assertion ∈ (d.check (request.routingId ≠ "") .noRoutingId).failures ↔ _
  rw [mem_check_failures]
  simp

theorem grows_accept (request : Request) (d : Dispatcher) : d.Grows (d.accept request) :=
  (grows_check _ _ d).trans (grows_raise _ _)

theorem grows_assign (orderId : Nat) (source : Option Nat) (d : Dispatcher) :
    d.Grows (d.assign orderId source) :=
  ⟨Nat.le_refl _, fun _ _ found => lookup_emplace_of_some found _ _, List.prefix_refl _⟩

theorem grows_createOrder (context : Context C) (request : CreateOrder) (d : Dispatcher) :
    d.Grows (d.createOrder context request).1 := by
  have accepted := grows_accept (.create request) d
  unfold createOrder
  split
  · exact accepted.trans ((grows_assign _ _ _).trans (grows_send _ _ _ _))
  · exact accepted

theorem grows_of_createOrder {context : Context C} {request : CreateOrder} {d d' : Dispatcher}
    {stop : Option Stop} (created : d.createOrder context request = (d', stop)) : d.Grows d' := by
  have grows := grows_createOrder context request d
  rwa [created] at grows

theorem grows_followUp (context : Context C) (request : Request) (d : Dispatcher) :
    d.Grows (d.followUp context request).1 := by
  have accepted := grows_accept request d
  unfold followUp
  split
  · exact accepted.trans (grows_send _ _ _ _)
  · exact accepted

end Dispatcher

end RoqSamples.Algo
