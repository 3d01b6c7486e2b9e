/- Polling/Strategy
   digest: The polling strategy: a state machine that is driven by the clock and by its client. -/
import RoqSamples.Client.Utils
import RoqSamples.Execution.Runs

set_option autoImplicit false
set_option relaxedAutoImplicit false

namespace RoqSamples.Polling

open RoqSamples.Arith (Double)
open RoqSamples.Client

inductive State
  | undefined | connecting | ready | createOrder | waitingCreate
  | working | cancelOrder | waitingCancel | done
  deriving DecidableEq

/-- The flags; the price has no default. -/
structure Settings where
  account : String := "A1"
  exchange : String := "deribit"
  symbol : String := "BTC-PERPETUAL"
  quantity : Double := 1
  price : Double

/-- `WAIT_THIS_LONG_BEFORE_NEXT_STATE_CHANGE` = 10s, in nanoseconds. -/
def waitThisLongBeforeNextStateChange : Nat := 10 ^ 10

/-- The exceptions that a send can throw. -/
inductive SendError
  | notConnected | notReady
  deriving DecidableEq

inductive Fatal
  | send (error : SendError)
  | unexpected (requestType : RequestType)
  deriving DecidableEq

/-- An evaluated assertion together with the values it reads. -/
inductive Check
  | differs (before after : State)
  | inState (expected actual : State)
  | neverUpdated (nextUpdate : Nat)
  | noOrder (orderId : Nat)
  | someOrder (orderId : Nat)
  deriving DecidableEq

inductive Effect
  | createOrder (request : CreateOrder)
  | cancelOrder (request : CancelOrder)
  | check (check : Check)
  | fatal (reason : Fatal)
  | stop
  deriving DecidableEq

/-- Times are in nanoseconds since the epoch. -/
structure Strategy where
  settings : Settings
  state : State := .undefined
  nextUpdate : Nat := 0
  maxOrderId : Nat := 0
  orderId : Nat := 0

namespace Strategy

/-- `operator()(State)`, which reads the clock itself. -/
def setState (clock : Nat) (state : State) (s : Strategy) : Strategy × List Effect :=
  ({ s with state := state, nextUpdate := clock + waitThisLongBeforeNextStateChange },
    [.check (.differs s.state state)])

def createOrderRequest (s : Strategy) (orderId : Nat) : CreateOrder where
  account := s.settings.account
  orderId := orderId
  exchange := s.settings.exchange
  symbol := s.settings.symbol
  side := .buy
  maxShowQuantity := .nan
  orderType := .limit
  timeInForce := .gtc
  executionInstructions := []
  quantity := s.settings.quantity
  price := s.settings.price
  stopPrice := .nan
  leverage := .nan
  strategyId := 0

def cancelOrderRequest (s : Strategy) : CancelOrder where
  account := s.settings.account
  orderId := s.orderId

/-- A send either goes out or throws, which ends in log::fatal. -/
def send (failure : Option SendError) (request : Effect) : Effect :=
  match failure with
  | none => request
  | some error => .fatal (.send error)

def createOrder (failure : Option SendError) (s : Strategy) : Strategy × List Effect :=
  let orderId := uint64 (s.maxOrderId + 1)
  ({ s with maxOrderId := orderId, orderId := orderId },
    [.check (.noOrder s.orderId), send failure (.createOrder (s.createOrderRequest orderId))])

def cancelOrder (failure : Option SendError) (s : Strategy) : Strategy × List Effect :=
  (s, [.check (.someOrder s.orderId), send failure (.cancelOrder s.cancelOrderRequest)])

/-- Do what comes first and then what comes next. -/
def andThen (first : Strategy × List Effect) (following : Strategy → Strategy × List Effect) :
    Strategy × List Effect :=
  let second := following first.1
  (second.1, first.2 ++ second.2)

def refresh (now clock : Nat) (failure : Option SendError) (s : Strategy) :
    Strategy × List Effect :=
  if now < s.nextUpdate then (s, [])
  else
    match s.state with
    | .undefined =>
        andThen (s, [.check (.neverUpdated s.nextUpdate)]) fun s => s.setState clock .connecting
    | .connecting => (s, [])
    | .ready => s.setState clock .createOrder
    | .createOrder =>
        andThen (s.setState clock .waitingCreate) fun s => s.createOrder failure
    | .waitingCreate => s.setState clock .done
    | .working => s.setState clock .cancelOrder
    | .cancelOrder =>
        andThen (s.setState clock .waitingCancel) fun s => s.cancelOrder failure
    | .waitingCancel => s.setState clock .done
    | .done => (s, [.stop])

def onConnected (s : Strategy) : Strategy × List Effect :=
  (s, [.check (.inState .connecting s.state)])

def onDisconnected (clock : Nat) (s : Strategy) : Strategy × List Effect :=
  s.setState clock .connecting

def onDownloadEnd (maxOrderId : Nat) (s : Strategy) : Strategy × List Effect :=
  ({ s with maxOrderId := max s.maxOrderId maxOrderId }, [])

def onReady (clock : Nat) (s : Strategy) : Strategy × List Effect :=
  andThen (s, [.check (.inState .connecting s.state)]) fun s => s.setState clock .ready

/-- `utils::has_request_maybe_completed` is a parameter. -/
def onOrderAck [Utils] (maybeCompleted : RequestStatus → Bool) (orderAck : OrderAck) (clock : Nat)
    (s : Strategy) : Strategy × List Effect :=
  if maybeCompleted orderAck.requestStatus = false then (s, [])
  else if Utils.hasRequestFailed orderAck.requestStatus then s.setState clock .done
  else
    match orderAck.requestType with
    | .undefined => (s, [.fatal (.unexpected .undefined)])
    | .createOrder => s.setState clock .working
    | .modifyOrder => (s, [.fatal (.unexpected .modifyOrder)])
    | .cancelOrder => s.setState clock .done

end Strategy

/-- Connected, Ready and Disconnected come in this order. -/
inductive Connection
  | down | up | ready
  deriving DecidableEq

/-- What the dispatch loop does with the strategy: it refreshes, or it hands over an event. The
clock is the one that a state change reads. -/
inductive Event
  | refresh (now clock : Nat) (failure : Option SendError)
  | connected
  | disconnected (clock : Nat)
  | downloadBegin
  | downloadEnd (maxOrderId : Nat)
  | ready (clock : Nat)
  | orderAck (orderAck : OrderAck) (clock : Nat)

/-- A strategy, its connection, and what it has sent and has seen acknowledged: the ids of the
orders created, of those whose create was acknowledged as successful, and of those canceled. -/
structure Session where
  strategy : Strategy
  connection : Connection := .down
  created : List Nat := []
  acknowledged : List Nat := []
  canceled : List Nat := []
  stopped : Bool := false

namespace Session

variable (maybeCompleted : RequestStatus → Bool)

def initial (settings : Settings) : Session where
  strategy := { settings := settings }

/-- The connection after an event; none when the event cannot come now. -/
def connect (connection : Connection) : Event → Option Connection
  | .connected => if connection = .down then some .up else none
  | .disconnected _ => if connection = .down then none else some .down
  | .ready _ => if connection = .up then some .ready else none
  | .downloadBegin | .downloadEnd _ => if connection = .down then none else some connection
  | .refresh _ _ _ | .orderAck _ _ => some connection

variable [Utils]

/-- A successful ack of a CreateOrder. -/
def confirms (orderAck : OrderAck) : Bool :=
  maybeCompleted orderAck.requestStatus && !Utils.hasRequestFailed orderAck.requestStatus &&
    decide (orderAck.requestType = .createOrder)

def acknowledgement : Event → List Nat
  | .orderAck orderAck _ => if confirms maybeCompleted orderAck then [orderAck.orderId] else []
  | _ => []

def handle (s : Strategy) : Event → Strategy × List Effect
  | .refresh now clock failure => s.refresh now clock failure
  | .connected => s.onConnected
  | .disconnected clock => s.onDisconnected clock
  | .downloadBegin => (s, [])
  | .downloadEnd maxOrderId => s.onDownloadEnd maxOrderId
  | .ready clock => s.onReady clock
  | .orderAck orderAck clock => s.onOrderAck maybeCompleted orderAck clock

def createdBy : Effect → Option Nat
  | .createOrder request => some request.orderId
  | .cancelOrder _ | .check _ | .fatal _ | .stop => none

def canceledBy : Effect → Option Nat
  | .cancelOrder request => some request.orderId
  | .createOrder _ | .check _ | .fatal _ | .stop => none

def isFatal : Effect → Bool
  | .fatal _ => true
  | .createOrder _ | .cancelOrder _ | .check _ | .stop => false

def effects (s : Session) (e : Event) : List Effect := (handle maybeCompleted s.strategy e).2

def next (s : Session) (e : Event) : Option Session :=
  if s.stopped then none
  else
    (connect s.connection e).map fun connection =>
      { strategy := (handle maybeCompleted s.strategy e).1
        connection := connection
        created := s.created ++ (s.effects maybeCompleted e).filterMap createdBy
        acknowledged := s.acknowledged ++ acknowledgement maybeCompleted e
        canceled := s.canceled ++ (s.effects maybeCompleted e).filterMap canceledBy
        stopped := (s.effects maybeCompleted e).any isFatal }

variable {maybeCompleted}

theorem next_eq_some {s t : Session} {e : Event} (taken : s.next maybeCompleted e = some t) :
    s.stopped = false ∧ ∃ connection, connect s.connection e = some connection ∧ t =
      { strategy := (handle maybeCompleted s.strategy e).1
        connection := connection
        created := s.created ++ (s.effects maybeCompleted e).filterMap createdBy
        acknowledged := s.acknowledged ++ acknowledgement maybeCompleted e
        canceled := s.canceled ++ (s.effects maybeCompleted e).filterMap canceledBy
        stopped := (s.effects maybeCompleted e).any isFatal } := by
  unfold next at taken
  split at taken
  · cases taken
  · rename_i running
    obtain ⟨connection, connects, rfl⟩ := Option.map_eq_some_iff.mp taken
    exact ⟨eq_false_of_ne_true running, connection, connects, rfl⟩

end Session

end RoqSamples.Polling
