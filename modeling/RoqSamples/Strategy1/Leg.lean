/- Strategy1/Leg
   digest: One leg of the strategy with its outstanding request and its pending retry timer. -/
import RoqSamples.Client.Messages
import RoqSamples.Execution.Runs

set_option autoImplicit false
set_option relaxedAutoImplicit false

namespace RoqSamples.Strategy1

open RoqSamples.Arith (Double)
open RoqSamples.Client

inductive State
  | undefined | creating | changing | waiting | finished | failed
  deriving DecidableEq

/-- The two helpers whose callbacks and retry timers a leg can be waiting for. -/
inductive Helper
  | submit | modify
  deriving DecidableEq

/-- The state in which the callbacks of a helper assert the leg to be. -/
def Helper.expected : Helper → State
  | .submit => .creating
  | .modify => .changing

structure Settings where
  strategyId : Nat
  maxRetries : Nat
  retryDelay : Int

structure Leg where
  side : Side
  quantity : Double
  price : Double
  state : State

/-- What a helper meets when it tries to send: `rate_limiter.ready()`, `rate_limiter.delay()`, and
whether the send goes through or throws NotConnected. -/
structure Link where
  ready : Bool
  delay : Int
  connected : Bool

/-- An evaluated assertion together with the values it reads. -/
inductive Check
  | inState (expected actual : State)
  | number (price : Double)
  | unexpected (actual : State)

inductive Fatal
  | tooManyRetries
  | unexpectedError (error : Error)

/-- What a handler does besides changing the leg. A request carries the retry counter that its
callbacks capture, and so does a timer. `danglingCall` is a call through a reference to a local of a
function that has returned: from there on the behaviour is undefined. -/
inductive Effect
  | createOrder (request : CreateOrder) (retryCounter : Nat)
  | modifyOrder (request : ModifyOrder) (retryCounter : Nat)
  | addTimer (delay : Int) (helper : Helper) (retryCounter : Nat)
  | check (check : Check)
  | fatal (reason : Fatal)
  | danglingCall (delay : Int) (helper : Helper) (retryCounter : Nat)

namespace Leg

/-- Account, order id, exchange and symbol are managed by the order object. -/
def createLimitOrderRequest (settings : Settings) (side : Side) (quantity price : Double) :
    CreateOrder where
  account := ""
  orderId := 0
  exchange := ""
  symbol := ""
  side := side
  maxShowQuantity := .nan
  orderType := .limit
  timeInForce := .gtc
  executionInstructions := [.participateDoNotInitiate]
  quantity := quantity
  price := price
  stopPrice := .nan
  leverage := .nan
  strategyId := settings.strategyId

def createModifyOrderRequest (price : Double) : ModifyOrder where
  account := ""
  orderId := 0
  quantity := .nan
  price := price

def isFinished (leg : Leg) : Bool := leg.state = .finished

/-- The lambda `handle_retry` of both helpers. -/
def handleRetry (helper : Helper) (settings : Settings) (delay : Int) (retryCounter : Nat)
    (leg : Leg) : Leg × List Effect :=
  (leg, .check (.inState helper.expected leg.state) ::
    if settings.maxRetries ≤ retryCounter then [.fatal .tooManyRetries]
    else [.addTimer delay helper retryCounter])

/-- The `try` block of both helpers: NotConnected is caught and ignored. -/
def trySend (helper : Helper) (settings : Settings) (link : Link) (retryCounter : Nat)
    (request : Effect) (leg : Leg) : Leg × List Effect :=
  if link.ready then
    if link.connected then (leg, [request]) else (leg, [])
  else handleRetry helper settings link.delay retryCounter leg

def submitOrderHelper (settings : Settings) (link : Link) (retryCounter : Nat) (leg : Leg) :
    Leg × List Effect :=
  let request := createLimitOrderRequest settings leg.side leg.quantity leg.price
  let (leg', effects) :=
    trySend .submit settings link retryCounter (.createOrder request retryCounter) leg
  (leg', .check (.inState .creating leg.state) :: effects)

def modifyOrderHelper (settings : Settings) (link : Link) (retryCounter : Nat) (leg : Leg) :
    Leg × List Effect :=
  let request := createModifyOrderRequest leg.price
  let sent := trySend .modify settings link retryCounter (.modifyOrder request retryCounter) leg
  match leg.state with
  | .finished | .failed => (leg, [])
  | .changing => sent
  -- a debug build stops here, a release build goes on to send
  | .undefined | .creating | .waiting => (sent.1, .check (.unexpected leg.state) :: sent.2)

def submitOrder (settings : Settings) (link : Link) (leg : Leg) : Leg × List Effect :=
  let (leg', effects) := submitOrderHelper settings link 0 { leg with state := .creating }
  (leg', .check (.inState .undefined leg.state) :: effects)

def maybeSubmitOrder (settings : Settings) (link : Link) (ready : Bool)
    (tradingStatus : TradingStatus) (leg : Leg) : Leg × List Effect :=
  if leg.state = .undefined ∧ ready = true ∧ tradingStatus = .«open» then
    submitOrder settings link leg
  else (leg, [])

/-- The lambda `handle_failure` of the helper that sent the request. It has captured the local
`handle_retry` of that helper by reference, and the helper has returned. -/
def handleFailure (helper : Helper) (settings : Settings) (retryCounter : Nat)
    (orderAck : OrderAck) (leg : Leg) : Leg × List Effect :=
  let check := Effect.check (.inState helper.expected leg.state)
  if orderAck.error = .requestRateLimitReached then
    (leg, [check, .danglingCall settings.retryDelay helper retryCounter])
  else if helper = .modify ∧ orderAck.error = .tooLateToModifyOrCancel then
    ({ leg with state := .finished }, [check])
  else
    ({ leg with state := .failed }, [check, .fatal (.unexpectedError orderAck.error)])

/-- The lambda `handle_success` of the helper that sent the request. -/
def handleSuccess (isEqual : Double → Double → Bool) (helper : Helper) (settings : Settings)
    (link : Link) (orderAck : OrderAck) (leg : Leg) : Leg × List Effect :=
  let check := Effect.check (.inState helper.expected leg.state)
  if isEqual orderAck.price leg.price then
    ({ leg with state := .waiting }, [check])
  else
    let (leg', effects) := modifyOrderHelper settings link 0 { leg with state := .changing }
    (leg', check :: effects)

def modifyOrder (isEqual : Double → Double → Bool) (settings : Settings) (link : Link)
    (price : Double) (leg : Leg) : Leg × List Effect :=
  let check := Effect.check (.number price)
  if isEqual leg.price price then (leg, [check])
  else
    let leg := { leg with price := price }
    match leg.state with
    | .undefined => (leg, [check, .check (.unexpected leg.state)])
    -- the response handlers will use the latest price
    | .creating | .changing => (leg, [check])
    | .waiting =>
        let (leg', effects) := modifyOrderHelper settings link 0 { leg with state := .changing }
        (leg', check :: effects)
    | .finished | .failed => (leg, [check])

def onOrderUpdate (orderStatus : OrderStatus) (leg : Leg) : Leg :=
  if orderStatus = .completed then { leg with state := .finished } else leg

end Leg

/-- The single response to an outstanding request. -/
inductive Response
  | failure (orderAck : OrderAck)
  | success (orderAck : OrderAck)

/-- An outstanding request, with what its callbacks have captured. -/
structure Request where
  helper : Helper
  retryCounter : Nat
  price : Double

structure RetryTimer where
  helper : Helper
  retryCounter : Nat

/-- A leg, its outstanding requests and its pending timers. `completed` remembers that a COMPLETED
OrderUpdate has been processed, `stopped` that log::fatal has been reached, and `lost` that the
behaviour has become undefined. -/
structure Session where
  leg : Leg
  requests : List Request
  timers : List RetryTimer
  completed : Bool
  stopped : Bool
  lost : Bool

/-- Everything that can reach a leg. A request or a timer is named by its position. -/
inductive Event
  | market (ready : Bool) (tradingStatus : TradingStatus) (link : Link)
  | response (index : Nat) (response : Response) (link : Link)
  | timer (index : Nat) (link : Link)
  | modifyOrder (price : Double) (link : Link)
  | orderUpdate (orderStatus : OrderStatus)

namespace Session

variable (isEqual : Double → Double → Bool) (settings : Settings)

/-- The leg as constructed by Strategy: nothing has been submitted. -/
def initial (side : Side) (quantity price : Double) : Session where
  leg := { side := side, quantity := quantity, price := price, state := .undefined }
  requests := []
  timers := []
  completed := false
  stopped := false
  lost := false

/-- Dispatch a response to the callbacks of its request. -/
def respond (request : Request) (link : Link) (leg : Leg) : Response → Leg × List Effect
  | .failure orderAck =>
      leg.handleFailure request.helper settings request.retryCounter orderAck
  | .success orderAck => leg.handleSuccess isEqual request.helper settings link orderAck

/-- The lambda `handle_timer` of the helper that added the timer. -/
def fire (timer : RetryTimer) (link : Link) (leg : Leg) : Leg × List Effect :=
  match timer.helper with
  | .submit => leg.submitOrderHelper settings link (timer.retryCounter + 1)
  | .modify => leg.modifyOrderHelper settings link (timer.retryCounter + 1)

def requestOf : Effect → Option Request
  | .createOrder request retryCounter => some ⟨.submit, retryCounter, request.price⟩
  | .modifyOrder request retryCounter => some ⟨.modify, retryCounter, request.price⟩
  | .addTimer _ _ _ | .check _ | .fatal _ | .danglingCall _ _ _ => none

def timerOf : Effect → Option RetryTimer
  | .addTimer _ helper retryCounter => some ⟨helper, retryCounter⟩
  | .createOrder _ _ | .modifyOrder _ _ | .check _ | .fatal _ | .danglingCall _ _ _ => none

def isFatal : Effect → Bool
  | .fatal _ => true
  | .createOrder _ _ | .modifyOrder _ _ | .addTimer _ _ _ | .check _ | .danglingCall _ _ _ => false

def isDangling : Effect → Bool
  | .danglingCall _ _ _ => true
  | .createOrder _ _ | .modifyOrder _ _ | .addTimer _ _ _ | .check _ | .fatal _ => false

/-- Install the leg and what its handler has requested. -/
def commit (s : Session) (outcome : Leg × List Effect) : Session :=
  { s with
    leg := outcome.1
    requests := s.requests ++ outcome.2.filterMap requestOf
    timers := s.timers ++ outcome.2.filterMap timerOf
    stopped := outcome.2.any isFatal
    lost := outcome.2.any isDangling }

/-- The session that an event finds, its token taken, and what the leg makes of the event. A
response needs an outstanding request and a timer event a pending timer. -/
def outcome (s : Session) : Event → Option (Session × (Leg × List Effect))
  | .market ready tradingStatus link =>
      some (s, s.leg.maybeSubmitOrder settings link ready tradingStatus)
  | .response index response link =>
      s.requests[index]?.map fun request =>
        ({ s with requests := s.requests.eraseIdx index },
          respond isEqual settings request link s.leg response)
  | .timer index link =>
      s.timers[index]?.map fun timer =>
        ({ s with timers := s.timers.eraseIdx index }, fire settings timer link s.leg)
  | .modifyOrder price link => some (s, s.leg.modifyOrder isEqual settings link price)
  | .orderUpdate orderStatus =>
      some ({ s with completed := s.completed || decide (orderStatus = .completed) },
        (s.leg.onOrderUpdate orderStatus, []))

/-- No handler is called any more. -/
def ended (s : Session) : Bool := s.stopped || s.lost

def next (s : Session) (e : Event) : Option Session :=
  if s.ended then none
  else (outcome isEqual settings s e).map fun found => found.1.commit found.2

/-- What the handler of an event does. -/
def effects (s : Session) (e : Event) : List Effect :=
  ((outcome isEqual settings s e).map fun found => found.2.2).getD []

theorem not_ended {s t : Session} {e : Event} (taken : s.next isEqual settings e = some t) :
    s.ended = false := by
  unfold next at taken
  split at taken
  · cases taken
  · rename_i up
    simpa using up

/-- An event that is taken installs the outcome that it finds. -/
theorem next_eq_some {s t : Session} {e : Event} (taken : s.next isEqual settings e = some t) :
    ∃ m o, s.outcome isEqual settings e = some (m, o) ∧ s.effects isEqual settings e = o.2 ∧
      t = m.commit o := by
  unfold next at taken
  split at taken
  · cases taken
  · obtain ⟨⟨m, o⟩, found, same⟩ := Option.map_eq_some_iff.mp taken
    exact ⟨m, o, found, by simp [effects, found], same.symm⟩

/-- The event is no rejection that makes the leg call its retry through a dangling reference. -/
def NotRateLimited : Event → Prop
  | .response _ (.failure ack) _ => ack.error ≠ .requestRateLimitReached
  | .response _ (.success _) _ | .market _ _ _ | .timer _ _ | .modifyOrder _ _
  | .orderUpdate _ => True

instance : ∀ e, Decidable (NotRateLimited e)
  | .response _ (.failure ack) _ =>
      inferInstanceAs (Decidable (ack.error ≠ .requestRateLimitReached))
  | .response _ (.success _) _ | .market _ _ _ | .timer _ _ | .modifyOrder _ _
  | .orderUpdate _ => inferInstanceAs (Decidable True)

/-- Nothing is left when the only token is taken. -/
theorem sole_token {α : Type} {l : List α} {index : Nat} {a : α} (found : l[index]? = some a)
    (one : l.length ≤ 1) : a ∈ l ∧ l.eraseIdx index = [] := by
  obtain ⟨inside, rfl⟩ := List.getElem?_eq_some_iff.mp found
  refine ⟨List.getElem_mem inside, List.eq_nil_of_length_eq_zero ?_⟩
  rw [List.length_eraseIdx_of_lt inside]
  omega

end Session

end RoqSamples.Strategy1
