/- Maker/Gateway
   digest: The maker on one connection, with the orders at the exchange and the messages in flight,
     which are delivered in any relative order. -/
import RoqSamples.Execution.Runs
import RoqSamples.Maker.Strategy
import Mathlib.Data.List.Nodup

set_option autoImplicit false
set_option relaxedAutoImplicit false

namespace RoqSamples.Maker.Gateway

open RoqSamples.Arith (Double)
open RoqSamples.Client

/-- Where an order is at the exchange. It is `closed` once its terminal update has been
delivered. -/
inductive Phase
  | sent | working | ended (orderStatus : OrderStatus) | closed
  deriving DecidableEq

/-- Sent and not yet filled, canceled or rejected. -/
def Phase.isLive : Phase → Bool
  | .sent | .working => true
  | .ended _ | .closed => false

structure Order where
  orderId : Nat
  side : Side
  price : Double
  phase : Phase
  deriving DecidableEq

structure Response where
  requestStatus : RequestStatus
  error : Error
  deriving DecidableEq

/-- A request on its way to the exchange, or, once it has a response, its completing ack on the way
back. -/
structure Request where
  requestType : RequestType
  orderId : Nat
  side : Side
  response : Option Response
  deriving DecidableEq

/-- What there is outside of the client. -/
structure Book where
  orders : List Order := []
  requests : List Request := []

namespace Book

def find (book : Book) (orderId : Nat) : Option Order :=
  book.orders.find? fun order => order.orderId = orderId

def sideOf (book : Book) (orderId : Nat) : Side :=
  ((book.find orderId).map (·.side)).getD .undefined

def phaseOf (book : Book) (orderId : Nat) : Option Phase := (book.find orderId).map (·.phase)

def place (book : Book) (order : Order) : Book where
  orders := book.orders ++ [order]
  requests := book.requests ++ [⟨.createOrder, order.orderId, order.side, none⟩]

def requestCancel (book : Book) (orderId : Nat) (side : Side) : Book :=
  { book with requests := book.requests ++ [⟨.cancelOrder, orderId, side, none⟩] }

/-- What the client has sent leaves for the exchange. -/
def send (book : Book) : Effect → Book
  | .createOrder request =>
      book.place ⟨request.orderId, request.side, request.price, .sent⟩
  | .cancelOrder request => book.requestCancel request.orderId (book.sideOf request.orderId)
  | .cancelAllOrders _ | .assertion _ => book

def setPhase (book : Book) (orderId : Nat) (phase : Phase) : Book :=
  { book with
    orders := book.orders.map fun order =>
      if order.orderId = orderId then { order with phase := phase } else order }

def answer (book : Book) (request : Request) (response : Response) : Book :=
  { book with
    requests := { request with response := some response } :: book.requests.erase request }

def forget (book : Book) (request : Request) : Book :=
  { book with requests := book.requests.erase request }

/-- The exchange gives a request its only response. A create is accepted or rejected; a cancel of a
working order is accepted, or fails for any reason other than being too late; a cancel of an order
that has ended is too late. The create of an order is processed before its cancel. -/
def respond [Utils] (book : Book) (request : Request) (response : Response) : Option Book :=
  let status := response.requestStatus
  let late := response.error = .tooLateToModifyOrCancel
  if request ∈ book.requests ∧ request.response = none then
    match request.requestType, book.phaseOf request.orderId with
    | .createOrder, some .sent =>
        if Utils.hasRequestSucceeded status then
          some ((book.setPhase request.orderId .working).answer request response)
        else if Utils.hasRequestFailed status then
          some ((book.setPhase request.orderId (.ended .rejected)).answer request response)
        else none
    | .cancelOrder, some .working =>
        if Utils.hasRequestSucceeded status then
          some ((book.setPhase request.orderId (.ended .canceled)).answer request response)
        else if Utils.hasRequestFailed status ∧ ¬ late then some (book.answer request response)
        else none
    | .cancelOrder, some (.ended _) | .cancelOrder, some .closed =>
        if Utils.hasRequestFailed status ∧ late then some (book.answer request response) else none
    | _, _ => none
  else none

/-- What the exchange makes of a request that waits for a response. -/
inductive Responds [Utils] (book : Book) (request : Request) (response : Response) : Book → Prop
  | accepted (type : request.requestType = .createOrder)
      (sent : book.phaseOf request.orderId = some .sent)
      (success : Utils.hasRequestSucceeded response.requestStatus = true) :
      Responds book request response
        ((book.setPhase request.orderId .working).answer request response)
  | rejected (type : request.requestType = .createOrder)
      (sent : book.phaseOf request.orderId = some .sent)
      (failure : Utils.hasRequestFailed response.requestStatus = true) :
      Responds book request response
        ((book.setPhase request.orderId (.ended .rejected)).answer request response)
  | canceled (type : request.requestType = .cancelOrder)
      (working : book.phaseOf request.orderId = some .working)
      (success : Utils.hasRequestSucceeded response.requestStatus = true) :
      Responds book request response
        ((book.setPhase request.orderId (.ended .canceled)).answer request response)
  | refused (type : request.requestType = .cancelOrder)
      (working : book.phaseOf request.orderId = some .working)
      (failure : Utils.hasRequestFailed response.requestStatus = true)
      (other : response.error ≠ .tooLateToModifyOrCancel) :
      Responds book request response (book.answer request response)
  | tooLate (type : request.requestType = .cancelOrder)
      (ended : ∃ phase, book.phaseOf request.orderId = some phase ∧ phase.isLive = false)
      (failure : Utils.hasRequestFailed response.requestStatus = true)
      (late : response.error = .tooLateToModifyOrCancel) :
      Responds book request response (book.answer request response)

theorem responds [Utils] {book later : Book} {request : Request} {response : Response}
    (responded : book.respond request response = some later) :
    request ∈ book.requests ∧ request.response = none ∧
      Responds book request response later := by
  unfold Book.respond at responded
  dsimp only at responded
  split at responded
  · rename_i waits
    refine ⟨waits.1, waits.2, ?_⟩
    split at responded
    · rename_i type sent
      split at responded
      · cases responded
        exact .accepted type sent ‹_›
      · split at responded
        · cases responded
          exact .rejected type sent ‹_›
        · cases responded
    · rename_i type working
      split at responded
      · cases responded
        exact .canceled type working ‹_›
      · split at responded
        · rename_i failure
          cases responded
          exact .refused type working failure.1 failure.2
        · cases responded
    · rename_i status type ended
      split at responded
      · rename_i failure
        cases responded
        exact .tooLate type ⟨_, ended, rfl⟩ failure.1 failure.2
      · cases responded
    · rename_i type ended
      split at responded
      · rename_i failure
        cases responded
        exact .tooLate type ⟨_, ended, rfl⟩ failure.1 failure.2
      · cases responded
    · cases responded
  · cases responded

end Book

/-- The client, what is outside of it, and why it has stopped. -/
structure System where
  strategy : Strategy := {}
  book : Book := {}
  fatal : Option Fatal := none

/-- The client receives an event that does not concern the life of an order; the exchange responds
to a request or ends an order; a completing ack or a terminal update is delivered. -/
inductive Event
  | client (e : Maker.Event)
  | respond (request : Request) (response : Response)
  | finish (orderId : Nat) (orderStatus : OrderStatus)
  | orderAck (orderAck : OrderAck)
  | orderUpdate (orderUpdate : OrderUpdate)
  deriving DecidableEq

/-- The connection is never lost, and no ack completes a request and no update ends an order but
those in flight. -/
def isFree [Utils] : Maker.Event → Bool
  | .disconnected => false
  | .orderAck orderAck =>
      orderAck.side ≠ .undefined ∧ Utils.hasRequestCompleted orderAck.requestStatus = false
  | .orderUpdate orderUpdate =>
      orderUpdate.side ≠ .undefined ∧
        (orderUpdate.updateType = .incremental →
          Utils.isOrderComplete orderUpdate.orderStatus = false)
  | _ => true

/-- The request that an ack completes. -/
def requestOf (orderAck : OrderAck) : Request where
  requestType := orderAck.requestType
  orderId := orderAck.orderId
  side := orderAck.side
  response := some { requestStatus := orderAck.requestStatus, error := orderAck.error }

namespace System

/-- What an event has done before it ends in log::fatal: in a timer the BUY quote comes first. -/
def beforeFatal (s : Strategy) : Maker.Event → Strategy × List Effect
  | .timer now bidConnected _ =>
      match s.bid.onTimer s.shared now bidConnected with
      | .error _ => (s, [])
      | .ok (bid, shared, effects) => ({ s with shared := shared, bid := bid }, effects)
  | _ => (s, [])

variable (roundAway : Side → Double → Double → Double)

variable [Utils]

/-- The client handles an event in view of `book`. -/
def install (s : System) (book : Book) (e : Maker.Event) : System :=
  match s.strategy.handle roundAway e with
  | .ok (strategy, effects) =>
      { s with strategy := strategy, book := effects.foldl Book.send book }
  | .error reason =>
      let (strategy, effects) := beforeFatal s.strategy e
      { s with
        strategy := strategy
        book := effects.foldl Book.send book
        fatal := some reason }

def next (s : System) (e : Event) : Option System :=
  if s.fatal.isSome then none
  else
    match e with
    | .client e =>
        if isFree e then some (s.install roundAway s.book e) else none
    | .respond request response =>
        (s.book.respond request response).map fun book => { s with book := book }
    | .finish orderId orderStatus =>
        if s.book.phaseOf orderId = some .working ∧ Utils.isOrderComplete orderStatus then
          some { s with book := s.book.setPhase orderId (.ended orderStatus) }
        else none
    | .orderAck orderAck =>
        if requestOf orderAck ∈ s.book.requests then
          some (s.install roundAway (s.book.forget (requestOf orderAck)) (.orderAck orderAck))
        else none
    | .orderUpdate orderUpdate =>
        if orderUpdate.updateType = .incremental ∧ Utils.isOrderComplete orderUpdate.orderStatus ∧
            s.book.sideOf orderUpdate.orderId = orderUpdate.side ∧
            s.book.phaseOf orderUpdate.orderId = some (.ended orderUpdate.orderStatus) then
          some (s.install roundAway (s.book.setPhase orderUpdate.orderId .closed)
            (.orderUpdate orderUpdate))
        else none

/-- What an event can do to the system. -/
inductive Step (s : System) : Event → System → Prop
  | client {e : Maker.Event} {strategy : Strategy} {effects : List Effect}
      (free : isFree e = true) (step : Strategy.Step roundAway s.strategy e strategy effects) :
      Step s (.client e) { s with strategy := strategy, book := effects.foldl Book.send s.book }
  | clientFails {e : Maker.Event} {reason : Fatal} (free : isFree e = true)
      (failed : s.strategy.handle roundAway e = .error reason) :
      Step s (.client e) { s with fatal := some reason }
  | askFails {now : Int} {bidConnected askConnected : Bool} {outcome : Quote.Outcome}
      {reason : Fatal} (trading : s.strategy.canTrade = true)
      (bidHandled : s.strategy.bid.onTimer s.strategy.shared now bidConnected = .ok outcome)
      (failed : s.strategy.handle roundAway (.timer now bidConnected askConnected) =
        .error reason) :
      Step s (.client (.timer now bidConnected askConnected))
        { strategy := { s.strategy with shared := outcome.2.1, bid := outcome.1 }
          book := outcome.2.2.foldl Book.send s.book
          fatal := some reason }
  | respond {request : Request} {response : Response} {book : Book}
      (responded : s.book.respond request response = some book) :
      Step s (.respond request response) { s with book := book }
  | finish {orderId : Nat} {orderStatus : OrderStatus}
      (working : s.book.phaseOf orderId = some .working)
      (complete : Utils.isOrderComplete orderStatus = true) :
      Step s (.finish orderId orderStatus)
        { s with book := s.book.setPhase orderId (.ended orderStatus) }
  | ack {orderAck : OrderAck} {strategy : Strategy}
      (mem : requestOf orderAck ∈ s.book.requests)
      (step : Strategy.Step roundAway s.strategy (.orderAck orderAck) strategy []) :
      Step s (.orderAck orderAck)
        { s with strategy := strategy, book := s.book.forget (requestOf orderAck) }
  | ackFails {orderAck : OrderAck} {reason : Fatal}
      (mem : requestOf orderAck ∈ s.book.requests)
      (failed : s.strategy.handle roundAway (.orderAck orderAck) = .error reason) :
      Step s (.orderAck orderAck)
        { s with book := s.book.forget (requestOf orderAck), fatal := some reason }
  | update {orderUpdate : OrderUpdate} {strategy : Strategy}
      (incremental : orderUpdate.updateType = .incremental)
      (complete : Utils.isOrderComplete orderUpdate.orderStatus = true)
      (side : s.book.sideOf orderUpdate.orderId = orderUpdate.side)
      (ended : s.book.phaseOf orderUpdate.orderId = some (.ended orderUpdate.orderStatus))
      (step : Strategy.Step roundAway s.strategy (.orderUpdate orderUpdate) strategy []) :
      Step s (.orderUpdate orderUpdate)
        { s with strategy := strategy, book := s.book.setPhase orderUpdate.orderId .closed }
  | updateFails {orderUpdate : OrderUpdate} {reason : Fatal}
      (side : s.book.sideOf orderUpdate.orderId = orderUpdate.side)
      (ended : s.book.phaseOf orderUpdate.orderId = some (.ended orderUpdate.orderStatus))
      (failed : s.strategy.handle roundAway (.orderUpdate orderUpdate) = .error reason) :
      Step s (.orderUpdate orderUpdate)
        { s with book := s.book.setPhase orderUpdate.orderId .closed, fatal := some reason }

variable {roundAway}

private theorem no_effects {s t : Strategy} {e : Maker.Event} {effects : List Effect}
    (step : Strategy.Step roundAway s e t effects)
    (order_event :
      (∃ orderAck, e = .orderAck orderAck) ∨ ∃ orderUpdate, e = .orderUpdate orderUpdate) :
    effects = [] := by
  rcases order_event with ⟨_, rfl⟩ | ⟨_, rfl⟩
  · cases step <;> rfl
  · cases step <;> rfl

/-- A free event that ends in log::fatal has done nothing before, or the BUY quote has acted. -/
private theorem client_fails {s : System} {e : Maker.Event} {reason : Fatal}
    (free : isFree e = true) (failed : s.strategy.handle roundAway e = .error reason) :
    Step roundAway s (.client e) (s.install roundAway s.book e) := by
  simp only [install, failed]
  cases e with
  | timer now bidConnected askConnected =>
      have trading := (Strategy.handle_timer_error failed).1
      unfold beforeFatal
      dsimp only
      split
      · exact .clientFails free failed
      · rename_i bidHandled
        exact .askFails trading bidHandled failed
  | disconnected | downloadEnd _ | ready _ | referenceData _ | marketStatus _ | topOfBook _ _
  | cancelAllOrdersAck | orderAck _ | orderUpdate _ => exact .clientFails free failed

theorem running {s t : System} {e : Event} (taken : next roundAway s e = some t) :
    s.fatal = none := by
  unfold next at taken
  split at taken
  · cases taken
  · simpa using ‹¬ s.fatal.isSome = true›

theorem next_step {s t : System} {e : Event} (taken : next roundAway s e = some t) :
    Step roundAway s e t := by
  unfold next at taken
  split at taken
  · cases taken
  cases e with
  | client e =>
      dsimp only at taken
      split at taken
      · rename_i free
        cases taken
        cases handled : s.strategy.handle roundAway e with
        | error reason => exact client_fails free handled
        | ok outcome =>
            simp only [install, handled]
            exact .client free (Strategy.handle_step handled)
      · cases taken
  | respond request response =>
      obtain ⟨book, responded, rfl⟩ := Option.map_eq_some_iff.mp taken
      exact .respond responded
  | finish orderId orderStatus =>
      dsimp only at taken
      split at taken
      · rename_i ends
        cases taken
        exact .finish ends.1 ends.2
      · cases taken
  | orderAck orderAck =>
      dsimp only at taken
      split at taken
      · rename_i mem
        cases taken
        cases handled : s.strategy.handle roundAway (.orderAck orderAck) with
        | error reason =>
            simp only [install, handled, beforeFatal]
            exact .ackFails mem handled
        | ok outcome =>
            simp only [install, handled]
            obtain ⟨strategy, effects⟩ := outcome
            have step := Strategy.handle_step handled
            obtain rfl := no_effects step (.inl ⟨orderAck, rfl⟩)
            exact .ack mem step
      · cases taken
  | orderUpdate orderUpdate =>
      dsimp only at taken
      split at taken
      · rename_i ends
        cases taken
        cases handled : s.strategy.handle roundAway (.orderUpdate orderUpdate) with
        | error reason =>
            simp only [install, handled, beforeFatal]
            exact .updateFails ends.2.2.1 ends.2.2.2 handled
        | ok outcome =>
            simp only [install, handled]
            obtain ⟨strategy, effects⟩ := outcome
            have step := Strategy.handle_step handled
            obtain rfl := no_effects step (.inr ⟨orderUpdate, rfl⟩)
            exact .update ends.1 ends.2.1 ends.2.2.1 ends.2.2.2 step
      · cases taken

end System

end RoqSamples.Maker.Gateway
