/- Maker/Quote
   digest: One side of the maker: its order, its target price, and the request limiter it shares. -/
import RoqSamples.Client.Utils

set_option autoImplicit false
set_option relaxedAutoImplicit false

namespace RoqSamples.Maker

open RoqSamples.Arith (Double)
open RoqSamples.Client

def account : String := "A1"
def exchange : String := "deribit"
def symbol : String := "BTC-PERPETUAL"
def spread : Double := .num (3 / 2)
def quantity : Double := .num 1
def requestLimit : Nat := 10

/-- `MONITOR_PERIOD` in nanoseconds. -/
def monitorPeriod : Int := 2000000000

/-- What is shared by the two quotes; the front of `history` is its head. -/
structure Shared where
  maxOrderId : Nat := 0
  position : Double := 0
  history : List Int := []

namespace Shared

def isBlocked (shared : Shared) (now : Int) : Bool :=
  shared.history.length = requestLimit ∧ now - shared.history.headD 0 < monitorPeriod

/-- The bookkeeping after the callback: entries older than the period leave, `now` enters. -/
def record (shared : Shared) (now : Int) : Shared :=
  { shared with
    history := shared.history.dropWhile (fun time => time < now - monitorPeriod) ++ [now] }

/-- The callback works on the shared state and on what else it has captured. An exception leaves
both as they are where it is thrown. The result tells whether the limiter called the callback. -/
def rateLimit {α : Type} (state : Shared × α) (now : Int)
    (callback : Shared × α → (Shared × α) × Except NotConnected Unit) :
    (Shared × α) × Except NotConnected Bool :=
  if state.1.isBlocked now then (state, .ok false)
  else
    match callback state with
    | (state, .error e) => (state, .error e)
    | (state, .ok ()) => ((state.1.record now, state.2), .ok true)

end Shared

inductive QuoteState
  | undefined | create | modify | cancel | working
  deriving DecidableEq

/-- The reasons to end in log::fatal, with what the message shows. -/
inductive Fatal
  | unexpected (side : Side)
  | unexpectedState (side : Side) (state : QuoteState)
  | unexpectedTargetPrice (side : Side) (targetPrice : Double)
  | unexpectedSide
  deriving DecidableEq

/-- A request that has been sent, or an evaluated assertion. -/
inductive Effect
  | createOrder (request : CreateOrder)
  | cancelOrder (request : CancelOrder)
  | cancelAllOrders (request : CancelAllOrders)
  | assertion (holds : Bool)
  deriving DecidableEq

structure Quote where
  side : Side
  targetPrice : Double := .nan
  updateOrder : Bool := false
  orderId : Nat := 0
  limitPrice : Double := .nan
  state : QuoteState := .undefined
  deriving DecidableEq

namespace Quote

/-- The quote, the shared state and the effects that a handler leaves behind. -/
abbrev Outcome := Quote × Shared × List Effect

/-- The members that `clear` resets; the state is not one of them. -/
def clear (quote : Quote) : Quote :=
  { quote with targetPrice := .nan, updateOrder := false, orderId := 0, limitPrice := .nan }

def updateTargetPrice [Utils] (quote : Quote) (price : Double) : Quote :=
  if Utils.updated quote.targetPrice price then
    { quote with targetPrice := price, updateOrder := true }
  else quote

def createOrderRequest (side : Side) (orderId : Nat) (price : Double) : CreateOrder where
  account := account
  orderId := orderId
  exchange := exchange
  symbol := symbol
  side := side
  maxShowQuantity := .nan
  orderType := .limit
  timeInForce := .gtc
  executionInstructions := [.participateDoNotInitiate]
  quantity := quantity
  price := price
  stopPrice := .nan
  leverage := .nan
  strategyId := 0

/-- `dispatcher.send`: `connected` tells whether it goes through or throws NotConnected. -/
def send (request : Effect) (connected : Bool) (effects : List Effect) :
    List Effect × Except NotConnected Unit :=
  if connected then (effects ++ [request], .ok ()) else (effects, .error .notConnected)

/-- The lambda `helper` of `create_order`: the bookkeeping comes after the send. -/
def createHelper (request : CreateOrder) (connected : Bool)
    (state : Shared × Quote × List Effect) :
    (Shared × Quote × List Effect) × Except NotConnected Unit :=
  let (shared, quote, effects) := state
  match send (.createOrder request) connected effects with
  | (effects, .error e) => ((shared, quote, effects), .error e)
  | (effects, .ok ()) =>
      (({ shared with maxOrderId := request.orderId },
        { quote with orderId := request.orderId, state := .create },
        effects ++ [.assertion (shared.maxOrderId < request.orderId),
          .assertion (quote.orderId = 0)]), .ok ())

/-- The lambda `helper` of `cancel_order`. -/
def cancelHelper (request : CancelOrder) (connected : Bool)
    (state : Shared × Quote × List Effect) :
    (Shared × Quote × List Effect) × Except NotConnected Unit :=
  let (shared, quote, effects) := state
  match send (.cancelOrder request) connected effects with
  | (effects, .error e) => ((shared, quote, effects), .error e)
  | (effects, .ok ()) => ((shared, { quote with state := .cancel }, effects), .ok ())

/-- The `try` block of both requests: the result of the limiter is not used, and NotConnected is
only logged. -/
def tryRequest (quote : Quote) (shared : Shared) (now : Int)
    (helper : Shared × Quote × List Effect →
      (Shared × Quote × List Effect) × Except NotConnected Unit) : Outcome :=
  let ((shared, quote, effects), _) := Shared.rateLimit (shared, quote, []) now helper
  (quote, shared, effects)

def createOrder (quote : Quote) (shared : Shared) (now : Int) (connected : Bool) :
    Except Fatal Outcome :=
  let orderId := uint64 (shared.maxOrderId + 1)
  let request := createOrderRequest quote.side orderId quote.targetPrice
  if quote.state ≠ .undefined then .error (.unexpectedState quote.side quote.state)
  else if quote.targetPrice.isNaN then
    .error (.unexpectedTargetPrice quote.side quote.targetPrice)
  else .ok (quote.tryRequest shared now (createHelper request connected))

def cancelOrder (quote : Quote) (shared : Shared) (now : Int) (connected : Bool) :
    Except Fatal Outcome :=
  let request : CancelOrder := { account := account, orderId := quote.orderId }
  if quote.state ≠ .working then .error (.unexpectedState quote.side quote.state)
  else if quote.orderId = 0 then .ok (quote, shared, [])
  else .ok (quote.tryRequest shared now (cancelHelper request connected))

/-- The switch of the timer handler, whose outcome never decides what happens to the flag. -/
def act (quote : Quote) (shared : Shared) (now : Int) (connected : Bool) :
    Except Fatal Outcome :=
  match quote.state with
  | .undefined => quote.createOrder shared now connected
  | .create | .modify | .cancel => .ok (quote, shared, [])
  | .working => quote.cancelOrder shared now connected

def onTimer (quote : Quote) (shared : Shared) (now : Int) (connected : Bool) :
    Except Fatal Outcome :=
  if quote.updateOrder then
    (quote.act shared now connected).map fun (quote, shared, effects) =>
      ({ quote with updateOrder := false }, shared, effects)
  else .ok (quote, shared, [])

/-- A completing ack is matched with the state of the quote by its request type alone. -/
def onOrderAck [Utils] (quote : Quote) (orderAck : OrderAck) : Except Fatal Quote :=
  if Utils.hasRequestFailed orderAck.requestStatus ∧ orderAck.error ≠ .tooLateToModifyOrCancel then
    .error (.unexpected quote.side)
  else if Utils.hasRequestCompleted orderAck.requestStatus then
    match orderAck.requestType with
    | .undefined => .error (.unexpected quote.side)
    | .createOrder =>
        if quote.state = .create then .ok { quote with state := .working }
        else .error (.unexpectedState quote.side quote.state)
    | .modifyOrder =>
        if quote.state = .modify then .ok { quote with state := .working }
        else .error (.unexpectedState quote.side quote.state)
    | .cancelOrder =>
        if quote.state = .cancel then .ok { quote with orderId := 0, state := .undefined }
        else .error (.unexpectedState quote.side quote.state)
  else .ok quote

/-- The share of an update in the position. -/
def fill (quote : Quote) (shared : Shared) (orderUpdate : OrderUpdate) : Shared :=
  if orderUpdate.orderStatus = .completed then
    { shared with position := shared.position + .num quote.side.sign * orderUpdate.quantity }
  else shared

def onOrderUpdate [Utils] (quote : Quote) (shared : Shared) (orderUpdate : OrderUpdate) :
    Quote × Shared :=
  if orderUpdate.updateType ≠ .incremental then (quote, shared)
  else
    let shared := quote.fill shared orderUpdate
    if Utils.isOrderComplete orderUpdate.orderStatus ∧ quote.orderId = orderUpdate.orderId then
      ({ quote with orderId := 0, state := .undefined }, shared)
    else (quote, shared)

@[simp] theorem clear_side (quote : Quote) : quote.clear.side = quote.side := rfl
@[simp] theorem clear_state (quote : Quote) : quote.clear.state = quote.state := rfl
@[simp] theorem clear_orderId (quote : Quote) : quote.clear.orderId = 0 := rfl
@[simp] theorem clear_targetPrice (quote : Quote) : quote.clear.targetPrice = .nan := rfl

@[simp] theorem updateTargetPrice_targetPrice [Utils] (quote : Quote) (price : Double) :
    (quote.updateTargetPrice price).targetPrice = price := by
  unfold updateTargetPrice
  split
  · rfl
  · rename_i same
    exact Utils.updated_eq_false.mp (by simpa using same)

@[simp] theorem updateTargetPrice_side [Utils] (quote : Quote) (price : Double) :
    (quote.updateTargetPrice price).side = quote.side := by
  unfold updateTargetPrice
  split <;> rfl

@[simp] theorem updateTargetPrice_state [Utils] (quote : Quote) (price : Double) :
    (quote.updateTargetPrice price).state = quote.state := by
  unfold updateTargetPrice
  split <;> rfl

@[simp] theorem updateTargetPrice_orderId [Utils] (quote : Quote) (price : Double) :
    (quote.updateTargetPrice price).orderId = quote.orderId := by
  unfold updateTargetPrice
  split <;> rfl

/-- The quote and the shared state once a CreateOrder has been sent. -/
def created (quote : Quote) (shared : Shared) (now : Int) : Outcome :=
  ({ quote with orderId := uint64 (shared.maxOrderId + 1), state := .create },
    { shared with maxOrderId := uint64 (shared.maxOrderId + 1) }.record now,
    [.createOrder
        (createOrderRequest quote.side (uint64 (shared.maxOrderId + 1)) quote.targetPrice),
      .assertion (shared.maxOrderId < uint64 (shared.maxOrderId + 1)),
      .assertion (quote.orderId = 0)])

/-- The quote and the shared state once a CancelOrder has been sent. -/
def canceled (quote : Quote) (shared : Shared) (now : Int) : Outcome :=
  ({ quote with state := .cancel }, shared.record now,
    [.cancelOrder { account := account, orderId := quote.orderId }])

theorem createOrder_sent {quote : Quote} {shared : Shared} {now : Int} {connected : Bool}
    (state : quote.state = .undefined) (target : quote.targetPrice ≠ .nan)
    (free : shared.isBlocked now = false) (sent : connected = true) :
    quote.createOrder shared now connected = .ok (quote.created shared now) := by
  have number := Double.isNaN_eq_false.mpr target
  simp only [createOrder, tryRequest, createHelper, send, Shared.rateLimit, created, state, number,
    free, sent, ne_eq, not_true_eq_false, Bool.false_eq_true, if_false, if_true, List.nil_append]
  rfl

theorem createOrder_unsent {quote : Quote} {shared : Shared} {now : Int} {connected : Bool}
    (state : quote.state = .undefined) (target : quote.targetPrice ≠ .nan)
    (unsent : shared.isBlocked now = true ∨ connected = false) :
    quote.createOrder shared now connected = .ok (quote, shared, []) := by
  have number := Double.isNaN_eq_false.mpr target
  cases blocked : shared.isBlocked now with
  | true => simp [createOrder, tryRequest, Shared.rateLimit, state, number, blocked]
  | false =>
      have sent : connected = false := by simpa [blocked] using unsent
      simp [createOrder, tryRequest, createHelper, send, Shared.rateLimit, state, number, blocked,
        sent]

theorem createOrder_nan {quote : Quote} (shared : Shared) (now : Int) (connected : Bool)
    (state : quote.state = .undefined) (target : quote.targetPrice = .nan) :
    quote.createOrder shared now connected =
      .error (.unexpectedTargetPrice quote.side .nan) := by
  simp [createOrder, state, target]

theorem cancelOrder_sent {quote : Quote} {shared : Shared} {now : Int} {connected : Bool}
    (state : quote.state = .working) (order : quote.orderId ≠ 0)
    (free : shared.isBlocked now = false) (sent : connected = true) :
    quote.cancelOrder shared now connected = .ok (quote.canceled shared now) := by
  simp [cancelOrder, tryRequest, cancelHelper, send, Shared.rateLimit, canceled, state, order,
    free, sent]

theorem cancelOrder_unsent {quote : Quote} {shared : Shared} {now : Int} {connected : Bool}
    (state : quote.state = .working)
    (unsent : quote.orderId = 0 ∨ shared.isBlocked now = true ∨ connected = false) :
    quote.cancelOrder shared now connected = .ok (quote, shared, []) := by
  by_cases order : quote.orderId = 0
  · simp [cancelOrder, state, order]
  · cases blocked : shared.isBlocked now with
    | true => simp [cancelOrder, tryRequest, Shared.rateLimit, state, order, blocked]
    | false =>
        have sent : connected = false := by simpa [order, blocked] using unsent
        simp [cancelOrder, tryRequest, cancelHelper, send, Shared.rateLimit, state, order, blocked,
          sent]

/-- A timer that finds the flag set sends a request: the state and the order id allow it, the
limiter does not block, and the send goes through. -/
def Sends (quote : Quote) (shared : Shared) (now : Int) (connected : Bool) : Prop :=
  (quote.state = .undefined ∨ quote.state = .working ∧ quote.orderId ≠ 0) ∧
    shared.isBlocked now = false ∧ connected = true

instance (quote : Quote) (shared : Shared) (now : Int) (connected : Bool) :
    Decidable (quote.Sends shared now connected) :=
  inferInstanceAs (Decidable (_ ∧ _ ∧ _))

/-- What the switch of the timer handler can do: nothing, one CreateOrder, or one CancelOrder. -/
inductive Act (quote : Quote) (shared : Shared) (now : Int) (connected : Bool) : Outcome → Prop
  | idle (unsent : ¬ quote.Sends shared now connected) :
      Act quote shared now connected (quote, shared, [])
  | create (state : quote.state = .undefined) (target : quote.targetPrice ≠ .nan)
      (free : shared.isBlocked now = false) (sent : connected = true) :
      Act quote shared now connected (quote.created shared now)
  | cancel (state : quote.state = .working) (order : quote.orderId ≠ 0)
      (free : shared.isBlocked now = false) (sent : connected = true) :
      Act quote shared now connected (quote.canceled shared now)

theorem act_cases {quote : Quote} {shared : Shared} {now : Int} {connected : Bool}
    {outcome : Outcome} (handled : quote.act shared now connected = .ok outcome) :
    Act quote shared now connected outcome := by
  have limits : (shared.isBlocked now = true ∨ connected = false) ∨
      shared.isBlocked now = false ∧ connected = true := by
    cases shared.isBlocked now <;> cases connected <;> simp
  have unsent_of (unsent : shared.isBlocked now = true ∨ connected = false) :
      ¬ quote.Sends shared now connected := by
    rintro ⟨_, free, sent⟩
    rcases unsent with blocked | down
    · exact Bool.noConfusion (blocked.symm.trans free)
    · exact Bool.noConfusion (down.symm.trans sent)
  unfold act at handled
  cases state : quote.state with
  | undefined =>
      simp only [state] at handled
      by_cases target : quote.targetPrice = .nan
      · rw [createOrder_nan shared now connected state target] at handled
        cases handled
      rcases limits with unsent | ⟨free, sent⟩
      · rw [createOrder_unsent state target unsent] at handled
        cases handled
        exact .idle (unsent_of unsent)
      · rw [createOrder_sent state target free sent] at handled
        cases handled
        exact .create state target free sent
  | working =>
      simp only [state] at handled
      by_cases order : quote.orderId = 0
      · rw [cancelOrder_unsent state (.inl order)] at handled
        cases handled
        exact .idle (by simp [Sends, state, order])
      rcases limits with unsent | ⟨free, sent⟩
      · rw [cancelOrder_unsent state (.inr unsent)] at handled
        cases handled
        exact .idle (unsent_of unsent)
      · rw [cancelOrder_sent state order free sent] at handled
        cases handled
        exact .cancel state order free sent
  | create | modify | cancel =>
      simp only [state] at handled
      cases handled
      exact .idle (by simp [Sends, state])

theorem Act.side {quote : Quote} {shared : Shared} {now : Int} {connected : Bool}
    {outcome : Outcome} (acted : Act quote shared now connected outcome) :
    outcome.1.side = quote.side := by
  cases acted <;> rfl

/-- A timer does nothing without the flag; with it, it acts and clears the flag. -/
theorem onTimer_cases {quote : Quote} {shared : Shared} {now : Int} {connected : Bool}
    {outcome : Outcome} (handled : quote.onTimer shared now connected = .ok outcome) :
    quote.updateOrder = false ∧ outcome = (quote, shared, []) ∨
      quote.updateOrder = true ∧ ∃ acted, Act quote shared now connected acted ∧
        outcome = ({ acted.1 with updateOrder := false }, acted.2) := by
  unfold onTimer at handled
  split at handled
  · rename_i flag
    obtain ⟨acted, result, rfl⟩ := ok_of_map handled
    exact .inr ⟨flag, acted, act_cases result, rfl⟩
  · rename_i flag
    cases handled
    exact .inl ⟨by simpa using flag, rfl⟩

theorem onTimer_side {quote : Quote} {shared : Shared} {now : Int} {connected : Bool}
    {outcome : Outcome} (handled : quote.onTimer shared now connected = .ok outcome) :
    outcome.1.side = quote.side := by
  rcases onTimer_cases handled with ⟨_, rfl⟩ | ⟨_, acted, act, rfl⟩
  · rfl
  · exact act.side

theorem onTimer_targetPrice {quote : Quote} {shared : Shared} {now : Int} {connected : Bool}
    {outcome : Outcome} (handled : quote.onTimer shared now connected = .ok outcome) :
    outcome.1.targetPrice = quote.targetPrice := by
  rcases onTimer_cases handled with ⟨_, rfl⟩ | ⟨_, acted, act, rfl⟩
  · rfl
  · cases act <;> rfl

/-- The shared state that a timer leaves behind: a request is recorded, and a CreateOrder takes the
next order id. -/
def sharedAfterTimer (quote : Quote) (shared : Shared) (now : Int) (connected : Bool) : Shared :=
  if quote.updateOrder = true ∧ quote.Sends shared now connected then
    if quote.state = .undefined then
      { shared with maxOrderId := uint64 (shared.maxOrderId + 1) }.record now
    else shared.record now
  else shared

theorem onTimer_shared {quote : Quote} {shared : Shared} {now : Int} {connected : Bool}
    {outcome : Outcome} (handled : quote.onTimer shared now connected = .ok outcome) :
    outcome.2.1 = quote.sharedAfterTimer shared now connected := by
  rcases onTimer_cases handled with ⟨flag, rfl⟩ | ⟨flag, acted, act, rfl⟩
  · simp [sharedAfterTimer, flag]
  · cases act with
    | idle unsent => simp [sharedAfterTimer, unsent]
    | create state target free sent =>
        simp [sharedAfterTimer, Sends, created, flag, state, free, sent]
    | cancel state order free sent =>
        simp [sharedAfterTimer, Sends, canceled, flag, state, order, free, sent]

/-- A timer reaches log::fatal only when it has to create an order at a price that is NaN. -/
theorem onTimer_error_iff {quote : Quote} {shared : Shared} {now : Int} {connected : Bool} :
    (∃ e, quote.onTimer shared now connected = .error e) ↔
      quote.updateOrder = true ∧ quote.state = .undefined ∧ quote.targetPrice = .nan := by
  constructor
  · rintro ⟨e, failed⟩
    unfold onTimer at failed
    split at failed
    · rename_i flag
      refine ⟨flag, ?_⟩
      cases result : quote.act shared now connected with
      | ok acted =>
          rw [result] at failed
          cases failed
      | error e' =>
          unfold act at result
          cases state : quote.state with
          | undefined =>
              simp only [state] at result
              refine ⟨rfl, ?_⟩
              by_contra target
              simp only [createOrder, state, ne_eq, not_true_eq_false, if_false,
                Double.isNaN_eq_false.mpr target, Bool.false_eq_true, if_false] at result
              cases result
          | working =>
              simp only [state, cancelOrder, ne_eq, not_true_eq_false, if_false] at result
              split at result
              · cases result
              · cases result
          | create | modify | cancel =>
              simp only [state] at result
              cases result
    · cases failed
  · rintro ⟨flag, state, target⟩
    refine ⟨.unexpectedTargetPrice quote.side .nan, ?_⟩
    have failed := createOrder_nan shared now connected state target
    simp [onTimer, flag, act, state, failed, Except.map]

section Messages

variable [Utils]

/-- What an ack can do to a quote, by its request type and the state of the quote. -/
inductive AckStep (quote : Quote) (orderAck : OrderAck) : Quote → Prop
  | pending (pending : Utils.hasRequestCompleted orderAck.requestStatus = false) :
      AckStep quote orderAck quote
  | created (completed : Utils.hasRequestCompleted orderAck.requestStatus = true)
      (type : orderAck.requestType = .createOrder) (state : quote.state = .create) :
      AckStep quote orderAck { quote with state := .working }
  | modified (completed : Utils.hasRequestCompleted orderAck.requestStatus = true)
      (type : orderAck.requestType = .modifyOrder) (state : quote.state = .modify) :
      AckStep quote orderAck { quote with state := .working }
  | canceled (completed : Utils.hasRequestCompleted orderAck.requestStatus = true)
      (type : orderAck.requestType = .cancelOrder) (state : quote.state = .cancel) :
      AckStep quote orderAck { quote with orderId := 0, state := .undefined }

theorem onOrderAck_step {quote after : Quote} {orderAck : OrderAck}
    (handled : quote.onOrderAck orderAck = .ok after) : AckStep quote orderAck after := by
  unfold onOrderAck at handled
  split at handled
  · cases handled
  split at handled
  · rename_i completed
    cases type : orderAck.requestType with
    | undefined =>
        rw [type] at handled
        cases handled
    | createOrder =>
        simp only [type] at handled
        split at handled
        · rename_i state
          cases handled
          exact .created completed type state
        · cases handled
    | modifyOrder =>
        simp only [type] at handled
        split at handled
        · rename_i state
          cases handled
          exact .modified completed type state
        · cases handled
    | cancelOrder =>
        simp only [type] at handled
        split at handled
        · rename_i state
          cases handled
          exact .canceled completed type state
        · cases handled
  · rename_i pending
    cases handled
    exact .pending (by simpa using pending)

/-- An ack that fails at most because it came too late. -/
private theorem no_failure {orderAck : OrderAck}
    (benign : Utils.hasRequestFailed orderAck.requestStatus = true →
      orderAck.error = .tooLateToModifyOrCancel) :
    ¬ (Utils.hasRequestFailed orderAck.requestStatus = true ∧
      orderAck.error ≠ .tooLateToModifyOrCancel) :=
  fun failure => failure.2 (benign failure.1)

theorem onOrderAck_created {quote : Quote} {orderAck : OrderAck}
    (completed : Utils.hasRequestCompleted orderAck.requestStatus = true)
    (benign : Utils.hasRequestFailed orderAck.requestStatus = true →
      orderAck.error = .tooLateToModifyOrCancel)
    (type : orderAck.requestType = .createOrder) (state : quote.state = .create) :
    quote.onOrderAck orderAck = .ok { quote with state := .working } := by
  rw [onOrderAck, if_neg (no_failure benign), if_pos completed]
  simp only [type, state, if_true]

theorem onOrderAck_canceled {quote : Quote} {orderAck : OrderAck}
    (completed : Utils.hasRequestCompleted orderAck.requestStatus = true)
    (benign : Utils.hasRequestFailed orderAck.requestStatus = true →
      orderAck.error = .tooLateToModifyOrCancel)
    (type : orderAck.requestType = .cancelOrder) (state : quote.state = .cancel) :
    quote.onOrderAck orderAck = .ok { quote with orderId := 0, state := .undefined } := by
  rw [onOrderAck, if_neg (no_failure benign), if_pos completed]
  simp only [type, state, if_true]

theorem onOrderAck_pending (quote : Quote) {orderAck : OrderAck}
    (pending : Utils.hasRequestCompleted orderAck.requestStatus = false) :
    quote.onOrderAck orderAck = .ok quote := by
  have no_failure : ¬ (Utils.hasRequestFailed orderAck.requestStatus = true ∧
      orderAck.error ≠ .tooLateToModifyOrCancel) := by
    rintro ⟨failure, _⟩
    simp [Utils.hasRequestCompleted_eq, failure] at pending
  rw [onOrderAck, if_neg no_failure, if_neg (by simp [pending])]

/-- An ack that is handled is no failure but that of a cancel or modify that came too late. -/
theorem onOrderAck_benign {quote after : Quote} {orderAck : OrderAck}
    (handled : quote.onOrderAck orderAck = .ok after)
    (failure : Utils.hasRequestFailed orderAck.requestStatus = true) :
    orderAck.error = .tooLateToModifyOrCancel := by
  by_contra other
  simp [onOrderAck, failure, other] at handled

theorem onOrderAck_side {quote after : Quote} {orderAck : OrderAck}
    (handled : quote.onOrderAck orderAck = .ok after) : after.side = quote.side := by
  cases onOrderAck_step handled <;> rfl

theorem onOrderAck_targetPrice {quote after : Quote} {orderAck : OrderAck}
    (handled : quote.onOrderAck orderAck = .ok after) :
    after.targetPrice = quote.targetPrice := by
  cases onOrderAck_step handled <;> rfl

/-- The update that ends the order held by the quote. -/
def Ends (quote : Quote) (orderUpdate : OrderUpdate) : Prop :=
  orderUpdate.updateType = .incremental ∧
    Utils.isOrderComplete orderUpdate.orderStatus = true ∧ quote.orderId = orderUpdate.orderId

instance (quote : Quote) (orderUpdate : OrderUpdate) : Decidable (quote.Ends orderUpdate) :=
  inferInstanceAs (Decidable (_ ∧ _ ∧ _))

theorem onOrderUpdate_quote (quote : Quote) (shared : Shared) (orderUpdate : OrderUpdate) :
    (quote.onOrderUpdate shared orderUpdate).1 =
      if quote.Ends orderUpdate then { quote with orderId := 0, state := .undefined }
      else quote := by
  by_cases ends : quote.Ends orderUpdate
  · rw [if_pos ends]
    obtain ⟨incremental, complete, same⟩ := ends
    simp [onOrderUpdate, incremental, complete, same]
  · rw [if_neg ends]
    unfold onOrderUpdate
    split
    · rfl
    · rename_i incremental
      dsimp only
      split
      · rename_i last
        exact (ends ⟨by simpa using incremental, last.1, last.2⟩).elim
      · rfl

theorem onOrderUpdate_side (quote : Quote) (shared : Shared) (orderUpdate : OrderUpdate) :
    (quote.onOrderUpdate shared orderUpdate).1.side = quote.side := by
  rw [onOrderUpdate_quote]
  split <;> rfl

theorem onOrderUpdate_targetPrice (quote : Quote) (shared : Shared) (orderUpdate : OrderUpdate) :
    (quote.onOrderUpdate shared orderUpdate).1.targetPrice = quote.targetPrice := by
  rw [onOrderUpdate_quote]
  split <;> rfl

theorem onOrderUpdate_maxOrderId (quote : Quote) (shared : Shared) (orderUpdate : OrderUpdate) :
    (quote.onOrderUpdate shared orderUpdate).2.maxOrderId = shared.maxOrderId := by
  have same : (quote.fill shared orderUpdate).maxOrderId = shared.maxOrderId := by
    unfold fill
    split <;> rfl
  unfold onOrderUpdate
  split
  · rfl
  · dsimp only
    split <;> exact same

end Messages

end Quote

end RoqSamples.Maker
