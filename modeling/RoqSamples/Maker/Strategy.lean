/- Maker/Strategy
   digest: The maker: two quotes, what gates them, and every event it handles. -/
import RoqSamples.Maker.Quote

set_option autoImplicit false
set_option relaxedAutoImplicit false

namespace RoqSamples.Maker

open RoqSamples.Arith (Double)
open RoqSamples.Client

inductive StrategyState
  | undefined | cancelAll | quote
  deriving DecidableEq

structure Strategy where
  shared : Shared := {}
  ready : Bool := false
  state : StrategyState := .undefined
  tickSize : Double := .nan
  tradingStatus : TradingStatus := .undefined
  midPrice : Double := .nan
  bid : Quote := { side := .buy }
  ask : Quote := { side := .sell }

/-- The events of the client. A timer carries its `origin_create_time` and tells for each quote
whether a send would go through; so does Ready for its own send. -/
inductive Event
  | timer (now : Int) (bidConnected askConnected : Bool)
  | disconnected
  | downloadEnd (maxOrderId : Nat)
  | ready (connected : Bool)
  | referenceData (tickSize : Double)
  | marketStatus (tradingStatus : TradingStatus)
  | topOfBook (bidPrice askPrice : Double)
  | cancelAllOrdersAck
  | orderAck (orderAck : OrderAck)
  | orderUpdate (orderUpdate : OrderUpdate)
  deriving DecidableEq

namespace Strategy

def canTrade (s : Strategy) : Bool :=
  s.ready ∧ s.state = .quote ∧ s.tickSize.isNaN = false ∧ s.tradingStatus = .«open»

def cancelAllOrdersRequest : CancelAllOrders where
  account := account
  exchange := exchange
  symbol := symbol

/-- Each quote stays on its side. -/
structure Sided (s : Strategy) : Prop where
  bid : s.bid.side = .buy
  ask : s.ask.side = .sell

theorem Sided.bid_ne {s : Strategy} (sided : s.Sided) : s.bid.side ≠ .undefined := by
  rw [sided.bid]
  exact Side.noConfusion

theorem Sided.ask_ne {s : Strategy} (sided : s.Sided) : s.ask.side ≠ .undefined := by
  rw [sided.ask]
  exact Side.noConfusion

theorem Sided.ask_ne_bid {s : Strategy} (sided : s.Sided) : s.ask.side ≠ s.bid.side := by
  rw [sided.bid, sided.ask]
  exact Side.noConfusion

theorem initial_sided : Sided {} := ⟨rfl, rfl⟩

section Market

variable [Utils]

/-- One tick against the position. -/
def skew (s : Strategy) : Double :=
  if Utils.isZero s.shared.position then 0
  else if s.shared.position.lt 0 then s.tickSize else -s.tickSize

def halfSpread (s : Strategy) : Double := .num (1 / 2) * spread * s.tickSize

variable (roundAway : Side → Double → Double → Double)

/-- The prices that `update_quotes` computes; `market::round_away` is not part of the samples. -/
def bidPrice (s : Strategy) : Double :=
  roundAway .buy (s.midPrice + s.skew - s.halfSpread) s.tickSize

def askPrice (s : Strategy) : Double :=
  roundAway .sell (s.midPrice + s.skew + s.halfSpread) s.tickSize

def updateQuotes (s : Strategy) : Strategy :=
  if s.midPrice.isNaN then s
  else
    { s with
      bid := s.bid.updateTargetPrice (s.bidPrice roundAway)
      ask := s.ask.updateTargetPrice (s.askPrice roundAway) }

def onTimer (s : Strategy) (now : Int) (bidConnected askConnected : Bool) :
    Except Fatal (Strategy × List Effect) :=
  if s.canTrade then
    match s.bid.onTimer s.shared now bidConnected with
    | .error e => .error e
    | .ok (bid, shared, bidEffects) =>
        match s.ask.onTimer shared now askConnected with
        | .error e => .error e
        | .ok (ask, shared, askEffects) =>
            .ok ({ s with shared := shared, bid := bid, ask := ask }, bidEffects ++ askEffects)
  else .ok (s, [])

def onDisconnected (s : Strategy) : Strategy :=
  { s with
    ready := false
    state := .undefined
    midPrice := .nan
    bid := s.bid.clear
    ask := s.ask.clear }

/-- `utils::update_max` on the largest order id. -/
def onDownloadEnd (s : Strategy) (maxOrderId : Nat) : Strategy :=
  { s with shared := { s.shared with maxOrderId := max s.shared.maxOrderId (uint64 maxOrderId) } }

/-- The send may throw; the state has been changed by then. -/
def onReady (s : Strategy) (connected : Bool) : Strategy × List Effect :=
  ({ s with ready := true, state := .cancelAll },
    if connected then [.cancelAllOrders cancelAllOrdersRequest] else [])

def onTopOfBook (s : Strategy) (bidPrice askPrice : Double) : Strategy :=
  let midPrice := .num (1 / 2) * (bidPrice + askPrice)
  if s.ready ∧ Utils.updated s.midPrice midPrice then
    updateQuotes roundAway { s with midPrice := midPrice }
  else s

def onCancelAllOrdersAck (s : Strategy) : Strategy :=
  if s.ready ∧ s.state = .cancelAll then { s with state := .quote } else s

/-- Acks and updates are routed to a quote by their side. -/
def getQuote (s : Strategy) : Side → Except Fatal Quote
  | .undefined => .error .unexpectedSide
  | .buy => .ok s.bid
  | .sell => .ok s.ask

def setQuote (s : Strategy) (quote : Quote) : Side → Strategy
  | .undefined => s
  | .buy => { s with bid := quote }
  | .sell => { s with ask := quote }

def onOrderAck (s : Strategy) (orderAck : OrderAck) : Except Fatal Strategy :=
  match s.getQuote orderAck.side with
  | .error e => .error e
  | .ok quote =>
      match quote.onOrderAck orderAck with
      | .error e => .error e
      | .ok quote => .ok (s.setQuote quote orderAck.side)

def onOrderUpdate (s : Strategy) (orderUpdate : OrderUpdate) : Except Fatal Strategy :=
  match s.getQuote orderUpdate.side with
  | .error e => .error e
  | .ok quote =>
      let (quote, shared) := quote.onOrderUpdate s.shared orderUpdate
      .ok ({ s with shared := shared }.setQuote quote orderUpdate.side)

def handle (s : Strategy) : Event → Except Fatal (Strategy × List Effect)
  | .timer now bidConnected askConnected => s.onTimer now bidConnected askConnected
  | .disconnected => .ok (s.onDisconnected, [])
  | .downloadEnd maxOrderId => .ok (s.onDownloadEnd maxOrderId, [])
  | .ready connected => .ok (s.onReady connected)
  | .referenceData tickSize => .ok ({ s with tickSize := tickSize }, [])
  | .marketStatus tradingStatus => .ok ({ s with tradingStatus := tradingStatus }, [])
  | .topOfBook bidPrice askPrice => .ok (s.onTopOfBook roundAway bidPrice askPrice, [])
  | .cancelAllOrdersAck => .ok (s.onCancelAllOrdersAck, [])
  | .orderAck orderAck => (s.onOrderAck orderAck).map fun s => (s, [])
  | .orderUpdate orderUpdate => (s.onOrderUpdate orderUpdate).map fun s => (s, [])

/-- What the maker can do with an event, as far as it does not end in log::fatal. -/
inductive Step (s : Strategy) : Event → Strategy → List Effect → Prop
  | idle {now : Int} {bidConnected askConnected : Bool} (gated : s.canTrade = false) :
      Step s (.timer now bidConnected askConnected) s []
  | timer {now : Int} {bidConnected askConnected : Bool} {bid ask : Quote.Outcome}
      (trading : s.canTrade = true)
      (bidHandled : s.bid.onTimer s.shared now bidConnected = .ok bid)
      (askHandled : s.ask.onTimer bid.2.1 now askConnected = .ok ask) :
      Step s (.timer now bidConnected askConnected)
        { s with shared := ask.2.1, bid := bid.1, ask := ask.1 } (bid.2.2 ++ ask.2.2)
  | disconnected : Step s .disconnected s.onDisconnected []
  | downloadEnd {maxOrderId : Nat} :
      Step s (.downloadEnd maxOrderId) (s.onDownloadEnd maxOrderId) []
  | ready {connected : Bool} :
      Step s (.ready connected) (s.onReady connected).1 (s.onReady connected).2
  | referenceData {tickSize : Double} :
      Step s (.referenceData tickSize) { s with tickSize := tickSize } []
  | marketStatus {tradingStatus : TradingStatus} :
      Step s (.marketStatus tradingStatus) { s with tradingStatus := tradingStatus } []
  | unpriced {bidPrice askPrice midPrice : Double}
      (unpriced : midPrice = s.midPrice ∨ midPrice = .nan) :
      Step s (.topOfBook bidPrice askPrice) { s with midPrice := midPrice } []
  | priced {bidPrice askPrice midPrice : Double} (number : midPrice ≠ .nan)
      (mid : midPrice = .num (1 / 2) * (bidPrice + askPrice)) :
      Step s (.topOfBook bidPrice askPrice)
        { s with
          midPrice := midPrice
          bid := s.bid.updateTargetPrice ({ s with midPrice := midPrice }.bidPrice roundAway)
          ask := s.ask.updateTargetPrice ({ s with midPrice := midPrice }.askPrice roundAway) } []
  | cancelAllOrdersAck : Step s .cancelAllOrdersAck s.onCancelAllOrdersAck []
  | bidAck {orderAck : OrderAck} {bid : Quote} (side : orderAck.side = .buy)
      (handled : s.bid.onOrderAck orderAck = .ok bid) :
      Step s (.orderAck orderAck) { s with bid := bid } []
  | askAck {orderAck : OrderAck} {ask : Quote} (side : orderAck.side = .sell)
      (handled : s.ask.onOrderAck orderAck = .ok ask) :
      Step s (.orderAck orderAck) { s with ask := ask } []
  | bidUpdate {orderUpdate : OrderUpdate} (side : orderUpdate.side = .buy) :
      Step s (.orderUpdate orderUpdate)
        { s with
          shared := (s.bid.onOrderUpdate s.shared orderUpdate).2
          bid := (s.bid.onOrderUpdate s.shared orderUpdate).1 } []
  | askUpdate {orderUpdate : OrderUpdate} (side : orderUpdate.side = .sell) :
      Step s (.orderUpdate orderUpdate)
        { s with
          shared := (s.ask.onOrderUpdate s.shared orderUpdate).2
          ask := (s.ask.onOrderUpdate s.shared orderUpdate).1 } []

variable {roundAway}

private theorem onTimer_step {s t : Strategy} {now : Int} {bidConnected askConnected : Bool}
    {effects : List Effect}
    (handled : s.onTimer now bidConnected askConnected = .ok (t, effects)) :
    Step roundAway s (.timer now bidConnected askConnected) t effects := by
  unfold onTimer at handled
  split at handled
  · rename_i trading
    split at handled
    · cases handled
    rename_i bidHandled
    split at handled
    · cases handled
    rename_i askHandled
    cases handled
    exact .timer trading bidHandled askHandled
  · rename_i gated
    cases handled
    exact .idle (by simpa using gated)

private theorem onTopOfBook_step (s : Strategy) (bidPrice askPrice : Double) :
    Step roundAway s (.topOfBook bidPrice askPrice) (s.onTopOfBook roundAway bidPrice askPrice)
      [] := by
  unfold onTopOfBook
  dsimp only
  split
  · unfold updateQuotes
    split
    · rename_i missing
      exact .unpriced (.inr (Double.isNaN_eq_true.mp missing))
    · rename_i number
      exact .priced (fun missing => number (Double.isNaN_eq_true.mpr missing)) rfl
  · exact @Step.unpriced _ roundAway s bidPrice askPrice s.midPrice (.inl rfl)

private theorem onOrderAck_step {s t : Strategy} {orderAck : OrderAck}
    (handled : s.onOrderAck orderAck = .ok t) :
    Step roundAway s (.orderAck orderAck) t [] := by
  unfold onOrderAck at handled
  cases side : orderAck.side with
  | undefined =>
      rw [side] at handled
      cases handled
  | buy =>
      simp only [side, getQuote] at handled
      split at handled
      · cases handled
      · rename_i acked
        cases handled
        exact .bidAck side acked
  | sell =>
      simp only [side, getQuote] at handled
      split at handled
      · cases handled
      · rename_i acked
        cases handled
        exact .askAck side acked

private theorem onOrderUpdate_step {s t : Strategy} {orderUpdate : OrderUpdate}
    (handled : s.onOrderUpdate orderUpdate = .ok t) :
    Step roundAway s (.orderUpdate orderUpdate) t [] := by
  unfold onOrderUpdate at handled
  cases side : orderUpdate.side with
  | undefined =>
      rw [side] at handled
      cases handled
  | buy =>
      simp only [side, getQuote] at handled
      cases handled
      exact .bidUpdate side
  | sell =>
      simp only [side, getQuote] at handled
      cases handled
      exact .askUpdate side

theorem handle_step {s t : Strategy} {e : Event} {effects : List Effect}
    (handled : s.handle roundAway e = .ok (t, effects)) : Step roundAway s e t effects := by
  cases e with
  | timer now bidConnected askConnected => exact onTimer_step handled
  | disconnected =>
      cases handled
      exact .disconnected
  | downloadEnd maxOrderId =>
      cases handled
      exact .downloadEnd
  | ready connected =>
      cases handled
      exact .ready
  | referenceData tickSize =>
      cases handled
      exact .referenceData
  | marketStatus tradingStatus =>
      cases handled
      exact .marketStatus
  | topOfBook bidPrice askPrice =>
      cases handled
      exact onTopOfBook_step s bidPrice askPrice
  | cancelAllOrdersAck =>
      cases handled
      exact .cancelAllOrdersAck
  | orderAck orderAck =>
      obtain ⟨_, acked, same⟩ := ok_of_map handled
      cases same
      exact onOrderAck_step acked
  | orderUpdate orderUpdate =>
      obtain ⟨_, updated, same⟩ := ok_of_map handled
      cases same
      exact onOrderUpdate_step updated

theorem handle_bid_ack {s : Strategy} {orderAck : OrderAck} {bid : Quote}
    (side : orderAck.side = .buy) (handled : s.bid.onOrderAck orderAck = .ok bid) :
    s.handle roundAway (.orderAck orderAck) = .ok ({ s with bid := bid }, []) := by
  simp only [handle, onOrderAck, side, getQuote, handled, Except.map, setQuote]

theorem handle_ask_ack {s : Strategy} {orderAck : OrderAck} {ask : Quote}
    (side : orderAck.side = .sell) (handled : s.ask.onOrderAck orderAck = .ok ask) :
    s.handle roundAway (.orderAck orderAck) = .ok ({ s with ask := ask }, []) := by
  simp only [handle, onOrderAck, side, getQuote, handled, Except.map, setQuote]

theorem handle_orderUpdate_ok (s : Strategy) {orderUpdate : OrderUpdate}
    (side : orderUpdate.side ≠ .undefined) :
    ∃ outcome, s.handle roundAway (.orderUpdate orderUpdate) = .ok outcome := by
  cases at_side : orderUpdate.side with
  | undefined => exact (side at_side).elim
  | buy =>
      simp only [handle, onOrderUpdate, at_side, getQuote, Except.map]
      exact ⟨_, rfl⟩
  | sell =>
      simp only [handle, onOrderUpdate, at_side, getQuote, Except.map]
      exact ⟨_, rfl⟩

/-- A timer reaches log::fatal when one of the quotes has to create an order at a price that is
NaN. -/
theorem handle_timer_error {s : Strategy} {now : Int} {bidConnected askConnected : Bool}
    {reason : Fatal}
    (failed : s.handle roundAway (.timer now bidConnected askConnected) = .error reason) :
    s.canTrade = true ∧
      (s.bid.updateOrder = true ∧ s.bid.state = .undefined ∧ s.bid.targetPrice = .nan ∨
        s.ask.updateOrder = true ∧ s.ask.state = .undefined ∧ s.ask.targetPrice = .nan) := by
  simp only [handle, onTimer] at failed
  split at failed
  · rename_i trading
    refine ⟨trading, ?_⟩
    split at failed
    · rename_i result
      exact .inl (Quote.onTimer_error_iff.mp ⟨_, result⟩)
    · split at failed
      · rename_i result
        exact .inr (Quote.onTimer_error_iff.mp ⟨_, result⟩)
      · cases failed
  · cases failed

theorem Step.sided {s t : Strategy} {e : Event} {effects : List Effect}
    (step : Step roundAway s e t effects) (sided : s.Sided) : t.Sided := by
  obtain ⟨bid, ask⟩ := sided
  cases step with
  | idle _ | downloadEnd | ready | referenceData | marketStatus | unpriced _ =>
      exact ⟨bid, ask⟩
  | timer _ bidHandled askHandled =>
      exact ⟨(Quote.onTimer_side bidHandled).trans bid, (Quote.onTimer_side askHandled).trans ask⟩
  | disconnected => exact ⟨bid, ask⟩
  | priced _ _ =>
      exact ⟨(Quote.updateTargetPrice_side _ _).trans bid,
        (Quote.updateTargetPrice_side _ _).trans ask⟩
  | cancelAllOrdersAck =>
      unfold onCancelAllOrdersAck
      split <;> exact ⟨bid, ask⟩
  | bidAck _ handled => exact ⟨(Quote.onOrderAck_side handled).trans bid, ask⟩
  | askAck _ handled => exact ⟨bid, (Quote.onOrderAck_side handled).trans ask⟩
  | bidUpdate _ => exact ⟨(Quote.onOrderUpdate_side _ _ _).trans bid, ask⟩
  | askUpdate _ => exact ⟨bid, (Quote.onOrderUpdate_side _ _ _).trans ask⟩

end Market

end Strategy

end RoqSamples.Maker
