/- Maker/TargetDelivery
   digest: The steps that lose the target price of a quote, and that no other step loses it. -/
import RoqSamples.Execution.Runs
import RoqSamples.Maker.RoundAway
import RoqSamples.Maker.Strategy

set_option autoImplicit false
set_option relaxedAutoImplicit false

namespace RoqSamples.Maker.TargetDelivery

open RoqSamples.Arith (Double)
open RoqSamples.Client
open RoqSamples.Execution.Runs

/-- The maker and the CreateOrder requests it has sent, the newest one first. -/
structure Session where
  strategy : Strategy := {}
  sent : List CreateOrder := []

def createdOf : Effect → Option CreateOrder
  | .createOrder request => some request
  | .cancelOrder _ | .cancelAllOrders _ | .assertion _ => none

/-- The limit price of the order that the quote holds. -/
def heldPrice (sent : List CreateOrder) (quote : Quote) : Option Double :=
  (sent.find? fun request => request.side = quote.side ∧ request.orderId = quote.orderId).map
    (·.price)

/-- A quote that waits for no response works at its target price, or the next timer acts on it. -/
def Delivered (sent : List CreateOrder) (quote : Quote) : Prop :=
  quote.targetPrice ≠ .nan → quote.state = .undefined ∨ quote.state = .working →
    quote.state = .working ∧ heldPrice sent quote = some quote.targetPrice ∨
      quote.updateOrder = true

/-- A timer that finds the flag set and a target sends a request. -/
def TimerDelivers (quote : Quote) (shared : Shared) (now : Int) (connected : Bool) : Prop :=
  quote.updateOrder = true → quote.targetPrice ≠ .nan → quote.Sends shared now connected

/-- The answer to a cancel finds the flag set or no target. -/
def AckDelivers [Utils] (quote : Quote) (orderAck : OrderAck) : Prop :=
  Utils.hasRequestCompleted orderAck.requestStatus = true → orderAck.requestType = .cancelOrder →
    quote.targetPrice = .nan ∨ quote.updateOrder = true

/-- The update that ends the order finds the flag set or no target. -/
def UpdateDelivers [Utils] (quote : Quote) (orderUpdate : OrderUpdate) : Prop :=
  quote.Ends orderUpdate → quote.targetPrice = .nan ∨ quote.updateOrder = true

/-- The quote of a side, if there is one, has the property. -/
def OfQuote (strategy : Strategy) (side : Side) (P : Quote → Prop) : Prop :=
  match strategy.getQuote side with
  | .ok quote => P quote
  | .error _ => True

/-- No timer clears the flag without a request, and no quote loses its order, by the answer to a
cancel or by its end, while the flag is clear. -/
def KeepsTarget [Utils] (s : Strategy) : Event → Prop
  | .timer now bidConnected askConnected =>
      s.canTrade = true →
        TimerDelivers s.bid s.shared now bidConnected ∧
          TimerDelivers s.ask (s.bid.sharedAfterTimer s.shared now bidConnected) now askConnected
  | .orderAck orderAck => OfQuote s orderAck.side fun quote => AckDelivers quote orderAck
  | .orderUpdate orderUpdate =>
      OfQuote s orderUpdate.side fun quote => UpdateDelivers quote orderUpdate
  | .disconnected | .downloadEnd _ | .ready _ | .referenceData _ | .marketStatus _
  | .topOfBook _ _ | .cancelAllOrdersAck => True

instance (quote : Quote) (shared : Shared) (now : Int) (connected : Bool) :
    Decidable (TimerDelivers quote shared now connected) :=
  inferInstanceAs (Decidable (_ → _ → _))

instance [Utils] (quote : Quote) (orderAck : OrderAck) : Decidable (AckDelivers quote orderAck) :=
  inferInstanceAs (Decidable (_ → _ → _ ∨ _))

instance [Utils] (quote : Quote) (orderUpdate : OrderUpdate) :
    Decidable (UpdateDelivers quote orderUpdate) :=
  inferInstanceAs (Decidable (_ → _ ∨ _))

instance (strategy : Strategy) (side : Side) (P : Quote → Prop) [DecidablePred P] :
    Decidable (OfQuote strategy side P) :=
  match found : strategy.getQuote side with
  | .ok quote => decidable_of_iff (P quote) (by rw [OfQuote, found])
  | .error _ => isTrue (by rw [OfQuote, found]; trivial)

instance [Utils] (s : Strategy) : ∀ e, Decidable (KeepsTarget s e)
  | .timer _ _ _ => inferInstanceAs (Decidable (_ → _ ∧ _))
  | .orderAck orderAck =>
      inferInstanceAs (Decidable (OfQuote _ _ fun quote => AckDelivers quote orderAck))
  | .orderUpdate orderUpdate =>
      inferInstanceAs (Decidable (OfQuote _ _ fun quote => UpdateDelivers quote orderUpdate))
  | .disconnected | .downloadEnd _ | .ready _ | .referenceData _ | .marketStatus _
  | .topOfBook _ _ | .cancelAllOrdersAck => isTrue trivial

/-- While the maker can trade, no target is lost. -/
def TargetsDelivered (s : Session) : Prop :=
  s.strategy.canTrade = true → Delivered s.sent s.strategy.bid ∧ Delivered s.sent s.strategy.ask

variable (roundAway : Side → Double → Double → Double)

def next [Utils] (s : Session) (e : Event) : Option Session :=
  match s.strategy.handle roundAway e with
  | .ok (strategy, effects) =>
      some { strategy := strategy, sent := (effects.filterMap createdOf).reverse ++ s.sent }
  | .error _ => none

private theorem heldPrice_skip (created sent : List CreateOrder) (quote : Quote)
    (other : ∀ request ∈ created, request.side ≠ quote.side) :
    heldPrice (created ++ sent) quote = heldPrice sent quote := by
  have none_found : created.find? (fun request =>
      decide (request.side = quote.side ∧ request.orderId = quote.orderId)) = none := by
    simp only [List.find?_eq_none, decide_eq_true_eq, not_and]
    intro request mem same
    exact (other request mem same).elim
  simp only [heldPrice, List.find?_append, none_found, Option.none_or]

/-- A quote with a target has the flag set, waits for the answer to its cancel, or its order has
been sent at the target. -/
private def Placed (sent : List CreateOrder) (quote : Quote) : Prop :=
  quote.targetPrice ≠ .nan → quote.state ≠ .cancel →
    quote.state ≠ .undefined ∧ heldPrice sent quote = some quote.targetPrice ∨
      quote.updateOrder = true

private theorem Placed.delivered {sent : List CreateOrder} {quote : Quote}
    (placed : Placed sent quote) : Delivered sent quote := by
  intro target state
  have settled : quote.state ≠ .cancel := by
    rintro canceling
    rcases state with at_state | at_state <;> rw [at_state] at canceling <;> cases canceling
  rcases placed target settled with ⟨ordered, held⟩ | flag
  · exact .inl ⟨state.resolve_left ordered, held⟩
  · exact .inr flag

private theorem Placed.skip {sent : List CreateOrder} {quote : Quote} (placed : Placed sent quote)
    {created : List CreateOrder} (other : ∀ request ∈ created, request.side ≠ quote.side) :
    Placed (created ++ sent) quote := by
  unfold Placed
  rw [heldPrice_skip created sent quote other]
  exact placed

/-- The request of a timer goes out at the target price. -/
private theorem onTimer_placed {sent : List CreateOrder} {quote : Quote} {shared : Shared}
    {now : Int} {connected : Bool} {outcome : Quote.Outcome} (placed : Placed sent quote)
    (delivers : TimerDelivers quote shared now connected)
    (handled : quote.onTimer shared now connected = .ok outcome) :
    Placed ((outcome.2.2.filterMap createdOf).reverse ++ sent) outcome.1 := by
  rcases Quote.onTimer_cases handled with ⟨_, rfl⟩ | ⟨flag, acted, act, rfl⟩
  · exact placed
  · cases act with
    | idle unsent => exact fun target _ => (unsent (delivers flag target)).elim
    | create _ _ _ _ =>
        refine fun _ _ => .inl ⟨QuoteState.noConfusion, ?_⟩
        simp [heldPrice, Quote.created, List.filterMap_cons, createdOf, Quote.createOrderRequest]
    | cancel _ _ _ _ => exact fun _ settled => (settled rfl).elim

private theorem onTimer_createdOf {quote : Quote} {shared : Shared} {now : Int}
    {connected : Bool} {outcome : Quote.Outcome}
    (handled : quote.onTimer shared now connected = .ok outcome) :
    ∀ request ∈ outcome.2.2.filterMap createdOf, request.side = quote.side := by
  rcases Quote.onTimer_cases handled with ⟨flag, rfl⟩ | ⟨flag, acted, act, rfl⟩
  · simp
  · cases act <;> simp [Quote.created, Quote.canceled, createdOf, Quote.createOrderRequest]

private theorem onOrderAck_placed [Utils] {sent : List CreateOrder} {quote after : Quote}
    {orderAck : OrderAck} (placed : Placed sent quote) (delivers : AckDelivers quote orderAck)
    (handled : quote.onOrderAck orderAck = .ok after) : Placed sent after := by
  cases Quote.onOrderAck_step handled with
  | pending _ => exact placed
  | created _ _ state | modified _ _ state =>
      intro target _
      have settled : quote.state ≠ .cancel := by
        rw [state]
        exact QuoteState.noConfusion
      rcases placed target settled with ⟨_, held⟩ | flag
      · exact .inl ⟨QuoteState.noConfusion, held⟩
      · exact .inr flag
  | canceled completed type _ =>
      exact fun target _ => .inr ((delivers completed type).resolve_left target)

private theorem onOrderUpdate_placed [Utils] {sent : List CreateOrder} {quote : Quote}
    (shared : Shared) {orderUpdate : OrderUpdate} (placed : Placed sent quote)
    (delivers : UpdateDelivers quote orderUpdate) :
    Placed sent (quote.onOrderUpdate shared orderUpdate).1 := by
  rw [Quote.onOrderUpdate_quote]
  split
  · rename_i ends
    exact fun target _ => .inr ((delivers ends).resolve_left target)
  · exact placed

private theorem updateTargetPrice_placed [Utils] {sent : List CreateOrder} {quote : Quote}
    (price : Double) (placed : Placed sent quote) :
    Placed sent (quote.updateTargetPrice price) := by
  unfold Quote.updateTargetPrice
  split
  · exact fun _ _ => .inr rfl
  · exact placed

/-- What holds of both quotes in every state. -/
private structure Kept (s : Session) : Prop where
  sided : s.strategy.Sided
  bid : Placed s.sent s.strategy.bid
  ask : Placed s.sent s.strategy.ask

/-- The two quotes of one timer: the ask acts on what the bid leaves of the limiter, and neither
sees the requests of the other. -/
private theorem onTimer_pair_placed {s : Session} {now : Int} {bidConnected askConnected : Bool}
    {bid ask : Quote.Outcome} (kept : Kept s)
    (bid_delivers : TimerDelivers s.strategy.bid s.strategy.shared now bidConnected)
    (ask_delivers : TimerDelivers s.strategy.ask
      (s.strategy.bid.sharedAfterTimer s.strategy.shared now bidConnected) now askConnected)
    (bidHandled : s.strategy.bid.onTimer s.strategy.shared now bidConnected = .ok bid)
    (askHandled : s.strategy.ask.onTimer bid.2.1 now askConnected = .ok ask) :
    Placed (((bid.2.2 ++ ask.2.2).filterMap createdOf).reverse ++ s.sent) bid.1 ∧
      Placed (((bid.2.2 ++ ask.2.2).filterMap createdOf).reverse ++ s.sent) ask.1 := by
  obtain ⟨sided, bid_placed, ask_placed⟩ := kept
  rw [← Quote.onTimer_shared bidHandled] at ask_delivers
  rw [List.filterMap_append, List.reverse_append, List.append_assoc]
  constructor
  · refine (onTimer_placed bid_placed bid_delivers bidHandled).skip fun request mem => ?_
    rw [onTimer_createdOf askHandled request (List.mem_reverse.mp mem),
      Quote.onTimer_side bidHandled, sided.bid, sided.ask]
    exact Side.noConfusion
  · refine onTimer_placed (ask_placed.skip fun request mem => ?_) ask_delivers askHandled
    rw [onTimer_createdOf bidHandled request (List.mem_reverse.mp mem), sided.bid, sided.ask]
    exact Side.noConfusion

private theorem ofQuote_bid {strategy : Strategy} {side : Side} {P : Quote → Prop}
    (bid : side = .buy) (of_quote : OfQuote strategy side P) : P strategy.bid := by
  rw [OfQuote, bid] at of_quote
  exact of_quote

private theorem ofQuote_ask {strategy : Strategy} {side : Side} {P : Quote → Prop}
    (ask : side = .sell) (of_quote : OfQuote strategy side P) : P strategy.ask := by
  rw [OfQuote, ask] at of_quote
  exact of_quote

private theorem kept_step [Utils] {s t : Session} {e : Event} (kept : Kept s)
    (keeps : KeepsTarget s.strategy e) (taken : next roundAway s e = some t) : Kept t := by
  obtain ⟨sided, bid, ask⟩ := kept
  unfold next at taken
  split at taken
  · rename_i result
    cases taken
    have step := Strategy.handle_step result
    have sided_after := step.sided sided
    cases step with
    | idle _ | downloadEnd | unpriced _ | referenceData | marketStatus =>
        exact ⟨sided_after, bid, ask⟩
    | timer trading bidHandled askHandled =>
        obtain ⟨bid_delivers, ask_delivers⟩ := keeps trading
        obtain ⟨bid_after, ask_after⟩ :=
          onTimer_pair_placed ⟨sided, bid, ask⟩ bid_delivers ask_delivers bidHandled askHandled
        exact ⟨sided_after, bid_after, ask_after⟩
    | disconnected =>
        exact ⟨sided_after, fun target => (target rfl).elim, fun target => (target rfl).elim⟩
    | @ready connected => cases connected <;> exact ⟨sided_after, bid, ask⟩
    | priced _ _ =>
        exact ⟨sided_after, updateTargetPrice_placed _ bid, updateTargetPrice_placed _ ask⟩
    | cancelAllOrdersAck =>
        refine ⟨sided_after, ?_, ?_⟩
        all_goals
          unfold Strategy.onCancelAllOrdersAck
          split
        · exact bid
        · exact bid
        · exact ask
        · exact ask
    | bidAck side handled =>
        exact ⟨sided_after, onOrderAck_placed bid (ofQuote_bid side keeps) handled, ask⟩
    | askAck side handled =>
        exact ⟨sided_after, bid, onOrderAck_placed ask (ofQuote_ask side keeps) handled⟩
    | bidUpdate side =>
        exact ⟨sided_after, onOrderUpdate_placed _ bid (ofQuote_bid side keeps), ask⟩
    | askUpdate side =>
        exact ⟨sided_after, bid, onOrderUpdate_placed _ ask (ofQuote_ask side keeps)⟩
  · cases taken

private theorem initial_kept : Kept {} where
  sided := Strategy.initial_sided
  bid := fun target => (target rfl).elim
  ask := fun target => (target rfl).elim

/-- For every sequence of events in which each timer that clears the flag of a quote with a target
sends a request, and each quote that loses its order has the flag set: no target is lost in any
state. -/
theorem targets_delivered [Utils] (es : List Event)
    (keeps : AllSteps (next roundAway) (fun s => KeepsTarget s.strategy) {} es) :
    AllStates (next roundAway) TargetsDelivered {} es := by
  have kept : AllStates (next roundAway) Kept {} es :=
    keeps.invariant (fun _ _ _ kept keeps taken => kept_step roundAway kept keeps taken)
      initial_kept
  exact kept.mono fun s kept _ => ⟨kept.bid.delivered, kept.ask.delivered⟩

section Examples

open scoped RoqSamples.Client.Documented

/-- The market moves while nothing waits for an answer, and the cancel meets another move. -/
def repriceTwice : List Event :=
  [.ready true, .cancelAllOrdersAck, .referenceData (.num (1 / 2)), .marketStatus .«open»,
    .topOfBook 99 101, .timer 0 true true,
    .orderAck ⟨1, .buy, .createOrder, .accepted, .undefined, 99⟩,
    .orderAck ⟨2, .sell, .createOrder, .accepted, .undefined, 101⟩,
    .topOfBook 98 100, .timer 3000000000 true true, .topOfBook 97 99,
    .orderAck ⟨1, .buy, .cancelOrder, .accepted, .undefined, 99⟩,
    .orderAck ⟨2, .sell, .cancelOrder, .accepted, .undefined, 101⟩,
    .timer 6000000000 true true]

theorem targets_delivered_when_repriced :
    AllStates (next toGrid) TargetsDelivered {} repriceTwice ∧
      ∃ t, run (next toGrid) {} repriceTwice = some t ∧
        t.strategy.canTrade = true ∧ t.strategy.bid.orderId = 3 := by
  refine ⟨targets_delivered toGrid repriceTwice (by decide +kernel), ?_⟩
  exact reaches_of_any (by decide +kernel)

/-- A plain reprice: the BUY order works, the market moves, the order is canceled. -/
def reprice : List Event :=
  [.ready true, .cancelAllOrdersAck, .referenceData (.num (1 / 2)), .marketStatus .«open»,
    .topOfBook 99 101, .timer 0 true true,
    .orderAck ⟨1, .buy, .createOrder, .accepted, .undefined, 99⟩,
    .topOfBook 98 100, .timer 3000000000 true true,
    .orderAck ⟨1, .buy, .cancelOrder, .accepted, .undefined, 99⟩]

/-- After the cancel the BUY quote has its new target, no order, and the flag is clear: no timer
creates the order at the new price. -/
theorem reprice_loses_target :
    (∃ t, run (next toGrid) {} reprice = some t ∧
        t.strategy.canTrade = true ∧ t.strategy.bid.targetPrice ≠ .nan ∧
        t.strategy.bid.state = .undefined ∧ t.strategy.bid.updateOrder = false) ∧
      ¬ AllStates (next toGrid) TargetsDelivered {} reprice := by
  have reached : ∃ t, run (next toGrid) {} reprice = some t ∧
      t.strategy.canTrade = true ∧ t.strategy.bid.targetPrice ≠ .nan ∧
      t.strategy.bid.state = .undefined ∧ t.strategy.bid.updateOrder = false :=
    reaches_of_any (by decide +kernel)
  refine ⟨reached, fun states => ?_⟩
  obtain ⟨t, reached, trading, target, state, flag⟩ := reached
  rcases (states.last reached trading).1 target (.inl state) with works | set
  · exact QuoteState.noConfusion (state.symm.trans works.1)
  · exact Bool.noConfusion (flag.symm.trans set)

end Examples

end RoqSamples.Maker.TargetDelivery
