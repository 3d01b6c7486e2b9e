/- Maker/CrossedQuotes
   digest: The BUY and SELL orders of the maker are ordered like the levels they were priced from,
     and the levels of different updates may cross. -/
import RoqSamples.Maker.Gateway
import RoqSamples.Maker.RoundAway
import Mathlib.Data.List.Forall2
import Mathlib.Tactic.Linarith

set_option autoImplicit false
set_option relaxedAutoImplicit false

namespace RoqSamples.Maker.CrossedQuotes

open RoqSamples.Arith (Double)
open RoqSamples.Arith.TickGrid
open RoqSamples.Client
open RoqSamples.Execution.Runs
open RoqSamples.Maker.Gateway

/-- What the two prices of `update_quotes` are rounded from. -/
def bidLevel [Utils] (s : Strategy) : Double := s.midPrice + s.skew - s.halfSpread

def askLevel [Utils] (s : Strategy) : Double := s.midPrice + s.skew + s.halfSpread

/-- The strategy in which `update_quotes` computes prices, if the event leads to it. -/
def pricing [Utils] (s : Strategy) : Gateway.Event → Option Strategy
  | .client (.topOfBook bidPrice askPrice) =>
      let midPrice := .num (1 / 2) * (bidPrice + askPrice)
      if s.ready = true ∧ Utils.updated s.midPrice midPrice = true ∧ midPrice.isNaN = false then
        some { s with midPrice := midPrice }
      else none
  | _ => none

/-- A system that remembers the levels of the last `update_quotes`, and for each order of the book
the level of its side when it was sent. -/
structure Session where
  system : System := {}
  bidLevel : Double := .nan
  askLevel : Double := .nan
  levels : List Double := []

namespace Session

def levelOf (s : Session) (order : Order) : Double :=
  match order.side with
  | .undefined => .nan
  | .buy => s.bidLevel
  | .sell => s.askLevel

def record [Utils] (s : Session) (e : Gateway.Event) (t : System) : Session :=
  let priced := pricing s.system.strategy e
  { system := t
    bidLevel := (priced.map CrossedQuotes.bidLevel).getD s.bidLevel
    askLevel := (priced.map CrossedQuotes.askLevel).getD s.askLevel
    levels := s.levels ++ (t.book.orders.drop s.system.book.orders.length).map s.levelOf }

def next [Utils] (roundAway : Side → Double → Double → Double) (s : Session) (e : Gateway.Event) :
    Option Session :=
  (System.next roundAway s.system e).map (s.record e)

end Session

/-- Every tick size is positive, as far as it is known. -/
def PositiveTick (_ : Session) : Gateway.Event → Prop
  | .client (.referenceData tickSize) => tickSize ≠ .nan → Double.lt 0 tickSize = true
  | _ => True

instance (s : Session) (e : Gateway.Event) : Decidable (PositiveTick s e) := by
  unfold PositiveTick
  split <;> infer_instance

/-- One `update_quotes` prices BUY from a lower level than SELL, and any two live orders whose
levels are so ordered have prices that are. -/
structure Uncrossed (s : Session) : Prop where
  aligned : s.levels.length = s.system.book.orders.length
  current : s.bidLevel ≠ .nan → s.askLevel ≠ .nan → s.bidLevel.lt s.askLevel = true
  ordered : ∀ bid ∈ s.system.book.orders.zip s.levels, ∀ ask ∈ s.system.book.orders.zip s.levels,
    bid.1.side = .buy → ask.1.side = .sell →
      bid.1.phase.isLive = true → ask.1.phase.isLive = true →
        bid.2.lt ask.2 = true → bid.1.price.lt ask.1.price = true

/-- Two numbers, if they are, are ordered. -/
def AtMost (lower upper : Double) : Prop :=
  ∀ x y : ℚ, lower = .num x → upper = .num y → x ≤ y

/-- The price of an order is a number on the safe side of its level. -/
structure PricedFrom (order : Order) (level : Double) : Prop where
  number : order.price ≠ .nan
  buy : order.side = .buy → AtMost order.price level
  sell : order.side = .sell → AtMost level order.price

/-- The targets and the orders are on the safe side of the levels. -/
structure Priced (s : Session) : Prop where
  sided : s.system.strategy.Sided
  tick : s.system.strategy.tickSize ≠ .nan → Double.lt 0 s.system.strategy.tickSize = true
  current : s.bidLevel ≠ .nan → s.askLevel ≠ .nan → s.bidLevel.lt s.askLevel = true
  bid : AtMost s.system.strategy.bid.targetPrice s.bidLevel
  ask : AtMost s.askLevel s.system.strategy.ask.targetPrice
  orders : List.Forall₂ PricedFrom s.system.book.orders s.levels

section Prices

variable {roundAway : Side → Double → Double → Double}

private theorem atMost_nan_left (upper : Double) : AtMost .nan upper := by
  intro x y missing
  cases missing

private theorem bidPrice_atMost [Utils] (rounds : RoundsAway roundAway) {s : Strategy}
    (tick : s.tickSize ≠ .nan → Double.lt 0 s.tickSize = true) :
    AtMost (s.bidPrice roundAway) (bidLevel s) := by
  intro x y at_price at_level
  have at_price : roundAway .buy (bidLevel s) s.tickSize = .num x := at_price
  cases at_tick : s.tickSize with
  | nan => simp [bidLevel, Strategy.halfSpread, at_tick] at at_level
  | num size =>
      have positive : 0 < size := by
        have known := tick (by simp [at_tick])
        simpa [at_tick] using known
      obtain ⟨z, rounded, greatest⟩ := rounds.buy y size positive
      rw [at_level, at_tick, rounded] at at_price
      cases at_price
      exact greatest.1.2

private theorem askPrice_atMost [Utils] (rounds : RoundsAway roundAway) {s : Strategy}
    (tick : s.tickSize ≠ .nan → Double.lt 0 s.tickSize = true) :
    AtMost (askLevel s) (s.askPrice roundAway) := by
  intro y x at_level at_price
  have at_price : roundAway .sell (askLevel s) s.tickSize = .num x := at_price
  cases at_tick : s.tickSize with
  | nan => simp [askLevel, Strategy.halfSpread, at_tick] at at_level
  | num size =>
      have positive : 0 < size := by
        have known := tick (by simp [at_tick])
        simpa [at_tick] using known
      obtain ⟨z, rounded, least⟩ := rounds.sell y size positive
      rw [at_level, at_tick, rounded] at at_price
      cases at_price
      exact least.1.2

/-- The levels of one `update_quotes` are a spread apart. -/
private theorem levels_ordered [Utils] {s : Strategy}
    (tick : s.tickSize ≠ .nan → Double.lt 0 s.tickSize = true) (bid : bidLevel s ≠ .nan) :
    (bidLevel s).lt (askLevel s) = true := by
  unfold bidLevel askLevel at *
  cases at_tick : s.tickSize with
  | nan => simp [Strategy.halfSpread, at_tick] at bid
  | num size =>
      have positive : 0 < size := by
        have known := tick (by simp [at_tick])
        simpa [at_tick] using known
      have at_half : s.halfSpread = .num (1 / 2 * (3 / 2) * size) := by
        simp [Strategy.halfSpread, at_tick, spread]
      have half_positive : 0 < 1 / 2 * (3 / 2) * size := by linarith
      cases at_mid : s.midPrice + s.skew with
      | nan => simp [at_mid] at bid
      | num mid =>
          simp only [at_half, Double.num_sub_num, Double.num_add_num, Double.lt_num]
          linarith

end Prices

section Steps

variable {roundAway : Side → Double → Double → Double}

/-- The order of a quote goes out at its target price, which a timer leaves alone. -/
private theorem onTimer_orders {quote : Quote} {shared : Shared} {now : Int} {connected : Bool}
    {outcome : Quote.Outcome} (handled : quote.onTimer shared now connected = .ok outcome)
    (book : Book) :
    outcome.1.targetPrice = quote.targetPrice ∧
      ∃ created, (outcome.2.2.foldl Book.send book).orders = book.orders ++ created ∧
        ∀ order ∈ created, order.side = quote.side ∧ order.price = quote.targetPrice ∧
          quote.targetPrice ≠ .nan := by
  rcases Quote.onTimer_cases handled with ⟨_, rfl⟩ | ⟨_, acted, act, rfl⟩
  · exact ⟨rfl, [], by simp, by simp⟩
  · cases act with
    | idle _ => exact ⟨rfl, [], by simp, by simp⟩
    | create state target _ _ =>
        refine ⟨rfl, _, rfl, fun order mem => ?_⟩
        obtain rfl : order = _ := List.mem_singleton.mp mem
        exact ⟨rfl, rfl, target⟩
    | cancel _ _ _ _ => exact ⟨rfl, [], by simp [Quote.canceled, Book.send, Book.requestCancel],
        by simp⟩

/-- What a step leaves of the targets, and the orders that it sends. -/
structure Sends (s t : Strategy) (before after : List Order) : Prop where
  bid : t.bid.targetPrice = s.bid.targetPrice
  ask : t.ask.targetPrice = s.ask.targetPrice
  created : ∃ created, after = before ++ created ∧ ∀ order ∈ created, order.price ≠ .nan ∧
    (order.side = .buy ∧ order.price = s.bid.targetPrice ∨
      order.side = .sell ∧ order.price = s.ask.targetPrice)

private theorem sends_nothing {s t : Strategy} (orders : List Order)
    (bid : t.bid.targetPrice = s.bid.targetPrice) (ask : t.ask.targetPrice = s.ask.targetPrice) :
    Sends s t orders orders :=
  ⟨bid, ask, [], by simp, by simp⟩

/-- Every event but TopOfBook and Disconnected leaves the targets alone, and only a timer sends
orders. -/
private theorem strategy_sends [Utils] {s t : Strategy} {e : Maker.Event} {effects : List Effect}
    (sided : s.Sided) (step : Strategy.Step roundAway s e t effects) (kept : e ≠ .disconnected)
    (unpriced : ∀ bidPrice askPrice, e ≠ .topOfBook bidPrice askPrice) (book : Book) :
    Sends s t book.orders (effects.foldl Book.send book).orders := by
  cases step with
  | idle _ | downloadEnd | referenceData | marketStatus => exact sends_nothing _ rfl rfl
  | @ready connected =>
      cases connected
      · exact sends_nothing _ rfl rfl
      · exact sends_nothing _ rfl rfl
  | timer _ bidHandled askHandled =>
      obtain ⟨bid, bid_created, bid_orders, bid_priced⟩ := onTimer_orders bidHandled book
      obtain ⟨ask, ask_created, ask_orders, ask_priced⟩ := onTimer_orders askHandled
        (List.foldl Book.send book _)
      refine ⟨bid, ask, bid_created ++ ask_created, ?_, fun order mem => ?_⟩
      · rw [List.foldl_append, ask_orders, bid_orders, List.append_assoc]
      · rcases List.mem_append.mp mem with there | there
        · obtain ⟨side, price, number⟩ := bid_priced order there
          exact ⟨by rw [price]; exact number, .inl ⟨side.trans sided.bid, price⟩⟩
        · obtain ⟨side, price, number⟩ := ask_priced order there
          exact ⟨by rw [price]; exact number, .inr ⟨side.trans sided.ask, price⟩⟩
  | disconnected => exact (kept rfl).elim
  | unpriced _ => exact (unpriced _ _ rfl).elim
  | priced _ _ => exact (unpriced _ _ rfl).elim
  | cancelAllOrdersAck =>
      unfold Strategy.onCancelAllOrdersAck
      split
      · exact sends_nothing _ rfl rfl
      · exact sends_nothing _ rfl rfl
  | bidAck _ handled => exact sends_nothing _ (Quote.onOrderAck_targetPrice handled) rfl
  | askAck _ handled => exact sends_nothing _ rfl (Quote.onOrderAck_targetPrice handled)
  | bidUpdate _ => exact sends_nothing _ (Quote.onOrderUpdate_targetPrice _ _ _) rfl
  | askUpdate _ => exact sends_nothing _ rfl (Quote.onOrderUpdate_targetPrice _ _ _)

/-- Setting a phase changes neither the prices nor the sides. -/
private theorem setPhase_priced {book : Book} {levels : List Double} (orderId : Nat) (phase : Phase)
    (orders : List.Forall₂ PricedFrom book.orders levels) :
    List.Forall₂ PricedFrom (book.setPhase orderId phase).orders levels := by
  rw [Book.setPhase, List.forall₂_map_left_iff]
  refine orders.imp fun order level priced => ?_
  split
  · exact ⟨priced.number, priced.buy, priced.sell⟩
  · exact priced

private theorem step_tickSize [Utils] {s t : Strategy} {e : Maker.Event} {effects : List Effect}
    (step : Strategy.Step roundAway s e t effects) :
    t.tickSize = s.tickSize ∨ e = .referenceData t.tickSize := by
  cases step with
  | referenceData => exact .inr rfl
  | cancelAllOrdersAck =>
      left
      unfold Strategy.onCancelAllOrdersAck
      split <;> rfl
  | _ => exact .inl rfl

/-- A step that reprices nothing keeps everything priced: the orders that it sends are priced from
the levels of the session. -/
private theorem record_priced [Utils] {s : Session} {e : Gateway.Event} {t : System}
    {before : List Order}
    (priced : Priced s) (unpriced : pricing s.system.strategy e = none) (sided : t.strategy.Sided)
    (tick : t.strategy.tickSize ≠ .nan → Double.lt 0 t.strategy.tickSize = true)
    (length : before.length = s.system.book.orders.length)
    (orders : List.Forall₂ PricedFrom before s.levels)
    (sends : Sends s.system.strategy t.strategy before t.book.orders) :
    Priced (s.record e t) := by
  have levels : List.Forall₂ PricedFrom t.book.orders
      (s.levels ++ (t.book.orders.drop s.system.book.orders.length).map s.levelOf) := by
    obtain ⟨created, all, prices⟩ := sends.created
    rw [all, ← length, List.drop_left]
    refine List.rel_append orders ?_
    rw [List.forall₂_map_right_iff, List.forall₂_same]
    intro order mem
    obtain ⟨number, ⟨side, price⟩ | ⟨side, price⟩⟩ := prices order mem
    · refine ⟨number, fun _ => ?_, fun sell => Side.noConfusion (side.symm.trans sell)⟩
      simp only [Session.levelOf, side, price]
      exact priced.bid
    · refine ⟨number, fun buy => Side.noConfusion (side.symm.trans buy), fun _ => ?_⟩
      simp only [Session.levelOf, side, price]
      exact priced.ask
  simp only [Session.record, unpriced, Option.map_none, Option.getD_none]
  refine ⟨sided, tick, priced.current, ?_, ?_, levels⟩
  · rw [sends.bid]
    exact priced.bid
  · rw [sends.ask]
    exact priced.ask

/-- TopOfBook leaves the targets alone, or `update_quotes` sets both. -/
private theorem onTopOfBook_pricing [Utils] (s : Strategy) (bidPrice askPrice : Double) :
    pricing s (.client (.topOfBook bidPrice askPrice)) = none ∧
        Sends s (s.onTopOfBook roundAway bidPrice askPrice) [] [] ∨
      ∃ m, pricing s (.client (.topOfBook bidPrice askPrice)) = some m ∧
        m.tickSize = s.tickSize ∧
        (s.onTopOfBook roundAway bidPrice askPrice).bid.targetPrice = m.bidPrice roundAway ∧
        (s.onTopOfBook roundAway bidPrice askPrice).ask.targetPrice = m.askPrice roundAway := by
  unfold Strategy.onTopOfBook pricing
  dsimp only
  generalize Double.num (1 / 2) * (bidPrice + askPrice) = midPrice
  by_cases moved : s.ready = true ∧ Utils.updated s.midPrice midPrice = true
  · rw [if_pos moved]
    unfold Strategy.updateQuotes
    by_cases missing : midPrice.isNaN = true
    · rw [if_pos missing, if_neg (by simp [missing])]
      exact .inl ⟨rfl, sends_nothing [] rfl rfl⟩
    · rw [if_neg missing, if_pos ⟨moved.1, moved.2, by simpa using missing⟩]
      exact .inr ⟨_, rfl, rfl, Quote.updateTargetPrice_targetPrice _ _,
        Quote.updateTargetPrice_targetPrice _ _⟩
  · rw [if_neg moved, if_neg fun priced => moved ⟨priced.1, priced.2.1⟩]
    exact .inl ⟨rfl, sends_nothing [] rfl rfl⟩

private theorem topOfBook_priced [Utils] {s : Session} {t : System} {bidPrice askPrice : Double}
    (rounds : RoundsAway roundAway) (priced : Priced s)
    (taken : System.next roundAway s.system (.client (.topOfBook bidPrice askPrice)) = some t) :
    Priced (s.record (.client (.topOfBook bidPrice askPrice)) t) := by
  obtain ⟨sided, tick, current, bid, ask, orders⟩ := priced
  have running := System.running taken
  have at_t : t = { s.system with
      strategy := s.system.strategy.onTopOfBook roundAway bidPrice askPrice } := by
    simpa [System.next, running, isFree, System.install, Strategy.handle] using taken.symm
  have step : Strategy.Step roundAway s.system.strategy (.topOfBook bidPrice askPrice)
      (s.system.strategy.onTopOfBook roundAway bidPrice askPrice) [] :=
    Strategy.handle_step rfl
  have sided_after := step.sided sided
  have tick_after : (s.system.strategy.onTopOfBook roundAway bidPrice askPrice).tickSize =
      s.system.strategy.tickSize := by
    rcases step_tickSize step with same | other
    · exact same
    · cases other
  have pricing := @onTopOfBook_pricing roundAway _ s.system.strategy bidPrice askPrice
  rcases pricing with
    ⟨unpriced, sends⟩ | ⟨m, repriced, m_tick, bid_price, ask_price⟩
  · subst at_t
    exact record_priced ⟨sided, tick, current, bid, ask, orders⟩ unpriced sided_after
      (by rw [tick_after]; exact tick) rfl orders (sends_nothing _ sends.bid sends.ask)
  · subst at_t
    have m_positive : m.tickSize ≠ .nan → Double.lt 0 m.tickSize = true := by
      rw [m_tick]
      exact tick
    simp only [Session.record, repriced, Option.map_some, Option.getD_some, List.drop_length,
      List.map_nil, List.append_nil]
    refine ⟨sided_after, by rw [tick_after]; exact tick,
      fun number _ => levels_ordered m_positive number, ?_, ?_, orders⟩
    · rw [bid_price]
      exact bidPrice_atMost rounds m_positive
    · rw [ask_price]
      exact askPrice_atMost rounds m_positive

private theorem positive_after [Utils] {s t : Strategy} {e : Maker.Event} {effects : List Effect}
    (step : Strategy.Step roundAway s e t effects)
    (tick : s.tickSize ≠ .nan → Double.lt 0 s.tickSize = true)
    (given : ∀ tickSize, e = .referenceData tickSize →
      tickSize ≠ .nan → Double.lt 0 tickSize = true) :
    t.tickSize ≠ .nan → Double.lt 0 t.tickSize = true := by
  rcases step_tickSize step with same | received
  · rw [same]
    exact tick
  · exact given _ received

/-- The prices stay on the safe side of the levels in every step. -/
private theorem priced_step [Utils] {s t : Session} {e : Gateway.Event}
    (rounds : RoundsAway roundAway) (priced : Priced s) (positive : PositiveTick s e)
    (recorded : Session.next roundAway s e = some t) : Priced t := by
  obtain ⟨after, taken, rfl⟩ := Option.map_eq_some_iff.mp recorded
  have sided := priced.sided
  have tick := priced.tick
  have orders := priced.orders
  have step := System.next_step taken
  cases step with
  | @client e strategy effects free step =>
      have kept : e ≠ .disconnected := by
        rintro rfl
        exact Bool.noConfusion free
      have given : ∀ tickSize, e = .referenceData tickSize →
          tickSize ≠ .nan → Double.lt 0 tickSize = true := by
        rintro tickSize rfl
        exact positive
      cases e with
      | topOfBook bidPrice askPrice => exact topOfBook_priced rounds priced taken
      | timer _ _ _ | disconnected | downloadEnd _ | ready _ | referenceData _ | marketStatus _
      | cancelAllOrdersAck | orderAck _ | orderUpdate _ =>
          exact record_priced priced rfl (step.sided sided) (positive_after step tick given) rfl
            orders (strategy_sends sided step kept (fun _ _ => Maker.Event.noConfusion) _)
  | @clientFails e _ free failed =>
      cases e with
      | topOfBook bidPrice askPrice => cases failed
      | timer _ _ _ | disconnected | downloadEnd _ | ready _ | referenceData _ | marketStatus _
      | cancelAllOrdersAck | orderAck _ | orderUpdate _ =>
          exact record_priced priced rfl sided tick rfl orders (sends_nothing _ rfl rfl)
  | askFails trading bidHandled failed =>
      obtain ⟨bid, bid_created, bid_orders, bid_priced⟩ :=
        onTimer_orders bidHandled s.system.book
      refine record_priced priced rfl ⟨(Quote.onTimer_side bidHandled).trans sided.bid, sided.ask⟩
        tick rfl orders ⟨bid, rfl, bid_created, bid_orders, fun order mem => ?_⟩
      obtain ⟨side, price, number⟩ := bid_priced order mem
      exact ⟨by rw [price]; exact number, .inl ⟨side.trans sided.bid, price⟩⟩
  | respond responded =>
      obtain ⟨_, _, result⟩ := Book.responds responded
      cases result with
      | accepted _ _ _ | rejected _ _ _ | canceled _ _ _ =>
          exact record_priced priced rfl sided tick (List.length_map _)
            (setPhase_priced _ _ orders) (sends_nothing _ rfl rfl)
      | refused _ _ _ _ | tooLate _ _ _ _ =>
          exact record_priced priced rfl sided tick rfl orders (sends_nothing _ rfl rfl)
  | finish _ _ =>
      exact record_priced priced rfl sided tick (List.length_map _) (setPhase_priced _ _ orders)
        (sends_nothing _ rfl rfl)
  | @ack orderAck _ _ step =>
      have sends := strategy_sends sided step Maker.Event.noConfusion
        (fun _ _ => Maker.Event.noConfusion) (s.system.book.forget (requestOf orderAck))
      exact record_priced priced rfl (step.sided sided)
        (positive_after step tick fun _ => Maker.Event.noConfusion) rfl orders sends
  | ackFails _ _ =>
      exact record_priced priced rfl sided tick rfl orders (sends_nothing _ rfl rfl)
  | @update orderUpdate _ _ _ _ _ step =>
      have sends := strategy_sends sided step Maker.Event.noConfusion
        (fun _ _ => Maker.Event.noConfusion)
        (s.system.book.setPhase orderUpdate.orderId .closed)
      exact record_priced priced rfl (step.sided sided)
        (positive_after step tick fun _ => Maker.Event.noConfusion) (List.length_map _)
        (setPhase_priced _ _ orders) sends
  | updateFails _ _ _ =>
      exact record_priced priced rfl sided tick (List.length_map _) (setPhase_priced _ _ orders)
        (sends_nothing _ rfl rfl)

private theorem initial_priced : Priced {} where
  sided := Strategy.initial_sided
  tick := fun known => (known rfl).elim
  current := fun known => (known rfl).elim
  bid := atMost_nan_left _
  ask := atMost_nan_left _
  orders := .nil

private theorem Priced.uncrossed {s : Session} (priced : Priced s) : Uncrossed s := by
  refine ⟨priced.orders.length_eq.symm, priced.current, ?_⟩
  rintro ⟨bid, bid_level⟩ bid_mem ⟨ask, ask_level⟩ ask_mem buy sell _ _ apart
  have bid_priced := List.forall₂_zip priced.orders bid_mem
  have ask_priced := List.forall₂_zip priced.orders ask_mem
  obtain ⟨x, at_bid⟩ := Double.exists_num bid_priced.number
  obtain ⟨y, at_ask⟩ := Double.exists_num ask_priced.number
  cases bid_level with
  | nan => cases apart
  | num low =>
      cases ask_level with
      | nan => cases apart
      | num high =>
          have below := bid_priced.buy buy x low at_bid rfl
          have above := ask_priced.sell sell high y rfl at_ask
          have levels : low < high := (Double.lt_num _ _).mp apart
          simp only [at_bid, at_ask, Double.lt_num]
          linarith

end Steps

/-- For every run on one connection, whatever the order of deliveries: a live BUY order is below a
live SELL order whenever the level that it was priced from is below that of the SELL order. -/
theorem quotes_ordered_by_level [Utils] (roundAway : Side → Double → Double → Double)
    (rounds : RoundsAway roundAway) (es : List Gateway.Event)
    (positive : AllSteps (Session.next roundAway) PositiveTick {} es) :
    AllStates (Session.next roundAway) Uncrossed {} es := by
  have priced : AllStates (Session.next roundAway) Priced {} es :=
    positive.invariant (fun _ _ _ priced positive taken => priced_step rounds priced positive taken)
      initial_priced
  exact priced.mono fun _ priced => priced.uncrossed

section Examples

open scoped RoqSamples.Client.Documented

/-- Both quotes work around 100 when the market jumps; their cancels are sent. -/
def quoteBothSides : List Gateway.Event :=
  [.client (.ready true), .client .cancelAllOrdersAck, .client (.referenceData 1),
    .client (.marketStatus .«open»), .client (.topOfBook 99 101), .client (.timer 0 true true),
    .respond ⟨.createOrder, 1, .buy, none⟩ ⟨.accepted, .undefined⟩,
    .orderAck ⟨1, .buy, .createOrder, .accepted, .undefined, 99⟩,
    .respond ⟨.createOrder, 2, .sell, none⟩ ⟨.accepted, .undefined⟩,
    .orderAck ⟨2, .sell, .createOrder, .accepted, .undefined, 101⟩,
    .client (.topOfBook 110 112), .client (.timer 3000000000 true true)]

/-- The exchange cancels the BUY order first, and the BUY quote follows the market up. -/
def followUp : List Gateway.Event :=
  [.respond ⟨.cancelOrder, 1, .buy, none⟩ ⟨.accepted, .undefined⟩,
    .orderAck ⟨1, .buy, .cancelOrder, .accepted, .undefined, .nan⟩,
    .client (.topOfBook 112 114), .client (.timer 6000000000 true true)]

/-- No live BUY order is at or above a live SELL order. -/
def NeverCrossed (s : System) : Prop :=
  ∀ bid ∈ s.book.orders, ∀ ask ∈ s.book.orders, bid.side = .buy → ask.side = .sell →
    bid.phase.isLive = true → ask.phase.isLive = true → bid.price.lt ask.price = true

instance (s : System) : Decidable (NeverCrossed s) := by
  unfold NeverCrossed
  infer_instance

theorem quotes_ordered_when_market_jumps :
    AllStates (Session.next toGrid) Uncrossed {} (quoteBothSides ++ followUp) :=
  quotes_ordered_by_level toGrid toGrid_roundsAway _ (by decide +kernel)

/-- The new BUY order at 112 is in flight while the SELL order at 101 is still working. -/
theorem market_jump_crosses_quotes :
    (∃ t, run (System.next toGrid) {} (quoteBothSides ++ followUp) = some t ∧
        t.book.orders.map (fun order => (order.side, order.price, order.phase.isLive)) =
          [(.buy, 99, false), (.sell, 101, true), (.buy, 112, true)]) ∧
      ¬ AllStates (System.next toGrid) NeverCrossed {} (quoteBothSides ++ followUp) := by
  refine ⟨reaches_of_any (by decide +kernel), fun states => ?_⟩
  have crossed : ∃ t, run (System.next toGrid) {} (quoteBothSides ++ followUp) = some t ∧
      ¬ NeverCrossed t := reaches_of_any (by decide +kernel)
  obtain ⟨t, reached, crossed⟩ := crossed
  exact crossed (states.last reached)

end Examples

end RoqSamples.Maker.CrossedQuotes
