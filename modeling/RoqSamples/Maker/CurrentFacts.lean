/- Maker/CurrentFacts
   digest: An order follows a Ready, an ack and a price of its connection; the tick size and the
     trading status may be those of an earlier connection. -/
import RoqSamples.Maker.Requests
import RoqSamples.Maker.RoundAway

set_option autoImplicit false
set_option relaxedAutoImplicit false

namespace RoqSamples.Maker.CurrentFacts

open RoqSamples.Arith (Double)
open RoqSamples.Client
open RoqSamples.Execution.Runs
open RoqSamples.Maker.QuoteRepresentation (next Creates)
open RoqSamples.Maker.Requests

/-- The last MarketStatus and the last ReferenceData received on a connection. -/
structure Facts where
  tradingStatus : Option TradingStatus := none
  tickSize : Option Double := none
  deriving DecidableEq

namespace Facts

def receive (facts : Facts) : Event → Facts
  | .disconnected => {}
  | .marketStatus tradingStatus => { facts with tradingStatus := some tradingStatus }
  | .referenceData tickSize => { facts with tickSize := some tickSize }
  | _ => facts

end Facts

/-- What has been received since the most recent Disconnected. -/
def facts (past : List Event) : Facts := past.foldl Facts.receive {}

/-- The price of a side in a strategy that computes its quotes. -/
def quotePrice [Utils] (roundAway : Side → Double → Double → Double) (s : Strategy) : Side → Double
  | .undefined => .nan
  | .buy => s.bidPrice roundAway
  | .sell => s.askPrice roundAway

section Connection

variable (roundAway : Side → Double → Double → Double)

/-- The strategy as it computes its quotes with a TopOfBook. -/
def withMid (s : Strategy) (bidPrice askPrice : Double) : Strategy :=
  { s with midPrice := .num (1 / 2) * (bidPrice + askPrice) }

variable [Utils]

/-- The price of a side has been computed from a TopOfBook after the Ready, in the state that the
events before it lead to. -/
def ComputedAfter (before : List Event) (ready : Bool) (rest : List Event) (side : Side)
    (price : Double) : Prop :=
  ∃ waiting bidPrice askPrice later s, rest = waiting ++ .topOfBook bidPrice askPrice :: later ∧
    run (next roundAway) {} (before ++ .ready ready :: waiting) = some s ∧
    (withMid s bidPrice askPrice).midPrice ≠ .nan ∧
    price = quotePrice roundAway (withMid s bidPrice askPrice) side

/-- A CreateOrder after the events `past` rests on facts of the current connection. -/
structure Grounded (past : List Event) (request : CreateOrder) : Prop where
  connection : ∃ before ready rest, past = before ++ .ready ready :: rest ∧
    .disconnected ∉ rest ∧ .cancelAllOrdersAck ∈ rest ∧
    ComputedAfter roundAway before ready rest request.side request.price
  isOpen : (facts past).tradingStatus = some .«open»
  tick : ∃ tickSize, (facts past).tickSize = some tickSize ∧ tickSize ≠ .nan

/-- Every CreateOrder that a run sends is grounded. -/
def AllGrounded (es : List Event) : Prop :=
  ∀ past e s, past ++ [e] <+: es → run (next roundAway) {} past = some s →
    ∀ request, .createOrder request ∈ emitted s e → Grounded roundAway past request

/-- The strategy, and the facts of its current connection, which no handler reads. -/
structure Tracked where
  strategy : Strategy := {}
  facts : Facts := {}

def Tracked.next (s : Tracked) (e : Event) : Option Tracked :=
  (QuoteRepresentation.next roundAway s.strategy e).map fun strategy =>
    { strategy := strategy, facts := s.facts.receive e }

/-- A timer while the maker can trade comes after a MarketStatus and a ReferenceData that were
received since the most recent Disconnected. -/
def Informed (s : Tracked) : Event → Prop
  | .timer _ _ _ =>
      s.strategy.canTrade = true → s.facts.tradingStatus ≠ none ∧ s.facts.tickSize ≠ none
  | .disconnected | .downloadEnd _ | .ready _ | .referenceData _ | .marketStatus _
  | .topOfBook _ _ | .cancelAllOrdersAck | .orderAck _ | .orderUpdate _ => True

instance (s : Tracked) : ∀ e, Decidable (Informed s e)
  | .timer _ _ _ => inferInstanceAs (Decidable (_ → _ ∧ _))
  | .disconnected | .downloadEnd _ | .ready _ | .referenceData _ | .marketStatus _
  | .topOfBook _ _ | .cancelAllOrdersAck | .orderAck _ | .orderUpdate _ => isTrue trivial

end Connection

section Targets

variable {roundAway : Side → Double → Double → Double}

/-- What an event other than a TopOfBook leaves of the gates of an order. -/
private structure Keeps (s t : Strategy) (e : Event) : Prop where
  ready : t.ready = s.ready
  state : t.state = .quote → s.state = .quote ∨ e = .cancelAllOrdersAck
  bid : t.bid.targetPrice = s.bid.targetPrice
  ask : t.ask.targetPrice = s.ask.targetPrice

/-- Disconnected, Ready and TopOfBook apart, events keep the gates. -/
private theorem step_keeps [Utils] {s t : Strategy} {e : Event} {effects : List Effect}
    (step : Strategy.Step roundAway s e t effects) :
    (e = .disconnected ∧ t = s.onDisconnected) ∨
      (∃ connected, e = .ready connected ∧ t = (s.onReady connected).1) ∨
      (∃ bidPrice askPrice, e = .topOfBook bidPrice askPrice) ∨ Keeps s t e := by
  cases step with
  | idle | downloadEnd | referenceData | marketStatus =>
      exact .inr (.inr (.inr ⟨rfl, .inl, rfl, rfl⟩))
  | timer _ bidHandled askHandled =>
      exact .inr (.inr (.inr ⟨rfl, .inl, Quote.onTimer_targetPrice bidHandled,
        Quote.onTimer_targetPrice askHandled⟩))
  | disconnected => exact .inl ⟨rfl, rfl⟩
  | ready => exact .inr (.inl ⟨_, rfl, rfl⟩)
  | unpriced | priced => exact .inr (.inr (.inl ⟨_, _, rfl⟩))
  | cancelAllOrdersAck =>
      refine .inr (.inr (.inr ?_))
      unfold Strategy.onCancelAllOrdersAck
      split
      · exact ⟨rfl, fun _ => .inr rfl, rfl, rfl⟩
      · exact ⟨rfl, .inl, rfl, rfl⟩
  | bidAck _ handled =>
      exact .inr (.inr (.inr ⟨rfl, .inl, Quote.onOrderAck_targetPrice handled, rfl⟩))
  | askAck _ handled =>
      exact .inr (.inr (.inr ⟨rfl, .inl, rfl, Quote.onOrderAck_targetPrice handled⟩))
  | bidUpdate =>
      exact .inr (.inr (.inr ⟨rfl, .inl, Quote.onOrderUpdate_targetPrice _ _ _, rfl⟩))
  | askUpdate =>
      exact .inr (.inr (.inr ⟨rfl, .inl, rfl, Quote.onOrderUpdate_targetPrice _ _ _⟩))

end Targets

section History

variable {roundAway : Side → Double → Double → Double}

/-- A target price that is a number has been computed on the connection. -/
private def Priced [Utils] (roundAway : Side → Double → Double → Double) (before : List Event)
    (ready : Bool) (rest : List Event) (side : Side) (price : Double) : Prop :=
  price ≠ .nan → ComputedAfter roundAway before ready rest side price

private theorem Priced.extend [Utils] {before rest : List Event} {ready : Bool} {side : Side}
    {price : Double} (priced : Priced roundAway before ready rest side price) (e : Event) :
    Priced roundAway before ready (rest ++ [e]) side price := by
  intro number
  obtain ⟨waiting, bidPrice, askPrice, later, s, rfl, computed⟩ := priced number
  exact ⟨waiting, bidPrice, askPrice, later ++ [e], s, by simp, computed⟩

/-- What the gates of an order say about the events of the connection. -/
private structure Session [Utils] (roundAway : Side → Double → Double → Double) (past : List Event)
    (s : Strategy) : Prop where
  down : s.ready = false → s.bid.targetPrice = .nan ∧ s.ask.targetPrice = .nan
  up : s.ready = true → ∃ before ready rest, past = before ++ .ready ready :: rest ∧
    .disconnected ∉ rest ∧ (s.state = .quote → .cancelAllOrdersAck ∈ rest) ∧
    Priced roundAway before ready rest .buy s.bid.targetPrice ∧
    Priced roundAway before ready rest .sell s.ask.targetPrice

private theorem Session.keep [Utils] {past : List Event} {s t : Strategy} {e : Event}
    (session : Session roundAway past s) (keeps : Keeps s t e) (connected : e ≠ .disconnected) :
    Session roundAway (past ++ [e]) t := by
  constructor
  · intro down
    rw [keeps.bid, keeps.ask]
    exact session.down (keeps.ready.symm.trans down)
  · intro up
    obtain ⟨before, ready, rest, rfl, same, acked, bid, ask⟩ :=
      session.up (keeps.ready.symm.trans up)
    refine ⟨before, ready, rest ++ [e], by simp, ?_, ?_, ?_, ?_⟩
    · simpa [same] using connected.symm
    · intro quote
      rcases keeps.state quote with before | rfl
      · exact List.mem_append_left _ (acked before)
      · simp
    · rw [keeps.bid]
      exact bid.extend e
    · rw [keeps.ask]
      exact ask.extend e

private theorem Session.disconnect [Utils] (past : List Event) (s : Strategy) :
    Session roundAway past s.onDisconnected :=
  ⟨fun _ => ⟨rfl, rfl⟩, fun up => by cases up⟩

private theorem Session.ready [Utils] {past : List Event} {s : Strategy}
    (session : Session roundAway past s) (connected : Bool) :
    Session roundAway (past ++ [.ready connected]) (s.onReady connected).1 := by
  refine ⟨fun down => (by cases down), fun _ => ?_⟩
  cases up : s.ready with
  | false =>
      -- the first Ready of the connection
      obtain ⟨bid, ask⟩ := session.down up
      exact ⟨past, connected, [], rfl, List.not_mem_nil, fun quote => (by cases quote),
        fun number => (number bid).elim, fun number => (number ask).elim⟩
  | true =>
      obtain ⟨before, ready, rest, rfl, same, _, bid, ask⟩ := session.up up
      exact ⟨before, ready, rest ++ [.ready connected], by simp, by simpa using same,
        fun quote => (by cases quote), bid.extend _, ask.extend _⟩

/-- The price that `update_quotes` computes on a connection. -/
private theorem priced_now [Utils] {before rest : List Event} {ready : Bool} {s : Strategy}
    {bidPrice askPrice : Double}
    (reached : run (next roundAway) {} (before ++ .ready ready :: rest) = some s)
    (number : (withMid s bidPrice askPrice).midPrice ≠ .nan) (side : Side) :
    Priced roundAway before ready (rest ++ [.topOfBook bidPrice askPrice]) side
      (quotePrice roundAway (withMid s bidPrice askPrice) side) :=
  fun _ => ⟨rest, bidPrice, askPrice, [], s, rfl, reached, number, rfl⟩

private theorem Session.topOfBook [Utils] {past : List Event} {s : Strategy}
    (session : Session roundAway past s) (reached : run (next roundAway) {} past = some s)
    (bidPrice askPrice : Double) :
    Session roundAway (past ++ [.topOfBook bidPrice askPrice])
      (s.onTopOfBook roundAway bidPrice askPrice) := by
  unfold Strategy.onTopOfBook
  dsimp only
  split
  · rename_i fresh
    unfold Strategy.updateQuotes
    split
    · exact session.keep ⟨rfl, .inl, rfl, rfl⟩ Event.noConfusion
    · rename_i number
      have mid : (withMid s bidPrice askPrice).midPrice ≠ .nan :=
        fun missing => number (Double.isNaN_eq_true.mpr missing)
      refine ⟨fun down => ?_, fun up => ?_⟩
      · cases down.symm.trans fresh.1
      · obtain ⟨before, ready, rest, rfl, same, acked, _, _⟩ := session.up up
        refine ⟨before, ready, rest ++ [.topOfBook bidPrice askPrice], by simp,
          by simpa using same, fun quote => List.mem_append_left _ (acked quote), ?_, ?_⟩
        · rw [Quote.updateTargetPrice_targetPrice]
          exact priced_now reached mid .buy
        · rw [Quote.updateTargetPrice_targetPrice]
          exact priced_now reached mid .sell
  · exact session.keep ⟨rfl, .inl, rfl, rfl⟩ Event.noConfusion

private theorem run_session [Utils] {past : List Event} {s : Strategy}
    (reached : run (next roundAway) {} past = some s) : Session roundAway past s := by
  refine run_history (I := Session roundAway) ?_ ?_ reached
  · exact ⟨fun _ => ⟨rfl, rfl⟩, fun up => by cases up⟩
  · intro past e before after there session taken
    obtain ⟨effects, handled⟩ := next_handled taken
    rcases step_keeps (Strategy.handle_step handled) with ⟨rfl, rfl⟩ | ⟨connected, rfl, rfl⟩ |
      ⟨bidPrice, askPrice, rfl⟩ | keeps
    · exact .disconnect _ before
    · exact session.ready connected
    · cases handled
      exact session.topOfBook there bidPrice askPrice
    · by_cases disconnected : e = .disconnected
      · subst disconnected
        cases handled
        exact .disconnect _ before
      · exact session.keep keeps disconnected

/-- The strategy has taken over the last message of each kind that the connection has had. -/
private structure Told (past : List Event) (s : Strategy) : Prop where
  tradingStatus : ∀ x, (facts past).tradingStatus = some x → s.tradingStatus = x
  tickSize : ∀ x, (facts past).tickSize = some x → s.tickSize = x
  sided : s.Sided

private theorem facts_append (past : List Event) (e : Event) :
    facts (past ++ [e]) = (facts past).receive e := by
  rw [facts, facts, List.foldl_append]
  rfl

private theorem told_step [Utils] {past : List Event} {s t : Strategy} {e : Event}
    {effects : List Effect} (told : Told past s)
    (step : Strategy.Step roundAway s e t effects) : Told (past ++ [e]) t := by
  have sided := step.sided told.sided
  obtain ⟨status, tick, _⟩ := told
  refine ⟨?_, ?_, sided⟩
  · rw [facts_append]
    cases step with
    | disconnected => exact fun _ none => by cases none
    | marketStatus => exact fun _ last => Option.some.inj last
    | cancelAllOrdersAck =>
        unfold Strategy.onCancelAllOrdersAck
        split <;> exact status
    | idle | timer | downloadEnd | ready | referenceData | unpriced | priced | bidAck | askAck
    | bidUpdate | askUpdate => exact status
  · rw [facts_append]
    cases step with
    | disconnected => exact fun _ none => by cases none
    | referenceData => exact fun _ last => Option.some.inj last
    | cancelAllOrdersAck =>
        unfold Strategy.onCancelAllOrdersAck
        split <;> exact tick
    | idle | timer | downloadEnd | ready | marketStatus | unpriced | priced | bidAck | askAck
    | bidUpdate | askUpdate => exact tick

private theorem run_told [Utils] {past : List Event} {s : Strategy}
    (reached : run (next roundAway) {} past = some s) : Told past s := by
  refine run_history (I := Told) ?_ ?_ reached
  · exact ⟨fun _ none => (by cases none), fun _ none => (by cases none),
      Strategy.initial_sided⟩
  · intro past e before after _ told taken
    obtain ⟨effects, handled⟩ := next_handled taken
    exact told_step told (Strategy.handle_step handled)

/-- An order that is sent is the one that a quote of the strategy creates at its target price. -/
private theorem sent_by {s : Strategy} {e : Event} {request : CreateOrder}
    (mem : .createOrder request ∈ emitted s e) :
    s.canTrade = true ∧ ∃ quote, (quote = s.bid ∨ quote = s.ask) ∧
      request.side = quote.side ∧ request.price = quote.targetPrice ∧
      quote.targetPrice ≠ .nan := by
  cases e with
  | timer now bidConnected askConnected =>
      obtain ⟨quote, _, _, _, outcome, reached, handled, sent⟩ := mem_emitted_timer.mp mem
      obtain ⟨creates, rfl⟩ := (mem_createOrder handled).mp sent
      have target := creates_target creates handled
      cases reached with
      | bid trading => exact ⟨trading, s.bid, .inl rfl, rfl, rfl, target⟩
      | ask trading => exact ⟨trading, s.ask, .inr rfl, rfl, rfl, target⟩
  | ready connected => cases connected <;> simp [emitted, Strategy.onReady] at mem
  | disconnected | downloadEnd | referenceData | marketStatus | topOfBook | cancelAllOrdersAck
  | orderAck | orderUpdate => cases mem

/-- An order is grounded when both messages have been received on the connection. -/
private theorem grounded_of_informed [Utils] {past : List Event} {s : Strategy} {e : Event}
    {request : CreateOrder} (reached : run (next roundAway) {} past = some s)
    (mem : .createOrder request ∈ emitted s e)
    (status : (facts past).tradingStatus ≠ none) (tick : (facts past).tickSize ≠ none) :
    Grounded roundAway past request := by
  obtain ⟨tradingStatus, status⟩ := Option.ne_none_iff_exists'.mp status
  obtain ⟨tickSize, tick⟩ := Option.ne_none_iff_exists'.mp tick
  have told := run_told reached
  obtain ⟨trading, quote, which, side, price, number⟩ := sent_by mem
  simp only [Strategy.canTrade, decide_eq_true_eq] at trading
  obtain ⟨ready, quoting, known, isOpen⟩ := trading
  refine ⟨?_, ?_, tickSize, tick, ?_⟩
  · obtain ⟨before, up, rest, rfl, same, acked, bid, ask⟩ := (run_session reached).up ready
    refine ⟨before, up, rest, rfl, same, acked quoting, ?_⟩
    rw [side, price]
    rcases which with rfl | rfl
    · rw [told.sided.bid]
      exact bid number
    · rw [told.sided.ask]
      exact ask number
  · rw [status, ← told.tradingStatus _ status, isOpen]
  · rw [← told.tickSize _ tick]
    exact Double.isNaN_eq_false.mp known

/-- The facts are tracked along every run of the strategy. -/
private theorem run_facts [Utils] {past : List Event} {s : Strategy}
    (reached : run (next roundAway) {} past = some s) :
    run (Tracked.next roundAway) {} past = some { strategy := s, facts := facts past } := by
  refine run_history (I := fun past s =>
    run (Tracked.next roundAway) {} past = some { strategy := s, facts := facts past }) rfl ?_
    reached
  intro past e m t _ before taken
  have step : Tracked.next roundAway { strategy := m, facts := facts past } e =
      some { strategy := t, facts := facts (past ++ [e]) } := by
    rw [Tracked.next, taken, facts_append]
    rfl
  rw [run_append, before, Option.bind_some]
  exact run_cons_eq_some.mpr ⟨_, step, rfl⟩

end History

/-- Every order rests on facts of its connection, provided that after every Disconnected a
MarketStatus and a ReferenceData come before the timers that trade. -/
theorem all_grounded [Utils] (roundAway : Side → Double → Double → Double) (es : List Event)
    (informed : AllMet (Tracked.next roundAway) Informed {} es) : AllGrounded roundAway es := by
  rintro past e s ⟨rest, rfl⟩ reached request mem
  rw [List.append_assoc, List.singleton_append] at informed
  have here := informed.after (run_facts reached)
  have timer : ∃ now bidConnected askConnected, e = .timer now bidConnected askConnected := by
    cases e with
    | timer now bidConnected askConnected => exact ⟨now, bidConnected, askConnected, rfl⟩
    | ready connected => cases connected <;> simp [emitted, Strategy.onReady] at mem
    | disconnected | downloadEnd | referenceData | marketStatus | topOfBook | cancelAllOrdersAck
    | orderAck | orderUpdate => cases mem
  obtain ⟨now, bidConnected, askConnected, rfl⟩ := timer
  obtain ⟨status, tick⟩ := here (sent_by mem).1
  exact grounded_of_informed reached mem status tick

section Examples

open scoped RoqSamples.Client.Documented

/-- The market data of one connection, and the start of another one. -/
private def reconnected : List Event :=
  [.referenceData 1, .marketStatus .«open», .disconnected, .ready true, .cancelAllOrdersAck,
    .topOfBook 99 101]

/-- The second connection gets its own market data before the timer. -/
private def informedAgain : List Event :=
  [.referenceData 1, .marketStatus .«open», .disconnected, .ready true, .cancelAllOrdersAck,
    .referenceData 1, .marketStatus .«open», .topOfBook 99 101, .timer 0 true true]

theorem all_grounded_when_informed : AllGrounded toGrid informedAgain :=
  all_grounded toGrid informedAgain (by decide +kernel)

/-- The second connection trades on the status and the tick size of the first one. -/
theorem stale_facts_traded : ¬ ∀ es, AllGrounded toGrid es := by
  intro grounded
  obtain ⟨s, reached, request, mem⟩ :
      ∃ s, run (next toGrid) {} reconnected = some s ∧
        ∃ request, .createOrder request ∈ emitted s (.timer 0 true true) := by
    have sends : ∃ s, run (next toGrid) {} reconnected = some s ∧
        .createOrder (Quote.createOrderRequest .buy 1 99) ∈ emitted s (.timer 0 true true) :=
      reaches_of_any (by decide +kernel)
    obtain ⟨s, reached, mem⟩ := sends
    exact ⟨s, reached, _, mem⟩
  have current := (grounded (reconnected ++ [.timer 0 true true]) reconnected _ s
    List.prefix_rfl reached request mem).isOpen
  cases current

end Examples

end RoqSamples.Maker.CurrentFacts
