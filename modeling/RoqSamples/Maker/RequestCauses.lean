/- Maker/RequestCauses
   digest: Every request of a quote comes right after a new target price, and no target price has
     two requests. -/
import RoqSamples.Execution.Prompts
import RoqSamples.Maker.Requests
import RoqSamples.Maker.RoundAway

set_option autoImplicit false
set_option relaxedAutoImplicit false

namespace RoqSamples.Maker.RequestCauses

open RoqSamples.Arith (Double)
open RoqSamples.Client
open RoqSamples.Execution.Prompts
open RoqSamples.Execution.Runs
open RoqSamples.Maker.QuoteRepresentation (next)
open RoqSamples.Maker.Requests (emitted next_handled mem_emitted_timer TimerOf)

/-- A new target price of a quote, or a request that the quote sends. -/
inductive Mark
  | target (price : Double)
  | request (effect : Effect)
  deriving DecidableEq

def Mark.isRequest : Mark → Bool
  | .request _ => true
  | .target _ => false

/-- An order is for the side of the quote, at the target price. -/
def Aims (side : Side) : Mark → Mark → Prop
  | .target price, .request (.createOrder request) => request.side = side ∧ request.price = price
  | _, _ => True

/-- The requests among the effects of a timer. -/
def requestMark : Effect → Option Mark
  | .createOrder request => some (.request (.createOrder request))
  | .cancelOrder request => some (.request (.cancelOrder request))
  | .cancelAllOrders _ | .assertion _ => none

def quoteOf (s : Strategy) : Side → Quote
  | .undefined => { side := .undefined }
  | .buy => s.bid
  | .sell => s.ask

/-- The effects of a timer that one of the quotes has. -/
def asked (s : Strategy) (now : Int) (bidConnected askConnected : Bool) : Side → List Effect
  | .undefined => []
  | .buy =>
      match s.bid.onTimer s.shared now bidConnected with
      | .error _ => []
      | .ok (_, _, effects) => effects
  | .sell =>
      match s.bid.onTimer s.shared now bidConnected with
      | .error _ => []
      | .ok (_, shared, _) =>
          match s.ask.onTimer shared now askConnected with
          | .error _ => []
          | .ok (_, _, effects) => effects

section Marks

variable (roundAway : Side → Double → Double → Double)

/-- What an event does to the quote of a side: a TopOfBook may give it a new target price, a timer
may make it send a request. -/
def marks [Utils] (side : Side) (s : Strategy) : Event → List Mark
  | .timer now bidConnected askConnected =>
      if s.canTrade then (asked s now bidConnected askConnected side).filterMap requestMark else []
  | .topOfBook bidPrice askPrice =>
      let price := (quoteOf (s.onTopOfBook roundAway bidPrice askPrice) side).targetPrice
      if Utils.updated (quoteOf s side).targetPrice price then [.target price] else []
  | .disconnected | .downloadEnd _ | .ready _ | .referenceData _ | .marketStatus _
  | .cancelAllOrdersAck | .orderAck _ | .orderUpdate _ => []

end Marks

/-- What the flag of a quote has to do with the marks. -/
private inductive Reacts (quote after : Quote) : List Mark → Prop
  | quiet (kept : after.updateOrder = true →
      quote.updateOrder = true ∧ after.targetPrice = quote.targetPrice) : Reacts quote after []
  | aims : Reacts quote after [.target after.targetPrice]
  | asks {effect : Effect} (flag : quote.updateOrder = true) (done : after.updateOrder = false)
      (fits : Aims quote.side (.target quote.targetPrice) (.request effect)) :
      Reacts quote after [.request effect]

private theorem timer_reacts {quote : Quote} {shared : Shared} {now : Int} {connected : Bool}
    {outcome : Quote.Outcome} (handled : quote.onTimer shared now connected = .ok outcome) :
    Reacts quote outcome.1 (outcome.2.2.filterMap requestMark) := by
  rcases Quote.onTimer_cases handled with ⟨flag, rfl⟩ | ⟨flag, acted, act, rfl⟩
  · exact .quiet fun set => ⟨set, rfl⟩
  · cases act with
    | idle => exact .quiet fun set => Bool.noConfusion set
    | create => exact .asks flag rfl ⟨rfl, rfl⟩
    | cancel => exact .asks flag rfl trivial

/-- The mark of a quote that had one target price and has another. -/
private def aimMark [Utils] (before after : Quote) : List Mark :=
  if Utils.updated before.targetPrice after.targetPrice then [.target after.targetPrice] else []

private theorem same_reacts [Utils] (quote : Quote) : Reacts quote quote (aimMark quote quote) := by
  have same : Utils.updated quote.targetPrice quote.targetPrice = false := Utils.updated_self _
  rw [aimMark, same, if_neg Bool.false_ne_true]
  exact .quiet fun set => ⟨set, rfl⟩

private theorem updateTargetPrice_reacts [Utils] (quote : Quote) (price : Double) :
    Reacts quote (quote.updateTargetPrice price)
      (aimMark quote (quote.updateTargetPrice price)) := by
  rw [aimMark, Quote.updateTargetPrice_targetPrice]
  by_cases new : Utils.updated quote.targetPrice price = true
  · have aimed : quote.updateTargetPrice price =
        { quote with targetPrice := price, updateOrder := true } := if_pos new
    rw [if_pos new, aimed]
    exact .aims
  · have kept : quote.updateTargetPrice price = quote := if_neg new
    rw [if_neg new, kept]
    exact .quiet fun set => ⟨set, rfl⟩

section Steps

variable {roundAway : Side → Double → Double → Double} {s t : Strategy} {e : Event}

private theorem topOfBook_reacts [Utils] (s : Strategy) (bidPrice askPrice : Double) (side : Side) :
    Reacts (quoteOf s side) (quoteOf (s.onTopOfBook roundAway bidPrice askPrice) side)
      (marks roundAway side s (.topOfBook bidPrice askPrice)) := by
  show Reacts _ _ (aimMark _ _)
  unfold Strategy.onTopOfBook
  dsimp only
  split
  · unfold Strategy.updateQuotes
    split
    · cases side <;> exact same_reacts _
    · cases side with
      | undefined => exact same_reacts _
      | buy | sell => exact updateTargetPrice_reacts _ _
  · exact same_reacts _

/-- The effects of a side are those of the timer of its quote. -/
private theorem asked_cases (s : Strategy) (now : Int) (bidConnected askConnected : Bool)
    (side : Side) :
    asked s now bidConnected askConnected side = [] ∨
      ∃ shared connected outcome, (quoteOf s side).onTimer shared now connected = .ok outcome ∧
        asked s now bidConnected askConnected side = outcome.2.2 := by
  cases side with
  | undefined => exact .inl rfl
  | buy =>
      cases handled : s.bid.onTimer s.shared now bidConnected with
      | error reason => exact .inl (by simp only [asked, handled])
      | ok outcome => exact .inr ⟨_, _, outcome, handled, by simp only [asked, handled]⟩
  | sell =>
      cases bidHandled : s.bid.onTimer s.shared now bidConnected with
      | error reason => exact .inl (by simp only [asked, bidHandled])
      | ok bid =>
          cases askHandled : s.ask.onTimer bid.2.1 now askConnected with
          | error reason => exact .inl (by simp only [asked, bidHandled, askHandled])
          | ok outcome =>
              exact .inr ⟨_, _, outcome, askHandled, by simp only [asked, bidHandled, askHandled]⟩

/-- Also an event that ends in log::fatal leaves only such marks. -/
private theorem some_reacts [Utils] (s : Strategy) (e : Event) (side : Side) :
    ∃ after, Reacts (quoteOf s side) after (marks roundAway side s e) := by
  have quiet : Reacts (quoteOf s side) (quoteOf s side) [] := .quiet fun set => ⟨set, rfl⟩
  cases e with
  | timer now bidConnected askConnected =>
      rw [marks]
      split
      · rcases asked_cases s now bidConnected askConnected side with none |
          ⟨shared, connected, outcome, handled, same⟩
        · rw [none]
          exact ⟨_, quiet⟩
        · rw [same]
          exact ⟨_, timer_reacts handled⟩
      · exact ⟨_, quiet⟩
  | topOfBook bidPrice askPrice => exact ⟨_, topOfBook_reacts s bidPrice askPrice side⟩
  | disconnected | downloadEnd | ready | referenceData | marketStatus | cancelAllOrdersAck
  | orderAck | orderUpdate => exact ⟨_, quiet⟩

private theorem next_reacts [Utils] (taken : next roundAway s e = some t) (side : Side) :
    Reacts (quoteOf s side) (quoteOf t side) (marks roundAway side s e) := by
  obtain ⟨effects, handled⟩ := next_handled taken
  have kept {quote after : Quote} (flag : after.updateOrder = quote.updateOrder)
      (target : after.targetPrice = quote.targetPrice) : Reacts quote after [] :=
    .quiet fun set => ⟨flag.symm.trans set, target⟩
  cases Strategy.handle_step handled with
  | idle gated =>
      rw [marks, if_neg (by rw [gated]; exact Bool.false_ne_true)]
      exact kept rfl rfl
  | timer trading bidHandled askHandled =>
      rw [marks, if_pos trading]
      cases side with
      | undefined => exact kept rfl rfl
      | buy =>
          simp only [asked, bidHandled]
          exact timer_reacts bidHandled
      | sell =>
          simp only [asked, bidHandled, askHandled]
          exact timer_reacts askHandled
  | disconnected =>
      cases side with
      | undefined => exact kept rfl rfl
      | buy | sell => exact .quiet fun set => Bool.noConfusion set
  | @unpriced bidPrice askPrice | @priced bidPrice askPrice =>
      obtain ⟨same, _⟩ := Prod.mk.inj (Except.ok.inj handled)
      rw [← same]
      exact topOfBook_reacts s bidPrice askPrice side
  | downloadEnd | ready | referenceData | marketStatus => cases side <;> exact kept rfl rfl
  | cancelAllOrdersAck =>
      unfold Strategy.onCancelAllOrdersAck
      split <;> cases side <;> exact kept rfl rfl
  | bidAck _ acked =>
      cases side with
      | undefined | sell => exact kept rfl rfl
      | buy => cases Quote.onOrderAck_step acked <;> exact kept rfl rfl
  | askAck _ acked =>
      cases side with
      | undefined | buy => exact kept rfl rfl
      | sell => cases Quote.onOrderAck_step acked <;> exact kept rfl rfl
  | bidUpdate =>
      cases side with
      | undefined | sell => exact kept rfl rfl
      | buy =>
          show Reacts s.bid (s.bid.onOrderUpdate _ _).1 []
          rw [Quote.onOrderUpdate_quote]
          split <;> exact kept rfl rfl
  | askUpdate =>
      cases side with
      | undefined | buy => exact kept rfl rfl
      | sell =>
          show Reacts s.ask (s.ask.onOrderUpdate _ _).1 []
          rw [Quote.onOrderUpdate_quote]
          split <;> exact kept rfl rfl

end Steps

section Runs

variable {roundAway : Side → Double → Double → Double} {s : Strategy} {side : Side}

/-- The history of a quote, and that a flag stands for a target price that has had no request. -/
private structure Kept (history : List Mark) (side : Side) (quote : Quote) : Prop where
  prompted : Prompted Mark.isRequest (Aims side) history
  side : quote.side = side
  waiting : quote.updateOrder = true → history.getLast? = some (.target quote.targetPrice)

private theorem prompted_react {history more : List Mark} {quote after : Quote}
    (kept : Kept history side quote) (reacts : Reacts quote after more) :
    Prompted Mark.isRequest (Aims side) (history ++ more) := by
  cases reacts with
  | quiet =>
      rw [List.append_nil]
      exact kept.prompted
  | aims => exact prompted_append.mpr ⟨kept.prompted, fun request => Bool.noConfusion request⟩
  | asks flag _ fits =>
      refine prompted_append.mpr ⟨kept.prompted, fun _ => ?_⟩
      rw [← kept.side]
      exact ⟨.target quote.targetPrice, kept.waiting flag, rfl, fits⟩

private theorem kept_react {history more : List Mark} {quote after : Quote}
    (kept : Kept history side quote) (reacts : Reacts quote after more)
    (same : after.side = side) : Kept (history ++ more) side after := by
  refine ⟨prompted_react kept reacts, same, ?_⟩
  intro flag
  cases reacts with
  | quiet still =>
      obtain ⟨set, target⟩ := still flag
      rw [List.append_nil, target]
      exact kept.waiting set
  | aims => rw [List.getLast?_append, List.getLast?_singleton, Option.some_or]
  | asks _ done _ => exact Bool.noConfusion (done.symm.trans flag)

/-- What the timers of the quotes send is marked as a request of one of them. -/
private theorem emitted_marked [Utils] {e : Event} {effect : Effect} {mark : Mark}
    (sent : effect ∈ emitted s e) (marked : requestMark effect = some mark) :
    ∃ side, mark ∈ marks roundAway side s e := by
  cases e with
  | timer now bidConnected askConnected =>
      obtain ⟨_, _, _, _, outcome, reached, handled, mem⟩ := mem_emitted_timer.mp sent
      cases reached with
      | bid trading =>
          refine ⟨.buy, ?_⟩
          rw [marks, if_pos trading]
          refine List.mem_filterMap.mpr ⟨effect, ?_, marked⟩
          simp only [asked, handled]
          exact mem
      | ask trading bidHandled =>
          refine ⟨.sell, ?_⟩
          rw [marks, if_pos trading]
          refine List.mem_filterMap.mpr ⟨effect, ?_, marked⟩
          simp only [asked, bidHandled, handled]
          exact mem
  | ready connected =>
      cases connected with
      | true =>
          cases List.mem_singleton.mp sent
          cases marked
      | false => cases sent
  | disconnected | downloadEnd | referenceData | marketStatus | topOfBook | cancelAllOrdersAck
  | orderAck | orderUpdate => cases sent

private theorem quoteOf_side (sided : s.Sided) (side : Side) : (quoteOf s side).side = side := by
  cases side with
  | undefined => rfl
  | buy => exact sided.bid
  | sell => exact sided.ask

private theorem kept_run [Utils] {es : List Event} {t : Strategy}
    (reached : run (next roundAway) {} es = some t) (side : Side) :
    t.Sided ∧ Kept (trace (next roundAway) (marks roundAway side) {} es) side (quoteOf t side) := by
  refine run_history (I := fun es t => t.Sided ∧
    Kept (trace (next roundAway) (marks roundAway side) {} es) side (quoteOf t side)) ?_ ?_ reached
  · have flag : (quoteOf ({} : Strategy) side).updateOrder = false := by cases side <;> rfl
    refine ⟨Strategy.initial_sided, prompted_nil, quoteOf_side Strategy.initial_sided side, ?_⟩
    exact fun set => Bool.noConfusion (flag.symm.trans set)
  · rintro es e m t reached ⟨sided, kept⟩ taken
    obtain ⟨effects, handled⟩ := next_handled taken
    have sided' := (Strategy.handle_step handled).sided sided
    refine ⟨sided', ?_⟩
    rw [trace_append reached, trace_singleton taken]
    exact kept_react kept (next_reacts taken side) (quoteOf_side sided' side)

end Runs

/-- In every run, whatever is acked, updated, blocked by the limiter or thrown by a send, and in
the event after it, which may end in log::fatal: the requests that the timers send are those of the
quotes; every request of a quote comes right after a new target price of this quote, at which a
CreateOrder is priced; and no target price has two of them, so that a quote sends no more requests
than it has had target prices. -/
theorem requests_are_prompted [Utils] (roundAway : Side → Double → Double → Double)
    (es : List Event) (t : Strategy) (reached : run (next roundAway) {} es = some t) (e : Event) :
    (∀ effect ∈ emitted t e, ∀ mark, requestMark effect = some mark →
      ∃ side, mark ∈ marks roundAway side t e) ∧
    ∀ side,
      let history := trace (next roundAway) (marks roundAway side) {} es ++ marks roundAway side t e
      Prompted Mark.isRequest (Aims side) history ∧
        history.countP Mark.isRequest ≤ history.countP fun mark => !mark.isRequest := by
  refine ⟨fun effect sent mark marked => emitted_marked sent marked, fun side => ?_⟩
  obtain ⟨_, kept⟩ := kept_run reached side
  obtain ⟨after, reacts⟩ := some_reacts t e side
  have prompted := prompted_react kept reacts
  exact ⟨prompted, prompted.count⟩

section Examples

open scoped RoqSamples.Client.Documented

/-- An order is created, and the price moves twice before the next timer. -/
private def movedTwice : List Event :=
  [.referenceData 1, .marketStatus .«open», .ready true, .cancelAllOrdersAck, .topOfBook 99 101,
    .timer 0 true true,
    .orderAck
      { orderId := 1, side := .buy, requestType := .createOrder, requestStatus := .accepted,
        error := .undefined, price := 99 },
    .topOfBook 98 100, .topOfBook 97 99]

/-- The timer sends one cancel, and the next timer sends nothing. -/
theorem requests_are_prompted_once :
    ∃ t, run (next toGrid) {} movedTwice = some t ∧
      (marks toGrid .buy t (.timer 1 true true)).length = 1 ∧
      let history := trace (next toGrid) (marks toGrid .buy) {}
        movedTwice ++ marks toGrid .buy t (.timer 1 true true)
      Prompted Mark.isRequest (Aims .buy) history ∧
        history.countP Mark.isRequest ≤ history.countP fun mark => !mark.isRequest := by
  obtain ⟨t, reached, one⟩ : ∃ t, run (next toGrid) {} movedTwice = some t ∧
      (marks toGrid .buy t (.timer 1 true true)).length = 1 :=
    reaches_of_any (by decide +kernel)
  have prompted := (requests_are_prompted toGrid movedTwice t reached
    (.timer 1 true true)).2 .buy
  exact ⟨t, reached, one, prompted⟩

end Examples

end RoqSamples.Maker.RequestCauses
