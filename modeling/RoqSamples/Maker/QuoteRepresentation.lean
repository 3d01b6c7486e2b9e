/- Maker/QuoteRepresentation
   digest: A quote is UNDEFINED exactly while it holds no order id, until a disconnect clears the
     id and leaves the state. -/
import RoqSamples.Execution.Runs
import RoqSamples.Maker.RoundAway
import RoqSamples.Maker.Strategy

set_option autoImplicit false
set_option relaxedAutoImplicit false

namespace RoqSamples.Maker.QuoteRepresentation

open RoqSamples.Arith (Double)
open RoqSamples.Client
open RoqSamples.Execution.Runs

variable (roundAway : Side → Double → Double → Double)

/-- One event of the maker, whose run ends with log::fatal. -/
def next [Utils] (s : Strategy) (e : Event) : Option Strategy :=
  match s.handle roundAway e with
  | .ok (t, _) => some t
  | .error _ => none

/-- The state and the order id agree, and a quote that waits for no response can send a request
as soon as it has to act on a price. -/
structure Represented (quote : Quote) : Prop where
  undefined_iff : quote.state = .undefined ↔ quote.orderId = 0
  responsive : quote.state = .undefined ∨ quote.state = .working →
    ∀ (shared : Shared) (now : Int), shared.isBlocked now = false → quote.Sends shared now true

/-- The timer makes the quote take an order id. -/
def Creates (quote : Quote) (shared : Shared) (now : Int) (connected : Bool) : Prop :=
  quote.updateOrder = true ∧ quote.state = .undefined ∧ quote.Sends shared now connected

instance (quote : Quote) (shared : Shared) (now : Int) (connected : Bool) :
    Decidable (Creates quote shared now connected) :=
  inferInstanceAs (Decidable (_ ∧ _ ∧ _))

/-- A disconnect finds both quotes UNDEFINED, and a timer never takes the order id that follows
the largest one. -/
def DisconnectedIdle (s : Strategy) : Event → Prop
  | .disconnected => s.bid.state = .undefined ∧ s.ask.state = .undefined
  | .timer now bidConnected askConnected =>
      let shared := s.bid.sharedAfterTimer s.shared now bidConnected
      s.canTrade = true →
        (Creates s.bid s.shared now bidConnected → uint64 (s.shared.maxOrderId + 1) ≠ 0) ∧
          (Creates s.ask shared now askConnected → uint64 (shared.maxOrderId + 1) ≠ 0)
  | _ => True

private theorem represented_iff (quote : Quote) :
    Represented quote ↔ (quote.state = .undefined ↔ quote.orderId = 0) := by
  refine ⟨fun represented => represented.undefined_iff, fun same => ⟨same, ?_⟩⟩
  rintro idle shared now free
  refine ⟨?_, free, rfl⟩
  rcases idle with state | state
  · exact .inl state
  · refine .inr ⟨state, fun zero => ?_⟩
    exact QuoteState.noConfusion (state.symm.trans (same.mpr zero))

private theorem onTimer_represented {quote : Quote} {shared : Shared} {now : Int}
    {connected : Bool} {outcome : Quote.Outcome} (represented : Represented quote)
    (handled : quote.onTimer shared now connected = .ok outcome) :
    Represented outcome.1 ↔
      (Creates quote shared now connected → uint64 (shared.maxOrderId + 1) ≠ 0) := by
  have same := represented.undefined_iff
  rw [represented_iff]
  rcases Quote.onTimer_cases handled with ⟨flag, rfl⟩ | ⟨flag, acted, act, rfl⟩
  · exact iff_of_true same fun creates => Bool.noConfusion (flag.symm.trans creates.1)
  · cases act with
    | idle unsent => exact iff_of_true same fun creates => (unsent creates.2.2).elim
    | create state target free sent =>
        have creates : Creates quote shared now connected :=
          ⟨flag, state, .inl state, free, sent⟩
        simp [Quote.created, creates]
    | cancel state order free sent =>
        refine iff_of_true ?_ fun creates =>
          (QuoteState.noConfusion (state.symm.trans creates.2.1))
        simp [Quote.canceled, order]

private theorem onOrderAck_represented [Utils] {quote after : Quote} {orderAck : OrderAck}
    (represented : Represented quote) (handled : quote.onOrderAck orderAck = .ok after) :
    Represented after := by
  have same := represented.undefined_iff
  rw [represented_iff]
  cases Quote.onOrderAck_step handled with
  | pending _ => exact same
  | created _ _ state | modified _ _ state =>
      have held : quote.orderId ≠ 0 := fun zero =>
        QuoteState.noConfusion (state.symm.trans (same.mpr zero))
      simp [held]
  | canceled _ _ _ => simp

private theorem onOrderUpdate_represented [Utils] (quote : Quote) (shared : Shared)
    (orderUpdate : OrderUpdate) (represented : Represented quote) :
    Represented (quote.onOrderUpdate shared orderUpdate).1 := by
  rw [Quote.onOrderUpdate_quote]
  split
  · rw [represented_iff]
    simp
  · exact represented

private theorem updateTargetPrice_represented [Utils] (quote : Quote) (price : Double)
    (represented : Represented quote) : Represented (quote.updateTargetPrice price) := by
  rw [represented_iff]
  simpa using represented.undefined_iff

private theorem clear_represented_iff (quote : Quote) :
    Represented quote.clear ↔ quote.state = .undefined := by
  simp [represented_iff]

/-- Only a disconnect and the overflow of the order ids can break the representation. -/
private theorem step_represented_iff [Utils] {s t : Strategy} {e : Event}
    (represented : Represented s.bid ∧ Represented s.ask) (taken : next roundAway s e = some t) :
    Represented t.bid ∧ Represented t.ask ↔ DisconnectedIdle s e := by
  unfold next at taken
  split at taken
  · rename_i result
    cases taken
    cases Strategy.handle_step result with
    | idle gated =>
        refine iff_of_true represented fun trading => ?_
        exact Bool.noConfusion (gated.symm.trans trading)
    | timer trading bidHandled askHandled =>
        have bid_iff := onTimer_represented represented.1 bidHandled
        have ask_iff := onTimer_represented represented.2 askHandled
        rw [Quote.onTimer_shared bidHandled] at ask_iff
        simp only [DisconnectedIdle, trading, forall_const, bid_iff, ask_iff]
    | disconnected => exact and_congr (clear_represented_iff _) (clear_represented_iff _)
    | downloadEnd | ready | referenceData | marketStatus | unpriced _ =>
        exact iff_of_true represented trivial
    | priced _ _ =>
        exact iff_of_true ⟨updateTargetPrice_represented _ _ represented.1,
          updateTargetPrice_represented _ _ represented.2⟩ trivial
    | cancelAllOrdersAck =>
        refine iff_of_true ?_ trivial
        unfold Strategy.onCancelAllOrdersAck
        split <;> exact represented
    | bidAck _ handled =>
        exact iff_of_true ⟨onOrderAck_represented represented.1 handled, represented.2⟩ trivial
    | askAck _ handled =>
        exact iff_of_true ⟨represented.1, onOrderAck_represented represented.2 handled⟩ trivial
    | bidUpdate _ =>
        exact iff_of_true ⟨onOrderUpdate_represented _ _ _ represented.1, represented.2⟩ trivial
    | askUpdate _ =>
        exact iff_of_true ⟨represented.1, onOrderUpdate_represented _ _ _ represented.2⟩ trivial
  · cases taken

/-- For every sequence of events: both quotes are represented in every state exactly when each
disconnect finds them UNDEFINED and the order ids do not overflow. -/
theorem quotes_represented_iff [Utils] (es : List Event) :
    AllStates (next roundAway) (fun s => Represented s.bid ∧ Represented s.ask) {} es ↔
      AllSteps (next roundAway) DisconnectedIdle {} es := by
  have start (side : Side) : Represented { side := side } := by
    rw [represented_iff]
    simp
  exact allStates_iff_allSteps (I := fun _ => True) (fun _ _ _ _ _ => trivial)
    (fun _ _ _ _ represented taken => step_represented_iff roundAway represented taken)
    trivial ⟨start .buy, start .sell⟩

section Examples

open scoped RoqSamples.Client.Documented

/-- The BUY order works when the connection is lost; then trading starts again. -/
def lostWhileWorking : List Event :=
  [.ready true, .cancelAllOrdersAck, .referenceData (.num (1 / 2)), .marketStatus .«open»,
    .topOfBook 99 101, .timer 0 true true,
    .orderAck ⟨1, .buy, .createOrder, .accepted, .undefined, 99⟩,
    .disconnected, .downloadEnd 2, .ready true, .cancelAllOrdersAck, .topOfBook 98 102]

/-- After the reconnect the BUY quote is WORKING without an order, and no timer sends a request
for it. -/
theorem disconnect_leaves_quote_stuck :
    (∃ t, run (next toGrid) {} lostWhileWorking = some t ∧
        t.canTrade = true ∧ t.bid.updateOrder = true ∧ t.bid.state = .working ∧
        t.bid.orderId = 0 ∧ ∀ now connected, ¬ t.bid.Sends t.shared now connected) ∧
      ¬ AllStates (next toGrid)
        (fun s => Represented s.bid ∧ Represented s.ask) {} lostWhileWorking := by
  have reached : ∃ t, run (next toGrid) {} lostWhileWorking = some t ∧
      t.canTrade = true ∧ t.bid.updateOrder = true ∧ t.bid.state = .working ∧
      t.bid.orderId = 0 := reaches_of_any (by decide +kernel)
  obtain ⟨t, reached, trading, flag, state, order⟩ := reached
  refine ⟨⟨t, reached, trading, flag, state, order, ?_⟩, ?_⟩
  · rintro now connected ⟨idle, _⟩
    rcases idle with undefined | working
    · exact QuoteState.noConfusion (state.symm.trans undefined)
    · exact working.2 order
  · intro states
    have same := (states.last reached).1.undefined_iff
    exact QuoteState.noConfusion (state.symm.trans (same.mpr order))

end Examples

end RoqSamples.Maker.QuoteRepresentation
