/- Maker/OrderRecords
   digest: What holds between the quotes, the orders and the requests in every run: order ids are
     fresh, and requests and quotes refer to orders of their side. -/
import RoqSamples.Maker.Gateway
import RoqSamples.Maker.QuoteRepresentation

set_option autoImplicit false
set_option relaxedAutoImplicit false

namespace RoqSamples.Maker.OrderRecords

open RoqSamples.Arith (Double)
open RoqSamples.Client
open RoqSamples.Execution.Runs
open RoqSamples.Maker.Gateway
open RoqSamples.Maker.QuoteRepresentation (Creates)

/-- The timer makes one of the quotes take an order id. -/
def TakesId (s : Strategy) (now : Int) (bidConnected askConnected : Bool) : Prop :=
  s.canTrade = true ∧
    (Creates s.bid s.shared now bidConnected ∨
      Creates s.ask (s.bid.sharedAfterTimer s.shared now bidConnected) now askConnected)

/-- No timer that takes order ids can use them up. -/
def BelowLimit (s : System) : Gateway.Event → Prop
  | .client (.timer now bidConnected askConnected) =>
      TakesId s.strategy now bidConnected askConnected →
        s.strategy.shared.maxOrderId + 2 < 2 ^ 64
  | _ => True

instance (s : System) : ∀ e : Gateway.Event, Decidable (BelowLimit s e)
  | .client (.timer _ _ _) => inferInstanceAs (Decidable (_ ∧ (_ ∨ _) → _ < _))
  | .client .disconnected | .client (.downloadEnd _) | .client (.ready _)
  | .client (.referenceData _) | .client (.marketStatus _) | .client (.topOfBook _ _)
  | .client .cancelAllOrdersAck | .client (.orderAck _) | .client (.orderUpdate _)
  | .respond _ _ | .finish _ _ | .orderAck _ | .orderUpdate _ => isTrue trivial

/-- The book refers to an order by its id and side. -/
def Lists (book : Book) (orderId : Nat) (side : Side) : Prop :=
  ∃ order ∈ book.orders, order.orderId = orderId ∧ order.side = side

/-- The orders have a side and different ids, none above the largest, and every request is about
one. -/
structure Recorded (maxOrderId : Nat) (book : Book) : Prop where
  distinct : (book.orders.map (·.orderId)).Nodup
  sided : ∀ order ∈ book.orders, order.side ≠ .undefined
  numbered : ∀ order ∈ book.orders, order.orderId ≠ 0 ∧ order.orderId ≤ maxOrderId
  requested : ∀ request ∈ book.requests, Lists book request.orderId request.side ∧
    (request.requestType = .createOrder ∨ request.requestType = .cancelOrder)

/-- The order id of the quote is that of an order of its side. -/
def Holds (book : Book) (quote : Quote) : Prop :=
  quote.orderId ≠ 0 → Lists book quote.orderId quote.side

/-- The records of a system. -/
structure Records (s : System) : Prop where
  sided : s.strategy.Sided
  recorded : Recorded s.strategy.shared.maxOrderId s.book
  bid : Holds s.book s.strategy.bid
  ask : Holds s.book s.strategy.ask

section Lookup

variable {book : Book}

theorem find_eq (distinct : (book.orders.map (·.orderId)).Nodup) {order : Order}
    (mem : order ∈ book.orders) : book.find order.orderId = some order := by
  obtain ⟨found, at_id⟩ : ∃ found, book.find order.orderId = some found := by
    rw [← Option.isSome_iff_exists, Book.find, List.find?_isSome]
    exact ⟨order, mem, by simp⟩
  have there := List.mem_of_find?_eq_some at_id
  have same : found.orderId = order.orderId := by
    simpa using List.find?_some at_id
  rw [at_id, List.inj_on_of_nodup_map distinct there mem same]

theorem sideOf_eq (distinct : (book.orders.map (·.orderId)).Nodup) {orderId : Nat} {side : Side}
    (lists : Lists book orderId side) : book.sideOf orderId = side := by
  obtain ⟨order, mem, rfl, rfl⟩ := lists
  simp [Book.sideOf, find_eq distinct mem]

theorem phaseOf_eq (distinct : (book.orders.map (·.orderId)).Nodup) {order : Order}
    (mem : order ∈ book.orders) : book.phaseOf order.orderId = some order.phase := by
  simp [Book.phaseOf, find_eq distinct mem]

theorem mem_of_phaseOf {orderId : Nat} {phase : Phase} (found : book.phaseOf orderId = some phase) :
    ∃ order ∈ book.orders, order.orderId = orderId ∧ order.phase = phase := by
  obtain ⟨order, at_id, same⟩ := Option.map_eq_some_iff.mp found
  refine ⟨order, List.mem_of_find?_eq_some at_id, ?_, same⟩
  simpa using List.find?_some at_id

end Lookup

section Changes

variable {maxOrderId : Nat} {book : Book}

theorem mem_setPhase {orderId : Nat} {phase : Phase} {order : Order} :
    order ∈ (book.setPhase orderId phase).orders ↔
      ∃ before ∈ book.orders, before.orderId = orderId ∧ order = { before with phase := phase } ∨
        before.orderId ≠ orderId ∧ order = before := by
  simp only [Book.setPhase, List.mem_map]
  constructor
  · rintro ⟨before, mem, rfl⟩
    by_cases same : before.orderId = orderId
    · exact ⟨before, mem, .inl ⟨same, if_pos same⟩⟩
    · exact ⟨before, mem, .inr ⟨same, if_neg same⟩⟩
  · rintro ⟨before, mem, ⟨same, rfl⟩ | ⟨other, rfl⟩⟩
    · exact ⟨before, mem, if_pos same⟩
    · exact ⟨order, mem, if_neg other⟩

private theorem setPhase_ids (orderId : Nat) (phase : Phase) :
    (book.setPhase orderId phase).orders.map (·.orderId) = book.orders.map (·.orderId) := by
  simp only [Book.setPhase, List.map_map]
  refine List.map_congr_left fun order _ => ?_
  simp only [Function.comp]
  split <;> rfl

theorem lists_setPhase (orderId : Nat) (phase : Phase) {id : Nat} {side : Side} :
    Lists (book.setPhase orderId phase) id side ↔ Lists book id side := by
  constructor
  · rintro ⟨order, mem, rfl, rfl⟩
    obtain ⟨before, there, ⟨_, rfl⟩ | ⟨_, rfl⟩⟩ := mem_setPhase.mp mem
    · exact ⟨before, there, rfl, rfl⟩
    · exact ⟨order, there, rfl, rfl⟩
  · rintro ⟨before, mem, rfl, rfl⟩
    by_cases same : before.orderId = orderId
    · exact ⟨_, mem_setPhase.mpr ⟨before, mem, .inl ⟨same, rfl⟩⟩, rfl, rfl⟩
    · exact ⟨before, mem_setPhase.mpr ⟨before, mem, .inr ⟨same, rfl⟩⟩, rfl, rfl⟩

theorem lists_place {order : Order} {id : Nat} {side : Side} (lists : Lists book id side) :
    Lists (book.place order) id side := by
  obtain ⟨listed, mem, same⟩ := lists
  exact ⟨listed, List.mem_append_left _ mem, same⟩

/-- Requests in flight are about orders with known ids. -/
theorem Recorded.request_le (recorded : Recorded maxOrderId book) {request : Request}
    (mem : request ∈ book.requests) : request.orderId ≤ maxOrderId := by
  obtain ⟨order, there, same, _⟩ := (recorded.requested request mem).1
  rw [← same]
  exact (recorded.numbered order there).2

theorem Recorded.setPhase (recorded : Recorded maxOrderId book) (orderId : Nat) (phase : Phase) :
    Recorded maxOrderId (book.setPhase orderId phase) := by
  refine ⟨by rw [setPhase_ids]; exact recorded.distinct, ?_, ?_, ?_⟩
  · intro order mem
    obtain ⟨before, there, ⟨_, rfl⟩ | ⟨_, rfl⟩⟩ := mem_setPhase.mp mem
    · exact recorded.sided before there
    · exact recorded.sided order there
  · intro order mem
    obtain ⟨before, there, ⟨_, rfl⟩ | ⟨_, rfl⟩⟩ := mem_setPhase.mp mem
    · exact recorded.numbered before there
    · exact recorded.numbered order there
  · intro request mem
    rw [lists_setPhase]
    exact recorded.requested request mem

theorem Recorded.answer (recorded : Recorded maxOrderId book) {request : Request}
    (mem : request ∈ book.requests) (response : Response) :
    Recorded maxOrderId (book.answer request response) := by
  refine ⟨recorded.distinct, recorded.sided, recorded.numbered, ?_⟩
  intro other there
  rcases List.mem_cons.mp there with rfl | there
  · exact recorded.requested request mem
  · exact recorded.requested other (List.mem_of_mem_erase there)

theorem Recorded.forget (recorded : Recorded maxOrderId book) (request : Request) :
    Recorded maxOrderId (book.forget request) :=
  ⟨recorded.distinct, recorded.sided, recorded.numbered,
    fun other there => recorded.requested other (List.mem_of_mem_erase there)⟩

theorem Recorded.place (recorded : Recorded maxOrderId book) {order : Order}
    (fresh : order.orderId = maxOrderId + 1) (side : order.side ≠ .undefined) :
    Recorded (maxOrderId + 1) (book.place order) := by
  refine ⟨?_, ?_, ?_, ?_⟩
  · rw [Book.place, List.map_append, List.nodup_append]
    refine ⟨recorded.distinct, by simp, ?_⟩
    intro id mem new here
    obtain ⟨listed, there, rfl⟩ := List.mem_map.mp mem
    have bound := (recorded.numbered listed there).2
    have at_new : new = order.orderId := by simpa using here
    omega
  · intro listed mem
    rcases List.mem_append.mp mem with there | here
    · exact recorded.sided listed there
    · obtain rfl : listed = order := by simpa using here
      exact side
  · intro listed mem
    rcases List.mem_append.mp mem with there | here
    · have bound := recorded.numbered listed there
      exact ⟨bound.1, by omega⟩
    · obtain rfl : listed = order := by simpa using here
      omega
  · intro request mem
    rcases List.mem_append.mp mem with there | here
    · obtain ⟨lists, type⟩ := recorded.requested request there
      exact ⟨lists_place lists, type⟩
    · obtain rfl : request = ⟨.createOrder, order.orderId, order.side, none⟩ := by simpa using here
      refine ⟨⟨order, ?_, rfl, rfl⟩, .inl rfl⟩
      exact List.mem_append_right _ (List.mem_singleton_self order)

theorem Recorded.requestCancel (recorded : Recorded maxOrderId book) {orderId : Nat} {side : Side}
    (lists : Lists book orderId side) : Recorded maxOrderId (book.requestCancel orderId side) := by
  refine ⟨recorded.distinct, recorded.sided, recorded.numbered, ?_⟩
  intro request mem
  rcases List.mem_append.mp mem with there | here
  · exact recorded.requested request there
  · obtain rfl : request = ⟨.cancelOrder, orderId, side, none⟩ := by simpa using here
    exact ⟨lists, .inr rfl⟩

theorem Recorded.mono (recorded : Recorded maxOrderId book) {larger : Nat}
    (le : maxOrderId ≤ larger) : Recorded larger book :=
  ⟨recorded.distinct, recorded.sided,
    fun order mem => ⟨(recorded.numbered order mem).1, (recorded.numbered order mem).2.trans le⟩,
    recorded.requested⟩

end Changes

/-- The quote still holds the same order in the same state. -/
structure SameOrder (before after : Quote) : Prop where
  side : after.side = before.side
  orderId : after.orderId = before.orderId
  state : after.state = before.state

/-- What a timer does to one quote and to the book. -/
inductive Half (quote : Quote) (maxOrderId : Nat) (book : Book) : Quote → Nat → Book → Prop
  | idle {after : Quote} (same : SameOrder quote after) :
      Half quote maxOrderId book after maxOrderId book
  | create {after : Quote} (undefined : quote.state = .undefined)
      (target : quote.targetPrice ≠ .nan) (side : after.side = quote.side)
      (orderId : after.orderId = maxOrderId + 1) (state : after.state = .create) :
      Half quote maxOrderId book after (maxOrderId + 1)
        (book.place ⟨maxOrderId + 1, quote.side, quote.targetPrice, .sent⟩)
  | cancel {after : Quote} (working : quote.state = .working) (order : quote.orderId ≠ 0)
      (side : after.side = quote.side) (orderId : after.orderId = quote.orderId)
      (state : after.state = .cancel) :
      Half quote maxOrderId book after maxOrderId (book.requestCancel quote.orderId quote.side)

theorem onTimer_half {quote : Quote} {shared : Shared} {now : Int} {connected : Bool}
    {outcome : Quote.Outcome} {book : Book}
    (handled : quote.onTimer shared now connected = .ok outcome)
    (below : Creates quote shared now connected → shared.maxOrderId + 1 < 2 ^ 64)
    (distinct : (book.orders.map (·.orderId)).Nodup) (holds : Holds book quote) :
    Half quote shared.maxOrderId book outcome.1 outcome.2.1.maxOrderId
      (outcome.2.2.foldl Book.send book) := by
  rcases Quote.onTimer_cases handled with ⟨_, rfl⟩ | ⟨flag, acted, act, rfl⟩
  · exact .idle ⟨rfl, rfl, rfl⟩
  · cases act with
    | idle _ => exact .idle ⟨rfl, rfl, rfl⟩
    | create state target free sent =>
        have next_id := uint64_succ_of_lt (below ⟨flag, state, .inl state, free, sent⟩)
        simp only [Quote.created, next_id, List.foldl, Book.send, Quote.createOrderRequest,
          Shared.record]
        exact .create state target rfl rfl rfl
    | cancel state order _ _ =>
        simp only [Quote.canceled, List.foldl, Book.send, sideOf_eq distinct (holds order),
          Shared.record]
        exact .cancel state order rfl rfl rfl

theorem Half.side {quote after : Quote} {maxOrderId larger : Nat} {book later : Book}
    (half : Half quote maxOrderId book after larger later) : after.side = quote.side := by
  cases half with
  | idle same => exact same.side
  | create _ _ side _ _ => exact side
  | cancel _ _ side _ _ => exact side

theorem Half.lists {quote after : Quote} {maxOrderId larger : Nat} {book later : Book}
    (half : Half quote maxOrderId book after larger later) {id : Nat} {side : Side}
    (lists : Lists book id side) : Lists later id side := by
  cases half with
  | idle _ | cancel _ _ _ _ _ => exact lists
  | create _ _ _ _ _ => exact lists_place lists

theorem Half.recorded {quote after : Quote} {maxOrderId larger : Nat} {book later : Book}
    (half : Half quote maxOrderId book after larger later) (recorded : Recorded maxOrderId book)
    (holds : Holds book quote) (sided : quote.side ≠ .undefined) :
    Recorded larger later ∧ Holds later after := by
  cases half with
  | idle same =>
      refine ⟨recorded, fun held => ?_⟩
      rw [same.orderId, same.side]
      exact holds (by rwa [same.orderId] at held)
  | create _ _ side orderId _ =>
      have placed := List.mem_append_right book.orders (List.mem_singleton_self
        (⟨maxOrderId + 1, quote.side, quote.targetPrice, .sent⟩ : Order))
      exact ⟨recorded.place rfl sided, fun _ => ⟨_, placed, orderId.symm, side.symm⟩⟩
  | cancel _ order side orderId _ =>
      refine ⟨recorded.requestCancel (holds order), fun _ => ?_⟩
      rw [orderId, side]
      exact holds order

theorem SameOrder.holds {before after : Quote} {book later : Book} (same : SameOrder before after)
    (lists : ∀ {id : Nat} {side : Side}, Lists book id side → Lists later id side)
    (holds : Holds book before) : Holds later after := by
  intro held
  rw [same.orderId] at held ⊢
  rw [same.side]
  exact lists (holds held)

theorem BelowLimit.timer {s : System} {e : Maker.Event} (below : BelowLimit s (.client e)) :
    ∀ now bidConnected askConnected, e = .timer now bidConnected askConnected →
      TakesId s.strategy now bidConnected askConnected →
        s.strategy.shared.maxOrderId + 2 < 2 ^ 64 := by
  rintro now bidConnected askConnected rfl
  exact below

/-- What a timer does to the BUY quote. -/
theorem bid_half {s : Strategy} {now : Int} {bidConnected askConnected : Bool}
    {outcome : Quote.Outcome} {book : Book}
    (below : TakesId s now bidConnected askConnected → s.shared.maxOrderId + 2 < 2 ^ 64)
    (recorded : Recorded s.shared.maxOrderId book) (bid : Holds book s.bid)
    (trading : s.canTrade = true)
    (bidHandled : s.bid.onTimer s.shared now bidConnected = .ok outcome) :
    Half s.bid s.shared.maxOrderId book outcome.1 outcome.2.1.maxOrderId
      (outcome.2.2.foldl Book.send book) := by
  refine onTimer_half bidHandled (fun creates => ?_) recorded.distinct bid
  have enough := below ⟨trading, .inl creates⟩
  omega

/-- An event that concerns no order. -/
structure Quiet (s t : Strategy) : Prop where
  bid : SameOrder s.bid t.bid
  ask : SameOrder s.ask t.ask
  le : s.shared.maxOrderId ≤ t.shared.maxOrderId

section Client

variable {roundAway : Side → Double → Double → Double}

variable [Utils]

private theorem updateTargetPrice_same (quote : Quote) (price : Double) :
    SameOrder quote (quote.updateTargetPrice price) :=
  ⟨by simp, by simp, by simp⟩

theorem pending_same {quote after : Quote} {orderAck : OrderAck}
    (pending : Utils.hasRequestCompleted orderAck.requestStatus = false)
    (handled : quote.onOrderAck orderAck = .ok after) : after = quote := by
  cases Quote.onOrderAck_step handled with
  | pending _ => rfl
  | created completed _ _ | modified completed _ _ | canceled completed _ _ =>
      exact Bool.noConfusion (pending.symm.trans completed)

private theorem unended_same {quote : Quote} {shared : Shared} {orderUpdate : OrderUpdate}
    (free : orderUpdate.updateType = .incremental →
      Utils.isOrderComplete orderUpdate.orderStatus = false) :
    (quote.onOrderUpdate shared orderUpdate).1 = quote := by
  rw [Quote.onOrderUpdate_quote, if_neg]
  rintro ⟨incremental, complete, _⟩
  exact Bool.noConfusion ((free incremental).symm.trans complete)

/-- A free event is quiet, or it is a timer that acts on the BUY quote and then on the SELL
quote. -/
theorem client_cases {s t : Strategy} {e : Maker.Event} {effects : List Effect} {book : Book}
    (free : isFree e = true) (step : Strategy.Step roundAway s e t effects)
    (below : ∀ now bidConnected askConnected, e = .timer now bidConnected askConnected →
      TakesId s now bidConnected askConnected → s.shared.maxOrderId + 2 < 2 ^ 64)
    (sided : s.Sided) (recorded : Recorded s.shared.maxOrderId book) (bid : Holds book s.bid)
    (ask : Holds book s.ask) :
    (Quiet s t ∧ effects.foldl Book.send book = book) ∨
      ∃ bid_id between, Half s.bid s.shared.maxOrderId book t.bid bid_id between ∧
        Half s.ask bid_id between t.ask t.shared.maxOrderId (effects.foldl Book.send book) := by
  have unchanged (quote : Quote) : SameOrder quote quote := ⟨rfl, rfl, rfl⟩
  cases step with
  | idle _ => exact .inl ⟨⟨unchanged _, unchanged _, le_rfl⟩, rfl⟩
  | @timer now bidConnected askConnected _ _ trading bidHandled askHandled =>
      right
      have limit := below _ _ _ rfl
      have half := bid_half limit recorded bid trading bidHandled
      have bid_records := (half.recorded recorded bid sided.bid_ne).1
      have ask_holds : Holds _ s.ask := fun held => half.lists (ask held)
      refine ⟨_, _, half, ?_⟩
      rw [List.foldl_append]
      refine onTimer_half askHandled (fun creates => ?_) bid_records.distinct ask_holds
      rw [Quote.onTimer_shared bidHandled] at creates ⊢
      have enough := limit ⟨trading, .inr creates⟩
      unfold Quote.sharedAfterTimer
      split
      · split
        · have next_id : uint64 (s.shared.maxOrderId + 1) = s.shared.maxOrderId + 1 :=
            uint64_succ_of_lt (by omega)
          simp only [Shared.record, next_id]
          omega
        · simp only [Shared.record]
          omega
      · omega
  | disconnected => exact Bool.noConfusion free
  | downloadEnd => exact .inl ⟨⟨unchanged _, unchanged _, Nat.le_max_left _ _⟩, rfl⟩
  | @ready connected =>
      refine .inl ⟨⟨unchanged _, unchanged _, le_rfl⟩, ?_⟩
      cases connected <;> rfl
  | referenceData | marketStatus | unpriced _ =>
      exact .inl ⟨⟨unchanged _, unchanged _, le_rfl⟩, rfl⟩
  | priced _ _ =>
      exact .inl ⟨⟨updateTargetPrice_same _ _, updateTargetPrice_same _ _, le_rfl⟩, rfl⟩
  | cancelAllOrdersAck =>
      refine .inl ⟨?_, rfl⟩
      unfold Strategy.onCancelAllOrdersAck
      split <;> exact ⟨unchanged _, unchanged _, le_rfl⟩
  | bidAck _ handled =>
      obtain ⟨_, pending⟩ := of_decide_eq_true free
      rw [pending_same pending handled]
      exact .inl ⟨⟨unchanged _, unchanged _, le_rfl⟩, rfl⟩
  | askAck _ handled =>
      obtain ⟨_, pending⟩ := of_decide_eq_true free
      rw [pending_same pending handled]
      exact .inl ⟨⟨unchanged _, unchanged _, le_rfl⟩, rfl⟩
  | bidUpdate _ =>
      obtain ⟨_, unended⟩ := of_decide_eq_true free
      refine .inl ⟨⟨?_, unchanged _, ?_⟩, rfl⟩
      · rw [unended_same unended]
        exact unchanged _
      · exact (Quote.onOrderUpdate_maxOrderId _ _ _).ge
  | askUpdate _ =>
      obtain ⟨_, unended⟩ := of_decide_eq_true free
      refine .inl ⟨⟨unchanged _, ?_, ?_⟩, rfl⟩
      · rw [unended_same unended]
        exact unchanged _
      · exact (Quote.onOrderUpdate_maxOrderId _ _ _).ge

/-- A completing ack is handled by the quote of its side. -/
theorem ack_cases {s t : Strategy} {orderAck : OrderAck} {effects : List Effect}
    (step : Strategy.Step roundAway s (.orderAck orderAck) t effects) :
    (orderAck.side = .buy ∧ ∃ bid, s.bid.onOrderAck orderAck = .ok bid ∧
        t = { s with bid := bid }) ∨
      orderAck.side = .sell ∧ ∃ ask, s.ask.onOrderAck orderAck = .ok ask ∧
        t = { s with ask := ask } := by
  cases step with
  | bidAck side handled => exact .inl ⟨side, _, handled, rfl⟩
  | askAck side handled => exact .inr ⟨side, _, handled, rfl⟩

/-- The order of the quote after an update: none, if the update ends it. -/
def released (quote : Quote) (orderUpdate : OrderUpdate) : Quote :=
  if quote.Ends orderUpdate then { quote with orderId := 0, state := .undefined } else quote

/-- An update is handled by the quote of its side. -/
theorem update_cases {s t : Strategy} {orderUpdate : OrderUpdate} {effects : List Effect}
    (step : Strategy.Step roundAway s (.orderUpdate orderUpdate) t effects) :
    t.shared.maxOrderId = s.shared.maxOrderId ∧
      (orderUpdate.side = .buy ∧ t.bid = released s.bid orderUpdate ∧ t.ask = s.ask ∨
        orderUpdate.side = .sell ∧ t.ask = released s.ask orderUpdate ∧ t.bid = s.bid) := by
  cases step with
  | bidUpdate side =>
      exact ⟨Quote.onOrderUpdate_maxOrderId _ _ _,
        .inl ⟨side, Quote.onOrderUpdate_quote _ _ _, rfl⟩⟩
  | askUpdate side =>
      exact ⟨Quote.onOrderUpdate_maxOrderId _ _ _,
        .inr ⟨side, Quote.onOrderUpdate_quote _ _ _, rfl⟩⟩

end Client

private theorem Holds.weaken {book : Book} {quote after : Quote} (holds : Holds book quote)
    (side : after.side = quote.side)
    (orderId : after.orderId = quote.orderId ∨ after.orderId = 0) : Holds book after := by
  intro held
  rcases orderId with same | gone
  · rw [same, side]
    exact holds (by rwa [same] at held)
  · exact (held gone).elim

private theorem ack_weakens [Utils] {quote after : Quote} {orderAck : OrderAck}
    (handled : quote.onOrderAck orderAck = .ok after) :
    after.side = quote.side ∧ (after.orderId = quote.orderId ∨ after.orderId = 0) := by
  cases Quote.onOrderAck_step handled with
  | pending _ | created _ _ _ | modified _ _ _ => exact ⟨rfl, .inl rfl⟩
  | canceled _ _ _ => exact ⟨rfl, .inr rfl⟩

private theorem released_weakens [Utils] (quote : Quote) (orderUpdate : OrderUpdate) :
    (released quote orderUpdate).side = quote.side ∧
      ((released quote orderUpdate).orderId = quote.orderId ∨
        (released quote orderUpdate).orderId = 0) := by
  unfold released
  split
  · exact ⟨rfl, .inr rfl⟩
  · exact ⟨rfl, .inl rfl⟩

theorem initial_records : Records {} where
  sided := Strategy.initial_sided
  recorded := ⟨List.nodup_nil, by simp, by simp, by simp⟩
  bid := fun held => (held rfl).elim
  ask := fun held => (held rfl).elim

/-- The records survive every step, as long as the order ids last. -/
theorem Records.step [Utils] {roundAway : Side → Double → Double → Double} {s t : System}
    {e : Gateway.Event} (records : Records s) (below : BelowLimit s e)
    (step : System.Step roundAway s e t) : Records t := by
  obtain ⟨sided, recorded, bid, ask⟩ := records
  cases step with
  | @client e strategy effects free step =>
      have sided_after := step.sided sided
      rcases client_cases free step below.timer sided recorded bid ask with
        ⟨quiet, same⟩ | ⟨bid_id, between, bid_half, ask_half⟩
      · refine ⟨sided_after, ?_, ?_, ?_⟩
        · rw [same]
          exact recorded.mono quiet.le
        · rw [same]
          exact quiet.bid.holds id bid
        · rw [same]
          exact quiet.ask.holds id ask
      · obtain ⟨bid_recorded, bid_holds⟩ := bid_half.recorded recorded bid sided.bid_ne
        obtain ⟨ask_recorded, ask_holds⟩ :=
          ask_half.recorded bid_recorded (fun held => bid_half.lists (ask held)) sided.ask_ne
        exact ⟨sided_after, ask_recorded, fun held => ask_half.lists (bid_holds held), ask_holds⟩
  | clientFails _ _ => exact ⟨sided, recorded, bid, ask⟩
  | askFails trading bidHandled _ =>
      have half := bid_half (below.timer _ _ _ rfl) recorded bid trading bidHandled
      obtain ⟨bid_recorded, bid_holds⟩ := half.recorded recorded bid sided.bid_ne
      exact ⟨⟨half.side.trans sided.bid, sided.ask⟩, bid_recorded, bid_holds,
        fun held => half.lists (ask held)⟩
  | respond responded =>
      obtain ⟨mem, _, result⟩ := Book.responds responded
      cases result with
      | accepted _ _ _ | rejected _ _ _ | canceled _ _ _ =>
          exact ⟨sided, (recorded.setPhase _ _).answer mem _,
            fun held => (lists_setPhase _ _).mpr (bid held),
            fun held => (lists_setPhase _ _).mpr (ask held)⟩
      | refused _ _ _ _ | tooLate _ _ _ _ =>
          exact ⟨sided, recorded.answer mem _, bid, ask⟩
  | finish _ _ =>
      exact ⟨sided, recorded.setPhase _ _, fun held => (lists_setPhase _ _).mpr (bid held),
        fun held => (lists_setPhase _ _).mpr (ask held)⟩
  | ack _ step =>
      have sided_after := step.sided sided
      rcases ack_cases step with ⟨_, after, acked, rfl⟩ | ⟨_, after, acked, rfl⟩
      · obtain ⟨side, orderId⟩ := ack_weakens acked
        exact ⟨sided_after, recorded.forget _, bid.weaken side orderId, ask⟩
      · obtain ⟨side, orderId⟩ := ack_weakens acked
        exact ⟨sided_after, recorded.forget _, bid, ask.weaken side orderId⟩
  | ackFails _ _ => exact ⟨sided, recorded.forget _, bid, ask⟩
  | update _ _ _ _ step =>
      have sided_after := step.sided sided
      obtain ⟨same_max, ⟨_, bid_after, ask_after⟩ | ⟨_, ask_after, bid_after⟩⟩ := update_cases step
      · refine ⟨sided_after, by rw [same_max]; exact recorded.setPhase _ _, ?_, ?_⟩
        · have weaker := released_weakens s.strategy.bid ‹OrderUpdate›
          rw [← bid_after] at weaker
          exact fun held => (lists_setPhase _ _).mpr (bid.weaken weaker.1 weaker.2 held)
        · rw [ask_after]
          exact fun held => (lists_setPhase _ _).mpr (ask held)
      · refine ⟨sided_after, by rw [same_max]; exact recorded.setPhase _ _, ?_, ?_⟩
        · rw [bid_after]
          exact fun held => (lists_setPhase _ _).mpr (bid held)
        · have weaker := released_weakens s.strategy.ask ‹OrderUpdate›
          rw [← ask_after] at weaker
          exact fun held => (lists_setPhase _ _).mpr (ask.weaken weaker.1 weaker.2 held)
  | updateFails _ _ _ =>
      exact ⟨sided, recorded.setPhase _ _, fun held => (lists_setPhase _ _).mpr (bid held),
        fun held => (lists_setPhase _ _).mpr (ask held)⟩

end RoqSamples.Maker.OrderRecords
