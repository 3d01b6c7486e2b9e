/- Maker/SingleLiveOrder
   digest: Each side has at most one live order, as long as no stale cancel ack takes the order of
     the quote away. -/
import RoqSamples.Maker.OrderRecords

set_option autoImplicit false
set_option relaxedAutoImplicit false

namespace RoqSamples.Maker.SingleLiveOrder

open RoqSamples.Arith (Double)
open RoqSamples.Client
open RoqSamples.Execution.Runs
open RoqSamples.Maker.Gateway
open RoqSamples.Maker.OrderRecords

def liveOrders (book : Book) (side : Side) : List Order :=
  book.orders.filter fun order => order.side = side ∧ order.phase.isLive = true

/-- At most one order of each side is sent and not yet filled, canceled or rejected. -/
def SingleLive (s : System) : Prop :=
  (liveOrders s.book .buy).length ≤ 1 ∧ (liveOrders s.book .sell).length ≤ 1

/-- A cancel ack that the quote handles while it waits for the ack of another cancel, and while its
own order is still live. -/
def Abandons [Utils] (book : Book) (quote : Quote) (orderAck : OrderAck) : Prop :=
  quote.side = orderAck.side ∧ orderAck.requestType = .cancelOrder ∧
    (Utils.hasRequestFailed orderAck.requestStatus = true →
      orderAck.error = .tooLateToModifyOrCancel) ∧
    quote.state = .cancel ∧ orderAck.orderId ≠ quote.orderId ∧
    ∃ order ∈ book.orders, order.orderId = quote.orderId ∧ order.phase.isLive = true

instance [Utils] (book : Book) (quote : Quote) (orderAck : OrderAck) :
    Decidable (Abandons book quote orderAck) := by
  unfold Abandons
  infer_instance

/-- No cancel ack abandons the live order of a quote, and the order ids last. -/
def KeepsLive [Utils] (s : System) : Gateway.Event → Prop
  | .orderAck orderAck =>
      ¬ Abandons s.book s.strategy.bid orderAck ∧ ¬ Abandons s.book s.strategy.ask orderAck
  | e => BelowLimit s e

instance [Utils] (s : System) : ∀ e : Gateway.Event, Decidable (KeepsLive s e)
  | .orderAck _ => inferInstanceAs (Decidable (¬ _ ∧ ¬ _))
  | .client e => inferInstanceAs (Decidable (BelowLimit s (.client e)))
  | .respond _ _ | .finish _ _ | .orderUpdate _ => isTrue trivial

/-- The live orders of the side are the order that the quote holds. -/
def LiveHeld (book : Book) (quote : Quote) : Prop :=
  ∀ order ∈ book.orders, order.side = quote.side → order.phase.isLive = true →
    order.orderId = quote.orderId ∧ quote.state ≠ .undefined

/-- A cancel that has not been refused is answered after the end of its order. -/
def Answered [Utils] (book : Book) : Prop :=
  ∀ request ∈ book.requests, request.requestType = .cancelOrder →
    ∀ response, request.response = some response →
      (Utils.hasRequestFailed response.requestStatus = true →
        response.error = .tooLateToModifyOrCancel) →
      ∀ order ∈ book.orders, order.orderId = request.orderId → order.phase.isLive = false

/-- What carries the property: live orders are held, and answered cancels are about orders that
have ended. -/
structure Guarded [Utils] (s : System) : Prop where
  records : Records s
  answered : Answered s.book
  bid : LiveHeld s.book s.strategy.bid
  ask : LiveHeld s.book s.strategy.ask

/-- Every live order of `later` was live before. -/
def NoneRevived (book later : Book) : Prop :=
  ∀ order ∈ later.orders, order.phase.isLive = true →
    ∃ before ∈ book.orders, before.orderId = order.orderId ∧ before.side = order.side ∧
      before.phase.isLive = true

section Orders

variable {book later : Book}

private theorem LiveHeld.mono {quote after : Quote} (held : LiveHeld book quote)
    (none_revived : NoneRevived book later) (same : SameOrder quote after) :
    LiveHeld later after := by
  intro order mem side live
  obtain ⟨before, there, at_id, at_side, was_live⟩ := none_revived order mem live
  obtain ⟨orderId, state⟩ := held before there (by rw [at_side, side, same.side]) was_live
  rw [same.orderId, same.state]
  exact ⟨at_id.symm.trans orderId, state⟩

private theorem Answered.mono [Utils] (answered : Answered book)
    (none_revived : NoneRevived book later)
    (requests : ∀ request ∈ later.requests, request ∈ book.requests) : Answered later := by
  intro request mem type response at_response benign order there same
  by_contra live
  obtain ⟨before, here, at_id, _, was_live⟩ := none_revived order there (by simpa using live)
  have ended := answered request (requests request mem) type response at_response benign before here
    (at_id.trans same)
  exact Bool.noConfusion (ended.symm.trans was_live)

private theorem setPhase_noneRevived (distinct : (book.orders.map (·.orderId)).Nodup)
    {orderId : Nat} {before after : Phase} (at_before : book.phaseOf orderId = some before)
    (kept : after.isLive = true → before.isLive = true) :
    NoneRevived book (book.setPhase orderId after) := by
  intro order mem live
  obtain ⟨found, there, ⟨same, rfl⟩ | ⟨_, rfl⟩⟩ := mem_setPhase.mp mem
  · have at_found := phaseOf_eq distinct there
    rw [same, at_before, Option.some.injEq] at at_found
    exact ⟨found, there, rfl, rfl, by rw [← at_found]; exact kept live⟩
  · exact ⟨order, there, rfl, rfl, live⟩

private theorem noneRevived_refl (orders : later.orders = book.orders) :
    NoneRevived book later := by
  intro order mem live
  exact ⟨order, orders ▸ mem, rfl, rfl, live⟩

/-- An order whose phase is set to one that is not live is over. -/
private theorem setPhase_over {orderId : Nat} {phase : Phase} (ended : phase.isLive = false)
    {order : Order} (mem : order ∈ (book.setPhase orderId phase).orders)
    (same : order.orderId = orderId) : order.phase.isLive = false := by
  obtain ⟨before, _, ⟨_, rfl⟩ | ⟨other, rfl⟩⟩ := mem_setPhase.mp mem
  · exact ended
  · exact (other same).elim

/-- The response that a request gets keeps its answer behind the end of its order. -/
private theorem answered_of_responds [Utils] {request : Request} {response : Response}
    (distinct : (book.orders.map (·.orderId)).Nodup) (answered : Answered book)
    (result : Book.Responds book request response later) :
    NoneRevived book later ∧ Answered later := by
  have answer_mono {middle : Book} (revived : NoneRevived book middle)
      (same : middle.requests = book.requests)
      (ended : request.requestType = .cancelOrder →
        (Utils.hasRequestFailed response.requestStatus = true →
          response.error = .tooLateToModifyOrCancel) →
        ∀ order ∈ middle.orders, order.orderId = request.orderId → order.phase.isLive = false) :
      NoneRevived book (middle.answer request response) ∧
        Answered (middle.answer request response) := by
    refine ⟨revived, ?_⟩
    intro other mem type given at_given benign order there same_id
    rcases List.mem_cons.mp mem with rfl | mem
    · obtain rfl : response = given := by simpa using at_given
      exact ended type benign order there same_id
    · have older : Answered middle := answered.mono revived fun r => by rw [same]; exact id
      exact older other (List.mem_of_mem_erase mem) type given at_given benign order there same_id
  cases result with
  | accepted type sent success =>
      refine answer_mono (setPhase_noneRevived distinct sent fun _ => rfl) rfl fun cancel => ?_
      exact RequestType.noConfusion (type.symm.trans cancel)
  | rejected type sent failure =>
      refine answer_mono (setPhase_noneRevived distinct sent fun _ => rfl) rfl fun cancel => ?_
      exact RequestType.noConfusion (type.symm.trans cancel)
  | canceled type working success =>
      refine answer_mono (setPhase_noneRevived distinct working fun _ => rfl) rfl ?_
      intro _ _ order mem same
      exact setPhase_over rfl mem same
  | refused type working failure other =>
      refine answer_mono (noneRevived_refl rfl) rfl ?_
      intro _ benign
      exact (other (benign failure)).elim
  | tooLate type ended failure late =>
      refine answer_mono (noneRevived_refl rfl) rfl ?_
      intro _ _ order mem same
      obtain ⟨phase, at_phase, not_live⟩ := ended
      have at_order := phaseOf_eq distinct mem
      rw [same, at_phase, Option.some.injEq] at at_order
      rw [← at_order]
      exact not_live

end Orders

private theorem Answered.send [Utils] {book : Book} {orders : List Order} {request : Request}
    (answered : Answered { book with orders := orders }) (pending : request.response = none) :
    Answered { orders := orders, requests := book.requests ++ [request] } := by
  intro other mem type response at_response
  rcases List.mem_append.mp mem with there | here
  · exact answered other there type response at_response
  · obtain rfl : other = request := by simpa using here
    rw [pending] at at_response
    cases at_response

/-- One quote acts on a timer: it keeps its live order, or it had none and sends one. The live
orders of the other side stay what they were. -/
private theorem half_guarded [Utils] {quote after other : Quote} {maxOrderId larger : Nat}
    {book later : Book} (half : Half quote maxOrderId book after larger later)
    (recorded : Recorded maxOrderId book) (answered : Answered book)
    (held : LiveHeld book quote) (other_held : LiveHeld book other)
    (sides : other.side ≠ quote.side) :
    Answered later ∧ LiveHeld later after ∧ LiveHeld later other := by
  cases half with
  | idle same => exact ⟨answered, held.mono (noneRevived_refl rfl) same, other_held⟩
  | create undefined target side orderId state =>
      have none_live : ∀ order ∈ book.orders, order.side = quote.side →
          order.phase.isLive = false := by
        intro order mem at_side
        by_contra live
        exact (held order mem at_side (by simpa using live)).2 undefined
      refine ⟨?_, ?_, ?_⟩
      · refine Answered.send ?_ rfl
        intro request mem type response at_response benign order there same
        rcases List.mem_append.mp there with there | here
        · exact answered request mem type response at_response benign order there same
        · obtain rfl : order = _ := List.mem_singleton.mp here
          have bound := recorded.request_le mem
          have new_id : maxOrderId + 1 = request.orderId := same
          omega
      · intro order mem at_side live
        rcases List.mem_append.mp mem with there | here
        · have ended := none_live order there (at_side.trans side)
          exact Bool.noConfusion (ended.symm.trans live)
        · obtain rfl : order = _ := List.mem_singleton.mp here
          refine ⟨orderId.symm, fun gone => ?_⟩
          exact QuoteState.noConfusion (state.symm.trans gone)
      · intro order mem at_side live
        rcases List.mem_append.mp mem with there | here
        · exact other_held order there at_side live
        · obtain rfl : order = _ := List.mem_singleton.mp here
          exact (sides at_side.symm).elim
  | cancel working _ side orderId state =>
      refine ⟨Answered.send answered rfl, ?_, other_held⟩
      intro order mem at_side live
      refine ⟨?_, fun gone => QuoteState.noConfusion (state.symm.trans gone)⟩
      rw [orderId]
      exact (held order mem (at_side.trans side) live).1

/-- The quote handles a completing ack. It gives up its order only for the ack of its own cancel,
which follows the end of the order. -/
private theorem ack_liveHeld [Utils] {book : Book} {quote after : Quote} {orderAck : OrderAck}
    (handled : quote.onOrderAck orderAck = .ok after) (side : orderAck.side = quote.side)
    (mem : requestOf orderAck ∈ book.requests) (keeps : ¬ Abandons book quote orderAck)
    (answered : Answered book) (held : LiveHeld book quote) : LiveHeld book after := by
  have benign := Quote.onOrderAck_benign handled
  cases Quote.onOrderAck_step handled with
  | pending _ => exact held
  | created _ _ _ | modified _ _ _ =>
      intro order there at_side live
      exact ⟨(held order there at_side live).1, QuoteState.noConfusion⟩
  | canceled _ type state =>
      intro order there at_side live
      exfalso
      obtain ⟨at_id, _⟩ := held order there at_side live
      by_cases own : orderAck.orderId = quote.orderId
      · have ended := answered (requestOf orderAck) mem type _ rfl benign order there
          (at_id.trans own.symm)
        exact Bool.noConfusion (ended.symm.trans live)
      · exact keeps ⟨side.symm, type, benign, state, own, order, there, at_id, live⟩

/-- The quote handles the terminal update of an order that is over. -/
private theorem update_liveHeld [Utils] {book : Book} {quote : Quote} {orderUpdate : OrderUpdate}
    (revived : NoneRevived book (book.setPhase orderUpdate.orderId .closed))
    (held : LiveHeld book quote) :
    LiveHeld (book.setPhase orderUpdate.orderId .closed) (released quote orderUpdate) := by
  unfold released
  split
  · rename_i ends
    intro order mem side live
    exfalso
    obtain ⟨before, there, ⟨_, rfl⟩ | ⟨other, rfl⟩⟩ := mem_setPhase.mp mem
    · exact Bool.noConfusion live
    · exact other ((held order there side live).1.trans ends.2.2)
  · exact held.mono revived ⟨rfl, rfl, rfl⟩

private theorem guarded_step [Utils] {roundAway : Side → Double → Double → Double} {s t : System}
    {e : Gateway.Event} (guarded : Guarded s) (keeps : KeepsLive s e)
    (step : System.Step roundAway s e t) : Guarded t := by
  obtain ⟨records, answered, bid, ask⟩ := guarded
  have below : BelowLimit s e := by
    cases e with
    | client e => exact keeps
    | respond | finish | orderAck | orderUpdate => trivial
  have records_after := records.step below step
  have distinct := records.recorded.distinct
  cases step with
  | @client e strategy effects free step =>
      rcases client_cases free step below.timer records.sided records.recorded records.bid
        records.ask with ⟨quiet, same⟩ | ⟨bid_id, between, bid_half, ask_half⟩
      · refine ⟨records_after, ?_, ?_, ?_⟩
        · rw [same]
          exact answered
        · rw [same]
          exact bid.mono (noneRevived_refl rfl) quiet.bid
        · rw [same]
          exact ask.mono (noneRevived_refl rfl) quiet.ask
      · have sides := records.sided.ask_ne_bid
        obtain ⟨answered_between, bid_between, ask_between⟩ :=
          half_guarded bid_half records.recorded answered bid ask sides
        obtain ⟨recorded_between, _⟩ :=
          bid_half.recorded records.recorded records.bid records.sided.bid_ne
        obtain ⟨answered_after, ask_after, bid_after⟩ :=
          half_guarded ask_half recorded_between answered_between ask_between bid_between
            (by rw [bid_half.side]; exact sides.symm)
        exact ⟨records_after, answered_after, bid_after, ask_after⟩
  | clientFails _ _ => exact ⟨records_after, answered, bid, ask⟩
  | askFails trading bidHandled _ =>
      have half := bid_half (below.timer _ _ _ rfl) records.recorded records.bid trading bidHandled
      obtain ⟨answered_after, bid_after, ask_after⟩ :=
        half_guarded half records.recorded answered bid ask records.sided.ask_ne_bid
      exact ⟨records_after, answered_after, bid_after, ask_after⟩
  | respond responded =>
      obtain ⟨_, _, result⟩ := Book.responds responded
      obtain ⟨revived, answered_after⟩ := answered_of_responds distinct answered result
      exact ⟨records_after, answered_after, bid.mono revived ⟨rfl, rfl, rfl⟩,
        ask.mono revived ⟨rfl, rfl, rfl⟩⟩
  | @finish orderId orderStatus working _ =>
      have revived : NoneRevived s.book (s.book.setPhase orderId (.ended orderStatus)) :=
        setPhase_noneRevived distinct working fun _ => rfl
      exact ⟨records_after, answered.mono revived fun _ => id, bid.mono revived ⟨rfl, rfl, rfl⟩,
        ask.mono revived ⟨rfl, rfl, rfl⟩⟩
  | @ack orderAck _ mem step =>
      have forgets : Answered (s.book.forget (requestOf orderAck)) :=
        answered.mono (noneRevived_refl rfl) fun _ => List.mem_of_mem_erase
      rcases ack_cases step with ⟨side, after, handled, rfl⟩ | ⟨side, after, handled, rfl⟩
      · have held : LiveHeld s.book after :=
          ack_liveHeld handled (side.trans records.sided.bid.symm) mem keeps.1 answered bid
        exact ⟨records_after, forgets, held, ask⟩
      · have held : LiveHeld s.book after :=
          ack_liveHeld handled (side.trans records.sided.ask.symm) mem keeps.2 answered ask
        exact ⟨records_after, forgets, bid, held⟩
  | ackFails _ _ =>
      exact ⟨records_after, answered.mono (noneRevived_refl rfl) fun _ => List.mem_of_mem_erase,
        bid, ask⟩
  | @update orderUpdate _ _ _ _ ended step =>
      have revived : NoneRevived s.book (s.book.setPhase orderUpdate.orderId .closed) :=
        setPhase_noneRevived distinct ended fun live => live
      refine ⟨records_after, answered.mono revived fun _ => id, ?_, ?_⟩
      · rcases (update_cases step).2 with ⟨_, bid_after, _⟩ | ⟨_, _, bid_after⟩
        · rw [bid_after]
          exact update_liveHeld revived bid
        · rw [bid_after]
          exact bid.mono revived ⟨rfl, rfl, rfl⟩
      · rcases (update_cases step).2 with ⟨_, _, ask_after⟩ | ⟨_, ask_after, _⟩
        · rw [ask_after]
          exact ask.mono revived ⟨rfl, rfl, rfl⟩
        · rw [ask_after]
          exact update_liveHeld revived ask
  | @updateFails orderUpdate _ _ ended _ =>
      have revived : NoneRevived s.book (s.book.setPhase orderUpdate.orderId .closed) :=
        setPhase_noneRevived distinct ended fun live => live
      exact ⟨records_after, answered.mono revived fun _ => id, bid.mono revived ⟨rfl, rfl, rfl⟩,
        ask.mono revived ⟨rfl, rfl, rfl⟩⟩

private theorem liveOrders_le_one {book : Book} {quote : Quote}
    (distinct : (book.orders.map (·.orderId)).Nodup) (held : LiveHeld book quote) {side : Side}
    (at_side : quote.side = side) : (liveOrders book side).length ≤ 1 := by
  have one_id : (liveOrders book side).map (·.orderId) =
      List.replicate (liveOrders book side).length quote.orderId := by
    rw [List.eq_replicate_iff]
    refine ⟨List.length_map _, fun orderId mem => ?_⟩
    obtain ⟨order, there, rfl⟩ := List.mem_map.mp mem
    obtain ⟨in_orders, live⟩ := List.mem_filter.mp there
    obtain ⟨same_side, is_live⟩ := of_decide_eq_true live
    exact (held order in_orders (same_side.trans at_side.symm) is_live).1
  have nodup : ((liveOrders book side).map (·.orderId)).Nodup :=
    (List.filter_sublist.map Order.orderId).nodup distinct
  rw [one_id, List.nodup_replicate] at nodup
  exact nodup

private theorem initial_guarded [Utils] : Guarded {} where
  records := initial_records
  answered := by simp [Answered]
  bid := by simp [LiveHeld]
  ask := by simp [LiveHeld]

/-- For every run on one connection, whatever the order of deliveries: while no cancel ack abandons
a live order, each side has at most one live order in every state. -/
theorem one_live_order_per_side [Utils] (roundAway : Side → Double → Double → Double)
    (es : List Gateway.Event) (keeps : AllSteps (System.next roundAway) KeepsLive {} es) :
    AllStates (System.next roundAway) SingleLive {} es := by
  have guarded : AllStates (System.next roundAway) Guarded {} es :=
    keeps.invariant (fun _ _ _ guarded keeps taken =>
      guarded_step guarded keeps (System.next_step taken)) initial_guarded
  refine guarded.mono fun s guarded => ?_
  have distinct := guarded.records.recorded.distinct
  exact ⟨liveOrders_le_one distinct guarded.bid guarded.records.sided.bid,
    liveOrders_le_one distinct guarded.ask guarded.records.sided.ask⟩

section Examples

open scoped RoqSamples.Client.Documented

/-- The market opens and the BUY quote gets its first order, which the exchange accepts. -/
def firstOrder : List Gateway.Event :=
  [.client (.ready true), .client .cancelAllOrdersAck, .client (.referenceData (.num (1 / 2))),
    .client (.marketStatus .«open»), .client (.topOfBook 99 101), .client (.timer 0 true false),
    .respond ⟨.createOrder, 1, .buy, none⟩ ⟨.accepted, .undefined⟩,
    .orderAck ⟨1, .buy, .createOrder, .accepted, .undefined, 99⟩]

/-- The first order is canceled just after it has been filled. Its terminal update is delivered at
once, its cancel ack is left in flight. -/
def lateCancel : List Gateway.Event :=
  [.client (.topOfBook 98 100), .client (.timer 3000000000 true false),
    .finish 1 .completed,
    .respond ⟨.cancelOrder, 1, .buy, none⟩ ⟨.rejected, .tooLateToModifyOrCancel⟩,
    .orderUpdate ⟨1, .buy, .incremental, .completed, 1, 1, 99⟩]

/-- The second order is created, accepted, and then canceled as well. -/
def secondOrder : List Gateway.Event :=
  [.client (.topOfBook 97 99), .client (.timer 6000000000 true false),
    .respond ⟨.createOrder, 2, .buy, none⟩ ⟨.accepted, .undefined⟩,
    .orderAck ⟨2, .buy, .createOrder, .accepted, .undefined, 97⟩,
    .client (.topOfBook 96 98), .client (.timer 9000000000 true false)]

/-- A cancel ack of order `orderId` is delivered, and the next target price is quoted. -/
def ackAndRequote (orderId : Nat) (requestStatus : RequestStatus) (error : Error) :
    List Gateway.Event :=
  [.orderAck ⟨orderId, .buy, .cancelOrder, requestStatus, error, .nan⟩,
    .client (.topOfBook 95 97), .client (.timer 12000000000 true false)]

/-- With the cancel acks in order, the requests replace one order after the other. -/
theorem one_live_order_when_requoted :
    AllStates (System.next toGrid) SingleLive {}
      (firstOrder ++ [.client (.topOfBook 98 100), .client (.timer 3000000000 true false),
        .respond ⟨.cancelOrder, 1, .buy, none⟩ ⟨.accepted, .undefined⟩] ++
        ackAndRequote 1 .accepted .undefined) :=
  one_live_order_per_side _ _ (by decide +kernel)

/-- The late cancel ack of order 1 is taken for that of order 2: the quote forgets order 2, which
is still working, and sends order 3. -/
theorem stale_cancel_ack_doubles_order :
    (∃ t, run (System.next toGrid) {} (firstOrder ++ lateCancel ++ secondOrder ++
        ackAndRequote 1 .rejected .tooLateToModifyOrCancel) = some t ∧
        t.fatal = none ∧ (liveOrders t.book .buy).map (·.orderId) = [2, 3]) ∧
      ¬ AllStates (System.next toGrid) SingleLive {}
        (firstOrder ++ lateCancel ++ secondOrder ++
          ackAndRequote 1 .rejected .tooLateToModifyOrCancel) := by
  have reached : ∃ t, run (System.next toGrid) {}
      (firstOrder ++ lateCancel ++ secondOrder ++
        ackAndRequote 1 .rejected .tooLateToModifyOrCancel) = some t ∧
      t.fatal = none ∧ (liveOrders t.book .buy).map (·.orderId) = [2, 3] :=
    reaches_of_any (by decide +kernel)
  refine ⟨reached, fun states => ?_⟩
  obtain ⟨t, reached, _, live⟩ := reached
  have two : (liveOrders t.book .buy).length = 2 := by
    rw [← List.length_map (·.orderId), live]
    rfl
  have one := (states.last reached).1
  omega

end Examples

end RoqSamples.Maker.SingleLiveOrder
