/- Maker/AckMatching
   digest: The quotes follow the acks of their requests exactly as long as no ack is delivered after
     the terminal update of its order. -/
import RoqSamples.Maker.OrderRecords

set_option autoImplicit false
set_option relaxedAutoImplicit false

namespace RoqSamples.Maker.AckMatching

open RoqSamples.Arith (Double)
open RoqSamples.Client
open RoqSamples.Execution.Runs
open RoqSamples.Maker.Gateway
open RoqSamples.Maker.OrderRecords

/-- The ack that an event delivers, completing or not. -/
def ackOf : Gateway.Event → Option OrderAck
  | .orderAck orderAck | .client (.orderAck orderAck) => some orderAck
  | _ => none

/-- The order that a quote holds and what it waits for. -/
def holding (quote : Quote) : Nat × QuoteState := (quote.orderId, quote.state)

variable (roundAway : Side → Double → Double → Double)

/-- The handlers of a step do not reach log::fatal, and an ack changes no quote that holds another
order. -/
structure Handled [Utils] (s : System) (e : Gateway.Event) : Prop where
  survives : ∀ t, System.next roundAway s e = some t → t.fatal = none
  matched : ∀ orderAck ∈ ackOf e, ∀ t, System.next roundAway s e = some t →
    (orderAck.orderId ≠ s.strategy.bid.orderId → holding t.strategy.bid = holding s.strategy.bid) ∧
      (orderAck.orderId ≠ s.strategy.ask.orderId →
        holding t.strategy.ask = holding s.strategy.ask)

/-- Every create is accepted, a cancel fails only because it is too late, and the order ids last. -/
def Assumed [Utils] (s : System) : Gateway.Event → Prop
  | .respond request response => Utils.hasRequestFailed response.requestStatus = true →
      request.requestType = .cancelOrder ∧ response.error = .tooLateToModifyOrCancel
  | e => BelowLimit s e

instance [Utils] (s : System) : ∀ e : Gateway.Event, Decidable (Assumed s e)
  | .respond _ _ => inferInstanceAs (Decidable (_ → _ ∧ _))
  | .client e => inferInstanceAs (Decidable (BelowLimit s (.client e)))
  | .finish _ _ | .orderAck _ | .orderUpdate _ => isTrue trivial

/-- The terminal update of the order has been delivered. -/
def Closed (book : Book) (orderId : Nat) : Prop :=
  ∃ order ∈ book.orders, order.orderId = orderId ∧ order.phase = .closed

instance (book : Book) (orderId : Nat) : Decidable (Closed book orderId) := by
  unfold Closed
  infer_instance

/-- The quote has to create an order without having a price for it. -/
def Unpriced (quote : Quote) : Prop :=
  quote.updateOrder = true ∧ quote.state = .undefined ∧ quote.targetPrice = .nan

instance (quote : Quote) : Decidable (Unpriced quote) := by
  unfold Unpriced
  infer_instance

/-- No completing ack is delivered after the terminal update of its order, and no timer finds a
quote that has to create an order at a price that is NaN. -/
def AckedInTime (s : System) : Gateway.Event → Prop
  | .orderAck orderAck => ¬ Closed s.book orderAck.orderId
  | .client (.timer _ _ _) => s.strategy.canTrade = true →
      ¬ Unpriced s.strategy.bid ∧ ¬ Unpriced s.strategy.ask
  | _ => True

instance (s : System) (e : Gateway.Event) : Decidable (AckedInTime s e) := by
  unfold AckedInTime
  split <;> infer_instance

/-- The state in which a quote waits for the ack of a request. -/
def awaiting : RequestType → QuoteState
  | .undefined => .undefined
  | .createOrder => .create
  | .modifyOrder => .modify
  | .cancelOrder => .cancel

/-- A quote between its order and the requests in flight: it holds no closed order, and a request
about an order that is not closed is the one it waits for. -/
structure Tracked (book : Book) (quote : Quote) : Prop where
  represented : quote.state = .undefined ↔ quote.orderId = 0
  held : quote.orderId ≠ 0 → ¬ Closed book quote.orderId
  awaited : ∀ request ∈ book.requests, request.side = quote.side →
    ¬ Closed book request.orderId →
      request.orderId = quote.orderId ∧ quote.state = awaiting request.requestType

/-- At most one request of each order is in flight, and no response surprises a quote. -/
structure Requests [Utils] (book : Book) : Prop where
  single : (book.requests.map (·.orderId)).Nodup
  benign : ∀ request ∈ book.requests, ∀ response, request.response = some response →
    Utils.hasRequestCompleted response.requestStatus = true ∧
      (Utils.hasRequestFailed response.requestStatus = true →
        response.error = .tooLateToModifyOrCancel)

structure Matched [Utils] (s : System) : Prop where
  records : Records s
  requests : Requests s.book
  bid : Tracked s.book s.strategy.bid
  ask : Tracked s.book s.strategy.ask

section Books

variable {book later : Book} {quote after : Quote}

private theorem Tracked.mono (tracked : Tracked book quote) (same : SameOrder quote after)
    (closed : ∀ orderId, Closed later orderId ↔ Closed book orderId)
    (requests : ∀ request ∈ later.requests, ∃ before ∈ book.requests,
      before.requestType = request.requestType ∧ before.orderId = request.orderId ∧
        before.side = request.side) : Tracked later after := by
  refine ⟨?_, ?_, ?_⟩
  · rw [same.state, same.orderId]
    exact tracked.represented
  · intro holds
    rw [same.orderId] at holds ⊢
    rw [closed]
    exact tracked.held holds
  · intro request mem side still_open
    obtain ⟨before, there, type, orderId, at_side⟩ := requests request mem
    rw [closed, ← orderId] at still_open
    rw [same.orderId, same.state, ← orderId, ← type]
    exact tracked.awaited before there (by rw [at_side, side, same.side]) still_open

private theorem closed_setPhase (distinct : (book.orders.map (·.orderId)).Nodup) {orderId : Nat}
    {before after : Phase} (at_before : book.phaseOf orderId = some before)
    (was_open : before ≠ .closed) (still_open : after ≠ .closed) (id : Nat) :
    Closed (book.setPhase orderId after) id ↔ Closed book id := by
  constructor
  · rintro ⟨order, mem, rfl, closed⟩
    obtain ⟨found, there, ⟨_, rfl⟩ | ⟨_, rfl⟩⟩ := mem_setPhase.mp mem
    · exact (still_open closed).elim
    · exact ⟨order, there, rfl, closed⟩
  · rintro ⟨order, mem, rfl, closed⟩
    refine ⟨order, mem_setPhase.mpr ⟨order, mem, .inr ⟨fun same => ?_, rfl⟩⟩, rfl, closed⟩
    have at_order := phaseOf_eq distinct mem
    rw [same, at_before, Option.some.injEq] at at_order
    exact was_open (at_order.trans closed)

private theorem closed_close {orderId : Nat} {phase : Phase}
    (listed : book.phaseOf orderId = some phase) (id : Nat) :
    Closed (book.setPhase orderId .closed) id ↔ id = orderId ∨ Closed book id := by
  constructor
  · rintro ⟨order, mem, rfl, closed⟩
    obtain ⟨found, there, ⟨same, rfl⟩ | ⟨_, rfl⟩⟩ := mem_setPhase.mp mem
    · exact .inl same
    · exact .inr ⟨order, there, rfl, closed⟩
  · rintro (rfl | ⟨order, mem, rfl, closed⟩)
    · obtain ⟨order, mem, same, _⟩ := mem_of_phaseOf listed
      exact ⟨_, mem_setPhase.mpr ⟨order, mem, .inl ⟨same, rfl⟩⟩, same, rfl⟩
    · by_cases same : order.orderId = orderId
      · exact ⟨_, mem_setPhase.mpr ⟨order, mem, .inl ⟨same, rfl⟩⟩, rfl, rfl⟩
      · exact ⟨order, mem_setPhase.mpr ⟨order, mem, .inr ⟨same, rfl⟩⟩, rfl, closed⟩

private theorem closed_place {order : Order} (open_order : order.phase ≠ .closed) (id : Nat) :
    Closed (book.place order) id ↔ Closed book id := by
  constructor
  · rintro ⟨found, mem, rfl, closed⟩
    rcases List.mem_append.mp mem with there | here
    · exact ⟨found, there, rfl, closed⟩
    · obtain rfl : found = order := List.mem_singleton.mp here
      exact (open_order closed).elim
  · rintro ⟨found, mem, rfl, closed⟩
    exact ⟨found, List.mem_append_left _ mem, rfl, closed⟩

/-- A request in flight of an order that is not closed means that the quote of its side waits. -/
private theorem Tracked.waits {maxOrderId : Nat} (tracked : Tracked book quote)
    (recorded : Recorded maxOrderId book) {request : Request} (mem : request ∈ book.requests)
    (side : request.side = quote.side) (still_open : ¬ Closed book request.orderId) :
    quote.state = .create ∨ quote.state = .cancel := by
  obtain ⟨_, state⟩ := tracked.awaited request mem side still_open
  rcases (recorded.requested request mem).2 with type | type
  · exact .inl (by rw [state, type]; rfl)
  · exact .inr (by rw [state, type]; rfl)

/-- While a quote waits for nothing, the requests of its side in flight are about closed orders. -/
private theorem Tracked.settled {maxOrderId : Nat} (tracked : Tracked book quote)
    (recorded : Recorded maxOrderId book)
    (settled : quote.state = .undefined ∨ quote.state = .working) {request : Request}
    (mem : request ∈ book.requests) (side : request.side = quote.side) :
    Closed book request.orderId := by
  by_contra still_open
  rcases tracked.waits recorded mem side still_open with waits | waits
  · rcases settled with state | state <;> exact QuoteState.noConfusion (state.symm.trans waits)
  · rcases settled with state | state <;> exact QuoteState.noConfusion (state.symm.trans waits)

/-- A request of the other side does not concern a quote. -/
private theorem Tracked.skip (tracked : Tracked book quote) {orders : List Order}
    {request : Request} (other : request.side ≠ quote.side)
    (closed : ∀ id, Closed { orders := orders, requests := book.requests ++ [request] } id ↔
      Closed book id) :
    Tracked { orders := orders, requests := book.requests ++ [request] } quote := by
  refine ⟨tracked.represented, fun held => ?_, ?_⟩
  · rw [closed]
    exact tracked.held held
  · intro listed mem side still_open
    rw [closed] at still_open
    rcases List.mem_append.mp mem with there | here
    · exact tracked.awaited listed there side still_open
    · obtain rfl : listed = request := List.mem_singleton.mp here
      exact (other side).elim

/-- The request that a quote sends is the one it waits for, as all others are settled. -/
private theorem Tracked.send {orders : List Order} {request : Request}
    (represented : after.state = .undefined ↔ after.orderId = 0)
    (held : ¬ Closed book request.orderId) (orderId : request.orderId = after.orderId)
    (state : after.state = awaiting request.requestType)
    (settled : ∀ other ∈ book.requests, other.side = after.side → Closed book other.orderId)
    (closed : ∀ id, Closed { orders := orders, requests := book.requests ++ [request] } id ↔
      Closed book id) :
    Tracked { orders := orders, requests := book.requests ++ [request] } after := by
  refine ⟨represented, fun _ => ?_, ?_⟩
  · rw [closed, ← orderId]
    exact held
  · intro listed mem side still_open
    rw [closed] at still_open
    rcases List.mem_append.mp mem with there | here
    · exact (still_open (settled listed there side)).elim
    · obtain rfl : listed = request := List.mem_singleton.mp here
      exact ⟨orderId, state⟩

/-- Two references to one order agree on its side. -/
private theorem side_of_lists (distinct : (book.orders.map (·.orderId)).Nodup) {id : Nat}
    {side side' : Side} (lists : Lists book id side) (lists' : Lists book id side') :
    side = side' :=
  (sideOf_eq distinct lists).symm.trans (sideOf_eq distinct lists')

private theorem Requests.send [Utils] (requests : Requests book) {orders : List Order}
    {request : Request} (fresh : ∀ other ∈ book.requests, other.orderId ≠ request.orderId)
    (pending : request.response = none) :
    Requests { orders := orders, requests := book.requests ++ [request] } := by
  refine ⟨?_, ?_⟩
  · rw [List.map_append, List.nodup_append]
    refine ⟨requests.single, by simp, ?_⟩
    intro id mem id' here same
    obtain ⟨other, there, rfl⟩ := List.mem_map.mp mem
    have at_request : id' = request.orderId := by simpa using here
    exact fresh other there (same.trans at_request)
  · intro other mem response at_response
    rcases List.mem_append.mp mem with there | here
    · exact requests.benign other there response at_response
    · obtain rfl : other = request := List.mem_singleton.mp here
      rw [pending] at at_response
      cases at_response

/-- One quote acts on a timer: what it sends is what it waits for. -/
private theorem half_tracked [Utils] {other : Quote} {maxOrderId larger : Nat}
    (half : Half quote maxOrderId book after larger later)
    (recorded : Recorded maxOrderId book) (holds : Holds book quote)
    (requests : Requests book) (tracked : Tracked book quote) (other_tracked : Tracked book other)
    (sides : other.side ≠ quote.side) :
    Requests later ∧ Tracked later after ∧ Tracked later other := by
  cases half with
  | idle same =>
      exact ⟨requests, tracked.mono same (fun _ => Iff.rfl)
        fun request mem => ⟨request, mem, rfl, rfl, rfl⟩, other_tracked⟩
  | create undefined target side orderId state =>
      have closed : ∀ id, Closed (book.place ⟨maxOrderId + 1, quote.side, quote.targetPrice, .sent⟩)
          id ↔ Closed book id := closed_place (by simp)
      have not_closed : ¬ Closed book (maxOrderId + 1) := by
        rintro ⟨order, mem, same, _⟩
        have le := (recorded.numbered order mem).2
        omega
      have settled : ∀ request ∈ book.requests, request.side = after.side →
          Closed book request.orderId := fun request mem at_side =>
        tracked.settled recorded (.inl undefined) mem (at_side.trans side)
      refine ⟨requests.send (fun request mem same => ?_) rfl,
        .send (by simp [state, orderId]) not_closed orderId.symm state settled closed,
        other_tracked.skip sides.symm closed⟩
      have le := recorded.request_le mem
      have new_id : request.orderId = maxOrderId + 1 := same
      omega
  | cancel working order side orderId state =>
      have settled : ∀ request ∈ book.requests, request.side = quote.side →
          Closed book request.orderId := fun request mem at_side =>
        tracked.settled recorded (.inr working) mem at_side
      have not_closed : ¬ Closed book quote.orderId := tracked.held order
      refine ⟨requests.send (fun request mem same => ?_) rfl,
        .send (by simp [state, orderId, order]) not_closed orderId.symm state
          (by rwa [side]) fun _ => Iff.rfl,
        other_tracked.skip sides.symm fun _ => Iff.rfl⟩
      have same_id : request.orderId = quote.orderId := same
      have lists := (recorded.requested request mem).1
      rw [same_id] at lists
      have at_side := side_of_lists recorded.distinct lists (holds order)
      have is_closed := settled request mem at_side
      rw [same_id] at is_closed
      exact not_closed is_closed

/-- A request keeps its identity when it gets its response. -/
private theorem requests_answer {request : Request} (mem : request ∈ book.requests)
    (response : Response) :
    (((book.answer request response).requests.map (·.orderId)).Perm
        (book.requests.map (·.orderId))) ∧
      ∀ answered ∈ (book.answer request response).requests, ∃ before ∈ book.requests,
        before.requestType = answered.requestType ∧ before.orderId = answered.orderId ∧
          before.side = answered.side := by
  refine ⟨((List.perm_cons_erase mem).map (·.orderId)).symm, ?_⟩
  intro answered there
  rcases List.mem_cons.mp there with rfl | there
  · exact ⟨request, mem, rfl, rfl, rfl⟩
  · exact ⟨answered, List.mem_of_mem_erase there, rfl, rfl, rfl⟩

/-- A response neither closes an order nor surprises a quote. -/
private theorem responds_tracked [Utils] {maxOrderId : Nat} {request : Request}
    {response : Response} (recorded : Recorded maxOrderId book) (requests : Requests book)
    (mem : request ∈ book.requests)
    (assumed : Utils.hasRequestFailed response.requestStatus = true →
      request.requestType = .cancelOrder ∧ response.error = .tooLateToModifyOrCancel)
    (result : Book.Responds book request response later) :
    Requests later ∧ ∀ quote, Tracked book quote → Tracked later quote := by
  have answer {middle : Book} (same : middle.requests = book.requests)
      (closed : ∀ id, Closed middle id ↔ Closed book id)
      (completed : Utils.hasRequestCompleted response.requestStatus = true) :
      Requests (middle.answer request response) ∧
        ∀ quote, Tracked book quote → Tracked (middle.answer request response) quote := by
    obtain ⟨perm, identities⟩ := requests_answer (same ▸ mem) response
    rw [same] at perm identities
    refine ⟨⟨perm.nodup_iff.mpr requests.single, ?_⟩, fun quote tracked => ?_⟩
    · intro listed there given at_given
      rcases List.mem_cons.mp there with rfl | there
      · obtain rfl : response = given := by simpa using at_given
        exact ⟨completed, fun failure => (assumed failure).2⟩
      · rw [same] at there
        exact requests.benign listed (List.mem_of_mem_erase there) given at_given
    · exact tracked.mono ⟨rfl, rfl, rfl⟩ closed identities
  cases result with
  | accepted type sent success =>
      refine answer rfl (closed_setPhase recorded.distinct sent (by simp) (by simp)) ?_
      simp [Utils.hasRequestCompleted_eq, success]
  | rejected type sent failure =>
      exact RequestType.noConfusion (type.symm.trans (assumed failure).1)
  | canceled type working success =>
      refine answer rfl (closed_setPhase recorded.distinct working (by simp) (by simp)) ?_
      simp [Utils.hasRequestCompleted_eq, success]
  | refused type working failure other => exact (other (assumed failure).2).elim
  | tooLate type ended failure late =>
      refine answer rfl (fun _ => Iff.rfl) ?_
      simp [Utils.hasRequestCompleted_eq, failure]

/-- The request of an ack is in flight no more, nor is any other request of its order. -/
private theorem forget_single {request other : Request}
    (single : (book.requests.map (·.orderId)).Nodup) (mem : request ∈ book.requests)
    (there : other ∈ (book.forget request).requests) :
    other ∈ book.requests ∧ other.orderId ≠ request.orderId := by
  have distinct := List.Nodup.of_map _ single
  obtain ⟨ne, in_book⟩ := distinct.mem_erase_iff.mp there
  exact ⟨in_book, fun same => ne (List.inj_on_of_nodup_map single in_book mem same)⟩

private theorem Requests.setPhase [Utils] (requests : Requests book) (orderId : Nat)
    (phase : Phase) : Requests (book.setPhase orderId phase) :=
  ⟨requests.single, requests.benign⟩

private theorem Requests.forget [Utils] (requests : Requests book) (request : Request) :
    Requests (book.forget request) :=
  ⟨(List.erase_sublist.map Request.orderId).nodup requests.single,
    fun other there => requests.benign other (List.mem_of_mem_erase there)⟩

/-- An ack in time is the one that the quote waits for, and the quote takes it. -/
private theorem ack_in_time [Utils] {maxOrderId : Nat} {orderAck : OrderAck}
    (recorded : Recorded maxOrderId book) (requests : Requests book) (tracked : Tracked book quote)
    (mem : requestOf orderAck ∈ book.requests) (side : orderAck.side = quote.side)
    (in_time : ¬ Closed book orderAck.orderId) :
    orderAck.orderId = quote.orderId ∧ ∃ after, quote.onOrderAck orderAck = .ok after ∧
      Tracked (book.forget (requestOf orderAck)) after := by
  obtain ⟨orderId, state⟩ := tracked.awaited _ mem side in_time
  obtain ⟨completed, benign⟩ := requests.benign _ mem _ rfl
  refine ⟨orderId, ?_⟩
  -- the acked request was the only one about the order
  have settled : ∀ request ∈ (book.forget (requestOf orderAck)).requests,
      request.side = quote.side → Closed book request.orderId := by
    intro request there at_side
    obtain ⟨in_book, other⟩ := forget_single requests.single mem there
    by_contra still_open
    exact other ((tracked.awaited request in_book at_side still_open).1.trans orderId.symm)
  rcases (recorded.requested _ mem).2 with type | type
  · have create : quote.state = .create := by
      rw [state, type]
      rfl
    refine ⟨_, Quote.onOrderAck_created completed benign type create, ?_, tracked.held, ?_⟩
    · have held : quote.orderId ≠ 0 := fun zero =>
        QuoteState.noConfusion (create.symm.trans (tracked.represented.mpr zero))
      simp [held]
    · intro request there at_side still_open
      exact (still_open (settled request there at_side)).elim
  · have cancel : quote.state = .cancel := by
      rw [state, type]
      rfl
    refine ⟨_, Quote.onOrderAck_canceled completed benign type cancel, by simp, ?_, ?_⟩
    · exact fun held => (held rfl).elim
    · intro request there at_side still_open
      exact (still_open (settled request there at_side)).elim

/-- A late ack changes a quote that holds another order, if the quote survives it. -/
private theorem late_ack [Utils] {maxOrderId : Nat} {orderAck : OrderAck}
    (recorded : Recorded maxOrderId book) (requests : Requests book) (tracked : Tracked book quote)
    (mem : requestOf orderAck ∈ book.requests) (late : Closed book orderAck.orderId)
    (handled : quote.onOrderAck orderAck = .ok after) :
    orderAck.orderId ≠ quote.orderId ∧ holding after ≠ holding quote := by
  refine ⟨fun same => ?_, fun unchanged => ?_⟩
  · have held : quote.orderId ≠ 0 := by
      obtain ⟨order, there, at_id, _⟩ := late
      rw [← same, ← at_id]
      exact (recorded.numbered order there).1
    refine tracked.held held ?_
    rw [← same]
    exact late
  · have same_state : after.state = quote.state := congrArg Prod.snd unchanged
    obtain ⟨completed, _⟩ := requests.benign _ mem _ rfl
    cases Quote.onOrderAck_step handled with
    | pending pending => exact Bool.noConfusion (pending.symm.trans completed)
    | created _ _ state | modified _ _ state | canceled _ _ state =>
        exact QuoteState.noConfusion (same_state.trans state)

private theorem update_other {orderId : Nat} {phase : Phase} (tracked : Tracked book quote)
    (listed : book.phaseOf orderId = some phase) (other : quote.orderId ≠ orderId) :
    Tracked (book.setPhase orderId .closed) quote := by
  refine ⟨tracked.represented, fun held => ?_, ?_⟩
  · rw [closed_close listed]
    rintro (same | closed)
    · exact other same
    · exact tracked.held held closed
  · intro request mem side still_open
    rw [closed_close listed] at still_open
    exact tracked.awaited request mem side fun closed => still_open (.inr closed)

/-- The quote of its side handles a terminal update. -/
private theorem update_own [Utils] {orderUpdate : OrderUpdate} {phase : Phase}
    (tracked : Tracked book quote) (listed : book.phaseOf orderUpdate.orderId = some phase)
    (incremental : orderUpdate.updateType = .incremental)
    (complete : Utils.isOrderComplete orderUpdate.orderStatus = true) :
    Tracked (book.setPhase orderUpdate.orderId .closed) (released quote orderUpdate) := by
  by_cases same : quote.orderId = orderUpdate.orderId
  · rw [released, if_pos ⟨incremental, complete, same⟩]
    refine ⟨by simp, fun held => (held rfl).elim, ?_⟩
    intro request mem side still_open
    rw [closed_close listed] at still_open
    have own := (tracked.awaited request mem side fun closed => still_open (.inr closed)).1
    exact (still_open (.inl (own.trans same))).elim
  · rw [released, if_neg fun ends => same ends.2.2]
    exact update_other tracked listed same

/-- The quote of the other side does not hold the order. -/
private theorem update_ne {maxOrderId : Nat} {orderUpdate : OrderUpdate} {phase : Phase}
    (recorded : Recorded maxOrderId book) (holds : Holds book quote)
    (listed : book.phaseOf orderUpdate.orderId = some phase)
    (side : book.sideOf orderUpdate.orderId = orderUpdate.side)
    (other : quote.side ≠ orderUpdate.side) : quote.orderId ≠ orderUpdate.orderId := by
  intro same
  obtain ⟨order, mem, at_id, _⟩ := mem_of_phaseOf listed
  have held : quote.orderId ≠ 0 := by
    rw [same, ← at_id]
    exact (recorded.numbered order mem).1
  have at_side := sideOf_eq recorded.distinct (holds held)
  rw [same, side] at at_side
  exact other at_side.symm

end Books

variable {roundAway}

section Deliveries

variable [Utils]

/-- The terminal update of a known order is always handled. -/
private theorem update_handled {s : Strategy} {book : Book} {maxOrderId : Nat}
    {orderUpdate : OrderUpdate} {phase : Phase} {reason : Fatal}
    (recorded : Recorded maxOrderId book)
    (listed : book.phaseOf orderUpdate.orderId = some phase)
    (side : book.sideOf orderUpdate.orderId = orderUpdate.side) :
    s.handle roundAway (.orderUpdate orderUpdate) ≠ .error reason := by
  intro failed
  obtain ⟨order, there, at_id, _⟩ := mem_of_phaseOf listed
  have at_side := sideOf_eq recorded.distinct ⟨order, there, at_id, rfl⟩
  have sided := recorded.sided order there
  rw [← at_side, side] at sided
  obtain ⟨outcome, handled⟩ : ∃ outcome,
      s.handle roundAway (.orderUpdate orderUpdate) = .ok outcome :=
    s.handle_orderUpdate_ok sided
  rw [failed] at handled
  cases handled

/-- The tracking survives the steps that meet the assumptions and in which every ack is in time. -/
private theorem matched_step {s t : System} {e : Gateway.Event} (matched : Matched s)
    (assumed : Assumed s e) (in_time : AckedInTime s e) (step : System.Step roundAway s e t) :
    Matched t := by
  obtain ⟨records, requests, bid, ask⟩ := matched
  have below : BelowLimit s e := by
    cases e with
    | client e => exact assumed
    | respond | finish | orderAck | orderUpdate => trivial
  have records_after := records.step below step
  have recorded := records.recorded
  have forgets {quote : Quote} (request : Request) (tracked : Tracked s.book quote) :
      Tracked (s.book.forget request) quote :=
    tracked.mono ⟨rfl, rfl, rfl⟩ (fun _ => Iff.rfl)
      fun other there => ⟨other, List.mem_of_mem_erase there, rfl, rfl, rfl⟩
  cases step with
  | @client e strategy effects free step =>
      rcases client_cases free step below.timer records.sided recorded records.bid records.ask with
        ⟨quiet, same⟩ | ⟨bid_id, between, bid_half, ask_half⟩
      · have unchanged {before after : Quote} (same : SameOrder before after)
            (tracked : Tracked s.book before) : Tracked s.book after :=
          tracked.mono same (fun _ => Iff.rfl) fun request mem => ⟨request, mem, rfl, rfl, rfl⟩
        refine ⟨records_after, ?_, ?_, ?_⟩
        · rw [same]
          exact requests
        · rw [same]
          exact unchanged quiet.bid bid
        · rw [same]
          exact unchanged quiet.ask ask
      · have sides := records.sided.ask_ne_bid
        obtain ⟨requests_between, bid_between, ask_between⟩ :=
          half_tracked bid_half recorded records.bid requests bid ask sides
        obtain ⟨recorded_between, _⟩ := bid_half.recorded recorded records.bid records.sided.bid_ne
        obtain ⟨requests_after, ask_after, bid_after⟩ :=
          half_tracked ask_half recorded_between (fun held => bid_half.lists (records.ask held))
            requests_between ask_between bid_between (by rw [bid_half.side]; exact sides.symm)
        exact ⟨records_after, requests_after, bid_after, ask_after⟩
  | clientFails _ _ => exact ⟨records_after, requests, bid, ask⟩
  | askFails trading bidHandled _ =>
      have half := bid_half (below.timer _ _ _ rfl) recorded records.bid trading bidHandled
      obtain ⟨requests_after, bid_after, ask_after⟩ :=
        half_tracked half recorded records.bid requests bid ask records.sided.ask_ne_bid
      exact ⟨records_after, requests_after, bid_after, ask_after⟩
  | respond responded =>
      obtain ⟨mem, _, result⟩ := Book.responds responded
      obtain ⟨requests_after, tracked⟩ := responds_tracked recorded requests mem assumed result
      exact ⟨records_after, requests_after, tracked _ bid, tracked _ ask⟩
  | @finish orderId orderStatus working _ =>
      have closed (id : Nat) : Closed (s.book.setPhase orderId (.ended orderStatus)) id ↔
          Closed s.book id :=
        closed_setPhase recorded.distinct working (by simp) (by simp) id
      have tracked {quote : Quote} (before : Tracked s.book quote) :
          Tracked (s.book.setPhase orderId (.ended orderStatus)) quote :=
        before.mono ⟨rfl, rfl, rfl⟩ closed fun request mem => ⟨request, mem, rfl, rfl, rfl⟩
      exact ⟨records_after, requests.setPhase _ _, tracked bid, tracked ask⟩
  | @ack orderAck _ mem step =>
      have still_single := requests.forget (requestOf orderAck)
      rcases ack_cases step with ⟨side, after, handled, rfl⟩ | ⟨side, after, handled, rfl⟩
      · obtain ⟨_, expected, taken, tracked⟩ := ack_in_time recorded requests bid mem
          (side.trans records.sided.bid.symm) in_time
        obtain rfl : after = expected := Except.ok.inj (handled.symm.trans taken)
        exact ⟨records_after, still_single, tracked, forgets _ ask⟩
      · obtain ⟨_, expected, taken, tracked⟩ := ack_in_time recorded requests ask mem
          (side.trans records.sided.ask.symm) in_time
        obtain rfl : after = expected := Except.ok.inj (handled.symm.trans taken)
        exact ⟨records_after, still_single, forgets _ bid, tracked⟩
  | @ackFails orderAck _ mem _ =>
      exact ⟨records_after, requests.forget _, forgets _ bid, forgets _ ask⟩
  | @update orderUpdate strategy incremental complete side listed step =>
      have single := requests.setPhase orderUpdate.orderId .closed
      rcases (update_cases step).2 with
        ⟨at_side, bid_after, ask_after⟩ | ⟨at_side, ask_after, bid_after⟩
      · refine ⟨records_after, single, ?_, ?_⟩
        · rw [bid_after]
          exact update_own bid listed incremental complete
        · rw [ask_after]
          refine update_other ask listed (update_ne recorded records.ask listed side ?_)
          rw [records.sided.ask, at_side]
          exact Side.noConfusion
      · refine ⟨records_after, single, ?_, ?_⟩
        · rw [bid_after]
          refine update_other bid listed (update_ne recorded records.bid listed side ?_)
          rw [records.sided.bid, at_side]
          exact Side.noConfusion
        · rw [ask_after]
          exact update_own ask listed incremental complete
  | updateFails side listed failed =>
      exact (update_handled recorded listed side failed).elim

/-- A free event other than a timer is always handled. -/
private theorem free_handled {s : Strategy} {e : Maker.Event} {reason : Fatal}
    (free : isFree e = true) (failed : s.handle roundAway e = .error reason) :
    ∃ now bidConnected askConnected, e = .timer now bidConnected askConnected := by
  cases e with
  | timer now bidConnected askConnected => exact ⟨now, bidConnected, askConnected, rfl⟩
  | disconnected | downloadEnd _ | ready _ | referenceData _ | marketStatus _ | topOfBook _ _
  | cancelAllOrdersAck => cases failed
  | orderAck orderAck =>
      obtain ⟨side, pending⟩ := of_decide_eq_true free
      cases at_side : orderAck.side with
      | undefined => exact (side at_side).elim
      | buy =>
          rw [Strategy.handle_bid_ack at_side (s.bid.onOrderAck_pending pending)] at failed
          cases failed
      | sell =>
          rw [Strategy.handle_ask_ack at_side (s.ask.onOrderAck_pending pending)] at failed
          cases failed
  | orderUpdate orderUpdate =>
      obtain ⟨side, _⟩ := of_decide_eq_true free
      obtain ⟨outcome, handled⟩ : ∃ outcome,
          s.handle roundAway (.orderUpdate orderUpdate) = .ok outcome :=
        s.handle_orderUpdate_ok side
      rw [failed] at handled
      cases handled

private theorem pending_ack_unchanged {s t : Strategy} {orderAck : OrderAck}
    {effects : List Effect} (free : isFree (.orderAck orderAck) = true)
    (step : Strategy.Step roundAway s (.orderAck orderAck) t effects) :
    t.bid = s.bid ∧ t.ask = s.ask := by
  obtain ⟨_, pending⟩ := of_decide_eq_true free
  rcases ack_cases step with ⟨_, after, handled, rfl⟩ | ⟨_, after, handled, rfl⟩
  · exact ⟨pending_same pending handled, rfl⟩
  · exact ⟨rfl, pending_same pending handled⟩

private theorem client_handled_iff {s t : System} {e : Maker.Event}
    (taken : System.next roundAway s (.client e) = some t) :
    Handled roundAway s (.client e) ↔ AckedInTime s (.client e) := by
  have step := System.next_step taken
  have running := System.running taken
  constructor
  · intro handled
    unfold AckedInTime
    split
    · exact (Gateway.Event.noConfusion ‹_›)
    · rename_i now bidConnected askConnected same
      cases same
      intro trading
      have survives := handled.survives t taken
      cases step with
      | clientFails _ _ | askFails _ _ _ => cases survives
      | client _ step =>
          cases step with
          | idle gated => exact Bool.noConfusion (gated.symm.trans trading)
          | timer _ bidHandled askHandled =>
              refine ⟨fun unpriced => ?_, fun unpriced => ?_⟩
              · obtain ⟨reason, failed⟩ := Quote.onTimer_error_iff.mpr unpriced
                rw [failed] at bidHandled
                cases bidHandled
              · obtain ⟨reason, failed⟩ := Quote.onTimer_error_iff.mpr unpriced
                rw [failed] at askHandled
                cases askHandled
    · trivial
  · intro in_time
    have only {t' : System} (taken' : System.next roundAway s (.client e) = some t') : t' = t :=
      Option.some.inj (taken'.symm.trans taken)
    refine ⟨fun t' taken' => ?_, fun orderAck mem t' taken' => ?_⟩
    · rw [only taken']
      cases step with
      | client _ _ => exact running
      | clientFails free failed =>
          exfalso
          obtain ⟨now, bidConnected, askConnected, rfl⟩ := free_handled free failed
          obtain ⟨trading, unpriced | unpriced⟩ := Strategy.handle_timer_error failed
          · exact (in_time trading).1 unpriced
          · exact (in_time trading).2 unpriced
      | askFails trading _ failed =>
          exfalso
          obtain ⟨_, unpriced | unpriced⟩ := Strategy.handle_timer_error failed
          · exact (in_time trading).1 unpriced
          · exact (in_time trading).2 unpriced
    · rw [only taken']
      cases step with
      | clientFails _ _ => exact ⟨fun _ => rfl, fun _ => rfl⟩
      | askFails _ _ _ => cases mem
      | client free step =>
          cases e with
          | orderAck given =>
              obtain ⟨bid, ask⟩ := pending_ack_unchanged free step
              exact ⟨fun _ => congrArg holding bid, fun _ => congrArg holding ask⟩
          | timer _ _ _ | disconnected | downloadEnd _ | ready _ | referenceData _
          | marketStatus _ | topOfBook _ _ | cancelAllOrdersAck | orderUpdate _ => cases mem

private theorem ack_handled_iff {s t : System} {orderAck : OrderAck} (matched : Matched s)
    (taken : System.next roundAway s (.orderAck orderAck) = some t) :
    Handled roundAway s (.orderAck orderAck) ↔ ¬ Closed s.book orderAck.orderId := by
  obtain ⟨records, requests, bid, ask⟩ := matched
  have recorded := records.recorded
  have step := System.next_step taken
  constructor
  · intro handled late
    have survives := handled.survives t taken
    obtain ⟨bid_kept, ask_kept⟩ := handled.matched orderAck rfl t taken
    cases step with
    | ackFails _ _ => cases survives
    | ack mem step =>
        rcases ack_cases step with ⟨_, after, acked, rfl⟩ | ⟨_, after, acked, rfl⟩
        · obtain ⟨other, changed⟩ := late_ack recorded requests bid mem late acked
          exact changed (bid_kept other)
        · obtain ⟨other, changed⟩ := late_ack recorded requests ask mem late acked
          exact changed (ask_kept other)
  · intro in_time
    have only {t' : System} (taken' : System.next roundAway s (.orderAck orderAck) = some t') :
        t' = t := Option.some.inj (taken'.symm.trans taken)
    have running := System.running taken
    -- the quote of the side takes the ack, and it holds the order of the ack
    have taken_by_quote (mem : requestOf orderAck ∈ s.book.requests) :
        (∃ outcome, s.strategy.handle roundAway (.orderAck orderAck) = .ok outcome) ∧
          (orderAck.side = .buy → orderAck.orderId = s.strategy.bid.orderId) ∧
          (orderAck.side = .sell → orderAck.orderId = s.strategy.ask.orderId) := by
      cases at_side : orderAck.side with
      | undefined =>
          obtain ⟨order, there, _, same⟩ := (recorded.requested _ mem).1
          exact (recorded.sided order there (same.trans at_side)).elim
      | buy =>
          obtain ⟨own, after, acked, _⟩ := ack_in_time recorded requests bid mem
            (at_side.trans records.sided.bid.symm) in_time
          exact ⟨⟨_, Strategy.handle_bid_ack at_side acked⟩, fun _ => own, Side.noConfusion⟩
      | sell =>
          obtain ⟨own, after, acked, _⟩ := ack_in_time recorded requests ask mem
            (at_side.trans records.sided.ask.symm) in_time
          exact ⟨⟨_, Strategy.handle_ask_ack at_side acked⟩, Side.noConfusion, fun _ => own⟩
    refine ⟨fun t' taken' => ?_, fun given at_given t' taken' => ?_⟩
    · rw [only taken']
      cases step with
      | ack _ _ => exact running
      | ackFails mem failed =>
          obtain ⟨⟨outcome, handled⟩, _⟩ := taken_by_quote mem
          rw [failed] at handled
          cases handled
    · rw [only taken']
      obtain rfl : orderAck = given := Option.some.inj at_given
      cases step with
      | ackFails _ _ => exact ⟨fun _ => rfl, fun _ => rfl⟩
      | ack mem step =>
          obtain ⟨_, bid_own, ask_own⟩ := taken_by_quote mem
          rcases ack_cases step with ⟨side, after, _, rfl⟩ | ⟨side, after, _, rfl⟩
          · exact ⟨fun other => (other (bid_own side)).elim, fun _ => rfl⟩
          · exact ⟨fun _ => rfl, fun other => (other (ask_own side)).elim⟩

private theorem handled_iff {s t : System} {e : Gateway.Event} (matched : Matched s)
    (taken : System.next roundAway s e = some t) :
    Handled roundAway s e ↔ AckedInTime s e := by
  have survives {t' : System} (taken' : System.next roundAway s e = some t')
      (same : t.fatal = s.fatal) : t'.fatal = none := by
    obtain rfl : t' = t := Option.some.inj (taken'.symm.trans taken)
    rw [same]
    exact System.running taken
  have step := System.next_step taken
  cases e with
  | client e => exact client_handled_iff taken
  | orderAck orderAck => exact ack_handled_iff matched taken
  | respond request response =>
      refine iff_of_true ⟨fun t' taken' => ?_, fun orderAck mem => by cases mem⟩ trivial
      cases step with
      | respond _ => exact survives taken' rfl
  | finish orderId orderStatus =>
      refine iff_of_true ⟨fun t' taken' => ?_, fun orderAck mem => by cases mem⟩ trivial
      cases step with
      | finish _ _ => exact survives taken' rfl
  | orderUpdate orderUpdate =>
      refine iff_of_true ⟨fun t' taken' => ?_, fun orderAck mem => by cases mem⟩ trivial
      cases step with
      | update _ _ _ _ _ => exact survives taken' rfl
      | updateFails side listed failed =>
          exact (update_handled matched.records.recorded listed side failed).elim

private theorem initial_matched : Matched {} where
  records := initial_records
  requests := ⟨List.nodup_nil, by simp⟩
  bid := ⟨by simp, fun held => (held rfl).elim, by simp⟩
  ask := ⟨by simp, fun held => (held rfl).elim, by simp⟩

/-- For every run of an accepting gateway, whatever the order of deliveries: no handler of the
quotes reaches log::fatal and no ack changes a quote that holds another order, exactly when every
ack is delivered before the terminal update of its order and every price to be quoted is a
number. -/
theorem acks_matched_iff (roundAway : Side → Double → Double → Double) (es : List Gateway.Event)
    (assumed : AllSteps (System.next roundAway) Assumed {} es) :
    AllSteps (System.next roundAway) (Handled roundAway) {} es ↔
      AllSteps (System.next roundAway) AckedInTime {} es :=
  allSteps_congr_of
    (fun _ _ _ matched assumed in_time taken =>
      matched_step matched assumed in_time (System.next_step taken))
    (fun _ _ _ matched _ taken => handled_iff matched taken) initial_matched assumed

end Deliveries

section Examples

open scoped RoqSamples.Client.Documented

/-- The BUY quote gets its first order, and then cancels it because the market moves. -/
def createAndCancel : List Gateway.Event :=
  [.client (.ready true), .client .cancelAllOrdersAck, .client (.referenceData (.num (1 / 2))),
    .client (.marketStatus .«open»), .client (.topOfBook 99 101), .client (.timer 0 true false),
    .respond ⟨.createOrder, 1, .buy, none⟩ ⟨.accepted, .undefined⟩,
    .orderAck ⟨1, .buy, .createOrder, .accepted, .undefined, 99⟩,
    .client (.topOfBook 98 100), .client (.timer 3000000000 true false)]

/-- The order is canceled: the ack comes first, the terminal update second. -/
def canceledInTime : List Gateway.Event :=
  createAndCancel ++
    [.respond ⟨.cancelOrder, 1, .buy, none⟩ ⟨.accepted, .undefined⟩,
      .orderAck ⟨1, .buy, .cancelOrder, .accepted, .undefined, .nan⟩,
      .orderUpdate ⟨1, .buy, .incremental, .canceled, 1, 0, 99⟩]

theorem canceledInTime_handled :
    AllSteps (System.next toGrid) (Handled toGrid) {}
      canceledInTime :=
  (acks_matched_iff _ canceledInTime (by decide +kernel)).mpr (by decide +kernel)

/-- The order is filled before the cancel gets to the exchange: the terminal update comes first,
the failed ack second. -/
def filledBeforeCancel : List Gateway.Event :=
  createAndCancel ++
    [.finish 1 .completed,
      .respond ⟨.cancelOrder, 1, .buy, none⟩ ⟨.rejected, .tooLateToModifyOrCancel⟩,
      .orderUpdate ⟨1, .buy, .incremental, .completed, 1, 1, 99⟩,
      .orderAck ⟨1, .buy, .cancelOrder, .rejected, .tooLateToModifyOrCancel, .nan⟩]

/-- The fill leaves the quote UNDEFINED, where the ack of its cancel ends in log::fatal. -/
theorem fill_before_cancel_ack_is_fatal :
    AllSteps (System.next toGrid) Assumed {} filledBeforeCancel ∧
      (∃ t, run (System.next toGrid) {} filledBeforeCancel = some t ∧
        t.fatal = some (.unexpectedState .buy .undefined)) ∧
      ¬ AllSteps (System.next toGrid) (Handled toGrid) {}
        filledBeforeCancel := by
  have reached : ∃ t, run (System.next toGrid) {} filledBeforeCancel = some t ∧
      t.fatal = some (.unexpectedState .buy .undefined) := reaches_of_any (by decide +kernel)
  refine ⟨by decide +kernel, reached, fun handled => ?_⟩
  have survives : AllStates (System.next toGrid) (fun s => s.fatal = none) {}
      filledBeforeCancel :=
    handled.invariant (fun _ _ t _ handled taken => handled.survives t taken) rfl
  obtain ⟨t, reached, fatal⟩ := reached
  have alive := survives.last reached
  rw [fatal] at alive
  cases alive

end Examples

end RoqSamples.Maker.AckMatching
