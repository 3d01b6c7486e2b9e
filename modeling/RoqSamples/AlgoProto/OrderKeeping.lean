/- AlgoProto/OrderKeeping
   digest: Every order that was placed stays with the order manager that has placed it, and no order
     manager places a second one. -/
import RoqSamples.AlgoProto.OrderIds
import RoqSamples.AlgoProto.Routing

set_option autoImplicit false
set_option relaxedAutoImplicit false

namespace RoqSamples.AlgoProto.OrderKeeping

open RoqSamples.Algo
open RoqSamples.Arith (Double)
open RoqSamples.Client (Utils)
open RoqSamples.Execution.Calls
open RoqSamples.Execution.Runs

variable {C : Caches}

/-- Some order manager of the strategy keeps the order: it is for the instrument and the side of
this manager, and under the routing id of the strategy. -/
def Holds (b : Base) (request : CreateOrder) : Prop :=
  request.routingId = b.routingId ∧
    ∃ (position : Nat) (manager : OrderManager) (instrument : Instrument),
      b.orderManagers[position]? = some manager ∧ manager.orderId = request.orderId ∧
        manager.side = request.side ∧ b.instruments[manager.index]? = some instrument ∧
        instrument.key = request.key

/-- Which sends the client refuses while it is acted. -/
def refusesOf : Action C → Request → Bool
  | .createStrategy _ => fun _ => false
  | .event occurrence => occurrence.refuses
  | .setTarget _ _ _ _ refuses => refuses

/-- A CreateOrder that the client has taken. -/
def takenOrder (refuses : Request → Bool) : Entry → Option CreateOrder
  | .sent (.create request) _ => if refuses (.create request) then none else some request
  | .sent (.modify _) _ | .sent (.cancel _) _ | .reported _ => none

/-- The orders that an action places. -/
def placed [Utils] (encode : Nat → String) (compare : Double → Double → Ordering) (s : Bridge C)
    (action : Action C) : List CreateOrder :=
  ((s.perform encode compare action).1.dispatcher.log.drop s.dispatcher.log.length).filterMap
    (takenOrder (refusesOf action))

/-- Every order is kept by a strategy, and no two have the same id, so that no order manager has
placed two of them. -/
structure Accounted (s : Bridge C) (orders : List CreateOrder) : Prop where
  held : ∀ request ∈ orders, ∃ strategyId spread, s.strategies.lookup strategyId = some spread ∧
    Holds spread.toBase request
  distinct : orders.Pairwise fun earlier later => earlier.orderId < later.orderId

/-- Below the limit of the counter the order has an id and is kept. -/
private def Held (b : Base) (d : Dispatcher) (request : CreateOrder) : Prop :=
  d.maxOrderId + 1 < 2 ^ 64 → request.orderId ≠ 0 ∧ Holds b request

private theorem Held.grows {b : Base} {d d' : Dispatcher} {request : CreateOrder}
    (held : Held b d request) (grows : d.Grows d') : Held b d' request := by
  intro limit
  have more := grows.maxOrderId
  exact held (by omega)

/-- A strategy keeps its orders through a call, and those that the call places. -/
private structure Keeps (refuses : Request → Bool) (b : Base) (d : Dispatcher) (b' : Base)
    (d' : Dispatcher) : Prop where
  grows : d.Grows d'
  old : ∀ request, request.orderId ≠ 0 → Holds b request → Holds b' request
  fresh : ∃ more, d'.log = d.log ++ more ∧
    ∀ request ∈ more.filterMap (takenOrder refuses), Held b' d' request

section Calls

variable {refuses : Request → Bool} {b b' b'' : Base} {d d' d'' : Dispatcher}

private theorem keeps_of_same_log (grows : d.Grows d') (log : d'.log = d.log)
    (old : ∀ request, request.orderId ≠ 0 → Holds b request → Holds b' request) :
    Keeps refuses b d b' d' := by
  refine ⟨grows, old, [], ?_, fun _ mem => (List.not_mem_nil mem).elim⟩
  rw [log, List.append_nil]

private theorem Keeps.refl (b : Base) (d : Dispatcher) : Keeps refuses b d b d :=
  keeps_of_same_log (Dispatcher.Grows.refl d) rfl fun _ _ => id

private theorem Keeps.trans (first : Keeps refuses b d b' d')
    (second : Keeps refuses b' d' b'' d'') : Keeps refuses b d b'' d'' := by
  obtain ⟨more, log, fresh⟩ := first.fresh
  obtain ⟨later, log', fresh'⟩ := second.fresh
  refine ⟨first.grows.trans second.grows,
    fun request known held => second.old request known (first.old request known held),
    more ++ later, ?_, ?_⟩
  · rw [log', log, List.append_assoc]
  · intro request mem
    rw [List.filterMap_append] at mem
    rcases List.mem_append.mp mem with before | new
    · intro limit
      obtain ⟨known, held⟩ := (fresh request before).grows second.grows limit
      exact ⟨known, second.old request known held⟩
    · exact fresh' request new

/-- An order manager takes the place of another one, whose order it keeps if it has one. -/
private theorem holds_put {position : Nat} {manager after : OrderManager} {request : CreateOrder}
    (found : b.orderManagers[position]? = some manager)
    (order : manager.orderId ≠ 0 → after.orderId = manager.orderId)
    (side : after.side = manager.side) (index : after.index = manager.index)
    (known : request.orderId ≠ 0) (held : Holds b request) :
    Holds (b.put position after) request := by
  obtain ⟨routing, other, holder, instrument, holding, same, own, managed, key⟩ := held
  refine ⟨routing, other, ?_⟩
  by_cases here : other = position
  · subst here
    have one : holder = manager := Option.some.inj (holding.symm.trans found)
    subst one
    have inside : other < b.orderManagers.length := (List.getElem?_eq_some_iff.mp holding).1
    have put : (b.put other after).orderManagers[other]? = some after :=
      List.getElem?_set_self inside
    have kept : after.orderId = holder.orderId := order (by rw [same]; exact known)
    rw [← index] at managed
    exact ⟨after, instrument, put, kept.trans same, side.trans own, managed, key⟩
  · have put : (b.put position after).orderManagers[other]? = some holder :=
      (List.getElem?_set_ne (Ne.symm here)).trans holding
    exact ⟨holder, instrument, put, same, own, managed, key⟩

private theorem keeps_dispatch (orderId : Nat) (note : Note) (b : Base) (d : Dispatcher) :
    Keeps refuses b d (b.dispatch orderId note).1 d := by
  rcases Base.dispatch_cases orderId note b with same | ⟨position, manager, _, found, noted⟩
  · rw [same]
    exact Keeps.refl b d
  · rw [noted]
    exact keeps_of_same_log (Dispatcher.Grows.refl d) rfl fun _ known held =>
      holds_put found (fun _ => rfl) rfl rfl known held

/-- At most the request itself is placed, and only when the call returns. -/
private theorem createOrder_taken {context : Context C} {request : CreateOrder}
    {stop : Option Stop} (created : d.createOrder context request = (d', stop)) :
    ∃ more, d'.log = d.log ++ more ∧
      ∀ other ∈ more.filterMap (takenOrder context.refuses), other = request ∧ stop = none := by
  unfold Dispatcher.createOrder at created
  split at created
  · obtain ⟨rfl, rfl⟩ := Prod.mk.inj created
    refine ⟨[.sent (.create request) (context.market request.key).source], ?_, ?_⟩
    · show (d.accept (.create request)).log ++ _ = _
      rw [Dispatcher.accept_log]
    · intro other mem
      obtain ⟨entry, single, taken⟩ := List.mem_filterMap.mp mem
      rw [List.mem_singleton.mp single, takenOrder] at taken
      split at taken
      · cases taken
      · rename_i free
        exact ⟨(Option.some.inj taken).symm, if_neg free⟩
  · obtain ⟨rfl, rfl⟩ := Prod.mk.inj created
    refine ⟨[], ?_, fun other mem => (List.not_mem_nil mem).elim⟩
    rw [Dispatcher.accept_log, List.append_nil]

private theorem modifyOrder_taken (context : Context C) (request : ModifyOrder)
    (d : Dispatcher) :
    ∃ more, (d.modifyOrder context request).1.log = d.log ++ more ∧
      more.filterMap (takenOrder context.refuses) = [] := by
  unfold Dispatcher.modifyOrder Dispatcher.followUp
  split
  · rename_i source _
    refine ⟨[.sent (.modify request) source], ?_, rfl⟩
    show (d.accept (.modify request)).log ++ _ = _
    rw [Dispatcher.accept_log]
  · exact ⟨[], by rw [Dispatcher.accept_log, List.append_nil], rfl⟩

private theorem nextOrderId_ne_zero (limit : d.maxOrderId + 1 < 2 ^ 64) : d.nextOrderId ≠ 0 := by
  have next : d.nextOrderId = d.maxOrderId + 1 := Client.uint64_succ_of_lt limit
  omega

/-- The order that an order manager has just placed is kept by it. -/
private theorem holds_register {position : Nat} {manager : OrderManager} {instrument : Instrument}
    {quantity price : Double} (orderId : Nat)
    (found : b.orderManagers[position]? = some manager)
    (managed : b.instruments[manager.index]? = some instrument) :
    Holds (b.register position orderId (manager.aim quantity price))
      ((manager.aim quantity price).createOrderRequest b.account b.routingId instrument
        orderId) := by
  have inside : position < b.orderManagers.length := (List.getElem?_eq_some_iff.mp found).1
  have put : (b.register position orderId (manager.aim quantity price)).orderManagers[position]? =
      some ((manager.aim quantity price).hold orderId) := List.getElem?_set_self inside
  exact ⟨rfl, position, _, instrument, put, rfl, rfl, managed, rfl⟩

private theorem keeps_targeted [Utils] {context : Context C} {position : Nat}
    {quantity price : Double} {result : (Base × Dispatcher) × Option Stop}
    (targeted : Base.Targeted context position quantity price b d result) :
    Keeps context.refuses b d result.1.1 result.1.2 := by
  have grows := targeted.grows
  have noted : (d.check b.ready .notReady).log = d.log := Dispatcher.check_log _ _ d
  cases targeted with
  | absent other same =>
      refine keeps_of_same_log grows ?_ fun _ _ => id
      rcases same with rfl | rfl
      · rfl
      · exact noted
  | unchanged => exact keeps_of_same_log grows noted fun _ _ => id
  | failed manager instrument d' stop found changes unordered managed stopped =>
      obtain ⟨more, log, taken⟩ := createOrder_taken stopped
      rw [noted] at log
      refine ⟨grows, ?_, more, log, ?_⟩
      · exact fun request known held => holds_put found (fun _ => rfl) rfl rfl known held
      · exact fun request mem => (Option.some_ne_none stop (taken request mem).2).elim
  | placed manager instrument d' found changes unordered managed returned =>
      obtain ⟨more, log, taken⟩ := createOrder_taken returned
      rw [noted] at log
      refine ⟨grows, ?_, more, (Dispatcher.check_log _ _ d').trans log, ?_⟩
      · intro request known held
        exact holds_put found (fun ordered => (ordered unordered).elim) rfl rfl known held
      · intro request mem limit
        have bound := grows.maxOrderId
        have before : d.maxOrderId + 1 < 2 ^ 64 := by omega
        rw [(taken request mem).1]
        exact ⟨nextOrderId_ne_zero before, holds_register d.nextOrderId found managed⟩
  | amended manager found changes ordered =>
      obtain ⟨more, log, none⟩ := modifyOrder_taken context
        ((manager.aim quantity price).modifyOrderRequest b.account b.routingId)
        (d.check b.ready .notReady)
      rw [noted] at log
      refine ⟨grows, ?_, more, log, ?_⟩
      · exact fun request known held => holds_put found (fun _ => rfl) rfl rfl known held
      · rw [none]
        exact fun request mem => (List.not_mem_nil mem).elim

private theorem keeps_handle [Utils] (context : Context C) (source : Nat) (message : Message C)
    (s : Spread C) (d : Dispatcher) :
    Keeps context.refuses s.toBase d (s.handle context source message d).1.1.toBase
      (s.handle context source message d).1.2 := by
  refine Spread.handle_keeps (I := fun t d' => Keeps context.refuses s.toBase d t.toBase d')
    ?_ ?_ ?_ ?_ message (Keeps.refl s.toBase d)
  · intro t d' keeps
    have same := Base.sameOrders_update context.toView source t.toBase
    refine keeps.trans (keeps_of_same_log (Dispatcher.Grows.refl d') rfl ?_)
    rintro request _ ⟨routing, held⟩
    refine ⟨routing.trans same.routingId.symm, ?_⟩
    show ∃ (position : Nat) (manager : OrderManager) (instrument : Instrument),
      (t.toBase.update context.toView source).1.orderManagers[position]? = some manager ∧ _ ∧ _ ∧
        (t.toBase.update context.toView source).1.instruments[manager.index]? = _ ∧ _
    rw [same.orderManagers, same.instruments]
    exact held
  · intro t d' holds keeps
    exact keeps.trans (keeps_of_same_log (Dispatcher.grows_check _ _ d')
      (Dispatcher.check_log _ _ d') fun _ _ => id)
  · intro t d' price keeps _
    exact keeps.trans (keeps_targeted
      (Base.setTarget_targeted context 0 t.quantity price t.toBase d'))
  · intro t d' orderId note _ keeps
    exact keeps.trans (keeps_dispatch orderId note t.toBase d')

end Calls

section Actions

variable {refuses : Request → Bool} {orders : List CreateOrder} {earlier : List Entry}
  {strategies strategies' : Map Nat (Spread C)} {d d' : Dispatcher}

/-- The orders are kept by strategies. -/
private def AllHeld (orders : List CreateOrder) (strategies : Map Nat (Spread C))
    (d : Dispatcher) : Prop :=
  ∀ request ∈ orders, ∃ strategyId spread, strategies.lookup strategyId = some spread ∧
    Held spread.toBase d request

/-- The orders before an action are kept, and so are those that it has placed so far. -/
private def Stored (refuses : Request → Bool) (orders : List CreateOrder) (earlier : List Entry)
    (parties : Map Nat (Spread C) × Dispatcher) : Prop :=
  ∃ more, parties.2.log = earlier ++ more ∧
    AllHeld (orders ++ more.filterMap (takenOrder refuses)) parties.1 parties.2

private theorem AllHeld.more (all : AllHeld orders strategies d) (grows : d.Grows d')
    (kept : ∀ strategyId spread, strategies.lookup strategyId = some spread →
      strategies'.lookup strategyId = some spread) : AllHeld orders strategies' d' := by
  intro request mem
  obtain ⟨strategyId, spread, found, held⟩ := all request mem
  exact ⟨strategyId, spread, kept strategyId spread found, held.grows grows⟩

private theorem Stored.quiet (stored : Stored refuses orders earlier (strategies, d))
    (grows : d.Grows d') {more : List Entry} (log : d'.log = d.log ++ more)
    (none : ∀ request source, Entry.sent request source ∉ more)
    (kept : ∀ strategyId spread, strategies.lookup strategyId = some spread →
      strategies'.lookup strategyId = some spread) :
    Stored refuses orders earlier (strategies', d') := by
  obtain ⟨before, same, all⟩ := stored
  have nothing : more.filterMap (takenOrder refuses) = [] := by
    refine List.filterMap_eq_nil_iff.mpr fun entry mem => ?_
    cases entry with
    | sent request source => exact (none request source mem).elim
    | reported => rfl
  refine ⟨before ++ more, ?_, ?_⟩
  · rw [log, same, List.append_assoc]
  · rw [List.filterMap_append, nothing, List.append_nil]
    exact all.more grows kept

private theorem stored_check (stored : Stored refuses orders earlier (strategies, d))
    (holds : Bool) (assertion : Assertion) :
    Stored refuses orders earlier (strategies, d.check holds assertion) := by
  have log : (d.check holds assertion).log = d.log ++ [] := by
    rw [Dispatcher.check_log, List.append_nil]
  exact stored.quiet (Dispatcher.grows_check _ _ d) log
    (fun _ _ mem => (List.not_mem_nil mem).elim) fun _ _ => id

private theorem stored_visit
    {call : Spread C → Dispatcher → (Spread C × Dispatcher) × Option Stop}
    (keeps : ∀ s d, Keeps refuses s.toBase d (call s d).1.1.toBase (call s d).1.2)
    (strategyId : Nat) {parties : Map Nat (Spread C) × Dispatcher}
    (stored : Stored refuses orders earlier parties) :
    Stored refuses orders earlier (Bridge.visit call strategyId parties).1 := by
  obtain ⟨strategies, d⟩ := parties
  cases found : strategies.lookup strategyId with
  | none =>
      simp only [Bridge.visit, found]
      exact stored_check stored _ _
  | some spread =>
      rw [Bridge.visit_of_some found]
      obtain ⟨before, same, all⟩ := stored
      obtain ⟨grows, old, more, log, fresh⟩ := keeps spread d
      refine ⟨before ++ more, ?_, ?_⟩
      · exact log.trans (by rw [same, List.append_assoc])
      intro request mem
      rw [List.filterMap_append, ← List.append_assoc] at mem
      rcases List.mem_append.mp mem with earlier | new
      · obtain ⟨other, holder, holding, held⟩ := all request earlier
        by_cases here : other = strategyId
        · subst here
          have one : holder = spread := Option.some.inj (holding.symm.trans found)
          subst one
          refine ⟨other, _, AList.lookup_insert _, fun limit => ?_⟩
          obtain ⟨known, holds⟩ := held.grows grows limit
          exact ⟨known, old request known holds⟩
        · exact ⟨other, holder, (AList.lookup_insert_ne here).trans holding, held.grows grows⟩
      · exact ⟨strategyId, _, AList.lookup_insert _, fresh request new⟩

private theorem createStrategy_lookup (encode : Nat → String)
    (compare : Double → Double → Ordering) (user : CreateOrder) {s : Bridge C} {strategyId : Nat}
    {spread : Spread C} (found : s.strategies.lookup strategyId = some spread) :
    (s.createStrategy encode compare user).1.strategies.lookup strategyId = some spread := by
  unfold Bridge.createStrategy
  split
  · exact found
  · unfold Bridge.instantiate
    split
    · exact found
    · split
      · exact found
      · split
        · exact found
        · exact lookup_emplace_of_some found _ _

private theorem stored_notify [Utils] (s : Bridge C) (order : List Nat) (source : Nat)
    (message : Message C) (stored : Stored refuses orders earlier (s.strategies, s.dispatcher)) :
    Stored refuses orders earlier ((s.notify refuses order source message).1.strategies,
      (s.notify refuses order source message).1.dispatcher) := by
  refine forEach_invariant (I := Stored refuses orders earlier) ?_ stored
  intro strategyId _ parties stored
  refine stored_visit ?_ strategyId stored
  intro spread d
  exact keeps_handle (s.context refuses) source message (spread.hear source message) d

private theorem stored_perform [Utils] (encode : Nat → String)
    (compare : Double → Double → Ordering)
    {s : Bridge C} (all : AllHeld orders s.strategies s.dispatcher) (action : Action C) :
    Stored (refusesOf action) orders s.dispatcher.log
      ((s.perform encode compare action).1.strategies,
        (s.perform encode compare action).1.dispatcher) := by
  have start : Stored (refusesOf action) orders s.dispatcher.log (s.strategies, s.dispatcher) := by
    refine ⟨[], (List.append_nil _).symm, ?_⟩
    rwa [List.filterMap_nil, List.append_nil]
  cases action with
  | createStrategy user =>
      obtain ⟨holds, same⟩ := Bridge.createStrategy_dispatcher encode compare user s
      have checked := stored_check start holds .routingIdGiven
      show Stored _ _ _ ((s.createStrategy encode compare user).1.strategies,
        (s.createStrategy encode compare user).1.dispatcher)
      rw [same]
      refine checked.quiet (Dispatcher.Grows.refl _) (List.append_nil _).symm
        (fun _ _ mem => (List.not_mem_nil mem).elim) ?_
      exact fun strategyId spread found => createStrategy_lookup encode compare user found
  | event occurrence =>
      obtain ⟨more, log, none⟩ := Bridge.arrive_log occurrence.event s
      have arrived : Stored occurrence.refuses orders s.dispatcher.log
          ((s.arrive occurrence.event).strategies, (s.arrive occurrence.event).dispatcher) := by
        rw [Routing.arrive_strategies]
        exact start.quiet (Bridge.arrive_grows occurrence.event s) log none fun _ _ => id
      show Stored _ _ _ ((s.onEvent occurrence).1.strategies, (s.onEvent occurrence).1.dispatcher)
      rcases Bridge.onEvent_cases s occurrence with heard | ⟨_, _, _, lost⟩ |
        ⟨_, _, _, _, _, lost⟩
      · rw [heard]
        exact stored_notify _ _ _ _ arrived
      · rw [lost]
        exact arrived
      · rw [lost]
        exact stored_check start false .unknownRoute
  | setTarget strategyId position quantity price refuses =>
      refine stored_visit ?_ strategyId start
      intro spread d
      exact keeps_targeted
        (Base.setTarget_targeted (s.context refuses) position quantity price spread.toBase d)

end Actions

section Runs

/-- All orders that were passed to the client. -/
private def created : Entry → Option CreateOrder := takenOrder fun _ => false

private theorem placed_sublist (refuses : Request → Bool) (entries : List Entry) :
    (entries.filterMap (takenOrder refuses)).Sublist (entries.filterMap created) := by
  induction entries with
  | nil => exact List.Sublist.refl []
  | cons entry entries ih =>
      rw [List.filterMap_cons, List.filterMap_cons]
      cases entry with
      | reported => exact ih
      | sent request source =>
          cases request with
          | create request =>
              cases refused : refuses (.create request) with
              | true =>
                  simp only [takenOrder, created, refused, if_true]
                  exact ih.cons request
              | false =>
                  simp only [takenOrder, created, refused]
                  exact ih.cons_cons request
          | modify | cancel => exact ih

private theorem created_increasing {d : Dispatcher} (increasing : OrderIds.Increasing d) :
    (d.log.filterMap created).Pairwise fun earlier later => earlier.orderId < later.orderId := by
  refine List.pairwise_filterMap.mpr (increasing.above.imp ?_)
  intro earlier later above first one second two
  have ofSent {entry : Entry} {request : CreateOrder} (same : created entry = some request) :
      OrderIds.isCreate entry = true ∧ entry.orderId = request.orderId := by
    cases entry with
    | reported => cases same
    | sent sent source =>
        cases sent with
        | create create =>
            cases same
            exact ⟨rfl, rfl⟩
        | modify | cancel => cases same
  obtain ⟨_, id⟩ := ofSent one
  obtain ⟨creates, id'⟩ := ofSent two
  rw [← id, ← id']
  exact above creates

/-- What a run keeps: the orders that were placed are held, and they are among those of the log. -/
private structure Kept (orders : List CreateOrder) (s : Bridge C) : Prop where
  held : AllHeld orders s.strategies s.dispatcher
  logged : orders.Sublist (s.dispatcher.log.filterMap created)

variable {encode : Nat → String} {compare : Double → Double → Ordering}

private theorem kept_perform [Utils] {orders : List CreateOrder} {s : Bridge C}
    (kept : Kept orders s) (action : Action C) :
    Kept (orders ++ placed encode compare s action) (s.perform encode compare action).1 := by
  obtain ⟨more, log, all⟩ := stored_perform encode compare kept.held action
  have new : placed encode compare s action = more.filterMap (takenOrder (refusesOf action)) := by
    have log : (s.perform encode compare action).1.dispatcher.log =
      s.dispatcher.log ++ more := log
    rw [placed, log, List.drop_left]
  rw [new]
  refine ⟨all, ?_⟩
  rw [show (s.perform encode compare action).1.dispatcher.log = _ from log, List.filterMap_append]
  exact kept.logged.append (placed_sublist _ more)

end Runs

/-- For every run below the limit of the order ids, with any strategies, events in any order, calls
of `set_target`, and sends that throw: whatever is reported about it, each order that the client has
taken stays with the order manager that has placed it, in the strategy of its routing id, for the
instrument and the side of the manager; and as no two orders have the same id, an order manager
never places a second one. -/
theorem orders_are_accounted [Utils] (encode : Nat → String) (compare : Double → Double → Ordering)
    (config : Config) (actions : List (Action C)) (t : Bridge C)
    (reached : run (Bridge.nextCaught encode compare) (Bridge.initial C config) actions = some t)
    (limit : t.dispatcher.maxOrderId + 1 < 2 ^ 64) :
    Accounted t (trace (Bridge.nextCaught encode compare) (placed encode compare)
      (Bridge.initial C config) actions) := by
  have kept : Kept (trace (Bridge.nextCaught encode compare) (placed encode compare)
      (Bridge.initial C config) actions) t := by
    refine run_history (I := fun actions t => Kept (trace (Bridge.nextCaught encode compare)
      (placed encode compare) (Bridge.initial C config) actions) t) ?_ ?_ reached
    · exact ⟨fun _ mem => (List.not_mem_nil mem).elim, List.nil_sublist _⟩
    · intro actions action s t before kept taken
      rw [trace_append before, trace_singleton taken]
      obtain ⟨_, rfl⟩ := Bridge.nextCaught_eq_some taken
      exact kept_perform kept action
  have targets (context : Context C) (position : Nat) (quantity price : Double) (s : Spread C)
      (d : Dispatcher) (listed : OrderIds.Listed s d) (sound : OrderIds.Sound d) :=
    OrderIds.sound_setTarget listed sound context position quantity price
  have all := Bridge.all_reached OrderIds.sound_invariant targets
    (fun _ => OrderIds.dominated_initial) reached
  refine ⟨?_, (created_increasing (all.dispatcher limit).toIncreasing).sublist kept.logged⟩
  intro request mem
  obtain ⟨strategyId, spread, found, held⟩ := kept.held request mem
  exact ⟨strategyId, spread, found, (held limit).2⟩

section Examples

open scoped RoqSamples.Client.Documented

/-- A send that throws, an order that is filled, and a target that comes after it. -/
private def filledOrder : List (Action plain) :=
  sampleOpening ++
    [.setTarget 1 0 1 79 fun _ => true,
      bookEvent future 90 91,
      .event {
        event := .orderUpdate 0
          { orderId := 2, side := .buy, updateType := .incremental, orderStatus := .completed,
            quantity := 1, tradedQuantity := 1, price := 80, routingId := base64OfId 1 } },
      bookEvent future 92 93]

/-- The order is still held, and there is no other one. -/
theorem orders_are_accounted_filled :
    ∃ t, run (Bridge.nextCaught base64OfId compareNumbers) (Bridge.initial plain sampleConfig)
        filledOrder = some t ∧
      (trace (Bridge.nextCaught base64OfId compareNumbers) (placed base64OfId compareNumbers)
        (Bridge.initial plain sampleConfig) filledOrder).map (·.orderId) = [2] ∧
      Accounted t (trace (Bridge.nextCaught base64OfId compareNumbers)
        (placed base64OfId compareNumbers) (Bridge.initial plain sampleConfig) filledOrder) := by
  obtain ⟨t, reached, latest⟩ : ∃ t, run (Bridge.nextCaught base64OfId compareNumbers)
      (Bridge.initial plain sampleConfig) filledOrder = some t ∧ t.dispatcher.maxOrderId = 2 :=
    reaches_of_any (by decide +kernel)
  refine ⟨t, reached, by decide +kernel, ?_⟩
  exact orders_are_accounted base64OfId compareNumbers sampleConfig filledOrder t reached (by omega)

end Examples

end RoqSamples.AlgoProto.OrderKeeping
