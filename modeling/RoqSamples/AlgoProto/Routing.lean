/- AlgoProto/Routing
   digest: Requests follow their orders to the source of the market, and events reach those they are
     meant for, and nobody else. -/
import RoqSamples.AlgoProto.Sources

set_option autoImplicit false
set_option relaxedAutoImplicit false

namespace RoqSamples.AlgoProto.Routing

open RoqSamples.Algo
open RoqSamples.Arith (Double)
open RoqSamples.Client (Utils)
open RoqSamples.Execution.Calls
open RoqSamples.Execution.Runs
open Bridge (Directory Addressed)
open Sources (Settled Sourced SourceKept settled_invariant)

variable {C : Caches}

/-- The assertions that the bridge makes while it handles an event. -/
def assertedByBridge : Assertion → Bool
  | .noRoutingId | .unknownStrategy _ | .unknownRoute => true
  | .notReady | .orderIdTaken _ | .routingIdGiven | .undefinedSide => false

/-- The failures of these assertions. -/
def bridgeFailures (d : Dispatcher) : List Assertion := d.failures.filter assertedByBridge

/-- What an order manager notes of an event, and the order that the event is about. -/
def noted : Event C → Option (Nat × Note)
  | .orderAck _ ack => some (ack.orderId, .acked ack)
  | .orderUpdate _ update => some (update.orderId, .updated update)
  | .timer | .gateway _ _ | .market _ _ _ => none

/-- What happens when an event meets the bridge. Requests follow their orders. A message for an
order reaches the order manager that has created it, and changes nothing else among the strategies.
A change of a market reaches the strategies that have the instrument once, and no other. No
log::fatal is called and no assertion of the bridge fails. -/
structure EventRouted [Utils] (s : Bridge C) (occurrence : Occurrence C) : Prop where
  sources : SourceKept (s.onEvent occurrence).1.view (s.onEvent occurrence).1.dispatcher.log
  order : ∀ orderId note, noted occurrence.event = some (orderId, note) →
    ∀ (strategyId : Nat) (spread : Spread C), s.strategies.lookup strategyId = some spread →
      occurrence.event.routingId = some spread.routingId →
    ∀ (position : Nat) (manager : OrderManager),
      spread.orderManagers[position]? = some manager → Note.created orderId ∈ manager.journal →
    manager.index = position ∧ ∃ t, s.onEvent occurrence = (t, none) ∧
      t.strategies.lookup strategyId =
        some ((spread.hear occurrence.event.source occurrence.event.message).withBase
          (spread.put position (manager.note [note]))) ∧
      ∀ other, other ≠ strategyId → t.strategies.lookup other = s.strategies.lookup other
  market : ∀ source key message, occurrence.event = .market source key message →
    key ∈ s.config.exchangeSymbols → ((s.routes key).market.handle source message).2 = true →
    ∀ t, s.onEvent occurrence = (t, none) → ∀ (strategyId : Nat) (spread : Spread C),
      s.strategies.lookup strategyId = some spread →
    (key ∈ spread.instruments.map Instrument.key →
      ∃ spread', t.strategies.lookup strategyId = some spread' ∧
        spread'.inbox = spread.inbox ++ [(source, .market key message)]) ∧
    (key ∉ spread.instruments.map Instrument.key →
      t.strategies.lookup strategyId = some spread)
  returns : s.Addressed occurrence.event → ∀ reason,
    (s.onEvent occurrence).2 ≠ some (.fatal reason)
  asserted : s.Addressed occurrence.event →
    bridgeFailures (s.onEvent occurrence).1.dispatcher = bridgeFailures s.dispatcher

section Failures

variable {d : Dispatcher}

private theorem bridgeFailures_check (holds : Bool) {assertion : Assertion}
    (other : assertedByBridge assertion = false) :
    bridgeFailures (d.check holds assertion) = bridgeFailures d := by
  cases holds with
  | true => rfl
  | false =>
      unfold bridgeFailures
      rw [show (d.check false assertion).failures = d.failures ++ [assertion] from rfl,
        List.filter_append, List.filter_cons_of_neg (by rw [other]; exact Bool.false_ne_true),
        List.filter_nil, List.append_nil]

private theorem bridgeFailures_accept {request : Request} (named : request.routingId ≠ "") :
    bridgeFailures (d.accept request) = bridgeFailures d := by
  have holds : decide (request.routingId ≠ "") = true := decide_eq_true named
  unfold bridgeFailures Dispatcher.accept
  rw [holds]
  rfl

private theorem bridgeFailures_targeted [Utils] {context : Context C} {quantity price : Double}
    {b : Base} {result : (Base × Dispatcher) × Option Stop}
    (targeted : Base.Targeted context 0 quantity price b d result) (named : b.routingId ≠ "") :
    bridgeFailures result.1.2 = bridgeFailures d := by
  have checked : bridgeFailures (d.check b.ready .notReady) = bridgeFailures d :=
    bridgeFailures_check b.ready rfl
  have creates {request : CreateOrder} {d' : Dispatcher} {stop : Option Stop}
      (named : request.routingId ≠ "")
      (created : (d.check b.ready .notReady).createOrder context request = (d', stop)) :
      bridgeFailures d' = bridgeFailures d := by
    have failures := Dispatcher.createOrder_failures context request (d.check b.ready .notReady)
    rw [created] at failures
    calc bridgeFailures d'
        = bridgeFailures ((d.check b.ready .notReady).accept (.create request)) :=
          congrArg (List.filter assertedByBridge) failures
      _ = bridgeFailures (d.check b.ready .notReady) := bridgeFailures_accept named
      _ = bridgeFailures d := checked
  cases targeted with
  | absent other same =>
      rcases same with rfl | rfl
      · rfl
      · exact checked
  | unchanged => exact checked
  | failed manager instrument d' stop found changes unordered managed stopped =>
      exact creates named stopped
  | placed manager instrument d' found changes unordered managed returned =>
      exact (bridgeFailures_check _ rfl).trans (creates named returned)
  | amended manager =>
      have failures := Dispatcher.followUp_failures context
        (.modify ((manager.aim quantity price).modifyOrderRequest b.account b.routingId))
        (d.check b.ready .notReady)
      exact ((congrArg (List.filter assertedByBridge) failures).trans
        (bridgeFailures_accept named)).trans checked

/-- A strategy that has a routing id makes no assertion of the bridge fail. -/
private theorem bridgeFailures_handle [Utils] (context : Context C) (source : Nat)
    (message : Message C) {s : Spread C} (named : s.routingId ≠ "") (d : Dispatcher) :
    bridgeFailures (s.handle context source message d).1.2 = bridgeFailures d := by
  have kept : (s.handle context source message d).1.1.routingId ≠ "" ∧
      bridgeFailures (s.handle context source message d).1.2 = bridgeFailures d := by
    refine Spread.handle_keeps
      (I := fun s d' => s.routingId ≠ "" ∧ bridgeFailures d' = bridgeFailures d) ?_ ?_ ?_ ?_
      message ⟨named, rfl⟩
    · rintro s d' ⟨named, same⟩
      have routingId := (Base.sameOrders_update context.toView source s.toBase).routingId
      exact ⟨fun empty => named (routingId.symm.trans empty), same⟩
    · rintro s d' holds ⟨named, same⟩
      exact ⟨named, (bridgeFailures_check holds rfl).trans same⟩
    · rintro s d' price ⟨named, same⟩ _
      have targeted := Base.setTarget_targeted context 0 s.quantity price s.toBase d'
      exact ⟨fun empty => named (targeted.steady.routingId.symm.trans empty),
        (bridgeFailures_targeted targeted named).trans same⟩
    · rintro s d' orderId note _ ⟨named, same⟩
      have routingId := (Base.steady_dispatch orderId note s.toBase).routingId
      exact ⟨fun empty => named (routingId.symm.trans empty), same⟩
  exact kept.2

end Failures

section Stops

variable {d : Dispatcher}

private theorem send_stop {refuses : Request → Bool} {request : Request} {source : Option Nat}
    {stop : Stop} (stopped : (d.send refuses request source).2 = some stop) :
    stop = .sendFailed := by
  unfold Dispatcher.send at stopped
  split at stopped
  · exact (Option.some.inj stopped).symm
  · cases stopped

private theorem createOrder_stop {context : Context C} {request : CreateOrder}
    (routed : request.key ∈ context.routed) {stop : Stop}
    (stopped : (d.createOrder context request).2 = some stop) : stop = .sendFailed := by
  rw [Dispatcher.createOrder, if_pos routed] at stopped
  exact send_stop stopped

private theorem followUp_stop {context : Context C} {request : Request} {stop : Stop}
    (stopped : (d.followUp context request).2 = some stop) {source : Option Nat}
    (known : d.orderIdToSource.lookup request.orderId = some source) : stop = .sendFailed := by
  unfold Dispatcher.followUp at stopped
  split at stopped
  · exact send_stop stopped
  · rename_i unknown
    rw [Dispatcher.accept_orderIdToSource, known] at unknown
    cases unknown

/-- The markets of all instruments are routed, and the orders are known: nothing is left but a send
that throws, and a vector that is too short. -/
private theorem targeted_stop [Utils] {context : Context C} {quantity price : Double} {b : Base}
    {result : (Base × Dispatcher) × Option Stop}
    (targeted : Base.Targeted context 0 quantity price b d result)
    (settled : Settled context.toView b d) (sourced : Sourced context.toView d)
    (routed : ∀ instrument ∈ b.instruments, instrument.key ∈ context.routed) {stop : Stop}
    (stopped : result.2 = some stop) : stop = .sendFailed ∨ stop = .outOfRange := by
  cases targeted with
  | absent => exact .inr (Option.some.inj stopped).symm
  | unchanged => cases stopped
  | failed manager instrument d' reason found changes unordered managed outcome =>
      cases stopped
      have listed := List.mem_of_getElem? managed
      exact .inl (createOrder_stop (routed instrument listed) (congrArg Prod.snd outcome))
  | placed => cases stopped
  | amended manager found changes ordered =>
      obtain ⟨create, source, sent, same, _⟩ := (settled.employed 0 manager found).created ordered
      have tabled := sourced.tabled create source sent (same.trans_ne ordered)
      have known : (d.check b.ready .notReady).orderIdToSource.lookup manager.orderId =
          some source := by
        rw [Dispatcher.check_orderIdToSource, ← same]
        exact tabled
      exact .inl (followUp_stop stopped known)

private theorem handle_stop [Utils] (context : Context C) {source : Nat} {message : Message C}
    {s : Spread C} (settled : Settled context.toView s.toBase d)
    (sourced : Sourced context.toView d)
    (routed : ∀ instrument ∈ s.instruments, instrument.key ∈ context.routed) {stop : Stop}
    (stopped : (s.handle context source message d).2 = some stop) :
    stop = .sendFailed ∨ stop = .outOfRange := by
  have outcome := Spread.handle_stopped
    (I := fun s' => Settled context.toView s'.toBase d ∧ s'.instruments = s.instruments) ?_
    ⟨settled, rfl⟩ stopped
  · rcases outcome with short | ⟨s', price, ⟨settled, instruments⟩, _, targeted⟩
    · exact .inr short
    · exact targeted_stop (Base.setTarget_targeted context 0 s'.quantity price s'.toBase d)
        settled sourced (instruments ▸ routed) targeted
  · rintro s' ⟨settled, instruments⟩
    have same := Base.sameOrders_update context.toView source s'.toBase
    exact ⟨Sources.settled_update settled source, same.instruments.trans instruments⟩

end Stops

/-- What the loop over those who hear of an event preserves. -/
private structure Hearing (s : Bridge C) (parties : Map Nat (Spread C) × Dispatcher) : Prop where
  all : AllParties (fun spread d => Settled s.view spread.toBase d) (Sourced s.view) parties
  cards : ∀ strategyId, (parties.1.lookup strategyId).map Bridge.card =
    (s.strategies.lookup strategyId).map Bridge.card
  failures : bridgeFailures parties.2 = bridgeFailures s.dispatcher

section Loop

variable {encode : Nat → String} {s : Bridge C} {parties : Map Nat (Spread C) × Dispatcher}

/-- A strategy of the directory is there, under its routing id, and its markets are routed. -/
private theorem hearing_lookup (directory : Directory encode s) (hearing : Hearing s parties)
    {strategyId : Nat} (mem : strategyId ∈ s.strategies) :
    ∃ spread, parties.1.lookup strategyId = some spread ∧ spread.routingId = encode strategyId ∧
      ∀ instrument ∈ spread.instruments, instrument.key ∈ s.config.exchangeSymbols := by
  obtain ⟨before, earlier⟩ := exists_lookup mem
  have cards := hearing.cards strategyId
  rw [earlier, Option.map_some] at cards
  obtain ⟨spread, found, card⟩ := Option.map_eq_some_iff.mp cards
  obtain ⟨instruments, routingId⟩ := Prod.mk.inj card
  refine ⟨spread, found, routingId.trans (directory.named strategyId before earlier), ?_⟩
  rw [instruments]
  exact directory.configured strategyId before earlier

private theorem hearing_deliver [Utils] (encodes : Encodes encode) (directory : Directory encode s)
    (refuses : Request → Bool) (source : Nat) (message : Message C) {strategyId : Nat}
    (mem : strategyId ∈ s.strategies) (hearing : Hearing s parties) :
    Hearing s (Bridge.deliver (s.context refuses) source message strategyId parties).1 where
  all := Bridge.deliver_all settled_invariant (s.context refuses) source message strategyId
    hearing.all
  cards := fun other =>
    (Bridge.deliver_cards _ source message strategyId parties other).trans (hearing.cards other)
  failures := by
    obtain ⟨spread, found, routingId, _⟩ := hearing_lookup directory hearing mem
    have named : spread.routingId ≠ "" := by
      rw [routingId]
      exact encodes.nonempty strategyId (directory.numbered strategyId mem)
    rw [Bridge.deliver, Bridge.visit_of_some found]
    exact (bridgeFailures_handle (s.context refuses) source message
      (s := spread.hear source message) named parties.2).trans hearing.failures

private theorem deliver_stop [Utils] (directory : Directory encode s) {refuses : Request → Bool}
    {source : Nat} {message : Message C} {strategyId : Nat} (mem : strategyId ∈ s.strategies)
    (hearing : Hearing s parties) {stop : Stop}
    (stopped : (Bridge.deliver (s.context refuses) source message strategyId parties).2 =
      some stop) : stop = .sendFailed ∨ stop = .outOfRange := by
  obtain ⟨spread, found, _, routed⟩ := hearing_lookup directory hearing mem
  rw [Bridge.deliver, Bridge.visit_of_some found] at stopped
  exact handle_stop (s.context refuses) (s := spread.hear source message)
    (hearing.all.strategies strategyId spread found) hearing.all.dispatcher routed stopped

/-- Strategies that exist can be called one after the other. -/
private theorem notify_quiet [Utils] (encodes : Encodes encode) (directory : Directory encode s)
    (all : s.All (fun view spread d => Settled view spread.toBase d) Sourced)
    (refuses : Request → Bool) {order : List Nat} (present : ∀ strategyId ∈ order,
      strategyId ∈ s.strategies) (source : Nat) (message : Message C) :
    (∀ stop, (s.notify refuses order source message).2 = some stop →
      stop = .sendFailed ∨ stop = .outOfRange) ∧
    bridgeFailures (s.notify refuses order source message).1.dispatcher =
      bridgeFailures s.dispatcher := by
  have start : Hearing s (s.strategies, s.dispatcher) := ⟨all, fun _ => rfl, rfl⟩
  have preserved (strategyId : Nat) (mem : strategyId ∈ order)
      (parties : Map Nat (Spread C) × Dispatcher) (hearing : Hearing s parties) :
      Hearing s (Bridge.deliver (s.context refuses) source message strategyId parties).1 :=
    hearing_deliver encodes directory refuses source message (present strategyId mem) hearing
  constructor
  · intro stop stopped
    obtain ⟨strategyId, mem, parties, hearing, last⟩ := forEach_stopped preserved start stopped
    exact deliver_stop directory (present strategyId mem) hearing last
  · exact (forEach_invariant preserved start).failures

end Loop

/-- The tables of the bridge agree, and requests follow their orders. -/
private structure Orderly (encode : Nat → String) (s : Bridge C) : Prop where
  directory : Directory encode s
  all : s.All (fun view spread d => Settled view spread.toBase d) Sourced

section Events

variable {encode : Nat → String} {s : Bridge C} {occurrence : Occurrence C}

private theorem orderly_arrive [Utils] (orderly : Orderly encode s)
    (possible : s.Possible (.event occurrence)) : Orderly encode (s.arrive occurrence.event) where
  directory := Bridge.directory_same (Bridge.sameEntries_arrive _ s) orderly.directory
  all := Bridge.all_arrive settled_invariant orderly.all possible.2

private theorem arrive_dispatcher (event : Event C) :
    bridgeFailures (s.arrive event).dispatcher = bridgeFailures s.dispatcher := by
  cases event with
  | timer | market | orderAck | orderUpdate => rfl
  | gateway source message => cases message <;> rfl

/-- The caches and the counter have met an event; the strategies are as before. -/
theorem arrive_strategies (event : Event C) :
    (s.arrive event).strategies = s.strategies := by
  cases event with
  | timer | market | orderAck | orderUpdate => rfl
  | gateway source message => cases message <;> rfl

private theorem event_quiet [Utils] (encodes : Encodes encode) (orderly : Orderly encode s)
    (possible : s.Possible (.event occurrence)) (addressed : s.Addressed occurrence.event) :
    (∀ stop, (s.onEvent occurrence).2 = some stop → stop = .sendFailed ∨ stop = .outOfRange) ∧
      bridgeFailures (s.onEvent occurrence).1.dispatcher = bridgeFailures s.dispatcher := by
  obtain ⟨directory, all⟩ := orderly_arrive orderly possible
  obtain ⟨present, _⟩ := Bridge.hearers_spec orderly.directory possible
  have hearing (strategyId : Nat) (mem : strategyId ∈ s.hearers occurrence) :
      strategyId ∈ (s.arrive occurrence.event).strategies := by
    rw [arrive_strategies]
    exact present strategyId mem
  obtain ⟨stops, failures⟩ := notify_quiet encodes directory all occurrence.refuses hearing
    occurrence.event.source occurrence.event.message
  rw [Bridge.onEvent_of_addressed orderly.directory addressed]
  exact ⟨stops, failures.trans (arrive_dispatcher occurrence.event)⟩

/-- A change of a market reaches the strategies on its route. -/
private theorem market_heard [Utils] (orderly : Orderly encode s)
    (possible : s.Possible (.event occurrence)) {source : Nat} {key : Key}
    {message : MarketMessage C.Payload} (ofMarket : occurrence.event = .market source key message)
    (routed : key ∈ s.config.exchangeSymbols)
    (changed : ((s.routes key).market.handle source message).2 = true) {t : Bridge C}
    (returned : s.onEvent occurrence = (t, none)) {strategyId : Nat} {spread : Spread C}
    (found : s.strategies.lookup strategyId = some spread) :
    (key ∈ spread.instruments.map Instrument.key →
      ∃ spread', t.strategies.lookup strategyId = some spread' ∧
        spread'.inbox = spread.inbox ++ [(source, .market key message)]) ∧
    (key ∉ spread.instruments.map Instrument.key →
      t.strategies.lookup strategyId = some spread) := by
  have addressed : s.Addressed occurrence.event := by
    rw [ofMarket]
    refine ⟨fun _ _ _ same => ?_, nofun⟩
    cases same
    exact routed
  have hearers : s.hearers occurrence = occurrence.order := by
    unfold Bridge.hearers
    rw [ofMarket]
    exact if_pos changed
  have listening : strategyId ∈ occurrence.order ↔
      key ∈ spread.instruments.map Instrument.key := by
    have audience := possible.1.mem_iff (a := strategyId)
    rw [ofMarket] at audience
    refine (audience.trans (orderly.directory.routed key strategyId)).trans ?_
    constructor
    · rintro ⟨other, present, mem⟩
      rw [found] at present
      cases present
      exact mem
    · exact fun mem => ⟨spread, found, mem⟩
  have nodup := (Bridge.hearers_spec orderly.directory possible).2
  rw [Bridge.onEvent_of_addressed orderly.directory addressed, hearers, ofMarket] at returned
  rw [hearers] at nodup
  obtain ⟨visited, skipped⟩ := Bridge.notify_each nodup returned found
  rw [listening] at visited skipped
  refine ⟨fun mem => ?_, skipped⟩
  obtain ⟨spread', found', d, d', handled⟩ := visited mem
  have heard := congrArg (fun result => result.1.1.inbox) handled
  obtain ⟨_, _, inbox⟩ := Spread.handle_card
    ((s.arrive (.market source key message)).context occurrence.refuses) source
    (.market key message) (spread.hear source (.market key message)) d
  exact ⟨spread', found', heard.symm.trans inbox⟩

/-- The handler of a message for an order. -/
private theorem handle_noted [Utils] {event : Event C} {orderId : Nat} {note : Note}
    (ofOrder : noted event = some (orderId, note)) (context : Context C) (source : Nat)
    (spread : Spread C) (d : Dispatcher) :
    spread.handle context source event.message d = spread.dispatch orderId note d := by
  cases event with
  | timer | gateway | market => cases ofOrder
  | orderAck | orderUpdate =>
      cases ofOrder
      rfl

/-- Those who hear of a message for an order of a strategy are this strategy. -/
private theorem hearers_order (directory : Directory encode s) {orderId : Nat} {note : Note}
    (ofOrder : noted occurrence.event = some (orderId, note)) {strategyId : Nat}
    {spread : Spread C} (found : s.strategies.lookup strategyId = some spread)
    (named : occurrence.event.routingId = some spread.routingId) :
    s.hearers occurrence = [strategyId] := by
  have strategy := Bridge.findStrategy_eq directory found
  unfold Bridge.hearers
  cases event : occurrence.event with
  | timer | gateway | market =>
      rw [event] at ofOrder
      cases ofOrder
  | orderAck source ack | orderUpdate source update =>
      rw [event] at named
      have same := Option.some.inj named
      simp only [same, strategy, Option.toList_some]

/-- The order manager that has created an order is the one that the table leads to. -/
private theorem dispatch_created {view : View C} {b : Base} {d : Dispatcher}
    (settled : Settled view b d) {position : Nat} {manager : OrderManager}
    (found : b.orderManagers[position]? = some manager) {orderId : Nat}
    (created : Note.created orderId ∈ manager.journal) (note : Note) :
    b.dispatch orderId note = (b.put position (manager.note [note]), none) := by
  obtain ⟨front, present⟩ := (settled.employed position manager found).tabled orderId created
  obtain ⟨index, tabled⟩ := exists_lookup present
  have leads : index = position := (settled.first orderId index tabled).trans front.symm
  subst leads
  simp only [Base.dispatch, tabled, found]

/-- A message for an order reaches the order manager that has created the order. -/
private theorem order_heard [Utils] (orderly : Orderly encode s) {orderId : Nat} {note : Note}
    (ofOrder : noted occurrence.event = some (orderId, note)) {strategyId : Nat}
    {spread : Spread C} (found : s.strategies.lookup strategyId = some spread)
    (named : occurrence.event.routingId = some spread.routingId) {position : Nat}
    {manager : OrderManager} (managed : spread.orderManagers[position]? = some manager)
    (created : Note.created orderId ∈ manager.journal) :
    ∃ t, s.onEvent occurrence = (t, none) ∧
      t.strategies.lookup strategyId =
        some ((spread.hear occurrence.event.source occurrence.event.message).withBase
          (spread.put position (manager.note [note]))) ∧
      ∀ other, other ≠ strategyId → t.strategies.lookup other = s.strategies.lookup other := by
  have addressed : s.Addressed occurrence.event := by
    refine ⟨fun source key message ofMarket => ?_, fun routingId same => ?_⟩
    · rw [ofMarket] at ofOrder
      cases ofOrder
    · exact ⟨strategyId, spread, found, Option.some.inj (named.symm.trans same)⟩
  have settled := orderly.all.strategies strategyId spread found
  have dispatched := dispatch_created settled managed created note
  have handled := handle_noted ofOrder ((s.arrive occurrence.event).context occurrence.refuses)
    occurrence.event.source (spread.hear occurrence.event.source occurrence.event.message)
    (s.arrive occurrence.event).dispatcher
  have arrived : (s.arrive occurrence.event).strategies.lookup strategyId = some spread := by
    rw [arrive_strategies]
    exact found
  have dispatches : (spread.hear occurrence.event.source occurrence.event.message).dispatch
      orderId note (s.arrive occurrence.event).dispatcher =
        (((spread.hear occurrence.event.source occurrence.event.message).withBase
          (spread.put position (manager.note [note])), (s.arrive occurrence.event).dispatcher),
          none) := by
    show ((Spread.withBase (spread.toBase.dispatch orderId note).1 _, _),
      (spread.toBase.dispatch orderId note).2) = _
    rw [dispatched]
  have heard := Bridge.onEvent_of_addressed orderly.directory addressed
  rw [hearers_order orderly.directory ofOrder found named,
    Bridge.notify_singleton arrived (handled.trans dispatches)] at heard
  refine ⟨_, heard, AList.lookup_insert _, fun other ne => ?_⟩
  rw [AList.lookup_insert_ne ne, arrive_strategies]

private theorem event_routed [Utils] (encodes : Encodes encode) (orderly : Orderly encode s)
    (possible : s.Possible (.event occurrence)) : EventRouted s occurrence where
  sources := (Bridge.all_onEvent settled_invariant orderly.all possible.2).dispatcher.sourceKept
  order := by
    intro orderId note ofOrder strategyId spread found named position manager managed created
    have settled := orderly.all.strategies strategyId spread found
    exact ⟨(settled.employed position manager managed).index,
      order_heard orderly ofOrder found named managed created⟩
  market := fun _ _ _ ofMarket routed changed _ returned _ _ found =>
    market_heard orderly possible ofMarket routed changed returned found
  returns := by
    intro addressed reason stopped
    rcases (event_quiet encodes orderly possible addressed).1 _ stopped with same | same
    · cases same
    · cases same
  asserted := fun addressed => (event_quiet encodes orderly possible addressed).2

end Events

/-- An action from outside: nobody calls `set_target` but the strategies. -/
def external : Action C → Bool
  | .createStrategy _ | .event _ => true
  | .setTarget _ _ _ _ _ => false

private theorem orderly_next [Utils] {encode : Nat → String} (encodes : Encodes encode)
    {compare : Double → Double → Ordering} {s t : Bridge C} {action : Action C}
    (orderly : Orderly encode s) (outside : external action = true)
    (taken : s.nextUncaught encode compare action = some t) : Orderly encode t := by
  obtain ⟨possible, performed⟩ := Bridge.nextUncaught_eq_some taken
  have all := Bridge.all_perform settled_invariant orderly.all encode compare possible ?_
  · rw [performed] at all
    refine ⟨?_, all⟩
    cases action with
    | createStrategy request =>
        exact Bridge.directory_createStrategy encodes orderly.directory performed
    | event occurrence =>
        have same := Bridge.sameEntries_onEvent occurrence s
        have reached : (s.onEvent occurrence).1 = t := congrArg Prod.fst performed
        rw [reached] at same
        exact Bridge.directory_same same orderly.directory
    | setTarget => cases outside
  · intro strategyId position quantity price refuses called
    rw [called] at outside
    cases outside

section Examples

open scoped RoqSamples.Client.Documented

private theorem digit_injective {m n : Nat} (small : m < 64) (small' : n < 64)
    (same : base64Digits.getD m 'A' = base64Digits.getD n 'A') : m = n := by
  have length : base64Digits.length = 64 := by decide
  have nodup : base64Digits.Nodup := by decide +kernel
  have inside : m < base64Digits.length := by omega
  have inside' : n < base64Digits.length := by omega
  rw [List.getD_eq_getElem?_getD, List.getD_eq_getElem?_getD, List.getElem?_eq_getElem inside,
    List.getElem?_eq_getElem inside'] at same
  exact nodup.getElem_inj_iff.mp same

/-- Four bytes are known from their digits, of six bits each. -/
private theorem bytes_of_digits {a b c e a' b' c' e' : Nat}
    (bounds : b < 256 ∧ c < 256 ∧ b' < 256 ∧ c' < 256) (first : a / 4 = a' / 4)
    (second : a % 4 * 16 + b / 16 = a' % 4 * 16 + b' / 16)
    (third : b % 16 * 4 + c / 64 = b' % 16 * 4 + c' / 64) (fourth : c % 64 = c' % 64)
    (fifth : e / 4 = e' / 4) (sixth : e % 4 * 16 = e' % 4 * 16) :
    a = a' ∧ b = b' ∧ c = c' ∧ e = e' := by
  omega

theorem base64OfId_encodes : Encodes base64OfId where
  injective := by
    intro i j small small' same
    have digits := String.ofList_injective same
    obtain ⟨first, second, third, fourth, fifth, sixth⟩ :
        _ ∧ _ ∧ _ ∧ _ ∧ _ ∧ _ := by simpa only [List.cons.injEq, and_true] using digits
    have bounded (k n : Nat) : n / 256 ^ k % 256 < 256 := Nat.mod_lt _ (by decide)
    obtain ⟨byte0, byte1, byte2, byte3⟩ := bytes_of_digits
      ⟨bounded 1 i, bounded 2 i, bounded 1 j, bounded 2 j⟩
      (digit_injective (by omega) (by omega) first) (digit_injective (by omega) (by omega) second)
      (digit_injective (by omega) (by omega) third) (digit_injective (by omega) (by omega) fourth)
      (digit_injective (by omega) (by omega) fifth) (digit_injective (by omega) (by omega) sixth)
    clear first second third fourth fifth sixth
    omega
  nonempty := by
    intro i _ same
    cases String.ofList_injective same

private def accepted : OrderAck where
  orderId := 1
  side := .buy
  requestType := .createOrder
  requestStatus := .accepted
  error := .undefined
  price := 80
  routingId := base64OfId 1

/-- Two strategies, the first of which creates an order. -/
private def ordered : List (Action plain) :=
  sampleOpening ++
    [.createStrategy userOrder, .event {
      event := .market 0 future (.marketByPriceUpdate (.best
        { bidPrice := 90, bidQuantity := 1, askPrice := 91, askQuantity := 1 }))
      order := [2, 1] }]

end Examples

end RoqSamples.AlgoProto.Routing
