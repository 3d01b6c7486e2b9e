/- AlgoProto/Parties
   digest: What holds of every strategy together with the dispatcher, carried through the actions of
     the bridge. -/
import RoqSamples.Algo.StrategyRules
import RoqSamples.AlgoProto.Bridge

set_option autoImplicit false
set_option relaxedAutoImplicit false

namespace RoqSamples.AlgoProto

open RoqSamples.Algo
open RoqSamples.Arith (Double)
open RoqSamples.Client (Utils)
open RoqSamples.Execution.Calls
open RoqSamples.Execution.Runs (run run_invariant)

variable {C : Caches}

/-- Every strategy has the first property, and the dispatcher the second one. -/
structure AllParties (I : Spread C → Dispatcher → Prop) (J : Dispatcher → Prop)
    (parties : Map Nat (Spread C) × Dispatcher) : Prop where
  strategies : ∀ strategyId spread, parties.1.lookup strategyId = some spread →
    I spread parties.2
  dispatcher : J parties.2

/-- The assertions that only the bridge makes. -/
def bridgeAssertion : Assertion → Bool
  | .unknownStrategy _ | .unknownRoute | .routingIdGiven => true
  | .notReady | .orderIdTaken _ | .noRoutingId | .undefinedSide => false

namespace Event

def source : Event C → Nat
  | .timer => 0
  | .gateway source _ | .market source _ _ | .orderAck source _ | .orderUpdate source _ => source

/-- What the strategies are called with. -/
def message : Event C → Message C
  | .timer => .timer
  | .gateway _ message => .gateway message
  | .market _ key message => .market key message
  | .orderAck _ ack => .orderAck ack
  | .orderUpdate _ update => .orderUpdate update

def routingId : Event C → Option String
  | .orderAck _ ack => some ack.routingId
  | .orderUpdate _ update => some update.routingId
  | .timer | .gateway _ _ | .market _ _ _ => none

end Event

/-- Discovered sources stay. -/
def Extends (view view' : View C) : Prop :=
  ∀ key source, (view.market key).source = some source →
    (view'.market key).source = some source

namespace Bridge

/-- What has happened once the caches and the counter of the order ids have met an event, and no
strategy has. -/
def arrive (event : Event C) (s : Bridge C) : Bridge C :=
  match event with
  | .timer => s
  | .gateway source message => (s.reported message).cacheGateway source message
  | .market source key message => s.cacheMarket source key message
  | .orderAck _ ack => s.report ack.orderId
  | .orderUpdate _ update => s.report update.orderId

/-- The strategies that hear of an event, in their order. -/
def hearers (s : Bridge C) (occurrence : Occurrence C) : List Nat :=
  match occurrence.event with
  | .timer => occurrence.order
  | .gateway source message =>
      if (C.onGateway message (s.gateways source)).2 then occurrence.order else []
  | .market source key message =>
      if ((s.routes key).market.handle source message).2 then occurrence.order else []
  | .orderAck _ ack => (s.findStrategy ack.routingId).toList
  | .orderUpdate _ update => (s.findStrategy update.routingId).toList

/-- The ways in which an event is handled: those who are to hear of it do, or it finds nobody. -/
theorem onEvent_cases [Utils] (s : Bridge C) (occurrence : Occurrence C) :
    s.onEvent occurrence =
        (s.arrive occurrence.event).notify occurrence.refuses (s.hearers occurrence)
          occurrence.event.source occurrence.event.message ∨
      (∃ routingId, occurrence.event.routingId = some routingId ∧
        s.findStrategy routingId = none ∧
        s.onEvent occurrence =
          (s.arrive occurrence.event, some (.fatal (.unexpectedRoutingId routingId)))) ∨
      ∃ source key message, occurrence.event = .market source key message ∧
        key ∉ s.config.exchangeSymbols ∧
        s.onEvent occurrence = (s.check false .unknownRoute, none) := by
  have orders (refuses : Request → Bool) (source orderId : Nat) (routingId : String)
      (message : Message C) :
      s.onOrder refuses source orderId routingId message =
          (s.report orderId).notify refuses (s.findStrategy routingId).toList source message ∨
        s.findStrategy routingId = none ∧
          s.onOrder refuses source orderId routingId message =
            (s.report orderId, some (.fatal (.unexpectedRoutingId routingId))) := by
    have same : (s.report orderId).findStrategy routingId = s.findStrategy routingId := rfl
    unfold onOrder
    rw [same]
    cases s.findStrategy routingId with
    | none => exact .inr ⟨rfl, rfl⟩
    | some strategyId => exact .inl rfl
  obtain ⟨event, order, refuses⟩ := occurrence
  cases event with
  | timer => exact .inl rfl
  | gateway source message =>
      have same : (s.reported message).gateways = s.gateways := by
        cases message <;> rfl
      left
      show (s.reported message).refresh refuses order source message = _
      unfold refresh
      simp only [arrive, hearers, same]
      split
      · rfl
      · rfl
  | market source key message =>
      show s.dispatch refuses order source key message = _ ∨ _
      by_cases routed : key ∈ s.config.exchangeSymbols
      · left
        simp only [dispatch, if_pos routed, hearers]
        split
        · rfl
        · rfl
      · refine .inr (.inr ⟨source, key, message, rfl, routed, ?_⟩)
        show s.dispatch refuses order source key message = _
        rw [dispatch, if_neg routed]
  | orderAck source ack =>
      rcases orders refuses source ack.orderId ack.routingId (.orderAck ack) with found | lost
      · exact .inl found
      · exact .inr (.inl ⟨ack.routingId, rfl, lost.1, lost.2⟩)
  | orderUpdate source update =>
      rcases orders refuses source update.orderId update.routingId (.orderUpdate update) with
        found | lost
      · exact .inl found
      · exact .inr (.inl ⟨update.routingId, rfl, lost.1, lost.2⟩)

theorem visit_lookup_of_ne {call : Spread C → Dispatcher → (Spread C × Dispatcher) × Option Stop}
    {strategyId j : Nat} (ne : j ≠ strategyId) (parties : Map Nat (Spread C) × Dispatcher) :
    (visit call strategyId parties).1.1.lookup j = parties.1.lookup j := by
  unfold visit
  split
  · rfl
  · exact AList.lookup_insert_ne ne

theorem visit_of_some {call : Spread C → Dispatcher → (Spread C × Dispatcher) × Option Stop}
    {strategyId : Nat} {parties : Map Nat (Spread C) × Dispatcher} {spread : Spread C}
    (found : parties.1.lookup strategyId = some spread) :
    visit call strategyId parties =
      ((parties.1.insert strategyId (call spread parties.2).1.1, (call spread parties.2).1.2),
        (call spread parties.2).2) := by
  simp only [visit, found]

theorem mem_visit {call : Spread C → Dispatcher → (Spread C × Dispatcher) × Option Stop}
    {strategyId j : Nat} {parties : Map Nat (Spread C) × Dispatcher} :
    j ∈ (visit call strategyId parties).1.1 ↔ j ∈ parties.1 := by
  cases found : parties.1.lookup strategyId with
  | none => simp only [visit, found]
  | some spread =>
      rw [visit_of_some found]
      have present := mem_of_lookup found
      constructor
      · intro mem
        rcases (AList.mem_insert _).mp mem with rfl | mem
        · exact present
        · exact mem
      · exact fun mem => (AList.mem_insert _).mpr (.inr mem)

/-- What a call leaves alone in every strategy, a visit leaves alone in all of them. -/
theorem visit_map {V : Type} {f : Spread C → V}
    {call : Spread C → Dispatcher → (Spread C × Dispatcher) × Option Stop}
    (kept : ∀ s d, f (call s d).1.1 = f s) (strategyId : Nat)
    (parties : Map Nat (Spread C) × Dispatcher) (j : Nat) :
    ((visit call strategyId parties).1.1.lookup j).map f = (parties.1.lookup j).map f := by
  by_cases same : j = strategyId
  · subst same
    cases found : parties.1.lookup j with
    | none => simp only [visit, found]
    | some spread =>
        rw [visit_of_some found, AList.lookup_insert, Option.map_some, Option.map_some, kept]
  · rw [visit_lookup_of_ne same]

theorem visit_all {I : Spread C → Dispatcher → Prop} {J : Dispatcher → Prop}
    {call : Spread C → Dispatcher → (Spread C × Dispatcher) × Option Stop}
    (stable : ∀ s (d d' : Dispatcher), d.Grows d' → I s d → I s d')
    (noted : ∀ d assertion, bridgeAssertion assertion = true → J d → J (d.check false assertion))
    (own : ∀ s d, I s d → J d → I (call s d).1.1 (call s d).1.2 ∧ J (call s d).1.2)
    (grows : ∀ s (d : Dispatcher), d.Grows (call s d).1.2) (strategyId : Nat)
    {parties : Map Nat (Spread C) × Dispatcher} (all : AllParties I J parties) :
    AllParties I J (visit call strategyId parties).1 := by
  cases found : parties.1.lookup strategyId with
  | none =>
      simp only [visit, found]
      refine ⟨fun j spread at_j => ?_, noted _ _ rfl all.dispatcher⟩
      have grows := Dispatcher.grows_check false (.unknownStrategy strategyId) parties.2
      exact stable _ _ _ grows (all.strategies j spread at_j)
  | some spread =>
      obtain ⟨here, after⟩ := own spread parties.2 (all.strategies strategyId spread found)
        all.dispatcher
      rw [visit_of_some found]
      refine ⟨fun j other at_j => ?_, after⟩
      by_cases same : j = strategyId
      · subst same
        rw [AList.lookup_insert] at at_j
        cases at_j
        exact here
      · rw [AList.lookup_insert_ne same] at at_j
        exact stable _ _ _ (grows spread parties.2) (all.strategies j other at_j)

theorem mem_notify [Utils] {refuses : Request → Bool} {order : List Nat} {source : Nat}
    {message : Message C} {s : Bridge C} {j : Nat} :
    j ∈ (s.notify refuses order source message).1.strategies ↔ j ∈ s.strategies := by
  refine forEach_invariant (S := Map Nat (Spread C) × Dispatcher)
    (I := fun parties => j ∈ parties.1 ↔ j ∈ s.strategies) ?_ Iff.rfl
  intro strategyId _ parties same
  exact mem_visit.trans same

/-- A single strategy hears of a message. -/
theorem notify_singleton [Utils] {refuses : Request → Bool} {source : Nat} {message : Message C}
    {s : Bridge C} {strategyId : Nat} {spread : Spread C}
    (found : s.strategies.lookup strategyId = some spread) {after : Spread C} {d : Dispatcher}
    (handled : (spread.hear source message).handle (s.context refuses) source message
      s.dispatcher = ((after, d), none)) :
    s.notify refuses [strategyId] source message =
      ({ s with strategies := s.strategies.insert strategyId after, dispatcher := d }, none) := by
  unfold notify
  rw [forEach_singleton, deliver, visit_of_some found, handled]
  rfl

/-- A loop that returns has handed the message over once to every strategy of its list, and to no
other. -/
theorem notify_each [Utils] {refuses : Request → Bool} {order : List Nat} {source : Nat}
    {message : Message C} {s t : Bridge C} (nodup : order.Nodup)
    (returned : s.notify refuses order source message = (t, none)) {strategyId : Nat}
    {spread : Spread C} (found : s.strategies.lookup strategyId = some spread) :
    (strategyId ∈ order → ∃ spread', t.strategies.lookup strategyId = some spread' ∧
        ∃ d d', (spread.hear source message).handle (s.context refuses) source message d =
          ((spread', d'), none)) ∧
      (strategyId ∉ order → t.strategies.lookup strategyId = some spread) := by
  have outcome := congrArg Prod.snd returned
  have final := congrArg (fun result => result.1.strategies) returned
  have each := forEach_each
    (f := deliver (s.context refuses) source message)
    (r := fun parties strategyId => parties.1.lookup strategyId)
    (T := fun spread spread' => ∃ d d',
      (spread.hear source message).handle (s.context refuses) source message d =
        ((spread', d'), none)) nodup ?_ ?_ outcome found
  · rw [← final]
    exact each
  · intro k _ parties v returned found
    rw [deliver, visit_of_some found] at returned ⊢
    refine ⟨_, AList.lookup_insert _, parties.2, _, Prod.ext rfl returned⟩
  · intro k parties j ne
    exact visit_lookup_of_ne ne parties

end Bridge

/-- A property of the strategies and one of the dispatcher, both in view of the markets and
gateways, that all that the bridge does to them preserves. -/
structure PartyInvariant [Utils] (I : View C → Spread C → Dispatcher → Prop)
    (J : View C → Dispatcher → Prop) : Prop where
  stable : ∀ view s (d d' : Dispatcher), d.Grows d' → I view s d → I view s d'
  noted : ∀ view d assertion, bridgeAssertion assertion = true → J view d →
    J view (d.check false assertion)
  reported : ∀ view d orderId, orderId < 2 ^ 64 → J view d → J view (d.report orderId)
  refreshed : ∀ view view', Extends view view' →
    (∀ s d, I view s d → I view' s d) ∧ ∀ d, J view d → J view' d
  heard : ∀ view s d source message, I view s d → I view (s.hear source message) d
  handled : ∀ (context : Context C) source message s d, I context.toView s d →
    J context.toView d →
      I context.toView (s.handle context source message d).1.1
          (s.handle context source message d).1.2 ∧
        J context.toView (s.handle context source message d).1.2
  created : ∀ view d compare instruments routingId request spread,
    Spread.create compare instruments routingId request = .ok spread → I view spread d

theorem grows_handle [Utils] (context : Context C) (source : Nat) (message : Message C)
    (s : Spread C) (d : Dispatcher) : d.Grows (s.handle context source message d).1.2 := by
  refine Spread.handle_keeps (I := fun _ d' => d.Grows d') (fun _ _ => id) ?_ ?_
    (fun _ _ _ _ _ => id) message (Dispatcher.Grows.refl d)
  · intro _ d' holds grows
    exact grows.trans (Dispatcher.grows_check _ _ _)
  · intro s d' price grows _
    exact grows.trans (Base.setTarget_targeted context 0 s.quantity price s.toBase d').grows

namespace Bridge

/-- A property of the parties of a bridge, in its own view. -/
def All (I : View C → Spread C → Dispatcher → Prop) (J : View C → Dispatcher → Prop)
    (s : Bridge C) : Prop :=
  AllParties (I s.view) (J s.view) (s.strategies, s.dispatcher)

section Rules

variable {I : View C → Spread C → Dispatcher → Prop} {J : View C → Dispatcher → Prop}

theorem deliver_all [Utils] (inv : PartyInvariant I J) (context : Context C) (source : Nat)
    (message : Message C) (strategyId : Nat) {parties : Map Nat (Spread C) × Dispatcher}
    (all : AllParties (I context.toView) (J context.toView) parties) :
    AllParties (I context.toView) (J context.toView)
      (deliver context source message strategyId parties).1 := by
  refine visit_all (inv.stable context.toView) (inv.noted context.toView) ?_ ?_ strategyId all
  · intro spread d here dispatcher
    exact inv.handled context source message _ d
      (inv.heard context.toView spread d source message here) dispatcher
  · intro spread d
    exact grows_handle _ _ _ _ d

theorem all_notify [Utils] (inv : PartyInvariant I J) {s : Bridge C} (all : s.All I J)
    (refuses : Request → Bool) (order : List Nat) (source : Nat) (message : Message C) :
    (s.notify refuses order source message).1.All I J := by
  refine forEach_invariant (I := AllParties (I s.view) (J s.view)) ?_ all
  intro strategyId _ parties all
  exact deliver_all inv (s.context refuses) source message strategyId all

theorem all_report [Utils] (inv : PartyInvariant I J) {s : Bridge C} (all : s.All I J)
    {orderId : Nat} (bounded : orderId < 2 ^ 64) : (s.report orderId).All I J := by
  refine ⟨fun strategyId spread found => ?_, inv.reported _ _ orderId bounded all.dispatcher⟩
  exact inv.stable _ _ s.dispatcher _ (Dispatcher.grows_report _ _)
    (all.strategies strategyId spread found)

theorem all_check [Utils] (inv : PartyInvariant I J) {s : Bridge C} (all : s.All I J) (holds : Bool)
    (assertion : Assertion) (ofBridge : bridgeAssertion assertion = true) :
    (s.check holds assertion).All I J := by
  have grows := Dispatcher.grows_check holds assertion s.dispatcher
  refine ⟨fun strategyId spread found => ?_, ?_⟩
  · exact inv.stable _ _ _ _ grows (all.strategies strategyId spread found)
  · cases holds with
    | true => exact all.dispatcher
    | false => exact inv.noted _ _ _ ofBridge all.dispatcher

theorem all_refreshed [Utils] (inv : PartyInvariant I J) {s t : Bridge C} (all : s.All I J)
    (strategies : t.strategies = s.strategies) (dispatcher : t.dispatcher = s.dispatcher)
    (extends_ : Extends s.view t.view) : t.All I J := by
  obtain ⟨ofStrategy, ofDispatcher⟩ := inv.refreshed s.view t.view extends_
  refine ⟨?_, ?_⟩
  · rw [strategies, dispatcher]
    exact fun strategyId spread found => ofStrategy _ _ (all.strategies strategyId spread found)
  · rw [dispatcher]
    exact ofDispatcher _ all.dispatcher

/-- A handler of a market keeps the source that it has, and discovers one that it has not. -/
theorem handle_source (source : Nat) (message : MarketMessage C.Payload) (m : Market C) :
    (m.handle source message).1.source = some (m.source.getD source) := rfl

theorem extends_cacheMarket (s : Bridge C) (source : Nat) (key : Key)
    (message : MarketMessage C.Payload) :
    Extends s.view (s.cacheMarket source key message).view := by
  intro j known discovered
  by_cases same : j = key
  · subst same
    have kept : (s.routes j).market.source = some known := discovered
    simp only [view, cacheMarket, Function.update_self]
    rw [handle_source, kept, Option.getD_some]
  · simp only [view, cacheMarket, Function.update_of_ne same]
    exact discovered

theorem all_reported [Utils] (inv : PartyInvariant I J) {s : Bridge C} (all : s.All I J)
    {source : Nat} {message : GatewayMessage C.Payload}
    (bounded : (Event.gateway source message).orderId < 2 ^ 64) :
    (s.reported message).All I J := by
  cases message with
  | downloadEnd maxOrderId payload => exact all_report inv all bounded
  | connected | disconnected | downloadBegin | gatewaySettings | gatewayStatus => exact all

theorem all_arrive [Utils] (inv : PartyInvariant I J) {s : Bridge C} (all : s.All I J)
    {event : Event C} (bounded : event.orderId < 2 ^ 64) : (s.arrive event).All I J := by
  cases event with
  | timer => exact all
  | gateway source message =>
      exact all_refreshed inv (all_reported inv all bounded) rfl rfl fun _ _ => id
  | market source key message =>
      exact all_refreshed inv all rfl rfl (extends_cacheMarket s source key message)
  | orderAck | orderUpdate => exact all_report inv all bounded

theorem all_onEvent [Utils] (inv : PartyInvariant I J) {s : Bridge C} (all : s.All I J)
    {occurrence : Occurrence C} (bounded : occurrence.event.orderId < 2 ^ 64) :
    (s.onEvent occurrence).1.All I J := by
  have arrived := all_arrive inv all bounded
  rcases onEvent_cases s occurrence with heard | ⟨_, _, _, lost⟩ | ⟨_, _, _, _, _, lost⟩
  · rw [heard]
    exact all_notify inv arrived _ _ _ _
  · rw [lost]
    exact arrived
  · rw [lost]
    exact all_check inv all false _ rfl

theorem view_addStrategy (spread : Spread C) (s : Bridge C) :
    (s.addStrategy spread).view = s.view := by
  have market (key : Key) :
      (if key ∈ spread.instruments.map Instrument.key then (s.routes key).add s.strategyId
        else s.routes key).market = (s.routes key).market := by
    split <;> rfl
  simp only [view, addStrategy, market]

theorem lookup_addStrategy {s : Bridge C} {spread other : Spread C} {strategyId : Nat}
    (fresh : s.strategyId ∉ s.strategies)
    (found : (s.addStrategy spread).strategies.lookup strategyId = some other) :
    strategyId = s.strategyId ∧ other = spread ∨
      strategyId ≠ s.strategyId ∧ s.strategies.lookup strategyId = some other := by
  have found : (emplace s.strategyId spread s.strategies).lookup strategyId = some other := found
  by_cases here : strategyId = s.strategyId
  · subst here
    rw [lookup_emplace_of_fresh fresh] at found
    cases found
    exact .inl ⟨rfl, rfl⟩
  · rw [lookup_emplace_of_ne here] at found
    exact .inr ⟨here, found⟩

theorem all_addStrategy {s : Bridge C} (all : s.All I J) {spread : Spread C}
    (created : I s.view spread s.dispatcher) (fresh : s.strategyId ∉ s.strategies) :
    (s.addStrategy spread).All I J := by
  unfold All
  rw [view_addStrategy]
  refine ⟨fun strategyId other found => ?_, all.dispatcher⟩
  rcases lookup_addStrategy fresh found with ⟨_, rfl⟩ | ⟨_, before⟩
  · exact created
  · exact all.strategies strategyId other before

theorem all_createStrategy [Utils] (inv : PartyInvariant I J) {s : Bridge C} (all : s.All I J)
    (encode : Nat → String) (compare : Double → Double → Ordering) (request : CreateOrder) :
    (s.createStrategy encode compare request).1.All I J := by
  have numbered : s.numbered.All I J := all_refreshed inv all rfl rfl fun _ _ => id
  have noted := all_check inv numbered (request.routingId = "") .routingIdGiven rfl
  unfold createStrategy
  split
  · exact all
  · unfold instantiate
    split
    · exact numbered
    · split
      · exact numbered
      · rename_i spread create
        split
        · exact noted
        · rename_i fresh
          exact all_addStrategy noted (inv.created _ _ _ _ _ _ _ create) fresh

/-- What arrives sends nothing. -/
theorem arrive_log (event : Event C) (s : Bridge C) :
    ∃ more, (s.arrive event).dispatcher.log = s.dispatcher.log ++ more ∧
      ∀ request source, Entry.sent request source ∉ more := by
  have quiet : s.dispatcher.log = s.dispatcher.log ++ [] := (List.append_nil _).symm
  have reports (orderId : Nat) (request : Request) (source : Option Nat) :
      Entry.sent request source ∉ [Entry.reported orderId] := fun mem =>
    Entry.noConfusion (List.mem_singleton.mp mem)
  cases event with
  | timer => exact ⟨[], quiet, fun _ _ mem => List.not_mem_nil mem⟩
  | market source key message => exact ⟨[], quiet, fun _ _ mem => List.not_mem_nil mem⟩
  | orderAck source ack => exact ⟨_, rfl, reports ack.orderId⟩
  | orderUpdate source update => exact ⟨_, rfl, reports update.orderId⟩
  | gateway source message =>
      cases message with
      | downloadEnd maxOrderId payload => exact ⟨_, rfl, reports maxOrderId⟩
      | connected | disconnected | downloadBegin | gatewaySettings | gatewayStatus =>
          exact ⟨[], quiet, fun _ _ mem => List.not_mem_nil mem⟩

theorem arrive_grows (event : Event C) (s : Bridge C) :
    s.dispatcher.Grows (s.arrive event).dispatcher := by
  have refl := Dispatcher.Grows.refl s.dispatcher
  cases event with
  | timer | market => exact refl
  | orderAck | orderUpdate => exact Dispatcher.grows_report _ _
  | gateway source message =>
      cases message with
      | downloadEnd => exact Dispatcher.grows_report _ _
      | connected | disconnected | downloadBegin | gatewaySettings | gatewayStatus => exact refl

/-- The creation of a strategy leaves the dispatcher alone, apart from an assertion. -/
theorem createStrategy_dispatcher (encode : Nat → String) (compare : Double → Double → Ordering)
    (user : CreateOrder) (s : Bridge C) :
    ∃ holds, (s.createStrategy encode compare user).1.dispatcher =
      s.dispatcher.check holds .routingIdGiven := by
  unfold createStrategy
  split
  · exact ⟨true, rfl⟩
  · unfold instantiate
    split
    · exact ⟨true, rfl⟩
    · split
      · exact ⟨true, rfl⟩
      · split
        · exact ⟨_, rfl⟩
        · exact ⟨_, rfl⟩

/-- What a call of `create_strategy` that returns has done. -/
theorem createStrategy_returned {encode : Nat → String} {compare : Double → Double → Ordering}
    {request : CreateOrder} {s t : Bridge C}
    (returned : s.createStrategy encode compare request = (t, none)) :
    ∃ strategy spread, s.config.strategies.lookup request.symbol = some strategy ∧
      Spread.create compare strategy.instruments (encode s.numbered.strategyId) request =
        .ok spread ∧
      s.numbered.strategyId ∉ s.strategies ∧
      t = (s.numbered.check (request.routingId = "") .routingIdGiven).addStrategy spread := by
  unfold createStrategy at returned
  split at returned
  · cases returned
  · rename_i strategy found
    unfold instantiate at returned
    split at returned
    · cases returned
    · split at returned
      · cases returned
      · rename_i spread create
        split at returned
        · cases returned
        · rename_i fresh
          cases returned
          exact ⟨strategy, spread, found, create, fresh, rfl⟩

variable [Utils]

/-- The rule for the actions: an invariant of the parties that calls of `set_target` for their own
sake preserve, if there are any, is preserved by every action. -/
theorem all_perform (inv : PartyInvariant I J) {s : Bridge C} (all : s.All I J)
    (encode : Nat → String) (compare : Double → Double → Ordering) {action : Action C}
    (possible : s.Possible action)
    (targets : ∀ strategyId position quantity price refuses,
      action = .setTarget strategyId position quantity price refuses →
        ∀ spread d, I s.view spread d → J s.view d →
          I s.view (spread.setTarget (s.context refuses) position quantity price d).1.1
              (spread.setTarget (s.context refuses) position quantity price d).1.2 ∧
            J s.view (spread.setTarget (s.context refuses) position quantity price d).1.2) :
    (s.perform encode compare action).1.All I J := by
  cases action with
  | createStrategy request => exact all_createStrategy inv all encode compare request
  | event occurrence => exact all_onEvent inv all possible.2
  | setTarget strategyId position quantity price refuses =>
      refine visit_all (inv.stable s.view) (inv.noted s.view)
        (targets strategyId position quantity price refuses rfl) ?_ strategyId all
      intro spread d
      exact (Base.setTarget_targeted (s.context refuses) position quantity price spread.toBase
        d).grows

theorem nextCaught_eq_some {encode : Nat → String} {compare : Double → Double → Ordering}
    {s t : Bridge C} {action : Action C} (taken : s.nextCaught encode compare action = some t) :
    s.Possible action ∧ t = (s.perform encode compare action).1 := by
  unfold nextCaught at taken
  split at taken
  · rename_i possible
    split at taken
    · rename_i performed
      cases taken
      exact ⟨possible, by rw [performed]⟩
    · rename_i performed
      split at taken
      · cases taken
        exact ⟨possible, by rw [performed]⟩
      · cases taken
  · cases taken

theorem nextUncaught_eq_some {encode : Nat → String} {compare : Double → Double → Ordering}
    {s t : Bridge C} {action : Action C} (taken : s.nextUncaught encode compare action = some t) :
    s.Possible action ∧ s.perform encode compare action = (t, none) := by
  unfold nextUncaught at taken
  split at taken
  · rename_i possible
    split at taken
    · rename_i performed
      cases taken
      exact ⟨possible, performed⟩
    · cases taken
  · cases taken

/-- An invariant of the parties that `set_target` preserves too holds in every state that is
reached, with every exception caught. -/
theorem all_reached (inv : PartyInvariant I J)
    (targets : ∀ (context : Context C) position quantity price s d, I context.toView s d →
      J context.toView d →
        I context.toView (s.setTarget context position quantity price d).1.1
            (s.setTarget context position quantity price d).1.2 ∧
          J context.toView (s.setTarget context position quantity price d).1.2)
    {encode : Nat → String} {compare : Double → Double → Ordering} {config : Config}
    {actions : List (Action C)} {t : Bridge C} (start : J (initial C config).view {})
    (reached : run (nextCaught encode compare) (initial C config) actions = some t) :
    t.All I J := by
  have empty : (initial C config).All I J := by
    exact ⟨fun _ _ found => (lookup_empty_ne found).elim, start⟩
  refine run_invariant (I := All I J) ?_ empty reached
  intro s action t all taken
  obtain ⟨possible, rfl⟩ := nextCaught_eq_some taken
  exact all_perform inv all encode compare possible fun _ position quantity price refuses _ =>
    targets (s.context refuses) position quantity price

end Rules

end Bridge

end RoqSamples.AlgoProto
