/- AlgoProto/Readiness
   digest: A strategy is ready exactly when all of its instruments are, although it only recomputes
     those of the source that an event comes from. -/
import RoqSamples.AlgoProto.Parties

set_option autoImplicit false
set_option relaxedAutoImplicit false

namespace RoqSamples.AlgoProto.Readiness

open RoqSamples.Algo
open RoqSamples.Arith (Double)
open RoqSamples.Client (Utils)
open RoqSamples.Execution.Calls
open RoqSamples.Execution.Runs

variable {C : Caches}

/-- The market of the instrument has discovered its source, and the instrument is ready on the
current caches. -/
def isReady [Utils] (view : View C) (account : String) (instrument : Instrument) : Bool :=
  match (view.market instrument.key).source with
  | none => false
  | some source =>
      Instrument.ready C (view.gateway source) (view.market instrument.key).market account

/-- The callbacks are Ready and NotReady in turns, with Ready as the first one. -/
def Alternates (callbacks : List Bool) : Prop :=
  ∀ (position : Nat) (callback : Bool), callbacks[position]? = some callback →
    callback = decide (position % 2 = 0)

/-- Every strategy is ready when all of its instruments are, its callbacks alternate, and no target
has been set while a strategy was not ready. -/
structure Synced [Utils] (s : Bridge C) : Prop where
  ready : ∀ (strategyId : Nat) (spread : Spread C), s.strategies.lookup strategyId = some spread →
    spread.ready = spread.instruments.all (isReady s.view spread.account)
  callbacks : ∀ (strategyId : Nat) (spread : Spread C),
    s.strategies.lookup strategyId = some spread → Alternates spread.callbacks
  asserted : Assertion.notReady ∉ s.dispatcher.failures

/-- Messages of a market come from the source that the market originates from. -/
def Originates (origin : Key → Nat) : Event C → Prop
  | .market source key _ => source = origin key
  | .timer | .gateway _ _ | .orderAck _ _ | .orderUpdate _ _ => True

instance (origin : Key → Nat) : ∀ event : Event C, Decidable (Originates origin event)
  | .market source key _ => inferInstanceAs (Decidable (source = origin key))
  | .timer | .gateway _ _ | .orderAck _ _ | .orderUpdate _ _ => inferInstanceAs (Decidable True)

/-- What a strategy has cached is what its instruments are in the given view. -/
private structure Consistent [Utils] (view : View C) (b : Base) : Prop where
  flags : b.readyByInstrument = b.instruments.map (isReady view b.account)
  ready : b.ready = b.readyByInstrument.all id
  callbacks : Alternates b.callbacks
  last : b.ready = decide (b.callbacks.length % 2 = 1)

private theorem consistent_steady [Utils] {view : View C} {b b' : Base} (steady : Base.Steady b b')
    (consistent : Consistent view b) : Consistent view b' where
  flags := by
    rw [steady.readyByInstrument, steady.instruments, steady.account]
    exact consistent.flags
  ready := by
    rw [steady.ready, steady.readyByInstrument]
    exact consistent.ready
  callbacks := by
    rw [steady.callbacks]
    exact consistent.callbacks
  last := by
    rw [steady.ready, steady.callbacks]
    exact consistent.last

/-- A view that makes no difference to the instruments. -/
private theorem consistent_view [Utils] {view view' : View C} {b : Base}
    (same : ∀ instrument ∈ b.instruments,
      isReady view' b.account instrument = isReady view b.account instrument)
    (consistent : Consistent view b) : Consistent view' b where
  flags := by
    rw [consistent.flags]
    exact List.map_congr_left fun instrument mem => (same instrument mem).symm
  ready := consistent.ready
  callbacks := consistent.callbacks
  last := consistent.last

private theorem alternates_append {callbacks : List Bool} (alternates : Alternates callbacks)
    {callback : Bool} (turn : callback = decide (callbacks.length % 2 = 0)) :
    Alternates (callbacks ++ [callback]) := by
  intro position other found
  by_cases before : position < callbacks.length
  · rw [List.getElem?_append_left before] at found
    exact alternates position other found
  · have last : position = callbacks.length := by
      have bound : position < (callbacks ++ [callback]).length := by
        obtain ⟨inside, _⟩ := List.getElem?_eq_some_iff.mp found
        exact inside
      rw [List.length_append, List.length_singleton] at bound
      omega
    subst last
    rw [List.getElem?_concat_length] at found
    cases found
    exact turn

/-- An instrument of the source is recomputed; it is enough that the others are as before. -/
private theorem flags_update [Utils] {view view' : View C} {source : Nat} {account : String}
    {instruments : List Instrument}
    (same : ∀ instrument ∈ instruments, (view'.market instrument.key).source ≠ some source →
      isReady view' account instrument = isReady view account instrument) :
    List.zipWith (fun instrument result => view'.ready instrument source account result)
        instruments (instruments.map (isReady view account)) =
      instruments.map (isReady view' account) := by
  rw [List.zipWith_map_right, List.zipWith_self]
  refine List.map_congr_left fun instrument mem => ?_
  unfold View.ready
  split
  · rename_i discovered
    simp only [isReady, discovered]
  · rename_i other
    exact (same instrument mem other).symm

/-- A change of the flag comes in turn. -/
private theorem turn_of_change {before after : Bool} {n : Nat} (differs : before ≠ after)
    (last : before = decide (n % 2 = 1)) :
    after = decide (n % 2 = 0) ∧ after = decide ((n + 1) % 2 = 1) := by
  have flipped : after = !before := Bool.eq_not_of_ne differs.symm
  rw [flipped, last]
  rcases Nat.mod_two_eq_zero_or_one n with even | odd
  · have odd' : (n + 1) % 2 = 1 := by omega
    simp [even, odd']
  · have even' : (n + 1) % 2 = 0 := by omega
    simp [odd, even']

section Consistency

variable [Utils]

private theorem consistent_update {view view' : View C} {source : Nat} {b : Base}
    (same : ∀ instrument ∈ b.instruments, (view'.market instrument.key).source ≠ some source →
      isReady view' b.account instrument = isReady view b.account instrument)
    (consistent : Consistent view b) : Consistent view' (b.update view' source).1 := by
  have flags := flags_update same
  rw [← consistent.flags] at flags
  unfold Base.update
  simp only [flags]
  split
  · rename_i changed
    have differs : b.ready ≠ (b.instruments.map (isReady view' b.account)).all id := by
      simpa using changed
    obtain ⟨turn, last⟩ := turn_of_change differs consistent.last
    exact ⟨rfl, rfl, alternates_append consistent.callbacks turn, by
      rw [List.length_append, List.length_singleton]
      exact last⟩
  · rename_i unchanged
    have same : b.ready = (b.instruments.map (isReady view' b.account)).all id := by
      simpa using unchanged
    exact ⟨rfl, same, consistent.callbacks, consistent.last⟩

/-- The messages after which the flags are recomputed. -/
private def refreshes : Message C → Bool
  | .gateway _ | .market _ (.referenceData _) | .market _ (.marketStatus _) => true
  | .timer | .market _ (.topOfBook _) | .market _ (.marketByPriceUpdate _) | .orderAck _
  | .orderUpdate _ => false

private theorem steady_update (context : Context C) (s : Spread C) (d : Dispatcher) :
    Base.Steady s.toBase (s.update context d).1.1.toBase := by
  have updated := Spread.update_updated context s d
  generalize s.update context d = result at updated
  cases updated with
  | idle | outOfRange => exact Base.Steady.refl _
  | targets price => exact (Base.setTarget_targeted context 0 s.quantity price s.toBase d).steady

/-- A handler recomputes the flags, or leaves them alone. -/
private theorem steady_handle (context : Context C) (source : Nat) (message : Message C)
    (s : Spread C) (d : Dispatcher) :
    Base.Steady
      (if refreshes message then (s.toBase.update context.toView source).1 else s.toBase)
      (s.handle context source message d).1.1.toBase := by
  have notified : Base.Steady (s.toBase.update context.toView source).1
      (s.notify context source d).1.1.toBase := by
    unfold Spread.notify
    split
    · rename_i b updated
      rw [updated]
      exact steady_update context (s.withBase b) d
    all_goals
      rename_i b updated
      rw [updated]
      exact Base.Steady.refl b
  cases message with
  | timer => exact Base.Steady.refl _
  | gateway message => exact notified
  | orderAck | orderUpdate => exact Base.steady_dispatch _ _ s.toBase
  | market key message =>
      cases message with
      | referenceData | marketStatus => exact notified
      | topOfBook => exact Base.Steady.refl _
      | marketByPriceUpdate => exact steady_update context s d

/-- A strategy that hears of an event is consistent with the caches after it, if the view makes no
difference to the instruments that are not recomputed. -/
private theorem consistent_handle {view : View C} (context : Context C) (source : Nat)
    (message : Message C) {s : Spread C} (d : Dispatcher)
    (same : ∀ instrument ∈ s.instruments,
      (refreshes message = true →
        (context.market instrument.key).source ≠ some source) →
      isReady context.toView s.account instrument = isReady view s.account instrument)
    (consistent : Consistent view s.toBase) :
    Consistent context.toView (s.handle context source message d).1.1.toBase := by
  refine consistent_steady (steady_handle context source message s d) ?_
  split
  · refine consistent_update (fun instrument mem other => ?_) consistent
    exact same instrument mem fun _ => other
  · rename_i quiet
    refine consistent_view (fun instrument mem => ?_) consistent
    exact same instrument mem fun up => (quiet up).elim

/-- A market either has its source, or it has never been touched and is not OPEN. -/
private def Discovered (origin : Key → Nat) (key : Key) (m : Market C) : Prop :=
  m.source = none ∧ C.tradingStatus m.market ≠ .«open» ∨ m.source = some (origin key)

/-- The strategies are consistent with the caches, and the routes of their instruments lead to
them. -/
private structure Coherent (origin : Key → Nat) (s : Bridge C) : Prop where
  sources : ∀ key, Discovered origin key (s.routes key).market
  distinct : ∀ key, (s.routes key).strategies.Nodup
  consistent : ∀ (strategyId : Nat) (spread : Spread C),
    s.strategies.lookup strategyId = some spread → Consistent s.view spread.toBase
  routed : ∀ (strategyId : Nat) (spread : Spread C),
    s.strategies.lookup strategyId = some spread → ∀ instrument ∈ spread.instruments,
      strategyId ∈ (s.routes instrument.key).strategies

private theorem lookup_of_notify {refuses : Request → Bool} {order : List Nat} {source : Nat}
    {message : Message C} {s t : Bridge C}
    (returned : s.notify refuses order source message = (t, none)) {strategyId : Nat}
    {spread : Spread C} (found : t.strategies.lookup strategyId = some spread) :
    ∃ before, s.strategies.lookup strategyId = some before := by
  have present := mem_of_lookup found
  have final : (s.notify refuses order source message).1 = t := congrArg Prod.fst returned
  rw [← final, Bridge.mem_notify] at present
  exact exists_lookup present

/-- The loop over the strategies that hear of an event, after the caches have handled it: it is
enough that the new view makes no difference to what is not recomputed. -/
private theorem coherent_notify {origin : Key → Nat} {refuses : Request → Bool} {order : List Nat}
    {source : Nat} {message : Message C} {s s' t : Bridge C} (nodup : order.Nodup)
    (returned : s'.notify refuses order source message = (t, none))
    (strategies : s'.strategies = s.strategies)
    (sources : ∀ key, Discovered origin key (s'.routes key).market)
    (listeners : ∀ key, (s'.routes key).strategies = (s.routes key).strategies)
    (coherent : Coherent origin s)
    (heard : ∀ strategyId spread, s.strategies.lookup strategyId = some spread →
      strategyId ∈ order → ∀ instrument ∈ spread.instruments,
        (refreshes message = true → (s'.view.market instrument.key).source ≠ some source) →
        isReady s'.view spread.account instrument = isReady s.view spread.account instrument)
    (unheard : ∀ strategyId spread, s.strategies.lookup strategyId = some spread →
      strategyId ∉ order → ∀ instrument ∈ spread.instruments,
        isReady s'.view spread.account instrument = isReady s.view spread.account instrument) :
    Coherent origin t := by
  have view : t.view = s'.view := congrArg (fun result => result.1.view) returned.symm
  have routes : t.routes = s'.routes := congrArg (fun result => result.1.routes) returned.symm
  have each (strategyId : Nat) (spread : Spread C)
      (found : t.strategies.lookup strategyId = some spread) :
      Consistent t.view spread.toBase ∧ ∀ instrument ∈ spread.instruments,
        strategyId ∈ (t.routes instrument.key).strategies := by
    obtain ⟨before, earlier⟩ := lookup_of_notify returned found
    obtain ⟨visited, skipped⟩ := Bridge.notify_each nodup returned earlier
    rw [strategies] at earlier
    have consistent := coherent.consistent strategyId before earlier
    have routed := coherent.routed strategyId before earlier
    rw [view, routes]
    by_cases mem : strategyId ∈ order
    · obtain ⟨after, found', d, d', handled⟩ := visited mem
      rw [found'] at found
      cases found
      have heard := consistent_handle (s'.context refuses) source message
        (s := before.hear source message) d (heard strategyId before earlier mem) consistent
      obtain ⟨kept, _⟩ := Spread.handle_card (s'.context refuses) source message
        (before.hear source message) d
      rw [handled] at heard kept
      refine ⟨heard, fun instrument listed => ?_⟩
      rw [listeners]
      exact routed instrument (kept ▸ listed)
    · have found' := skipped mem
      rw [found'] at found
      cases found
      refine ⟨consistent_view (unheard strategyId _ earlier mem) consistent, ?_⟩
      intro instrument listed
      rw [listeners]
      exact routed instrument listed
  exact ⟨by rwa [routes], fun key => by rw [routes, listeners]; exact coherent.distinct key,
    fun strategyId spread found => (each strategyId spread found).1,
    fun strategyId spread found => (each strategyId spread found).2⟩

/-- A cache of a gateway concerns the instruments of its source alone. -/
private theorem isReady_cacheGateway {s : Bridge C} {source : Nat}
    {message : GatewayMessage C.Payload} {instrument : Instrument} (account : String)
    (other : (s.routes instrument.key).market.source ≠ some source) :
    isReady (s.cacheGateway source message).view account instrument =
      isReady s.view account instrument := by
  unfold isReady
  simp only [Bridge.view, Bridge.cacheGateway]
  split
  · rfl
  · rename_i known discovered
    have ne : known ≠ source := by
      rintro rfl
      exact other discovered
    rw [Function.update_of_ne ne]

/-- A gateway that reports no change makes no difference. -/
private theorem isReady_of_unreported (reporting : C.Reporting) {s : Bridge C} {source : Nat}
    {message : GatewayMessage C.Payload}
    (unchanged : (C.onGateway message (s.gateways source)).2 = false) (account : String)
    (instrument : Instrument) :
    isReady (s.cacheGateway source message).view account instrument =
      isReady s.view account instrument := by
  by_cases here : (s.routes instrument.key).market.source = some source
  · have same := reporting.gateway message (s.gateways source) unchanged
    simp only [isReady, Bridge.view, Bridge.cacheGateway, here, Function.update_self,
      Instrument.ready_eq, same]
  · exact isReady_cacheGateway account here

/-- A message of a market concerns the instruments of this market alone. -/
private theorem isReady_cacheMarket_of_ne {s : Bridge C} {source : Nat} {key : Key}
    {message : MarketMessage C.Payload} {instrument : Instrument} (account : String)
    (other : instrument.key ≠ key) :
    isReady (s.cacheMarket source key message).view account instrument =
      isReady s.view account instrument := by
  simp only [isReady, Bridge.view, Bridge.cacheMarket, Function.update_of_ne other]

/-- A message that neither writes the tick size nor the trading status makes no difference, even
when it is the one by which the source is discovered. -/
private theorem isReady_of_unwritten {origin : Key → Nat} {s : Bridge C} {key : Key}
    {message : MarketMessage C.Payload} (sources : Discovered origin key (s.routes key).market)
    (unwritten :
      C.tickSize (C.onMarket message (s.routes key).market.market).1 =
          C.tickSize (s.routes key).market.market ∧
        C.tradingStatus (C.onMarket message (s.routes key).market.market).1 =
          C.tradingStatus (s.routes key).market.market) (account : String)
    (instrument : Instrument) :
    isReady (s.cacheMarket (origin key) key message).view account instrument =
      isReady s.view account instrument := by
  by_cases here : instrument.key = key
  · obtain ⟨tickSize, tradingStatus⟩ := unwritten
    rcases sources with ⟨undiscovered, closed⟩ | discovered
    · simp [isReady, Bridge.view, Bridge.cacheMarket, here, Market.handle, undiscovered,
        Instrument.ready_eq, tradingStatus, closed]
    · simp [isReady, Bridge.view, Bridge.cacheMarket, here, Market.handle, discovered,
        Instrument.ready_eq, tickSize, tradingStatus]
  · exact isReady_cacheMarket_of_ne account here

end Consistency

private theorem cacheMarket_source {origin : Key → Nat} {s : Bridge C}
    (sources : ∀ key, Discovered origin key (s.routes key).market) (key : Key)
    (message : MarketMessage C.Payload) :
    ((s.cacheMarket (origin key) key message).routes key).market.source = some (origin key) := by
  simp only [Bridge.cacheMarket, Function.update_self, Bridge.handle_source]
  rcases sources key with ⟨undiscovered, _⟩ | discovered
  · rw [undiscovered, Option.getD_none]
  · rw [discovered, Option.getD_some]

private theorem discovered_cacheMarket {origin : Key → Nat} {s : Bridge C}
    (sources : ∀ key, Discovered origin key (s.routes key).market) (key : Key)
    (message : MarketMessage C.Payload) (j : Key) :
    Discovered origin j ((s.cacheMarket (origin key) key message).routes j).market := by
  by_cases here : j = key
  · subst here
    exact .inr (cacheMarket_source sources j message)
  · simp only [Bridge.cacheMarket, Function.update_of_ne here]
    exact sources j

private theorem cacheMarket_strategies {s : Bridge C} {source : Nat} {key : Key}
    {message : MarketMessage C.Payload} (j : Key) :
    ((s.cacheMarket source key message).routes j).strategies = (s.routes j).strategies := by
  by_cases here : j = key
  · subst here
    simp only [Bridge.cacheMarket, Function.update_self]
  · simp only [Bridge.cacheMarket, Function.update_of_ne here]

section Coherence

variable [Utils]

/-- A bridge that has the same strategies, and a view that makes no difference. -/
private theorem coherent_of_view {origin : Key → Nat} {s t : Bridge C}
    (strategies : t.strategies = s.strategies)
    (sources : ∀ key, Discovered origin key (t.routes key).market)
    (listeners : ∀ key, (t.routes key).strategies = (s.routes key).strategies)
    (same : ∀ account instrument,
      isReady t.view account instrument = isReady s.view account instrument)
    (coherent : Coherent origin s) : Coherent origin t := by
  refine ⟨sources, fun key => ?_, ?_, ?_⟩
  · rw [listeners]
    exact coherent.distinct key
  · intro strategyId spread found
    rw [strategies] at found
    exact consistent_view (fun instrument _ => same _ instrument)
      (coherent.consistent strategyId spread found)
  · intro strategyId spread found instrument mem
    rw [strategies] at found
    rw [listeners]
    exact coherent.routed strategyId spread found instrument mem

private theorem coherent_dispatch (reporting : C.Reporting) {origin : Key → Nat}
    {refuses : Request → Bool} {order : List Nat} {key : Key} {message : MarketMessage C.Payload}
    {s t : Bridge C} (coherent : Coherent origin s) (once : order.Perm (s.routes key).strategies)
    (returned : s.dispatch refuses order (origin key) key message = (t, none)) :
    Coherent origin t := by
  unfold Bridge.dispatch at returned
  split at returned
  · split at returned
    · have nodup := once.nodup_iff.mpr (coherent.distinct key)
      refine coherent_notify (s := s) nodup returned rfl
        (discovered_cacheMarket coherent.sources key message) cacheMarket_strategies coherent ?_ ?_
      · intro strategyId spread found _ instrument mem notRefreshed
        cases message with
        | topOfBook payload =>
            exact isReady_of_unwritten (coherent.sources key) (reporting.topOfBook payload _) _ _
        | marketByPriceUpdate payload =>
            exact isReady_of_unwritten (coherent.sources key)
              (reporting.marketByPriceUpdate payload _) _ _
        | referenceData | marketStatus =>
            refine isReady_cacheMarket_of_ne _ fun here => notRefreshed rfl ?_
            rw [here]
            exact cacheMarket_source coherent.sources key _
      · intro strategyId spread found absent instrument mem
        refine isReady_cacheMarket_of_ne _ fun here => absent ?_
        have routed := coherent.routed strategyId spread found instrument mem
        rw [here] at routed
        exact once.mem_iff.mpr routed
    · rename_i unchanged
      have unchanged : (C.onMarket message (s.routes key).market.market).2 = false :=
        eq_false_of_ne_true unchanged
      cases returned
      exact coherent_of_view (s := s) rfl (discovered_cacheMarket coherent.sources key message)
        cacheMarket_strategies
        (isReady_of_unwritten (coherent.sources key) (reporting.market message _ unchanged))
        coherent
  · cases returned
    exact coherent_of_view (s := s) rfl coherent.sources (fun _ => rfl) (fun _ _ => rfl) coherent

private theorem coherent_onGateway (reporting : C.Reporting) {origin : Key → Nat}
    {refuses : Request → Bool} {order : List Nat} {source : Nat}
    {message : GatewayMessage C.Payload} {s t : Bridge C} (coherent : Coherent origin s)
    (once : order.Perm s.strategies.keys)
    (returned : s.refresh refuses order source message = (t, none)) : Coherent origin t := by
  unfold Bridge.refresh at returned
  split at returned
  · have nodup := once.nodup_iff.mpr s.strategies.keys_nodup
    refine coherent_notify (s := s) nodup returned rfl coherent.sources (fun _ => rfl) coherent
      ?_ ?_
    · intro strategyId spread found _ instrument mem notRefreshed
      exact isReady_cacheGateway _ (notRefreshed rfl)
    · intro strategyId spread found absent
      have present := mem_of_lookup found
      exact (absent (once.mem_iff.mpr (AList.mem_keys.mp present))).elim
  · rename_i unchanged
    cases returned
    exact coherent_of_view (s := s) rfl coherent.sources (fun _ => rfl)
      (isReady_of_unreported reporting (eq_false_of_ne_true unchanged)) coherent

private theorem coherent_reported {origin : Key → Nat} {s : Bridge C}
    (coherent : Coherent origin s) (message : GatewayMessage C.Payload) :
    Coherent origin (s.reported message) := by
  cases message with
  | downloadEnd maxOrderId payload =>
      exact coherent_of_view (s := s) rfl coherent.sources (fun _ => rfl) (fun _ _ => rfl) coherent
  | connected | disconnected | downloadBegin | gatewaySettings | gatewayStatus => exact coherent

/-- A message for which no cache has changed. -/
private theorem coherent_quiet {origin : Key → Nat} {refuses : Request → Bool} {order : List Nat}
    {source : Nat} {message : Message C} {s t : Bridge C} (coherent : Coherent origin s)
    (nodup : order.Nodup) (returned : s.notify refuses order source message = (t, none)) :
    Coherent origin t :=
  coherent_notify (s := s) nodup returned rfl coherent.sources (fun _ => rfl) coherent
    (fun _ _ _ _ _ _ _ => rfl) fun _ _ _ _ _ _ => rfl

private theorem coherent_onOrder {origin : Key → Nat} {refuses : Request → Bool}
    {source orderId : Nat} {routingId : String} {message : Message C} {s t : Bridge C}
    (coherent : Coherent origin s)
    (returned : s.onOrder refuses source orderId routingId message = (t, none)) :
    Coherent origin t := by
  have reported : Coherent origin (s.report orderId) :=
    coherent_of_view (s := s) rfl coherent.sources (fun _ => rfl) (fun _ _ => rfl) coherent
  unfold Bridge.onOrder at returned
  split at returned
  · cases returned
  · exact coherent_quiet reported (List.nodup_singleton _) returned

private theorem coherent_onEvent (reporting : C.Reporting) {origin : Key → Nat}
    {occurrence : Occurrence C} {s t : Bridge C} (coherent : Coherent origin s)
    (once : occurrence.order.Perm (s.audience occurrence.event))
    (originates : Originates origin occurrence.event)
    (returned : s.onEvent occurrence = (t, none)) : Coherent origin t := by
  obtain ⟨event, order, refuses⟩ := occurrence
  cases event with
  | timer =>
      have nodup := once.nodup_iff.mpr s.strategies.keys_nodup
      exact coherent_quiet coherent nodup returned
  | gateway source message =>
      have keys : (s.reported message).strategies.keys = s.strategies.keys := by
        cases message <;> rfl
      refine coherent_onGateway reporting (coherent_reported coherent message) ?_ returned
      rw [keys]
      exact once
  | market source key message =>
      cases originates
      exact coherent_dispatch reporting coherent once returned
  | orderAck source ack => exact coherent_onOrder coherent returned
  | orderUpdate source update => exact coherent_onOrder coherent returned

/-- No event has come yet. -/
private def Untouched (s : Bridge C) : Prop :=
  ∀ key, (s.routes key).market.source = none ∧
    C.tradingStatus (s.routes key).market.market ≠ .«open»

private theorem consistent_created {view : View C} {compare : Double → Double → Ordering}
    {instruments : List Instrument} {routingId : String} {request : CreateOrder}
    {spread : Spread C} (nonempty : instruments ≠ [])
    (untouched : ∀ key, (view.market key).source = none)
    (created : Spread.create compare instruments routingId request = .ok spread) :
    Consistent view spread.toBase := by
  obtain ⟨managers, _, rfl⟩ := Client.ok_of_map created
  refine ⟨?_, ?_, nofun, rfl⟩
  · have unready : isReady view request.account = fun _ => false := by
      funext instrument
      simp only [isReady, untouched]
    show List.replicate instruments.length false = instruments.map (isReady view request.account)
    rw [unready, List.map_const']
  · obtain ⟨instrument, others, rfl⟩ := List.exists_cons_of_ne_nil nonempty
    rfl

end Coherence

private theorem add_strategies (strategyId : Nat) (route : Route C) :
    (route.add strategyId).strategies = route.strategies.insert strategyId := rfl

/-- A strategy that is created before any event is consistent, and its routes lead to it. -/
private theorem coherent_addStrategy [Utils] {origin : Key → Nat} {s : Bridge C} {spread : Spread C}
    (coherent : Coherent origin s) (consistent : Consistent s.view spread.toBase)
    (fresh : s.strategyId ∉ s.strategies) : Coherent origin (s.addStrategy spread) := by
  have route (key : Key) : ((s.addStrategy spread).routes key) =
      if key ∈ spread.instruments.map Instrument.key then (s.routes key).add s.strategyId
      else s.routes key := rfl
  have market (key : Key) :
      ((s.addStrategy spread).routes key).market = (s.routes key).market := by
    rw [route]
    split <;> rfl
  have listener (key : Key) (strategyId : Nat) (mem : strategyId ∈ (s.routes key).strategies) :
      strategyId ∈ ((s.addStrategy spread).routes key).strategies := by
    rw [route]
    split
    · exact List.mem_insert_of_mem mem
    · exact mem
  refine ⟨fun key => ?_, fun key => ?_, ?_, ?_⟩
  · rw [market]
    exact coherent.sources key
  · rw [route]
    split
    · exact (coherent.distinct key).insert
    · exact coherent.distinct key
  · intro strategyId other found
    rw [Bridge.view_addStrategy]
    rcases Bridge.lookup_addStrategy fresh found with ⟨_, rfl⟩ | ⟨_, before⟩
    · exact consistent
    · exact coherent.consistent strategyId other before
  · intro strategyId other found instrument mem
    rcases Bridge.lookup_addStrategy fresh found with ⟨rfl, rfl⟩ | ⟨_, before⟩
    · rw [route, if_pos (List.mem_map_of_mem mem), add_strategies]
      exact List.mem_insert_self
    · exact listener _ _ (coherent.routed strategyId other before instrument mem)

private theorem coherent_createStrategy [Utils] {origin : Key → Nat} {encode : Nat → String}
    {compare : Double → Double → Ordering} {request : CreateOrder} {s t : Bridge C}
    (coherent : Coherent origin s) (untouched : Untouched s)
    (returned : s.createStrategy encode compare request = (t, none)) :
    Coherent origin t ∧ Untouched t := by
  obtain ⟨strategy, spread, _, created, fresh, rfl⟩ := Bridge.createStrategy_returned returned
  have numbered : Coherent origin (s.numbered.check (request.routingId = "") .routingIdGiven) :=
    coherent_of_view (s := s) rfl coherent.sources (fun _ => rfl) (fun _ _ => rfl) coherent
  have undiscovered (key : Key) : (s.view.market key).source = none := (untouched key).1
  refine ⟨coherent_addStrategy numbered
    (consistent_created strategy.complete.2 undiscovered created) fresh, fun key => ?_⟩
  have market := congrArg (fun view => view.market key)
    (Bridge.view_addStrategy spread (s.numbered.check (request.routingId = "") .routingIdGiven))
  have kept : ((Bridge.addStrategy spread
      (s.numbered.check (request.routingId = "") .routingIdGiven)).routes key).market =
        (s.routes key).market := market
  rw [kept]
  exact untouched key

private theorem asserted_accept {request : Request} {d : Dispatcher}
    (asserted : Assertion.notReady ∉ d.failures) :
    Assertion.notReady ∉ (d.accept request).failures := by
  intro failed
  rcases Dispatcher.mem_accept_failures.mp failed with before | ⟨_, same⟩
  · exact asserted before
  · cases same

private theorem asserted_created {context : Context C} {request : CreateOrder}
    {d d' : Dispatcher} {stop : Option Stop} (asserted : Assertion.notReady ∉ d.failures)
    (created : d.createOrder context request = (d', stop)) :
    Assertion.notReady ∉ d'.failures := by
  have failures := Dispatcher.createOrder_failures context request d
  rw [created] at failures
  rw [failures]
  exact asserted_accept asserted

/-- A target of a base that is ready does not fail the assertion about being ready. -/
private theorem asserted_targeted [Utils] {context : Context C} {position : Nat}
    {quantity price : Double}
    {b : Base} {d : Dispatcher} {result : (Base × Dispatcher) × Option Stop}
    (ready : b.ready = true) (asserted : Assertion.notReady ∉ d.failures)
    (targeted : Base.Targeted context position quantity price b d result) :
    Assertion.notReady ∉ result.1.2.failures := by
  have checked : d.check b.ready .notReady = d := by
    rw [ready]
    rfl
  cases targeted with
  | absent noted same =>
      rcases same with rfl | rfl
      · exact asserted
      · rwa [checked]
  | unchanged =>
      rwa [checked]
  | failed manager instrument d' stop found changes unordered managed stopped =>
      rw [checked] at stopped
      exact asserted_created asserted stopped
  | placed manager instrument d' found changes unordered managed returned =>
      rw [checked] at returned
      intro failed
      rcases Dispatcher.mem_check_failures.mp failed with before | ⟨_, same⟩
      · exact asserted_created asserted returned before
      · cases same
  | amended manager =>
      rw [checked, Base.amendOrder]
      have failures := Dispatcher.followUp_failures context
        (.modify ((manager.aim quantity price).modifyOrderRequest b.account b.routingId)) d
      rw [Dispatcher.modifyOrder, failures]
      exact asserted_accept asserted

/-- No target is set while a strategy is not ready: `Spread::update` asks first. -/
private theorem asserted_invariant [Utils] :
    PartyInvariant (fun _ (_ : Spread C) _ => True)
      (fun _ d => Assertion.notReady ∉ d.failures) where
  stable := fun _ _ _ _ _ => id
  noted := by
    intro _ d assertion ofBridge asserted failed
    rcases Dispatcher.mem_check_failures.mp failed with before | ⟨_, rfl⟩
    · exact asserted before
    · cases ofBridge
  reported := fun _ _ _ _ => id
  refreshed := fun _ _ _ => ⟨fun _ _ => id, fun _ => id⟩
  heard := fun _ _ _ _ _ => id
  handled := by
    intro context source message s d _ asserted
    refine ⟨trivial, ?_⟩
    refine Spread.handle_keeps (I := fun _ d => Assertion.notReady ∉ d.failures) (fun _ _ => id) ?_
      ?_ (fun _ _ _ _ _ => id) message asserted
    · intro _ d holds asserted failed
      rcases Dispatcher.mem_check_failures.mp failed with before | ⟨_, same⟩
      · exact asserted before
      · cases same
    · intro s d price asserted ready
      exact asserted_targeted ready asserted
        (Base.setTarget_targeted context 0 s.quantity price s.toBase d)
  created := fun _ _ _ _ _ _ _ _ => trivial

private def Asserted (s : Bridge C) : Prop :=
  s.All (fun _ _ _ => True) fun _ d => Assertion.notReady ∉ d.failures

private theorem synced_of_coherent [Utils] {origin : Key → Nat} {s : Bridge C}
    (coherent : Coherent origin s) (asserted : Asserted s) : Synced s where
  ready := by
    intro strategyId spread found
    have consistent := coherent.consistent strategyId spread found
    rw [consistent.ready, consistent.flags, List.all_map]
    rfl
  callbacks := fun strategyId spread found =>
    (coherent.consistent strategyId spread found).callbacks
  asserted := asserted.dispatcher

private theorem coherent_initial [Utils] (origin : Key → Nat) (reporting : C.Reporting)
    (config : Config) :
    Coherent origin (Bridge.initial C config) ∧ Untouched (Bridge.initial C config) := by
  have untouched : Untouched (Bridge.initial C config) :=
    fun key => ⟨rfl, reporting.closed key.1 key.2⟩
  exact ⟨⟨fun key => .inl (untouched key), fun _ => List.nodup_nil,
    fun _ _ found => (lookup_empty_ne found).elim,
    fun _ _ found => (lookup_empty_ne found).elim⟩, untouched⟩

/-- Strategies are created before the first event. -/
private theorem coherent_started [Utils] (reporting : C.Reporting) (origin : Key → Nat)
    {encode : Nat → String} {compare : Double → Double → Ordering} {config : Config}
    {creations : List CreateOrder} {s : Bridge C}
    (started : run (Bridge.nextUncaught encode compare) (Bridge.initial C config)
      (creations.map .createStrategy) = some s) : Coherent origin s ∧ Asserted s := by
  obtain ⟨coherent, untouched⟩ := coherent_initial origin reporting config
  have nothing : Asserted (Bridge.initial C config) :=
    ⟨fun _ _ _ => trivial, fun mem => (List.not_mem_nil mem).elim⟩
  have creates : AllSteps (Bridge.nextUncaught encode compare)
      (fun _ action => ∃ request, action = .createStrategy request) (Bridge.initial C config)
      (creations.map .createStrategy) := by
    refine allSteps_of_forall (fun _ action mem => ?_) _
    obtain ⟨request, _, rfl⟩ := List.mem_map.mp mem
    exact ⟨request, rfl⟩
  have states := creates.invariant
    (I := fun s => (Coherent origin s ∧ Untouched s) ∧ Asserted s) ?_
    ⟨⟨coherent, untouched⟩, nothing⟩
  · obtain ⟨⟨coherent, _⟩, asserted⟩ := states.last started
    exact ⟨coherent, asserted⟩
  · rintro s _ t ⟨⟨coherent, untouched⟩, asserted⟩ ⟨request, rfl⟩ taken
    obtain ⟨_, performed⟩ := Bridge.nextUncaught_eq_some taken
    refine ⟨coherent_createStrategy coherent untouched performed, ?_⟩
    have after := Bridge.all_createStrategy asserted_invariant asserted encode compare request
    have reached : (s.createStrategy encode compare request).1 = t := congrArg Prod.fst performed
    rwa [reached] at after

/-- For every configuration, any number of strategies and every sequence of events, each market
having one source: after every event a strategy is ready exactly when all of its instruments have
discovered their source and are ready on the current caches, its callbacks alternate with Ready as
the first one, and `set_target` has never been reached by a strategy that is not ready. -/
theorem strategies_synced [Utils] (reporting : C.Reporting) (encode : Nat → String)
    (compare : Double → Double → Ordering) (config : Config) (creations : List CreateOrder)
    (s : Bridge C)
    (started : run (Bridge.nextUncaught encode compare) (Bridge.initial C config)
      (creations.map .createStrategy) = some s)
    (origin : Key → Nat) (occurrences : List (Occurrence C))
    (originates : ∀ occurrence ∈ occurrences, Originates origin occurrence.event) :
    AllStates (Bridge.nextUncaught encode compare) Synced s (occurrences.map .event) := by
  have events : AllSteps (Bridge.nextUncaught encode compare)
      (fun _ action => ∃ occurrence, action = .event occurrence ∧
        Originates origin occurrence.event) s (occurrences.map .event) := by
    refine allSteps_of_forall (fun _ action mem => ?_) _
    obtain ⟨occurrence, listed, rfl⟩ := List.mem_map.mp mem
    exact ⟨occurrence, rfl, originates occurrence listed⟩
  have states := events.invariant (I := fun s => Coherent origin s ∧ Asserted s) ?_
    (coherent_started reporting origin started)
  · exact states.mono fun s both => synced_of_coherent both.1 both.2
  · rintro s _ t ⟨coherent, asserted⟩ ⟨occurrence, rfl, originates⟩ taken
    obtain ⟨possible, performed⟩ := Bridge.nextUncaught_eq_some taken
    refine ⟨coherent_onEvent reporting coherent possible.1 originates performed, ?_⟩
    have after := Bridge.all_onEvent asserted_invariant asserted possible.2
    have reached : (s.onEvent occurrence).1 = t := congrArg Prod.fst performed
    rwa [reached] at after

section Examples

open scoped RoqSamples.Client.Documented

/-- The events of the opening, which make the strategy ready and then not ready again. -/
private def openingOccurrences : List (Occurrence plain) :=
  (sampleOpening.filterMap fun action =>
    match action with
    | .event occurrence => some occurrence
    | .createStrategy _ | .setTarget _ _ _ _ _ => none) ++
    [{ event := .gateway 0 (.disconnected .nothing), order := [1] }]

theorem strategies_synced_opening :
    ∃ s, run (Bridge.nextUncaught base64OfId compareNumbers) (Bridge.initial plain sampleConfig)
        ([userOrder].map .createStrategy) = some s ∧
      (run (Bridge.nextUncaught base64OfId compareNumbers) s (openingOccurrences.map .event)).any
        (fun t => (t.strategies.lookup 1).any fun spread => spread.callbacks = [true, false]) =
          true ∧
      AllStates (Bridge.nextUncaught base64OfId compareNumbers) Synced s
        (openingOccurrences.map .event) := by
  obtain ⟨s, started, turns⟩ : ∃ s, run (Bridge.nextUncaught base64OfId compareNumbers)
      (Bridge.initial plain sampleConfig) ([userOrder].map .createStrategy) = some s ∧
        (run (Bridge.nextUncaught base64OfId compareNumbers) s (openingOccurrences.map .event)).any
          (fun t => (t.strategies.lookup 1).any fun spread => spread.callbacks = [true, false]) =
            true := reaches_of_any (by decide +kernel)
  refine ⟨s, started, turns, ?_⟩
  exact strategies_synced plain_reporting base64OfId compareNumbers sampleConfig [userOrder] s
    started (fun _ => 0) openingOccurrences (by decide +kernel)

end Examples

end RoqSamples.AlgoProto.Readiness
