/- AlgoProto/UserOrders
   digest: Every request that a strategy sends serves the user who asked for the strategy: it is for
     the first leg, on the user's terms, while the second leg has a price. -/
import RoqSamples.AlgoProto.IndexSafety
import RoqSamples.AlgoProto.Routing

set_option autoImplicit false
set_option relaxedAutoImplicit false

namespace RoqSamples.AlgoProto.UserOrders

open RoqSamples.Algo
open RoqSamples.Arith (Double)
open RoqSamples.Client (Utils)
open RoqSamples.Execution.Calls
open RoqSamples.Execution.Runs
open RoqSamples.AlgoProto.Routing (external)
open RoqSamples.AlgoProto.Sources

variable {C : Caches}

/-- The price is a number, and so are the price of the user and the best price of the second leg on
the user's side, in the market as it is now. -/
def Quoted (view : View C) (user : CreateOrder) (strategy : StrategyConfig) (price : Double) :
    Prop :=
  price ≠ .nan ∧ user.price ≠ .nan ∧ ∃ second best, strategy.instruments[1]? = some second ∧
    C.extract (view.market second.key).market = some best ∧
      (user.side = .buy ∧ best.bidPrice ≠ .nan ∨ user.side = .sell ∧ best.askPrice ≠ .nan)

/-- A CreateOrder is for the first leg, with the user's account and quantity, on the side that the
weight of the leg asks for. A ModifyOrder moves the price of such an order. Nothing is canceled. -/
def Serves (view : View C) (log : List Entry) (user : CreateOrder) (strategy : StrategyConfig) :
    Request → Prop
  | .create request =>
      request.account = user.account ∧ request.quantity = user.quantity ∧
        Quoted view user strategy request.price ∧
        ∃ first, strategy.instruments[0]? = some first ∧ request.key = first.key ∧
          SideOf user.side first.weight request.side
  | .modify request =>
      request.account = user.account ∧ request.quantity = .nan ∧
        Quoted view user strategy request.price ∧
        ∃ create source, Entry.sent (.create create) source ∈ log ∧
          create.orderId = request.orderId ∧ create.routingId = request.routingId
  | .cancel _ => False

/-- Someone asked for a strategy, and the request serves that user. -/
def ServesUser (config : Config) (actions : List (Action C)) (view : View C) (log : List Entry)
    (request : Request) : Prop :=
  ∃ user strategy, .createStrategy user ∈ actions ∧
    config.strategies.lookup user.symbol = some strategy ∧
    Serves view log user strategy request

/-- A strategy works on the terms of the user. -/
private structure Serving (user : CreateOrder) (strategy : StrategyConfig) (s : Spread C) :
    Prop where
  instruments : s.instruments = strategy.instruments
  account : s.account = user.account
  side : s.side = user.side
  quantity : s.quantity = user.quantity
  price : s.price = user.price
  sound : s.toBase.Sound user.side

private def Hired (config : Config) (actions : List (Action C)) (s : Spread C) : Prop :=
  ∃ user strategy, .createStrategy user ∈ actions ∧
    config.strategies.lookup user.symbol = some strategy ∧ Serving user strategy s

/-- All requests after the first entries serve a user. -/
private def Logged (config : Config) (actions : List (Action C)) (earlier : List Entry)
    (view : View C) (d : Dispatcher) : Prop :=
  ∃ more, d.log = earlier ++ more ∧ ∀ request source, Entry.sent request source ∈ more →
    ServesUser config actions view d.log request

section Dispatching

variable {config : Config} {actions : List (Action C)} {earlier : List Entry} {view : View C}
  {d d' : Dispatcher}

private theorem serves_mono {log log' : List Entry} {user : CreateOrder}
    {strategy : StrategyConfig} {request : Request} (sub : log ⊆ log')
    (serves : Serves view log user strategy request) :
    Serves view log' user strategy request := by
  cases request with
  | create | cancel => exact serves
  | modify request =>
      obtain ⟨account, quantity, quoted, create, source, sent, same⟩ := serves
      exact ⟨account, quantity, quoted, create, source, sub sent, same⟩

private theorem logged_same (logged : Logged config actions earlier view d)
    (same : d'.log = d.log) : Logged config actions earlier view d' := by
  obtain ⟨more, log, serve⟩ := logged
  refine ⟨more, same.trans log, ?_⟩
  rw [same]
  exact serve

private theorem logged_append (logged : Logged config actions earlier view d) {entry : Entry}
    (log : d'.log = d.log ++ [entry])
    (serves : ∀ request source, entry = .sent request source →
      ServesUser config actions view d'.log request) :
    Logged config actions earlier view d' := by
  obtain ⟨more, before, serve⟩ := logged
  refine ⟨more ++ [entry], by rw [log, before, List.append_assoc], ?_⟩
  intro request source mem
  rcases List.mem_append.mp mem with old | new
  · obtain ⟨user, strategy, asked, configured, serves⟩ := serve request source old
    refine ⟨user, strategy, asked, configured, serves_mono ?_ serves⟩
    rw [log]
    exact List.subset_append_left _ _
  · exact serves request source (List.mem_singleton.mp new).symm

private theorem createOrder_log (context : Context C) (request : CreateOrder) (d : Dispatcher) :
    (d.createOrder context request).1.log = d.log ∨
      ∃ source, (d.createOrder context request).1.log =
        d.log ++ [.sent (.create request) source] := by
  unfold Dispatcher.createOrder
  split
  · refine .inr ⟨(context.market request.key).source, ?_⟩
    show (d.accept (.create request)).log ++ _ = _
    rw [Dispatcher.accept_log]
  · exact .inl (Dispatcher.accept_log _ d)

private theorem followUp_log (context : Context C) (request : Request) (d : Dispatcher) :
    (d.followUp context request).1.log = d.log ∨
      ∃ source, (d.followUp context request).1.log = d.log ++ [.sent request source] := by
  unfold Dispatcher.followUp
  split
  · rename_i source _
    refine .inr ⟨source, ?_⟩
    show (d.accept request).log ++ _ = _
    rw [Dispatcher.accept_log]
  · exact .inl (Dispatcher.accept_log _ d)

end Dispatching

section Targeting

variable {config : Config} {actions : List (Action C)} {earlier : List Entry}
  {context : Context C} {user : CreateOrder} {strategy : StrategyConfig} {s : Spread C}
  {d : Dispatcher}

/-- The request that a target of the first leg leads to serves the user. -/
private theorem logged_targeted [Utils] (asked : .createStrategy user ∈ actions)
    (configured : config.strategies.lookup user.symbol = some strategy)
    (serving : Serving user strategy s) {price : Double}
    (quoted : Quoted context.toView user strategy price)
    (settled : Settled context.toView s.toBase d)
    (logged : Logged config actions earlier context.toView d)
    {result : (Base × Dispatcher) × Option Stop}
    (targeted : Base.Targeted context 0 s.quantity price s.toBase d result) :
    Logged config actions earlier context.toView result.1.2 := by
  have checked : Logged config actions earlier context.toView (d.check s.ready .notReady) :=
    logged_same logged (Dispatcher.check_log _ _ d)
  have creates {manager : OrderManager} {instrument : Instrument}
      (found : s.orderManagers[0]? = some manager)
      (managed : s.instruments[manager.index]? = some instrument) :
      Logged config actions earlier context.toView
        ((d.check s.ready .notReady).createOrder context
          ((manager.aim s.quantity price).createOrderRequest s.account s.routingId instrument
            d.nextOrderId)).1 := by
    rcases createOrder_log context ((manager.aim s.quantity price).createOrderRequest s.account
      s.routingId instrument d.nextOrderId) (d.check s.ready .notReady) with same | ⟨source, sent⟩
    · exact logged_same checked same
    · refine logged_append checked sent ?_
      rintro request _ ⟨⟩
      have index := (settled.employed 0 manager found).index
      rw [index] at managed
      have own := (serving.sound.manages.each 0 instrument manager managed found).2
      rw [serving.instruments] at managed
      exact ⟨user, strategy, asked, configured, serving.account, serving.quantity, quoted,
        instrument, managed, rfl, own⟩
  cases targeted with
  | absent noted same =>
      rcases same with rfl | rfl
      · exact logged
      · exact checked
  | unchanged => exact checked
  | failed manager instrument d' stop found changes unordered managed stopped =>
      have after := creates found managed
      rwa [stopped] at after
  | placed manager instrument d' found changes unordered managed returned =>
      have after := creates found managed
      rw [returned] at after
      exact logged_same after (Dispatcher.check_log _ _ d')
  | amended manager found changes ordered =>
      rcases followUp_log context
        (.modify ((manager.aim s.quantity price).modifyOrderRequest s.account s.routingId))
        (d.check s.ready .notReady) with same | ⟨source, sent⟩
      · exact logged_same checked same
      · refine logged_append checked sent ?_
        rintro request _ ⟨⟩
        obtain ⟨create, origin, created, sameId, sameRoute⟩ :=
          (settled.employed 0 manager found).created ordered
        refine ⟨user, strategy, asked, configured, serving.account, rfl, quoted, create, origin,
          ?_, sameId, sameRoute⟩
        refine (Dispatcher.grows_followUp context _ (d.check s.ready .notReady)).log.subset ?_
        rw [Dispatcher.check_log]
        exact created

/-- `Spread::update` either does nothing but note that the side is missing, or sets the limit as
the target of the first leg. -/
private theorem update_cases [Utils] (context : Context C) (s : Spread C) (d : Dispatcher) :
    (∃ holds stop, s.update context d = ((s, d.check holds .undefinedSide), stop)) ∨
      ∃ second best, s.ready = true ∧ s.instruments[1]? = some second ∧
        C.extract (context.market second.key).market = some best ∧ s.limit best ≠ .nan ∧
        s.update context d = s.setTarget context 0 s.quantity (s.limit best) d := by
  unfold Spread.update
  split
  · exact .inl ⟨true, none, rfl⟩
  · rename_i ready
    split
    · rename_i first second _ found
      split
      · rename_i best _ extracted
        split
        · exact .inl ⟨_, none, rfl⟩
        · rename_i number
          refine .inr ⟨second, best, eq_true_of_ne_false ready, found, extracted, ?_, rfl⟩
          intro missing
          rw [missing] at number
          exact number rfl
      · exact .inl ⟨true, none, rfl⟩
    · exact .inl ⟨true, some .outOfRange, rfl⟩

private theorem numbers_of_sub {x y : Double} (number : x - y ≠ .nan) : x ≠ .nan ∧ y ≠ .nan := by
  constructor
  · rintro rfl
    exact number (Double.nan_sub y)
  · rintro rfl
    exact number (Double.sub_nan x)

private theorem quoted_limit (serving : Serving user strategy s) {second : Instrument}
    {best : Example3.Layer} (found : s.instruments[1]? = some second)
    (extracted : C.extract (context.market second.key).market = some best)
    (number : s.limit best ≠ .nan) :
    Quoted context.toView user strategy (s.limit best) := by
  rw [serving.instruments] at found
  refine ⟨number, ?_⟩
  rw [← serving.side, ← serving.price]
  unfold Spread.limit at number
  cases side : s.side with
  | undefined =>
      rw [side] at number
      exact (number rfl).elim
  | buy =>
      rw [side] at number
      obtain ⟨bid, own⟩ := numbers_of_sub number
      exact ⟨own, second, best, found, extracted, .inl ⟨rfl, bid⟩⟩
  | sell =>
      rw [side] at number
      obtain ⟨ask, own⟩ := numbers_of_sub number
      exact ⟨own, second, best, found, extracted, .inr ⟨rfl, ask⟩⟩

end Targeting

section Handling

variable {config : Config} {actions : List (Action C)} {earlier : List Entry} {s : Spread C}
  {d : Dispatcher}

private theorem hired_of_same {s' : Spread C} (hired : Hired config actions s)
    (steady : s'.instruments = s.instruments ∧ s'.account = s.account)
    (terms : s'.side = s.side ∧ s'.quantity = s.quantity ∧ s'.price = s.price)
    (sound : ∀ user : Client.Side, s.toBase.Sound user → s'.toBase.Sound user) :
    Hired config actions s' := by
  obtain ⟨user, strategy, asked, configured, serving⟩ := hired
  refine ⟨user, strategy, asked, configured, ?_⟩
  exact ⟨steady.1.trans serving.instruments, steady.2.trans serving.account,
    terms.1.trans serving.side, terms.2.1.trans serving.quantity,
    terms.2.2.trans serving.price, sound _ serving.sound⟩

/-- What holds of a strategy and the dispatcher while strategies hear of an event. -/
private structure Working (config : Config) (actions : List (Action C)) (earlier : List Entry)
    (view : View C) (s : Spread C) (d : Dispatcher) : Prop where
  hired : Hired config actions s
  settled : Settled view s.toBase d
  sourced : Sourced view d
  logged : Logged config actions earlier view d

private theorem working_update [Utils] (context : Context C)
    (working : Working config actions earlier context.toView s d) :
    Working config actions earlier context.toView (s.update context d).1.1
      (s.update context d).1.2 := by
  obtain ⟨hired, settled, sourced, logged⟩ := working
  rcases update_cases context s d with ⟨holds, stop, idle⟩ |
    ⟨second, best, ready, found, extracted, number, sets⟩
  · rw [idle]
    have grows := Dispatcher.grows_check holds .undefinedSide d
    exact ⟨hired, settled_invariant.stable _ _ _ _ grows settled,
      sourced_check sourced holds _, logged_same logged (Dispatcher.check_log _ _ d)⟩
  · rw [sets]
    have targeted := Base.setTarget_targeted context 0 s.quantity (s.limit best) s.toBase d
    obtain ⟨user, strategy, asked, configured, serving⟩ := id hired
    obtain ⟨settled', sourced'⟩ := settled_targeted targeted settled sourced ready
    have steady := targeted.steady
    refine ⟨?_, settled', sourced', ?_⟩
    · exact hired_of_same hired ⟨steady.instruments, steady.account⟩ ⟨rfl, rfl, rfl⟩
        fun _ sound => targeted.sound sound
    · exact logged_targeted asked configured serving (quoted_limit serving found extracted number)
        settled logged targeted

private theorem working_handle [Utils] (context : Context C) (source : Nat) (message : Message C)
    (working : Working config actions earlier context.toView s d) :
    Working config actions earlier context.toView (s.handle context source message d).1.1
      (s.handle context source message d).1.2 := by
  refine Spread.handle_keeps_of_update
    (I := fun s d => Working config actions earlier context.toView s d) ?_ ?_ ?_ message working
  · rintro s d ⟨hired, settled, sourced, logged⟩
    have same := Base.sameOrders_update context.toView source s.toBase
    refine ⟨?_, settled_update settled source, sourced, logged⟩
    exact hired_of_same hired ⟨same.instruments, same.account⟩ ⟨rfl, rfl, rfl⟩
      fun _ sound => Base.sound_update sound context.toView source
  · intro s d working
    exact working_update context working
  · rintro s d orderId note received ⟨hired, settled, sourced, logged⟩
    have steady := Base.steady_dispatch orderId note s.toBase
    refine ⟨?_, settled_dispatch settled received, sourced, logged⟩
    exact hired_of_same hired ⟨steady.instruments, steady.account⟩ ⟨rfl, rfl, rfl⟩
      fun _ sound => Base.sound_dispatch sound orderId note

end Handling

section Runs

variable {config : Config} {actions : List (Action C)} {earlier : List Entry}

/-- What holds of the parties while an event is handed over to them. -/
private def AllWorking (config : Config) (actions : List (Action C)) (earlier : List Entry)
    (view : View C) : Map Nat (Spread C) × Dispatcher → Prop :=
  AllParties (fun s d => Hired config actions s ∧ Settled view s.toBase d)
    fun d => Sourced view d ∧ Logged config actions earlier view d

private theorem allWorking_notify [Utils] {s : Bridge C}
    (all : AllWorking config actions earlier s.view (s.strategies, s.dispatcher))
    (refuses : Request → Bool) (order : List Nat) (source : Nat) (message : Message C) :
    AllWorking config actions earlier s.view
      ((s.notify refuses order source message).1.strategies,
        (s.notify refuses order source message).1.dispatcher) := by
  refine forEach_invariant (I := AllWorking config actions earlier s.view) ?_ all
  intro strategyId _ parties all
  refine Bridge.visit_all ?_ ?_ ?_ ?_ strategyId all
  · rintro spread d d' grows ⟨hired, settled⟩
    exact ⟨hired, settled_invariant.stable _ _ _ _ grows settled⟩
  · rintro d assertion ofBridge ⟨sourced, logged⟩
    exact ⟨sourced_check sourced false assertion,
      logged_same logged (Dispatcher.check_log _ _ d)⟩
  · rintro spread d ⟨hired, settled⟩ ⟨sourced, logged⟩
    have heard : Hired config actions (spread.hear source message) :=
      hired_of_same hired ⟨rfl, rfl⟩ ⟨rfl, rfl, rfl⟩ fun _ => id
    obtain ⟨hired', settled', sourced', logged'⟩ :=
      working_handle (s.context refuses) source message ⟨heard, settled, sourced, logged⟩
    exact ⟨⟨hired', settled'⟩, sourced', logged'⟩
  · intro spread d
    exact grows_handle _ _ _ _ d

/-- The bridge between two actions. -/
private structure Kept (config : Config) (actions : List (Action C)) (s : Bridge C) : Prop where
  loaded : s.config = config
  all : s.All (fun view s d => Settled view s.toBase d) Sourced
  hired : ∀ strategyId spread, s.strategies.lookup strategyId = some spread →
    Hired config actions spread

private theorem kept_onEvent [Utils] {s : Bridge C} (kept : Kept config actions s)
    {occurrence : Occurrence C} (bounded : occurrence.event.orderId < 2 ^ 64) :
    Kept config actions (s.onEvent occurrence).1 ∧
      Logged config actions s.dispatcher.log (s.onEvent occurrence).1.view
        (s.onEvent occurrence).1.dispatcher := by
  have same := Bridge.sameEntries_onEvent occurrence s
  have arrived := Bridge.all_arrive settled_invariant kept.all bounded
  have logged : Logged config actions s.dispatcher.log (s.arrive occurrence.event).view
      (s.arrive occurrence.event).dispatcher := by
    obtain ⟨more, log, quiet⟩ := Bridge.arrive_log occurrence.event s
    exact ⟨more, log, fun request source mem => (quiet request source mem).elim⟩
  have hired : ∀ strategyId spread,
      (s.arrive occurrence.event).strategies.lookup strategyId = some spread →
        Hired config actions spread := by
    rw [Routing.arrive_strategies]
    exact kept.hired
  have unchanged := (Bridge.sameEntries_arrive occurrence.event s).config.trans kept.loaded
  rcases Bridge.onEvent_cases s occurrence with heard | ⟨_, _, _, lost⟩ | ⟨_, _, _, _, _, lost⟩
  · have all : AllWorking config actions s.dispatcher.log (s.arrive occurrence.event).view
        ((s.arrive occurrence.event).strategies, (s.arrive occurrence.event).dispatcher) :=
      ⟨fun strategyId spread found => ⟨hired strategyId spread found,
        arrived.strategies strategyId spread found⟩, arrived.dispatcher, logged⟩
    have after := allWorking_notify all occurrence.refuses (s.hearers occurrence)
      occurrence.event.source occurrence.event.message
    rw [heard]
    refine ⟨⟨unchanged, ⟨?_, after.dispatcher.1⟩, ?_⟩, after.dispatcher.2⟩
    · exact fun strategyId spread found => (after.strategies strategyId spread found).2
    · exact fun strategyId spread found => (after.strategies strategyId spread found).1
  · rw [lost]
    exact ⟨⟨unchanged, arrived, hired⟩, logged⟩
  · rw [lost]
    have all := Bridge.all_check settled_invariant kept.all false .unknownRoute rfl
    refine ⟨⟨kept.loaded, all, kept.hired⟩, [], ?_, fun _ _ mem => (List.not_mem_nil mem).elim⟩
    show (s.dispatcher.check false .unknownRoute).log = _
    rw [Dispatcher.check_log, List.append_nil]

/-- A strategy that is created works for the user who asks for it. -/
private theorem hired_created {compare : Double → Double → Ordering}
    (signs : ComparesSigns compare) {user : CreateOrder} {strategy : StrategyConfig}
    {routingId : String} {spread : Spread C} (asked : .createStrategy user ∈ actions)
    (configured : config.strategies.lookup user.symbol = some strategy)
    (created : Spread.create compare strategy.instruments routingId user = .ok spread) :
    Hired config actions spread := by
  obtain ⟨instruments, _, sound⟩ := Spread.create_sound signs created
  obtain ⟨managers, _, rfl⟩ := Client.ok_of_map created
  exact ⟨user, strategy, asked, configured, instruments, rfl, rfl, rfl, rfl, sound⟩

private theorem hired_more {more : List (Action C)} {spread : Spread C}
    (hired : Hired config actions spread) : Hired config (actions ++ more) spread := by
  obtain ⟨user, strategy, asked, configured, serving⟩ := hired
  exact ⟨user, strategy, List.mem_append_left _ asked, configured, serving⟩

/-- The strategies afterwards are those before, and the one that was asked for, if any. -/
private theorem createStrategy_strategies (encode : Nat → String)
    (compare : Double → Double → Ordering) (user : CreateOrder) (s : Bridge C) :
    (s.createStrategy encode compare user).1.config = s.config ∧
      ∀ strategyId spread,
        (s.createStrategy encode compare user).1.strategies.lookup strategyId = some spread →
          s.strategies.lookup strategyId = some spread ∨
            ∃ strategy routingId, s.config.strategies.lookup user.symbol = some strategy ∧
              Spread.create compare strategy.instruments routingId user = .ok spread := by
  unfold Bridge.createStrategy
  split
  · exact ⟨rfl, fun _ _ => .inl⟩
  · rename_i strategy configured
    unfold Bridge.instantiate
    split
    · exact ⟨rfl, fun _ _ => .inl⟩
    · split
      · exact ⟨rfl, fun _ _ => .inl⟩
      · rename_i spread created
        split
        · exact ⟨rfl, fun _ _ => .inl⟩
        · rename_i fresh
          refine ⟨rfl, fun strategyId other found => ?_⟩
          rcases Bridge.lookup_addStrategy fresh found with ⟨_, rfl⟩ | ⟨_, earlier⟩
          · exact .inr ⟨strategy, _, configured, created⟩
          · exact .inl earlier

private theorem kept_createStrategy [Utils] {encode : Nat → String}
    {compare : Double → Double → Ordering} (signs : ComparesSigns compare) {s : Bridge C}
    (kept : Kept config actions s) (user : CreateOrder) :
    Kept config (actions ++ [.createStrategy user])
      (s.createStrategy encode compare user).1 := by
  obtain ⟨same, strategies⟩ := createStrategy_strategies encode compare user s
  refine ⟨same.trans kept.loaded,
    Bridge.all_createStrategy settled_invariant kept.all encode compare user, ?_⟩
  intro strategyId spread found
  rcases strategies strategyId spread found with earlier | ⟨strategy, _, configured, created⟩
  · exact hired_more (kept.hired strategyId spread earlier)
  · rw [kept.loaded] at configured
    exact hired_created signs (List.mem_append_right _ (List.mem_singleton_self _)) configured
      created

private theorem kept_run [Utils] {encode : Nat → String} {compare : Double → Double → Ordering}
    (signs : ComparesSigns compare) {s : Bridge C}
    (outside : ∀ action ∈ actions, external action = true)
    (reached : run (Bridge.nextCaught encode compare) (Bridge.initial C config) actions = some s) :
    Kept config actions s := by
  have start : Kept config ([] : List (Action C)) (Bridge.initial C config) :=
    ⟨rfl, ⟨fun _ _ found => (lookup_empty_ne found).elim, sourced_initial _⟩,
      fun _ _ found => (lookup_empty_ne found).elim⟩
  refine run_history (I := fun actions s => (∀ action ∈ actions, external action = true) →
    Kept config actions s) (fun _ => start) ?_ reached outside
  intro actions action s t _ kept taken outside
  have kept := kept fun action mem => outside action (List.mem_append_left _ mem)
  have external := outside action (List.mem_append_right _ (List.mem_singleton_self _))
  obtain ⟨possible, rfl⟩ := Bridge.nextCaught_eq_some taken
  cases action with
  | createStrategy user => exact kept_createStrategy signs kept user
  | event occurrence =>
      obtain ⟨after, _⟩ := kept_onEvent kept possible.2
      exact ⟨after.loaded, after.all, fun strategyId spread found =>
        hired_more (after.hired strategyId spread found)⟩
  | setTarget => cases external

end Runs

section Examples

open scoped RoqSamples.Client.Documented

end Examples

end RoqSamples.AlgoProto.UserOrders
