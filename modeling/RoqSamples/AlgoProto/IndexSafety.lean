/- AlgoProto/IndexSafety
   digest: From the configuration file to the strategy, every access by index stays in its vector
     as long as the strategy has two instruments to look at. -/
import RoqSamples.Algo.IndexBounds
import RoqSamples.Algo.IndexRefinement
import RoqSamples.AlgoProto.Bridge
import RoqSamples.AlgoProto.Configuration

set_option autoImplicit false
set_option relaxedAutoImplicit false

namespace RoqSamples.AlgoProto.IndexSafety

open RoqSamples.Algo
open RoqSamples.Arith (Double)
open RoqSamples.Client (Utils)
open RoqSamples.Execution.Runs

/-- The strategy that a configuration file makes of an order, by way of the parser, the factory
and its state. -/
def Loaded {C : Caches} (compare : Double → Double → Ordering) (root : Node) (name : String)
    (routingId : String) (request : CreateOrder) (s : Indexed C) : Prop :=
  ∃ config strategy factory, parseConfig root = .ok config ∧
    config.strategies.lookup name = some strategy ∧
    Factory.new config.exchangeSymbols strategy = some factory ∧
    factory.create compare routingId request = .ok s

/-- A call of the strategy by the bridge, whatever the caches and the dispatcher hold by then. -/
structure Call (C : Caches) where
  context : Context C
  dispatcher : Dispatcher
  source : Nat
  message : Message C

section Calls

variable {C : Caches}

def perform [Utils] (s : Indexed C) (call : Call C) : (Indexed C × Dispatcher) × Option Stop :=
  s.handle call.context call.source call.message call.dispatcher

/-- The strategy goes on when a caller catches the exception of a send. -/
def next [Utils] (s : Indexed C) (call : Call C) : Option (Indexed C) :=
  match perform s call with
  | ((t, _), none) => some t
  | ((t, _), some stop) => if stop.isException then some t else none

/-- No access by index leaves its vector, and the order managers stay with their instruments. -/
def Safe [Utils] (user : Client.Side) (s : Indexed C) (call : Call C) : Prop :=
  (perform s call).2 ≠ some .outOfRange ∧ (perform s call).1.1.Manages user

/-- A strategy that looks at the markets of its first two instruments has two of them. -/
def Covered [Utils] (s : Indexed C) (call : Call C) : Prop :=
  s.Looks call.context.toView call.source call.message → 2 ≤ s.instruments.length

instance [Utils] (s : Indexed C) (call : Call C) : Decidable (Covered s call) :=
  inferInstanceAs (Decidable (_ → _))

/-- What every state of a strategy has. -/
structure Valid (user : Client.Side) (s : Indexed C) : Prop where
  parallel : s.Parallel
  sound : s.toBase.Sound user

private theorem mapM_keys {routed : List Key} {instruments : List Instrument} {markets : List Key}
    (made : (instruments.mapM fun instrument =>
      if instrument.key ∈ routed then some instrument.key else none) = some markets) :
    markets = instruments.map Instrument.key := by
  induction instruments generalizing markets with
  | nil =>
      cases made
      rfl
  | cons instrument instruments ih =>
      rw [List.mapM_cons] at made
      obtain ⟨key, routes, rest⟩ := Option.bind_eq_some_iff.mp made
      obtain ⟨keys, later, same⟩ := Option.bind_eq_some_iff.mp rest
      cases same
      split at routes
      · cases routes
        rw [ih later, List.map_cons]
      · cases routes

theorem loaded_valid {compare : Double → Double → Ordering}
    (signs : ComparesSigns compare) {root : Node} {name routingId : String}
    {request : CreateOrder} {s : Indexed C}
    (loaded : Loaded compare root name routingId request s) : Valid request.side s := by
  obtain ⟨config, strategy, factory, _, _, routed, created⟩ := loaded
  obtain ⟨markets, made, rfl⟩ := Option.map_eq_some_iff.mp routed
  unfold Factory.create at created
  split at created
  · split at created
    · cases created
    · rename_i spread fresh
      cases created
      obtain ⟨instruments, length, sound⟩ := Spread.create_sound signs fresh
      refine ⟨⟨?_, ?_⟩, sound⟩
      · exact (mapM_keys made).trans (by rw [instruments])
      · exact length.trans (by rw [instruments])
  · cases created

variable [Utils]

private theorem perform_valid {user : Client.Side} {s : Indexed C} (valid : Valid user s)
    (call : Call C) : Valid user (perform s call).1.1 := by
  refine ⟨Indexed.handle_parallel valid.parallel _ _ _ _, ?_⟩
  rw [perform, Indexed.handle_eq valid.parallel]
  exact Spread.handle_sound valid.sound _ _ _ _

/-- A call leaves what its handler leaves. -/
theorem next_performed {s t : Indexed C} {call : Call C} (taken : next s call = some t) :
    (perform s call).1.1 = t := by
  unfold next at taken
  split at taken
  · rename_i after d returned
    cases taken
    rw [returned]
  · rename_i after d stop stopped
    split at taken
    · cases taken
      rw [stopped]
    · cases taken

theorem next_valid {user : Client.Side} {s t : Indexed C} {call : Call C}
    (valid : Valid user s) (taken : next s call = some t) : Valid user t := by
  rw [← next_performed taken]
  exact perform_valid valid call

private theorem safe_iff {user : Client.Side} {s : Indexed C} (valid : Valid user s)
    (call : Call C) : Safe user s call ↔ Covered s call := by
  have stops : (perform s call).2 = some .outOfRange ↔
      s.Looks call.context.toView call.source call.message ∧ s.instruments.length < 2 := by
    rw [perform, Indexed.handle_eq valid.parallel]
    exact Spread.handle_outOfRange valid.sound _ _ _ _
  have manages := (perform_valid valid call).sound.manages
  constructor
  · rintro ⟨inside, _⟩ looks
    by_contra few
    exact inside (stops.mpr ⟨looks, by omega⟩)
  · intro covered
    refine ⟨fun outside => ?_, manages⟩
    obtain ⟨looks, few⟩ := stops.mp outside
    have two := covered looks
    omega

/-- Every access by index stays in its vector exactly when no call looks at the markets of a
strategy with a single instrument. The order managers always stay with their instruments. -/
theorem index_safe_iff {compare : Double → Double → Ordering} (signs : ComparesSigns compare)
    {root : Node} {name routingId : String} {request : CreateOrder} {s : Indexed C}
    (loaded : Loaded compare root name routingId request s) (calls : List (Call C)) :
    s.Manages request.side ∧ AllMet next (Safe request.side) s calls ↔
      AllMet next Covered s calls := by
  have valid := loaded_valid signs loaded
  constructor
  · rintro ⟨_, safe⟩
    refine safe.guarantee (I := Valid request.side) (fun _ _ _ valid _ => next_valid valid) ?_ valid
    exact fun _ call valid safe => (safe_iff valid call).mp safe
  · intro covered
    refine ⟨valid.sound.manages, ?_⟩
    refine covered.guarantee (I := Valid request.side) (fun _ _ _ valid _ => next_valid valid) ?_
      valid
    exact fun _ call valid covered => (safe_iff valid call).mpr covered

end Calls

section Examples

open scoped RoqSamples.Client.Documented

/-- An item of the array of instruments. -/
private def item (exchange symbol : String) (weight : ℚ) : Node :=
  .table [("exchange", .string exchange), ("symbol", .string symbol),
    ("weight", .number (.num weight))]

/-- A document with one strategy. -/
private def document (instruments : List Node) : Node :=
  .table [("strategies", .table [("spread_btc",
    .table [("instruments", .array instruments), ("type", .string "spread")])])]

/-- config.toml. -/
def configToml : Node :=
  document [item "deribit" "BTC-PERPETUAL" 1, item "deribit" "BTC-27MAY22" (-1)]

private def singleToml : Node := document [item "deribit" "BTC-PERPETUAL" 1]

private def loadedFrom (instruments : List Instrument) (managers : List OrderManager) :
    Indexed plain where
  instruments := instruments
  routingId := "AQAAAA"
  account := "A1"
  orderManagers := managers
  readyByInstrument := List.replicate instruments.length false
  side := .buy
  quantity := 1
  price := 10
  markets := instruments.map Instrument.key

def spread : Indexed plain :=
  loadedFrom spreadBtc.instruments [{ index := 0, side := .buy }, { index := 1, side := .sell }]

private def single : Indexed plain :=
  loadedFrom (spreadBtc.instruments.take 1) [{ index := 0, side := .buy }]

theorem compareNumbers_signs : ComparesSigns compareNumbers where
  positive := by
    intro x positive
    cases x with
    | nan => exact nofun
    | num x =>
        have positive := (Double.lt_num 0 x).mp positive
        show (if x < 0 then _ else if x = 0 then _ else _) ≠ Ordering.lt
        rw [if_neg positive.not_gt]
        split <;> exact nofun
  negative := by
    intro x negative
    cases x with
    | nan => cases negative
    | num x =>
        have negative := (Double.lt_num x 0).mp negative
        show (if x < 0 then _ else if x = 0 then _ else _) ≠ Ordering.gt
        rw [if_pos negative]
        exact nofun

theorem spread_loaded :
    Loaded compareNumbers configToml "spread_btc" "AQAAAA" userOrder spread :=
  ⟨_, _, _, rfl, rfl, rfl, rfl⟩

/-- A gateway that supports everything, and markets that trade. -/
def trading (message : Message plain) : Call plain where
  context :=
    { market := fun _ => { market := { tickSize := 1, tradingStatus := .«open» }, source := some 0 }
      gateway := fun _ =>
        [.referenceData, .marketStatus, .marketByPrice, .createOrder, .cancelOrder]
      routed := [perpetual, future]
      refuses := fun _ => false }
  dispatcher := {}
  source := 0
  message := message

/-- The market opens and its book is updated. -/
def opening : List (Call plain) :=
  [trading (.market perpetual (.marketStatus (.tradingStatus .«open»))),
    trading (.market perpetual (.marketByPriceUpdate .nothing))]

/-- The strategy of config.toml looks at both markets. -/
theorem index_safe_sample :
    Loaded compareNumbers configToml "spread_btc" "AQAAAA" userOrder spread ∧
      spread.Manages .buy ∧ AllMet next (Safe .buy) spread opening :=
  ⟨spread_loaded, (index_safe_iff compareNumbers_signs spread_loaded opening).mpr
    (by decide +kernel)⟩

/-- A strategy with one instrument is accepted and looks for the market of a second one. -/
theorem single_instrument_outOfRange :
    Loaded compareNumbers singleToml "spread_btc" "AQAAAA" userOrder single ∧
      ¬ AllMet next (Safe .buy) single opening := by
  have loaded : Loaded compareNumbers singleToml "spread_btc" "AQAAAA" userOrder single :=
    ⟨_, _, _, rfl, rfl, rfl, rfl⟩
  refine ⟨loaded, fun safe => safe.here.1 ?_⟩
  decide +kernel

end Examples

end RoqSamples.AlgoProto.IndexSafety
