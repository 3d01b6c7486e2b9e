/- AlgoProto/Directory
   digest: The tables of the bridge agree on who its strategies are, so every event finds those it
     is meant for. -/
import RoqSamples.AlgoProto.Parties

set_option autoImplicit false
set_option relaxedAutoImplicit false

namespace RoqSamples.AlgoProto

open RoqSamples.Algo
open RoqSamples.Arith (Double)
open RoqSamples.Client (Utils)
open RoqSamples.Execution.Calls
open RoqSamples.Execution.Runs (run run_invariant)

variable {C : Caches}

/-- What `client::Base64::encode` promises for the four bytes of a strategy id. -/
structure Encodes (encode : Nat → String) : Prop where
  injective : ∀ i j, i < 2 ^ 32 → j < 2 ^ 32 → encode i = encode j → i = j
  nonempty : ∀ i, i < 2 ^ 32 → encode i ≠ ""

namespace Bridge

/-- A market that is configured, or an order of a strategy that exists. -/
structure Addressed (s : Bridge C) (event : Event C) : Prop where
  key : ∀ source key message, event = .market source key message →
    key ∈ s.config.exchangeSymbols
  routingId : ∀ routingId, event.routingId = some routingId →
    ∃ strategyId spread, s.strategies.lookup strategyId = some spread ∧
      spread.routingId = routingId

/-- What a strategy keeps from its creation on. -/
def card (spread : Spread C) : List Instrument × String := (spread.instruments, spread.routingId)

/-- Nothing but `create_strategy` writes what two bridges have in common. -/
structure SameEntries (s t : Bridge C) : Prop where
  config : t.config = s.config
  routingIdToStrategy : t.routingIdToStrategy = s.routingIdToStrategy
  strategyId : t.strategyId = s.strategyId
  listeners : ∀ key, (t.routes key).strategies = (s.routes key).strategies
  cards : ∀ strategyId,
    (t.strategies.lookup strategyId).map card = (s.strategies.lookup strategyId).map card

theorem SameEntries.trans {s t u : Bridge C} (first : SameEntries s t)
    (second : SameEntries t u) : SameEntries s u :=
  ⟨second.config.trans first.config,
    second.routingIdToStrategy.trans first.routingIdToStrategy,
    second.strategyId.trans first.strategyId,
    fun key => (second.listeners key).trans (first.listeners key),
    fun strategyId => (second.cards strategyId).trans (first.cards strategyId)⟩

/-- A strategy is the same one before and after. -/
theorem SameEntries.lookup {s t : Bridge C} (same : SameEntries s t) {strategyId : Nat}
    {spread : Spread C} (found : t.strategies.lookup strategyId = some spread) :
    ∃ before, s.strategies.lookup strategyId = some before ∧
      before.instruments = spread.instruments ∧ before.routingId = spread.routingId := by
  have cards := same.cards strategyId
  rw [found, Option.map_some] at cards
  obtain ⟨before, earlier, card⟩ := Option.map_eq_some_iff.mp cards.symm
  obtain ⟨instruments, routingId⟩ := Prod.mk.inj card
  exact ⟨before, earlier, instruments, routingId⟩

theorem SameEntries.symm {s t : Bridge C} (same : SameEntries s t) : SameEntries t s :=
  ⟨same.config.symm, same.routingIdToStrategy.symm, same.strategyId.symm,
    fun key => (same.listeners key).symm, fun strategyId => (same.cards strategyId).symm⟩

theorem sameEntries_arrive (event : Event C) (s : Bridge C) : SameEntries s (s.arrive event) := by
  cases event with
  | timer | orderAck | orderUpdate => exact ⟨rfl, rfl, rfl, fun _ => rfl, fun _ => rfl⟩
  | gateway source message =>
      cases message <;> exact ⟨rfl, rfl, rfl, fun _ => rfl, fun _ => rfl⟩
  | market source key message =>
      refine ⟨rfl, rfl, rfl, fun other => ?_, fun _ => rfl⟩
      simp only [arrive, cacheMarket]
      by_cases same : other = key
      · rw [same, Function.update_self]
      · rw [Function.update_of_ne same]

theorem deliver_cards [Utils] (context : Context C) (source : Nat) (message : Message C)
    (visited : Nat) (parties : Map Nat (Spread C) × Dispatcher) (strategyId : Nat) :
    ((deliver context source message visited parties).1.1.lookup strategyId).map card =
      (parties.1.lookup strategyId).map card := by
  refine visit_map (fun spread d => ?_) visited parties strategyId
  obtain ⟨instruments, routingId, _⟩ :=
    Spread.handle_card context source message (spread.hear source message) d
  exact Prod.ext instruments routingId

theorem sameEntries_notify [Utils] (refuses : Request → Bool) (order : List Nat) (source : Nat)
    (message : Message C) (s : Bridge C) :
    SameEntries s (s.notify refuses order source message).1 := by
  refine ⟨rfl, rfl, rfl, fun _ => rfl, ?_⟩
  refine forEach_invariant (S := Map Nat (Spread C) × Dispatcher)
    (I := fun parties => ∀ strategyId, (parties.1.lookup strategyId).map card =
      (s.strategies.lookup strategyId).map card) ?_ fun _ => rfl
  intro visited _ parties same strategyId
  exact (deliver_cards _ source message visited parties strategyId).trans (same strategyId)

theorem sameEntries_onEvent [Utils] (occurrence : Occurrence C) (s : Bridge C) :
    SameEntries s (s.onEvent occurrence).1 := by
  have arrived := sameEntries_arrive occurrence.event s
  rcases onEvent_cases s occurrence with heard | ⟨_, _, _, lost⟩ | ⟨_, _, _, _, _, lost⟩
  · rw [heard]
    exact arrived.trans (sameEntries_notify _ _ _ _ _)
  · rw [lost]
    exact arrived
  · rw [lost]
    exact ⟨rfl, rfl, rfl, fun _ => rfl, fun _ => rfl⟩

/-- Routing ids, routes and strategies refer to each other. -/
structure Directory (encode : Nat → String) (s : Bridge C) : Prop where
  named : ∀ (strategyId : Nat) (spread : Spread C),
    s.strategies.lookup strategyId = some spread → spread.routingId = encode strategyId
  numbered : ∀ strategyId ∈ s.strategies, strategyId < 2 ^ 32
  listed : ∀ strategyId ∈ s.strategies,
    s.routingIdToStrategy.lookup (encode strategyId) = some strategyId
  known : ∀ (routingId : String) (strategyId : Nat),
    s.routingIdToStrategy.lookup routingId = some strategyId →
      routingId = encode strategyId ∧ strategyId ∈ s.strategies
  configured : ∀ (strategyId : Nat) (spread : Spread C),
    s.strategies.lookup strategyId = some spread → ∀ instrument ∈ spread.instruments,
      instrument.key ∈ s.config.exchangeSymbols
  routed : ∀ (key : Key) (strategyId : Nat), strategyId ∈ (s.routes key).strategies ↔
    ∃ spread, s.strategies.lookup strategyId = some spread ∧
      key ∈ spread.instruments.map Instrument.key
  distinct : ∀ key, (s.routes key).strategies.Nodup

theorem SameEntries.mem {s t : Bridge C} (same : SameEntries s t) {strategyId : Nat}
    (mem : strategyId ∈ t.strategies) : strategyId ∈ s.strategies := by
  obtain ⟨spread, found⟩ := exists_lookup mem
  obtain ⟨before, earlier, _⟩ := same.lookup found
  exact mem_of_lookup earlier

theorem directory_same {encode : Nat → String} {s t : Bridge C} (same : SameEntries s t)
    (directory : Directory encode s) : Directory encode t where
  named := by
    intro strategyId spread found
    obtain ⟨before, earlier, _, routingId⟩ := same.lookup found
    exact routingId.symm.trans (directory.named strategyId before earlier)
  numbered := fun strategyId mem => directory.numbered strategyId (same.mem mem)
  listed := by
    intro strategyId mem
    rw [same.routingIdToStrategy]
    exact directory.listed strategyId (same.mem mem)
  known := by
    intro routingId strategyId found
    rw [same.routingIdToStrategy] at found
    obtain ⟨equal, mem⟩ := directory.known routingId strategyId found
    exact ⟨equal, same.symm.mem mem⟩
  configured := by
    intro strategyId spread found instrument mem
    obtain ⟨before, earlier, instruments, _⟩ := same.lookup found
    rw [same.config]
    exact directory.configured strategyId before earlier instrument (instruments ▸ mem)
  routed := by
    intro key strategyId
    rw [same.listeners, directory.routed]
    constructor
    · rintro ⟨before, earlier, mem⟩
      obtain ⟨spread, found, instruments, _⟩ := same.symm.lookup earlier
      exact ⟨spread, found, instruments ▸ mem⟩
    · rintro ⟨spread, found, mem⟩
      obtain ⟨before, earlier, instruments, _⟩ := same.lookup found
      exact ⟨before, earlier, instruments ▸ mem⟩
  distinct := fun key => by
    rw [same.listeners]
    exact directory.distinct key

theorem lookup_addStrategy_self {s : Bridge C} (fresh : s.strategyId ∉ s.strategies)
    (spread : Spread C) : (s.addStrategy spread).strategies.lookup s.strategyId = some spread :=
  lookup_emplace_of_fresh fresh spread

theorem lookup_addStrategy_of_some {s : Bridge C} {strategyId : Nat} {other : Spread C}
    (found : s.strategies.lookup strategyId = some other) (spread : Spread C) :
    (s.addStrategy spread).strategies.lookup strategyId = some other :=
  lookup_emplace_of_some found _ _

theorem mem_addStrategy {s : Bridge C} {spread : Spread C} {strategyId : Nat} :
    strategyId ∈ (s.addStrategy spread).strategies ↔
      strategyId = s.strategyId ∨ strategyId ∈ s.strategies := mem_emplace

/-- The new strategy is on the routes of its instruments, and the others are where they were. -/
theorem mem_listeners_addStrategy {s : Bridge C} {spread : Spread C} {key : Key}
    {strategyId : Nat} :
    strategyId ∈ ((s.addStrategy spread).routes key).strategies ↔
      strategyId ∈ (s.routes key).strategies ∨
        strategyId = s.strategyId ∧ key ∈ spread.instruments.map Instrument.key := by
  simp only [addStrategy]
  split
  · rename_i listed
    rw [Route.add, List.mem_insert_iff]
    constructor
    · rintro (new | old)
      · exact .inr ⟨new, listed⟩
      · exact .inl old
    · rintro (old | ⟨new, _⟩)
      · exact .inr old
      · exact .inl new
  · rename_i unlisted
    constructor
    · exact .inl
    · rintro (old | ⟨_, listed⟩)
      · exact old
      · exact (unlisted listed).elim

/-- No routing id is given away twice, since strategy ids are not. -/
private theorem fresh_routingId {encode : Nat → String} (encodes : Encodes encode) {s : Bridge C}
    (directory : Directory encode s) (bounded : s.strategyId < 2 ^ 32)
    (fresh : s.strategyId ∉ s.strategies) : encode s.strategyId ∉ s.routingIdToStrategy := by
  intro mem
  obtain ⟨strategyId, found⟩ := exists_lookup mem
  obtain ⟨equal, present⟩ := directory.known _ strategyId found
  have same := encodes.injective _ _ bounded (directory.numbered strategyId present) equal
  rw [same] at fresh
  exact fresh present

/-- A strategy whose instruments are configured enters the tables under its own id. -/
theorem directory_addStrategy {encode : Nat → String} (encodes : Encodes encode) {s : Bridge C}
    (directory : Directory encode s) (bounded : s.strategyId < 2 ^ 32)
    (fresh : s.strategyId ∉ s.strategies) {spread : Spread C}
    (named : spread.routingId = encode s.strategyId)
    (configured : ∀ instrument ∈ spread.instruments,
      instrument.key ∈ s.config.exchangeSymbols) : Directory encode (s.addStrategy spread) := by
  have unknown := fresh_routingId encodes directory bounded fresh
  have table : (s.addStrategy spread).routingIdToStrategy =
      emplace (encode s.strategyId) s.strategyId s.routingIdToStrategy := by rw [← named]; rfl
  refine ⟨?_, ?_, ?_, ?_, ?_, ?_, ?_⟩
  · intro strategyId other found
    rcases lookup_addStrategy fresh found with ⟨rfl, rfl⟩ | ⟨_, before⟩
    · exact named
    · exact directory.named strategyId other before
  · intro strategyId mem
    rcases mem_addStrategy.mp mem with rfl | before
    · exact bounded
    · exact directory.numbered strategyId before
  · intro strategyId mem
    rw [table]
    rcases mem_addStrategy.mp mem with rfl | before
    · exact lookup_emplace_of_fresh unknown _
    · exact lookup_emplace_of_some (directory.listed strategyId before) _ _
  · intro routingId strategyId found
    rw [table] at found
    by_cases new : routingId = encode s.strategyId
    · subst new
      rw [lookup_emplace_of_fresh unknown] at found
      cases found
      exact ⟨rfl, mem_addStrategy.mpr (.inl rfl)⟩
    · rw [lookup_emplace_of_ne new] at found
      obtain ⟨equal, before⟩ := directory.known routingId strategyId found
      exact ⟨equal, mem_addStrategy.mpr (.inr before)⟩
  · intro strategyId other found
    rcases lookup_addStrategy fresh found with ⟨_, rfl⟩ | ⟨_, before⟩
    · exact configured
    · exact directory.configured strategyId other before
  · intro key strategyId
    rw [mem_listeners_addStrategy]
    constructor
    · rintro (old | ⟨rfl, listed⟩)
      · obtain ⟨other, before, listed⟩ := (directory.routed key strategyId).mp old
        exact ⟨other, lookup_addStrategy_of_some before spread, listed⟩
      · exact ⟨spread, lookup_addStrategy_self fresh spread, listed⟩
    · rintro ⟨other, found, listed⟩
      rcases lookup_addStrategy fresh found with ⟨here, rfl⟩ | ⟨_, before⟩
      · exact .inr ⟨here, listed⟩
      · exact .inl ((directory.routed key strategyId).mpr ⟨other, before, listed⟩)
  · intro key
    have distinct := directory.distinct key
    simp only [addStrategy]
    split
    · exact distinct.insert
    · exact distinct

/-- The instruments of a strategy and its routing id are those it was created with. -/
private theorem created_card {compare : Double → Double → Ordering} {instruments : List Instrument}
    {routingId : String} {request : CreateOrder} {spread : Spread C}
    (created : Spread.create compare instruments routingId request = .ok spread) :
    spread.instruments = instruments ∧ spread.routingId = routingId := by
  obtain ⟨managers, _, rfl⟩ := Client.ok_of_map created
  exact ⟨rfl, rfl⟩

theorem directory_createStrategy {encode : Nat → String} (encodes : Encodes encode)
    {compare : Double → Double → Ordering} {request : CreateOrder} {s t : Bridge C}
    (directory : Directory encode s)
    (returned : s.createStrategy encode compare request = (t, none)) : Directory encode t := by
  obtain ⟨strategy, spread, found, created, fresh, rfl⟩ := createStrategy_returned returned
  obtain ⟨instruments, named⟩ := created_card created
  have numbered : Directory encode (s.numbered.check (request.routingId = "") .routingIdGiven) :=
    ⟨directory.named, directory.numbered, directory.listed, directory.known,
      directory.configured, directory.routed, directory.distinct⟩
  refine directory_addStrategy encodes numbered (Nat.mod_lt _ (by decide)) fresh named ?_
  rw [instruments]
  exact fun instrument mem => Config.key_mem_exchangeSymbols found mem

theorem directory_initial (encode : Nat → String) (config : Config) :
    Directory encode (initial C config) where
  named := fun _ _ found => (lookup_empty_ne found).elim
  numbered := fun strategyId mem => (AList.notMem_empty strategyId mem).elim
  listed := fun strategyId mem => (AList.notMem_empty strategyId mem).elim
  known := fun _ _ found => (lookup_empty_ne found).elim
  configured := fun _ _ found => (lookup_empty_ne found).elim
  routed := by
    intro key strategyId
    constructor
    · exact fun mem => (List.not_mem_nil mem).elim
    · rintro ⟨_, found, _⟩
      exact (lookup_empty_ne found).elim
  distinct := fun _ => List.nodup_nil

theorem findStrategy_eq {encode : Nat → String} {s : Bridge C} (directory : Directory encode s)
    {strategyId : Nat} {spread : Spread C}
    (found : s.strategies.lookup strategyId = some spread) :
    s.findStrategy spread.routingId = some strategyId := by
  have present := mem_of_lookup found
  rw [findStrategy, directory.named strategyId spread found, directory.listed strategyId present,
    Option.filter_some, if_pos (decide_eq_true present)]

/-- An event that is addressed to the bridge finds everyone it is meant for. -/
theorem onEvent_of_addressed [Utils] {encode : Nat → String} {s : Bridge C}
    (directory : Directory encode s) {occurrence : Occurrence C}
    (addressed : s.Addressed occurrence.event) :
    s.onEvent occurrence =
      (s.arrive occurrence.event).notify occurrence.refuses (s.hearers occurrence)
        occurrence.event.source occurrence.event.message := by
  rcases onEvent_cases s occurrence with heard | ⟨routingId, ofEvent, lost, _⟩ |
    ⟨source, key, message, ofEvent, unrouted, _⟩
  · exact heard
  · obtain ⟨strategyId, spread, found, rfl⟩ := addressed.routingId routingId ofEvent
    rw [findStrategy_eq directory found] at lost
    cases lost
  · exact (unrouted (addressed.key source key message ofEvent)).elim

/-- Whoever hears of an event exists, and hears of it once. -/
theorem hearers_spec {encode : Nat → String} {s : Bridge C} (directory : Directory encode s)
    {occurrence : Occurrence C} (possible : s.Possible (.event occurrence)) :
    (∀ strategyId ∈ s.hearers occurrence, strategyId ∈ s.strategies) ∧
      (s.hearers occurrence).Nodup := by
  have single (routingId : String) :
      (∀ strategyId ∈ (s.findStrategy routingId).toList, strategyId ∈ s.strategies) ∧
        (s.findStrategy routingId).toList.Nodup := by
    cases found : s.findStrategy routingId with
    | none => exact ⟨nofun, List.nodup_nil⟩
    | some strategyId =>
        refine ⟨fun other mem => ?_, List.nodup_singleton _⟩
        cases List.mem_singleton.mp mem
        exact of_decide_eq_true (Option.filter_eq_some_iff.mp found).2
  have everyone : (∀ strategyId ∈ s.audience occurrence.event, strategyId ∈ s.strategies) ∧
      (s.audience occurrence.event).Nodup := by
    cases occurrence.event with
    | timer | gateway => exact ⟨fun _ => id, s.strategies.keys_nodup⟩
    | market source key message =>
        refine ⟨fun strategyId mem => ?_, directory.distinct key⟩
        obtain ⟨spread, found, _⟩ := (directory.routed key strategyId).mp mem
        exact mem_of_lookup found
    | orderAck | orderUpdate => exact ⟨nofun, List.nodup_nil⟩
  have ordered : (∀ strategyId ∈ occurrence.order, strategyId ∈ s.strategies) ∧
      occurrence.order.Nodup :=
    ⟨fun strategyId mem => everyone.1 strategyId (possible.1.mem_iff.mp mem),
      possible.1.nodup_iff.mpr everyone.2⟩
  have changed (changed : Bool) :
      (∀ strategyId ∈ (if changed then occurrence.order else []), strategyId ∈ s.strategies) ∧
        (if changed then occurrence.order else []).Nodup := by
    cases changed with
    | true => exact ordered
    | false => exact ⟨nofun, List.nodup_nil⟩
  unfold hearers
  split
  · exact ordered
  · exact changed _
  · exact changed _
  · exact single _
  · exact single _

end Bridge

end RoqSamples.AlgoProto
