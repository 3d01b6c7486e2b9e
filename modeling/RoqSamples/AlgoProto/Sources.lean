/- AlgoProto/Sources
   digest: Sources are discovered before any order is created, and every request for an order goes
     to the source of the order. -/
import RoqSamples.AlgoProto.Directory

set_option autoImplicit false
set_option relaxedAutoImplicit false

namespace RoqSamples.AlgoProto.Sources

open RoqSamples.Algo
open RoqSamples.Arith (Double)
open RoqSamples.Client (Utils)
open RoqSamples.Execution.Calls

variable {C : Caches}

/-- A ModifyOrder or a CancelOrder. -/
def followsUp : Request → Bool
  | .create _ => false
  | .modify _ | .cancel _ => true

/-- Orders go to the discovered source of their market, and every request for an order goes to the
source of its CreateOrder. -/
structure SourceKept (view : View C) (log : List Entry) : Prop where
  discovered : ∀ request source, Entry.sent (.create request) source ∈ log →
    ∃ known, source = some known ∧ (view.market request.key).source = some known
  created : ∀ request source, Entry.sent request source ∈ log → followsUp request = true →
    ∃ create, Entry.sent (.create create) source ∈ log ∧ create.orderId = request.orderId ∧
      create.routingId = request.routingId
  kept : ∀ request source, Entry.sent request source ∈ log → followsUp request = true →
    ∀ create other, Entry.sent (.create create) other ∈ log →
      create.orderId = request.orderId → other = source

/-- What the dispatcher knows of the orders: the table has their sources, below the counter. Once
the counter has wrapped around, the id 0 says nothing, and no request follows up an order without
an id. -/
structure Sourced (view : View C) (d : Dispatcher) : Prop where
  bounded : d.maxOrderId < 2 ^ 64
  below : ∀ orderId ∈ d.orderIdToSource, orderId ≤ d.maxOrderId
  discovered : ∀ request source, Entry.sent (.create request) source ∈ d.log →
    ∃ known, source = some known ∧ (view.market request.key).source = some known
  tabled : ∀ request source, Entry.sent (.create request) source ∈ d.log → request.orderId ≠ 0 →
    d.orderIdToSource.lookup request.orderId = some source
  created : ∀ request source, Entry.sent request source ∈ d.log → followsUp request = true →
    request.orderId ≠ 0 ∧ ∃ create, Entry.sent (.create create) source ∈ d.log ∧
      create.orderId = request.orderId ∧ create.routingId = request.routingId

theorem Sourced.sourceKept {view : View C} {d : Dispatcher} (sourced : Sourced view d) :
    SourceKept view d.log where
  discovered := sourced.discovered
  created := fun request source sent follows => (sourced.created request source sent follows).2
  kept := by
    intro request source sent follows create other creation same
    obtain ⟨nonzero, first, earlier, sameId, _⟩ := sourced.created request source sent follows
    have here := sourced.tabled create other creation (same.trans_ne nonzero)
    have there := sourced.tabled first source earlier (sameId.trans_ne nonzero)
    rw [same, ← sameId, there] at here
    exact (Option.some.inj here).symm

section Dispatching

variable {view : View C} {d : Dispatcher}

theorem sourced_check (sourced : Sourced view d) (holds : Bool) (assertion : Assertion) :
    Sourced view (d.check holds assertion) := by
  cases holds with
  | true => exact sourced
  | false =>
      exact ⟨sourced.bounded, sourced.below, sourced.discovered, sourced.tabled, sourced.created⟩

private theorem sourced_raise (sourced : Sourced view d) {orderId : Nat}
    (bounded : orderId < 2 ^ 64) : Sourced view (d.raise orderId) where
  bounded := Nat.max_lt.mpr ⟨sourced.bounded, bounded⟩
  below := fun other mem => (sourced.below other mem).trans (Nat.le_max_left _ _)
  discovered := sourced.discovered
  tabled := sourced.tabled
  created := sourced.created

private theorem sourced_assign (sourced : Sourced view d) {orderId : Nat}
    (bounded : orderId ≤ d.maxOrderId) (source : Option Nat) :
    Sourced view (d.assign orderId source) where
  bounded := sourced.bounded
  below := by
    intro other mem
    rcases mem_emplace.mp mem with rfl | before
    · exact bounded
    · exact sourced.below other before
  discovered := sourced.discovered
  tabled := fun request known sent nonzero =>
    lookup_emplace_of_some (sourced.tabled request known sent nonzero) _ _
  created := sourced.created

private theorem sourced_log (sourced : Sourced view d) {entry : Entry}
    (discovered : ∀ request source, entry = .sent (.create request) source →
      ∃ known, source = some known ∧ (view.market request.key).source = some known)
    (tabled : ∀ request source, entry = .sent (.create request) source → request.orderId ≠ 0 →
      d.orderIdToSource.lookup request.orderId = some source)
    (created : ∀ request source, entry = .sent request source → followsUp request = true →
      request.orderId ≠ 0 ∧ ∃ create, Entry.sent (.create create) source ∈ d.log ∧
        create.orderId = request.orderId ∧ create.routingId = request.routingId) :
    Sourced view { d with log := d.log ++ [entry] } := by
  have split {other : Entry} (mem : other ∈ d.log ++ [entry]) : other ∈ d.log ∨ entry = other := by
    rcases List.mem_append.mp mem with before | last
    · exact .inl before
    · exact .inr (List.mem_singleton.mp last).symm
  refine ⟨sourced.bounded, sourced.below, ?_, ?_, ?_⟩
  · intro request source mem
    rcases split mem with before | new
    · exact sourced.discovered request source before
    · exact discovered request source new
  · intro request source mem nonzero
    rcases split mem with before | new
    · exact sourced.tabled request source before nonzero
    · exact tabled request source new nonzero
  · intro request source mem follows
    have earlier : request.orderId ≠ 0 ∧ ∃ create, Entry.sent (.create create) source ∈ d.log ∧
        create.orderId = request.orderId ∧ create.routingId = request.routingId := by
      rcases split mem with before | new
      · exact sourced.created request source before follows
      · exact created request source new follows
    obtain ⟨nonzero, create, sent, sameOrder⟩ := earlier
    exact ⟨nonzero, create, List.mem_append_left _ sent, sameOrder⟩

private theorem sourced_report (sourced : Sourced view d) {orderId : Nat}
    (bounded : orderId < 2 ^ 64) : Sourced view (d.report orderId) := by
  refine sourced_log (sourced_raise sourced bounded) ?_ ?_ ?_
  · intro request source same
    cases same
  · intro request source same
    cases same
  · intro request source same
    cases same

private theorem sourced_accept (sourced : Sourced view d) {request : Request}
    (bounded : request.orderId < 2 ^ 64) : Sourced view (d.accept request) :=
  sourced_raise (sourced_check sourced _ _) bounded

/-- An id that is not 0 is above all ids of the table. -/
private theorem fresh_nextOrderId (sourced : Sourced view d) (nonzero : d.nextOrderId ≠ 0) :
    d.nextOrderId ∉ d.orderIdToSource := by
  have bounded := sourced.bounded
  have next : d.nextOrderId = d.maxOrderId + 1 := by
    simp only [Dispatcher.nextOrderId, Client.uint64] at nonzero ⊢
    omega
  intro mem
  have below := sourced.below _ mem
  omega

private theorem sourced_createOrder {context : Context C} (sourced : Sourced context.toView d)
    {request : CreateOrder} (numbered : request.orderId = d.nextOrderId) {known : Nat}
    (discovered : (context.market request.key).source = some known) :
    Sourced context.toView (d.createOrder context request).1 := by
  have bounded : request.orderId < 2 ^ 64 := by
    rw [numbered]
    exact Nat.mod_lt _ (by decide)
  have accepted : Sourced context.toView (d.accept (.create request)) :=
    sourced_accept sourced bounded
  unfold Dispatcher.createOrder
  split
  · refine sourced_log (sourced_assign accepted (Nat.le_max_right _ _) _) ?_ ?_ ?_
    · intro other source same
      cases same
      exact ⟨known, discovered, discovered⟩
    · intro other source same nonzero
      cases same
      refine lookup_emplace_of_fresh ?_ _
      rw [numbered] at nonzero ⊢
      rw [Dispatcher.accept_orderIdToSource]
      exact fresh_nextOrderId sourced nonzero
    · intro other source same follows
      cases same
      cases follows
  · exact accepted

private theorem sourced_followUp {context : Context C} (sourced : Sourced context.toView d)
    {request : Request} (nonzero : request.orderId ≠ 0)
    (follows : followsUp request = true)
    (created : ∃ create source, Entry.sent (.create create) source ∈ d.log ∧
      create.orderId = request.orderId ∧ create.routingId = request.routingId) :
    Sourced context.toView (d.followUp context request).1 := by
  obtain ⟨create, source, sent, sameId, sameRoute⟩ := created
  have tabled := sourced.tabled create source sent (sameId.trans_ne nonzero)
  rw [sameId] at tabled
  have bounded : request.orderId < 2 ^ 64 :=
    Nat.lt_of_le_of_lt (sourced.below _ (mem_of_lookup tabled)) sourced.bounded
  have accepted := sourced_accept sourced bounded
  unfold Dispatcher.followUp
  rw [Dispatcher.accept_orderIdToSource, tabled]
  refine sourced_log accepted ?_ ?_ ?_
  · intro other target same
    cases same
    cases follows
  · intro other target same
    cases same
    cases follows
  · intro other target same _
    cases same
    rw [Dispatcher.accept_log]
    exact ⟨nonzero, create, sent, sameId, sameRoute⟩

end Dispatching

/-- An order manager stands at its index. Its order was created, and the strategy finds it by the
id of every order it has created; only the first one is ever given a target. -/
structure Employed (routingId : String) (table : Map Nat Nat) (d : Dispatcher) (position : Nat)
    (manager : OrderManager) : Prop where
  index : manager.index = position
  created : manager.orderId ≠ 0 → ∃ create source, Entry.sent (.create create) source ∈ d.log ∧
    create.orderId = manager.orderId ∧ create.routingId = routingId
  tabled : ∀ orderId, Note.created orderId ∈ manager.journal → position = 0 ∧ orderId ∈ table

/-- The order managers of a strategy are as they should be, and an instrument that was ready once
has discovered its source. -/
structure Settled (view : View C) (b : Base) (d : Dispatcher) : Prop where
  employed : ∀ (position : Nat) (manager : OrderManager),
    b.orderManagers[position]? = some manager →
      Employed b.routingId b.orderIdToOrderManagerIndex d position manager
  first : ∀ orderId index, b.orderIdToOrderManagerIndex.lookup orderId = some index → index = 0
  length : b.readyByInstrument.length = b.instruments.length
  discovered : ∀ (position : Nat) (instrument : Instrument),
    b.instruments[position]? = some instrument → b.readyByInstrument[position]? = some true →
      ∃ source, (view.market instrument.key).source = some source
  ready : b.ready = true → b.readyByInstrument.all id = true

section Managing

variable {view : View C} {b : Base} {d : Dispatcher}

private theorem employed_grows {routingId : String} {table : Map Nat Nat} {d' : Dispatcher}
    {position : Nat} {manager : OrderManager} (grows : d.Grows d')
    (employed : Employed routingId table d position manager) :
    Employed routingId table d' position manager where
  index := employed.index
  created := by
    intro nonzero
    obtain ⟨create, source, sent, same⟩ := employed.created nonzero
    exact ⟨create, source, grows.log.subset sent, same⟩
  tabled := employed.tabled

private theorem settled_grows {d' : Dispatcher} (grows : d.Grows d') (settled : Settled view b d) :
    Settled view b d' :=
  ⟨fun position manager found => employed_grows grows (settled.employed position manager found),
    settled.first, settled.length, settled.discovered, settled.ready⟩

private theorem settled_extends {view' : View C} (extension : Extends view view')
    (settled : Settled view b d) : Settled view' b d where
  employed := settled.employed
  first := settled.first
  length := settled.length
  discovered := by
    intro position instrument found flag
    obtain ⟨source, known⟩ := settled.discovered position instrument found flag
    exact ⟨source, extension instrument.key source known⟩
  ready := settled.ready

/-- An order manager may be replaced by one that is as it should be. -/
private theorem settled_put (settled : Settled view b d) {position : Nat} {manager : OrderManager}
    (employed : Employed b.routingId b.orderIdToOrderManagerIndex d position manager) :
    Settled view (b.put position manager) d where
  employed := by
    intro other found listed
    by_cases same : position = other
    · subst same
      obtain ⟨_, set⟩ := List.getElem?_eq_some_iff.mp listed
      have replaced : manager = found := (List.getElem_set_self _).symm.trans set
      exact replaced ▸ employed
    · exact settled.employed other found ((List.getElem?_set_ne same).symm.trans listed)
  first := settled.first
  length := settled.length
  discovered := settled.discovered
  ready := settled.ready

/-- A note that is no creation changes nothing. -/
private theorem employed_note {routingId : String} {table : Map Nat Nat} {position : Nat}
    {manager : OrderManager} (employed : Employed routingId table d position manager)
    {notes : List Note} (quiet : ∀ orderId, Note.created orderId ∉ notes) :
    Employed routingId table d position (manager.note notes) where
  index := employed.index
  created := employed.created
  tabled := by
    intro orderId mem
    rcases List.mem_append.mp mem with before | new
    · exact employed.tabled orderId before
    · exact (quiet orderId new).elim

private theorem employed_aim {routingId : String} {table : Map Nat Nat} {position : Nat}
    {manager : OrderManager} (employed : Employed routingId table d position manager)
    (quantity price : Double) :
    Employed routingId table d position (manager.aim quantity price) := by
  have quiet (orderId : Nat) : Note.created orderId ∉ [Note.target quantity price] := by
    simp only [List.mem_singleton, reduceCtorEq, not_false_eq_true]
  have noted := employed_note employed quiet
  exact ⟨noted.index, noted.created, noted.tabled⟩

theorem settled_dispatch (settled : Settled view b d) {orderId : Nat} {note : Note}
    (received : note.isReceived = true) : Settled view (b.dispatch orderId note).1 d := by
  rcases Base.dispatch_cases orderId note b with same | ⟨index, manager, _, found, noted⟩
  · rwa [same]
  · rw [noted]
    refine settled_put settled (employed_note (settled.employed index manager found) ?_)
    intro created mem
    cases List.mem_singleton.mp mem
    cases received

/-- `State::ready` says that an instrument is ready only when its source is known, unless it was
ready before. -/
theorem settled_update [Utils] (settled : Settled view b d) (source : Nat) :
    Settled view (b.update view source).1 d := by
  have length : (List.zipWith
      (fun instrument result => view.ready instrument source b.account result)
      b.instruments b.readyByInstrument).length = b.instruments.length := by
    rw [List.length_zipWith, settled.length, Nat.min_self]
  have discovered (position : Nat) (instrument : Instrument)
      (found : b.instruments[position]? = some instrument)
      (flag : (List.zipWith
        (fun instrument result => view.ready instrument source b.account result)
        b.instruments b.readyByInstrument)[position]? = some true) :
      ∃ known, (view.market instrument.key).source = some known := by
    obtain ⟨same, result, found', before, up⟩ := List.getElem?_zipWith_eq_some.mp flag
    rw [found] at found'
    cases found'
    unfold View.ready at up
    split at up
    · rename_i known
      exact ⟨source, known⟩
    · rw [up] at before
      exact settled.discovered position instrument found before
  unfold Base.update
  dsimp only
  split
  · exact ⟨settled.employed, settled.first, length, discovered, id⟩
  · rename_i unchanged
    refine ⟨settled.employed, settled.first, length, discovered, fun ready => ?_⟩
    have same : b.ready = (List.zipWith
        (fun instrument result => view.ready instrument source b.account result)
        b.instruments b.readyByInstrument).all id := by
      simpa using unchanged
    exact same.symm.trans ready

/-- All instruments of a strategy that is ready have discovered their source. -/
private theorem discovered_of_ready (settled : Settled view b d) (ready : b.ready = true)
    {position : Nat} {instrument : Instrument}
    (found : b.instruments[position]? = some instrument) :
    ∃ source, (view.market instrument.key).source = some source := by
  obtain ⟨inside, _⟩ := List.getElem?_eq_some_iff.mp found
  have bound : position < b.readyByInstrument.length := by rwa [settled.length]
  have flags := List.all_eq_true.mp (settled.ready ready) b.readyByInstrument[position]
    (List.getElem_mem bound)
  refine settled.discovered position instrument found ?_
  rw [List.getElem?_eq_getElem bound]
  exact congrArg some flags

/-- The order manager at the front has created an order, and its CreateOrder is known. -/
private theorem settled_register (settled : Settled view b d) {manager : OrderManager}
    (employed : Employed b.routingId b.orderIdToOrderManagerIndex d 0 manager) {orderId : Nat}
    (sent : ∃ create source, Entry.sent (.create create) source ∈ d.log ∧
      create.orderId = orderId ∧ create.routingId = b.routingId) :
    Settled view (b.register 0 orderId manager) d := by
  have first (id index : Nat)
      (found : (emplace orderId manager.index b.orderIdToOrderManagerIndex).lookup id =
        some index) : index = 0 := by
    rcases lookup_emplace_cases found with before | ⟨_, new⟩
    · exact settled.first id index before
    · exact new.trans employed.index
  have wider {position : Nat} {other : OrderManager}
      (known : Employed b.routingId b.orderIdToOrderManagerIndex d position other) :
      Employed b.routingId (emplace orderId manager.index b.orderIdToOrderManagerIndex) d
        position other := by
    refine ⟨known.index, known.created, fun id mem => ?_⟩
    obtain ⟨front, present⟩ := known.tabled id mem
    exact ⟨front, mem_emplace.mpr (.inr present)⟩
  have holds : Employed b.routingId
      (emplace orderId manager.index b.orderIdToOrderManagerIndex) d 0 (manager.hold orderId) := by
    refine ⟨employed.index, fun _ => sent, fun id mem => ?_⟩
    rcases List.mem_append.mp mem with before | new
    · exact (wider employed).tabled id before
    · cases List.mem_singleton.mp new
      exact ⟨rfl, mem_emplace.mpr (.inl rfl)⟩
  have widened : Settled view
      { b with orderIdToOrderManagerIndex :=
          emplace orderId manager.index b.orderIdToOrderManagerIndex } d :=
    ⟨fun position other found => wider (settled.employed position other found), first,
      settled.length, settled.discovered, settled.ready⟩
  exact settled_put widened holds

private theorem logged_of_createOrder {context : Context C} {request : CreateOrder}
    {d' : Dispatcher} (returned : d.createOrder context request = (d', none)) :
    Entry.sent (.create request) (context.market request.key).source ∈ d'.log := by
  unfold Dispatcher.createOrder at returned
  split at returned
  · have final := congrArg (fun result => result.1.log) returned
    exact final ▸ List.mem_append_right _ (List.mem_singleton_self _)
  · cases returned

/-- A strategy that is ready sets a target: its order goes to the source of the market, and a later
request goes where the order went. -/
theorem settled_targeted [Utils] {context : Context C} {quantity price : Double}
    {result : (Base × Dispatcher) × Option Stop}
    (targeted : Base.Targeted context 0 quantity price b d result)
    (settled : Settled context.toView b d) (sourced : Sourced context.toView d)
    (ready : b.ready = true) :
    Settled context.toView result.1.1 result.1.2 ∧ Sourced context.toView result.1.2 := by
  have noted := settled_grows (Dispatcher.grows_check b.ready .notReady d) settled
  have checked := sourced_check sourced b.ready .notReady
  -- the CreateOrder that either branch below dispatches
  have creates {manager : OrderManager} {instrument : Instrument}
      (found : b.orderManagers[0]? = some manager)
      (managed : b.instruments[manager.index]? = some instrument) :
      Sourced context.toView ((d.check b.ready .notReady).createOrder context
        ((manager.aim quantity price).createOrderRequest b.account b.routingId instrument
          d.nextOrderId)).1 := by
    obtain ⟨known, discovered⟩ := discovered_of_ready settled ready managed
    exact sourced_createOrder checked (Base.nextOrderId_check _ _ d).symm discovered
  cases targeted with
  | absent other same =>
      rcases same with rfl | rfl
      · exact ⟨settled, sourced⟩
      · exact ⟨noted, checked⟩
  | unchanged => exact ⟨noted, checked⟩
  | failed manager instrument d' stop found changes unordered managed stopped =>
      have after := creates found managed
      rw [stopped] at after
      have grown := settled_grows (Dispatcher.grows_of_createOrder stopped) noted
      exact ⟨settled_put grown (employed_aim (grown.employed 0 manager found) _ _), after⟩
  | placed manager instrument d' found changes unordered managed returned =>
      have after := creates found managed
      rw [returned] at after
      have grown := settled_grows (Dispatcher.grows_of_createOrder returned) noted
      have sent := logged_of_createOrder returned
      have registered := settled_register grown
        (employed_aim (grown.employed 0 manager found) quantity price)
        ⟨_, _, sent, rfl, rfl⟩
      exact ⟨settled_grows (Dispatcher.grows_check _ _ d') registered, sourced_check after _ _⟩
  | amended manager found changes ordered =>
      have aimed := employed_aim (noted.employed 0 manager found) quantity price
      have quiet (orderId : Nat) : Note.created orderId ∉ [Note.modified manager.orderId] := by
        simp only [List.mem_singleton, reduceCtorEq, not_false_eq_true]
      have put := settled_put noted (employed_note aimed quiet)
      have grows := Dispatcher.grows_followUp context
        (.modify ((manager.aim quantity price).modifyOrderRequest b.account b.routingId))
        (d.check b.ready .notReady)
      exact ⟨settled_grows grows put,
        sourced_followUp checked ordered rfl (aimed.created ordered)⟩

end Managing

theorem settled_invariant [Utils] :
    PartyInvariant (C := C) (fun view s d => Settled view s.toBase d) Sourced where
  stable := fun _ _ _ _ grows settled => settled_grows grows settled
  noted := fun _ _ assertion _ sourced => sourced_check sourced false assertion
  reported := fun _ _ _ bounded sourced => sourced_report sourced bounded
  refreshed := by
    intro view view' extension
    refine ⟨fun _ _ settled => settled_extends extension settled, fun d sourced => ?_⟩
    refine ⟨sourced.bounded, sourced.below, ?_, sourced.tabled, sourced.created⟩
    intro request source sent
    obtain ⟨known, same, discovered⟩ := sourced.discovered request source sent
    exact ⟨known, same, extension request.key known discovered⟩
  heard := fun _ _ _ _ _ settled => settled
  handled := by
    intro context source message s d settled sourced
    refine Spread.handle_keeps
      (I := fun s d => Settled context.toView s.toBase d ∧ Sourced context.toView d) ?_ ?_ ?_ ?_
      message ⟨settled, sourced⟩
    · rintro s d ⟨settled, sourced⟩
      exact ⟨settled_update settled source, sourced⟩
    · rintro s d holds ⟨settled, sourced⟩
      exact ⟨settled_grows (Dispatcher.grows_check holds _ d) settled,
        sourced_check sourced holds _⟩
    · rintro s d price ⟨settled, sourced⟩ ready
      exact settled_targeted (Base.setTarget_targeted context 0 s.quantity price s.toBase d)
        settled sourced ready
    · rintro s d orderId note received ⟨settled, sourced⟩
      exact ⟨settled_dispatch settled received, sourced⟩
  created := by
    intro view d compare instruments routingId request spread created
    obtain ⟨managers, managed, rfl⟩ := Client.ok_of_map created
    obtain ⟨_, each⟩ := createOrderManagers_spec managed
    refine ⟨?_, ?_, List.length_replicate, ?_, nofun⟩
    · intro position manager found
      obtain ⟨_, side, _, _, rfl⟩ := each position manager found
      exact ⟨Nat.zero_add position, fun ordered => (ordered rfl).elim,
        fun _ mem => (List.not_mem_nil mem).elim⟩
    · exact fun _ _ found => (lookup_empty_ne found).elim
    · intro position instrument _ flag
      obtain ⟨_, flag⟩ := List.getElem?_eq_some_iff.mp flag
      rw [List.getElem_replicate] at flag
      cases flag

theorem sourced_initial (view : View C) : Sourced view {} where
  bounded := by decide
  below := fun orderId mem => (AList.notMem_empty orderId mem).elim
  discovered := fun _ _ mem => (List.not_mem_nil mem).elim
  tabled := fun _ _ mem => (List.not_mem_nil mem).elim
  created := fun _ _ mem => (List.not_mem_nil mem).elim

end RoqSamples.AlgoProto.Sources
