/- AlgoProto/OrderIds
   digest: Every order is created under an id above all ids that were sent or reported before. -/
import RoqSamples.AlgoProto.Parties

set_option autoImplicit false
set_option relaxedAutoImplicit false

namespace RoqSamples.AlgoProto.OrderIds

open RoqSamples.Algo
open RoqSamples.Arith (Double)
open RoqSamples.Client (Utils)
open RoqSamples.Execution.Calls
open RoqSamples.Execution.Runs

variable {C : Caches}

/-- A CreateOrder that was passed to the client. -/
def isCreate : Entry → Bool
  | .sent (.create _) _ => true
  | .sent (.modify _) _ | .sent (.cancel _) _ | .reported _ => false

/-- A CreateOrder has an id above that of every request and every report before it, its source is
the one that is kept for its id, and no order manager has met its id before. -/
structure Increasing (d : Dispatcher) : Prop where
  above : d.log.Pairwise fun earlier later =>
    isCreate later = true → earlier.orderId < later.orderId
  assigned : ∀ request source, Entry.sent (.create request) source ∈ d.log →
    d.orderIdToSource.lookup request.orderId = some source
  untaken : ∀ orderId, Assertion.orderIdTaken orderId ∉ d.failures

/-- The counter dominates every id that is known. -/
structure Dominated (d : Dispatcher) : Prop extends Increasing d where
  logged : ∀ entry ∈ d.log, entry.orderId ≤ d.maxOrderId
  known : ∀ orderId ∈ d.orderIdToSource, orderId ≤ d.maxOrderId

/-- Below the limit of the counter the ids are as they should be. -/
def Sound (d : Dispatcher) : Prop := d.maxOrderId + 1 < 2 ^ 64 → Dominated d

private theorem sound_check {d : Dispatcher} (sound : Sound d) (holds : Bool)
    (assertion : Assertion) (other : ∀ orderId, assertion ≠ .orderIdTaken orderId) :
    Sound (d.check holds assertion) := by
  intro limit
  rw [Dispatcher.check_maxOrderId] at limit
  obtain ⟨⟨above, assigned, untaken⟩, logged, known⟩ := sound limit
  refine ⟨⟨?_, ?_, ?_⟩, ?_, ?_⟩
  · rwa [Dispatcher.check_log]
  · rwa [Dispatcher.check_log, Dispatcher.check_orderIdToSource]
  · intro orderId failed
    rcases Dispatcher.mem_check_failures.mp failed with before | ⟨_, same⟩
    · exact untaken orderId before
    · exact other orderId same.symm
  · rwa [Dispatcher.check_log, Dispatcher.check_maxOrderId]
  · rwa [Dispatcher.check_orderIdToSource, Dispatcher.check_maxOrderId]

/-- Raising the counter keeps every id below it. -/
private theorem dominated_raise {d : Dispatcher} (dominated : Dominated d) (orderId : Nat) :
    Dominated (d.raise orderId) where
  toIncreasing := ⟨dominated.above, dominated.assigned, dominated.untaken⟩
  logged := fun entry mem => (dominated.logged entry mem).trans (Nat.le_max_left _ _)
  known := fun id mem => (dominated.known id mem).trans (Nat.le_max_left _ _)

private theorem dominated_assign {d : Dispatcher} (dominated : Dominated d) {orderId : Nat}
    (bounded : orderId ≤ d.maxOrderId) (source : Option Nat) :
    Dominated (d.assign orderId source) where
  above := dominated.above
  assigned := fun request known mem =>
    lookup_emplace_of_some (dominated.assigned request known mem) _ _
  untaken := dominated.untaken
  logged := dominated.logged
  known := by
    intro id mem
    rcases mem_emplace.mp mem with rfl | before
    · exact bounded
    · exact dominated.known id before

/-- An entry that creates no order, or an order above everything, may be appended. -/
private theorem dominated_log {d : Dispatcher} (dominated : Dominated d) {entry : Entry}
    (bounded : entry.orderId ≤ d.maxOrderId)
    (above : isCreate entry = true → ∀ earlier ∈ d.log, earlier.orderId < entry.orderId)
    (assigned : ∀ request source, entry = .sent (.create request) source →
      d.orderIdToSource.lookup request.orderId = some source) :
    Dominated { d with log := d.log ++ [entry] } := by
  refine ⟨⟨?_, ?_, dominated.untaken⟩, ?_, dominated.known⟩
  · refine List.pairwise_append.mpr ⟨dominated.above, List.pairwise_singleton _ _, ?_⟩
    intro earlier mem later last created
    cases List.mem_singleton.mp last
    exact above created earlier mem
  · intro request source mem
    rcases List.mem_append.mp mem with before | last
    · exact dominated.assigned request source before
    · exact assigned request source (List.mem_singleton.mp last).symm
  · intro other mem
    rcases List.mem_append.mp mem with before | last
    · exact dominated.logged other before
    · cases List.mem_singleton.mp last
      exact bounded

private theorem sound_report {d : Dispatcher} (sound : Sound d) (orderId : Nat) :
    Sound (d.report orderId) := by
  intro limit
  have before : d.maxOrderId + 1 < 2 ^ 64 :=
    Nat.lt_of_le_of_lt (Nat.succ_le_succ (Nat.le_max_left _ orderId)) limit
  have raised := dominated_raise (sound before) orderId
  have bounded : (Entry.reported orderId).orderId ≤ (d.raise orderId).maxOrderId :=
    Nat.le_max_right _ _
  refine dominated_log raised bounded ?_ ?_
  · intro created
    cases created
  · intro request source same
    cases same

/-- The next id is above every id that is known. -/
private theorem nextOrderId_eq {d : Dispatcher} (limit : d.maxOrderId + 1 < 2 ^ 64) :
    d.nextOrderId = d.maxOrderId + 1 := Client.uint64_succ_of_lt limit

private theorem createOrder_maxOrderId (context : Context C) (request : CreateOrder)
    (d : Dispatcher) :
    (d.createOrder context request).1.maxOrderId = max d.maxOrderId request.orderId := by
  have accepted : (d.accept (.create request)).maxOrderId = max d.maxOrderId request.orderId := by
    show max (d.check _ _).maxOrderId _ = _
    rw [Dispatcher.check_maxOrderId]
    rfl
  unfold Dispatcher.createOrder
  split
  · exact accepted
  · exact accepted

private theorem dominated_accept {d : Dispatcher} (sound : Sound d)
    (limit : d.maxOrderId + 1 < 2 ^ 64) (request : Request) :
    Dominated (d.accept request) := by
  have noted := sound_check sound (request.routingId ≠ "") .noRoutingId nofun
  refine dominated_raise (noted ?_) request.orderId
  rwa [Dispatcher.check_maxOrderId]

private theorem sound_createOrder {d : Dispatcher} (sound : Sound d) (context : Context C)
    (request : CreateOrder) (numbered : request.orderId = d.nextOrderId) :
    Sound (d.createOrder context request).1 := by
  intro limit
  have before : d.maxOrderId + 1 < 2 ^ 64 := by
    rw [createOrder_maxOrderId] at limit
    omega
  have fresh : request.orderId = d.maxOrderId + 1 := numbered.trans (nextOrderId_eq before)
  have accepted := dominated_accept sound before (.create request)
  unfold Dispatcher.createOrder
  split
  · have unknown : request.orderId ∉ (d.accept (.create request)).orderIdToSource := by
      rw [Dispatcher.accept_orderIdToSource]
      intro mem
      have bound := (sound before).known _ mem
      omega
    have assigned := dominated_assign accepted (Nat.le_max_right _ _)
      (context.market request.key).source
    refine dominated_log assigned (Nat.le_max_right _ _) ?_ ?_
    · intro _ earlier mem
      have logged : earlier ∈ (d.accept (.create request)).log := mem
      rw [Dispatcher.accept_log] at logged
      have bound := (sound before).logged earlier logged
      show earlier.orderId < request.orderId
      omega
    · intro other source same
      cases same
      exact lookup_emplace_of_fresh unknown _
  · exact accepted

private theorem sound_modifyOrder {d : Dispatcher} (sound : Sound d) (context : Context C)
    (request : ModifyOrder) : Sound (d.modifyOrder context request).1 := by
  intro limit
  have grows := (Dispatcher.grows_followUp context (.modify request) d).maxOrderId
  have accepted := dominated_accept sound
    (Nat.lt_of_le_of_lt (Nat.succ_le_succ grows) limit) (.modify request)
  unfold Dispatcher.modifyOrder Dispatcher.followUp
  split
  · refine dominated_log accepted (Nat.le_max_right _ _) ?_ ?_
    · intro created
      cases created
    · intro other source same
      cases same
  · exact accepted

/-- The ids under which a strategy finds its order managers are known to the dispatcher. -/
def Listed (s : Spread C) (d : Dispatcher) : Prop :=
  ∀ orderId ∈ s.orderIdToOrderManagerIndex, orderId ≤ d.maxOrderId

private theorem sound_targeted [Utils] {context : Context C} {position : Nat}
    {quantity price : Double}
    {b : Base} {d : Dispatcher} {result : (Base × Dispatcher) × Option Stop}
    (targeted : Base.Targeted context position quantity price b d result)
    (listed : ∀ orderId ∈ b.orderIdToOrderManagerIndex, orderId ≤ d.maxOrderId)
    (sound : Sound d) : Sound result.1.2 := by
  have checked : Sound (d.check b.ready .notReady) := sound_check sound b.ready _ nofun
  have numbered : d.nextOrderId = (d.check b.ready .notReady).nextOrderId :=
    (Base.nextOrderId_check _ _ d).symm
  cases targeted with
  | absent noted same =>
      rcases same with rfl | rfl
      · exact sound
      · exact checked
  | unchanged => exact checked
  | failed manager instrument d' stop found changes unordered managed stopped =>
      have created := sound_createOrder checked context
        ((manager.aim quantity price).createOrderRequest b.account b.routingId instrument
          d.nextOrderId) numbered
      rwa [stopped] at created
  | placed manager instrument d' found changes unordered managed returned =>
      have created := sound_createOrder checked context
        ((manager.aim quantity price).createOrderRequest b.account b.routingId instrument
          d.nextOrderId) numbered
      have grows := (Dispatcher.grows_of_createOrder returned).maxOrderId
      rw [returned] at created
      rw [Dispatcher.check_maxOrderId] at grows
      intro limit
      rw [Dispatcher.check_maxOrderId] at limit
      have fresh : d.nextOrderId ∉ b.orderIdToOrderManagerIndex := by
        intro mem
        have bound := listed _ mem
        rw [nextOrderId_eq (Nat.lt_of_le_of_lt (Nat.succ_le_succ grows) limit)] at bound
        omega
      simp only [fresh, not_false_eq_true, decide_true, Dispatcher.check_true]
      exact created limit
  | amended => exact sound_modifyOrder checked context _

private theorem listed_targeted [Utils] {context : Context C} {position : Nat}
    {quantity price : Double}
    {b : Base} {d : Dispatcher} {result : (Base × Dispatcher) × Option Stop}
    (targeted : Base.Targeted context position quantity price b d result)
    (listed : ∀ orderId ∈ b.orderIdToOrderManagerIndex, orderId ≤ d.maxOrderId) :
    ∀ orderId ∈ result.1.1.orderIdToOrderManagerIndex, orderId ≤ result.1.2.maxOrderId := by
  have grows := targeted.grows.maxOrderId
  cases targeted with
  | absent | unchanged | failed | amended =>
      exact fun orderId mem => (listed orderId mem).trans grows
  | placed manager instrument d' found changes unordered managed returned =>
      intro orderId mem
      rcases mem_emplace.mp mem with rfl | before
      · have created := createOrder_maxOrderId context
          ((manager.aim quantity price).createOrderRequest b.account b.routingId instrument
            d.nextOrderId) (d.check b.ready .notReady)
        rw [returned] at created
        rw [Dispatcher.check_maxOrderId, created]
        exact Nat.le_max_right _ _
      · exact (listed orderId before).trans grows

theorem sound_setTarget [Utils] {s : Spread C} {d : Dispatcher} (listed : Listed s d)
    (sound : Sound d) (context : Context C) (position : Nat) (quantity price : Double) :
    Listed (s.setTarget context position quantity price d).1.1
        (s.setTarget context position quantity price d).1.2 ∧
      Sound (s.setTarget context position quantity price d).1.2 := by
  have targeted := Base.setTarget_targeted context position quantity price s.toBase d
  exact ⟨listed_targeted targeted listed, sound_targeted targeted listed sound⟩

theorem sound_invariant [Utils] :
    PartyInvariant (fun _ s d => Listed (C := C) s d) (fun _ d => Sound d) where
  stable := fun _ s d d' grows listed orderId mem => (listed orderId mem).trans grows.maxOrderId
  noted := by
    intro _ d assertion ofBridge sound
    refine sound_check sound false _ fun orderId same => ?_
    rw [same] at ofBridge
    cases ofBridge
  reported := fun _ d orderId _ sound => sound_report sound orderId
  refreshed := fun _ _ _ => ⟨fun _ _ => id, fun _ => id⟩
  heard := fun _ _ _ _ _ => id
  handled := by
    intro context source message s d listed sound
    refine Spread.handle_keeps (I := fun s d => Listed s d ∧ Sound d) ?_ ?_ ?_ ?_ message
      ⟨listed, sound⟩
    · rintro s d ⟨listed, sound⟩
      refine ⟨?_, sound⟩
      have same := (Base.sameOrders_update context.toView source s.toBase).table
      show ∀ orderId ∈ (s.toBase.update context.toView source).1.orderIdToOrderManagerIndex, _
      rwa [same]
    · rintro s d holds ⟨listed, sound⟩
      refine ⟨?_, sound_check sound holds _ nofun⟩
      show ∀ orderId ∈ _, _
      rwa [Dispatcher.check_maxOrderId]
    · rintro s d price ⟨listed, sound⟩ _
      exact sound_setTarget listed sound context 0 s.quantity price
    · rintro s d orderId note _ ⟨listed, sound⟩
      refine ⟨?_, sound⟩
      show ∀ orderId ∈ (s.toBase.dispatch _ note).1.orderIdToOrderManagerIndex, _
      rcases Base.dispatch_cases orderId note s.toBase with same | ⟨_, _, _, _, noted⟩
      · rwa [same]
      · rw [noted]
        exact listed
  created := by
    intro _ d compare instruments routingId request spread created
    obtain ⟨managers, _, rfl⟩ := Client.ok_of_map created
    exact fun orderId mem => (AList.notMem_empty orderId mem).elim

theorem dominated_initial : Dominated {} where
  above := List.Pairwise.nil
  assigned := fun _ _ mem => (List.not_mem_nil mem).elim
  untaken := fun _ mem => (List.not_mem_nil mem).elim
  logged := fun _ mem => (List.not_mem_nil mem).elim
  known := fun orderId mem => (AList.notMem_empty orderId mem).elim

/-- For every run below the limit of the counter, with any strategies, events and calls of
`set_target`, and sends that throw: the id of every CreateOrder that reaches the client is above all
that were sent or reported before. So no order manager meets an id twice, and the source that is
kept for an id is that of its order. -/
theorem order_ids_increase [Utils] (encode : Nat → String) (compare : Double → Double → Ordering)
    (config : Config) (actions : List (Action C)) (t : Bridge C)
    (reached : run (Bridge.nextCaught encode compare) (Bridge.initial C config) actions = some t)
    (limit : t.dispatcher.maxOrderId + 1 < 2 ^ 64) : Increasing t.dispatcher := by
  have targets (context : Context C) (position : Nat) (quantity price : Double) (s : Spread C)
      (d : Dispatcher) (listed : Listed s d) (sound : Sound d) :=
    sound_setTarget listed sound context position quantity price
  have all := Bridge.all_reached sound_invariant targets (fun _ => dominated_initial) reached
  exact (all.dispatcher limit).toIncreasing

section Examples

open scoped RoqSamples.Client.Documented

/-- Two strategies, a DownloadEnd that reports an id, and a send that throws. -/
private def manyOrders : List (Action plain) :=
  sampleOpening ++
    [bookEvent future 90 91,
      .event { event := .gateway 0 (.downloadEnd 1000 .nothing), order := [1] },
      .createStrategy userOrder,
      .setTarget 2 0 1 50 fun _ => true,
      .setTarget 2 0 1 51 fun _ => false]

theorem order_ids_increase_many :
    ∃ t, run (Bridge.nextCaught base64OfId compareNumbers) (Bridge.initial plain sampleConfig)
        manyOrders = some t ∧
      t.dispatcher.log.map Entry.orderId = [1, 1000, 1001, 1002] ∧ Increasing t.dispatcher := by
  obtain ⟨t, reached, ids, latest⟩ : ∃ t, run (Bridge.nextCaught base64OfId compareNumbers)
      (Bridge.initial plain sampleConfig) manyOrders = some t ∧
        t.dispatcher.log.map Entry.orderId = [1, 1000, 1001, 1002] ∧
        t.dispatcher.maxOrderId = 1002 := reaches_of_any (by decide +kernel)
  refine ⟨t, reached, ids, ?_⟩
  exact order_ids_increase base64OfId compareNumbers sampleConfig manyOrders t reached (by omega)

end Examples

end RoqSamples.AlgoProto.OrderIds
