/- Example8/OrderPacing
   digest: The orders of example-8 are few and far between, and no order id is used twice. -/
import RoqSamples.Example8.Strategy
import RoqSamples.Execution.Runs

set_option autoImplicit false
set_option relaxedAutoImplicit false

namespace RoqSamples.Example8.OrderPacing

open RoqSamples.Arith (Double)
open RoqSamples.Client
open RoqSamples.Example3 (Layer)
open RoqSamples.Execution.Runs
open Strategy (warmupDelay requestDelay)

variable {Book Layers : Type} (mbp : MarketByPrice Book Layers)
  (compare : Double → Double → Ordering)

def next (s : Strategy Book) (e : Event Layers) : Option (Strategy Book) :=
  some (s.handle mbp compare e).1

/-- When market data was received. -/
def receiveTime : Event Layers → Option Int
  | .topOfBook time _ _ | .marketByPriceUpdate time _ _ => some time
  | .downloadBegin _ | .downloadEnd _ _ | .referenceData _ | .orderAck => none

/-- The account whose download has ended. -/
def downloaded : Event Layers → Option String
  | .downloadEnd account _ => some account
  | .downloadBegin _ | .referenceData _ | .topOfBook _ _ _ | .marketByPriceUpdate _ _ _
  | .orderAck => none

/-- The orders that an event leads to, with the time of the event. -/
def sends (s : Strategy Book) (e : Event Layers) : List (Int × CreateOrder) :=
  (s.handle mbp compare e).2.map fun createOrder => ((receiveTime e).getD 0, createOrder)

/-- The order id that a download tells the account. -/
def told (s : Strategy Book) : Event Layers → List Nat
  | .downloadEnd account maxOrderId =>
      if s.settings.account = account then [uint64 maxOrderId] else []
  | .downloadBegin _ | .referenceData _ | .topOfBook _ _ _ | .marketByPriceUpdate _ _ _
  | .orderAck => []

/-- The order ids that an event tells, and those that are taken for an order. -/
def orderIds (s : Strategy Book) (e : Event Layers) : List (Nat × Bool) :=
  (told s e).map (fun orderId => (orderId, false)) ++
    (sends mbp compare s e).map fun order => (order.2.orderId, true)

/-- The order ids do not run out. -/
def IdsLast (s : Strategy Book) (_ : Event Layers) : Prop := s.orderId + 1 < 2 ^ 64

/-- Times are not negative. -/
def Timed (e : Event Layers) : Prop := ∀ time, receiveTime e = some time → 0 ≤ time

/-- There has been market data at least the warmup before. -/
def Warm (es : List (Event Layers)) (time : Int) : Prop :=
  ∃ e ∈ es, ∃ first, receiveTime e = some first ∧ first + warmupDelay ≤ time

/-- What the orders that were sent, with their times, and the ids that were told or taken are
like. -/
structure Paced (es : List (Event Layers)) (orders : List (Int × CreateOrder))
    (ids : List (Nat × Bool)) : Prop where
  few : orders.length ≤ 16
  apart : orders.Pairwise fun earlier later => earlier.1 + requestDelay ≤ later.1
  warm : ∀ order ∈ orders, Warm es order.1
  fresh : ids.Pairwise fun earlier later => later.2 = true → earlier.1 < later.1

instance (s : Strategy Book) (e : Event Layers) : Decidable (IdsLast s e) :=
  inferInstanceAs (Decidable (_ < _))

instance : ∀ e : Event Layers, Decidable (Timed e)
  | .topOfBook time _ _ | .marketByPriceUpdate time _ _ =>
      decidable_of_iff (0 ≤ time) ⟨fun early _ same => Option.some.inj same ▸ early,
        fun all => all time rfl⟩
  | .downloadBegin _ | .downloadEnd _ _ | .referenceData _ | .orderAck =>
      isTrue fun _ none => (Option.some_ne_none _ none.symm).elim

variable {mbp compare}

/-- What an event does to the members that decide on orders, and what it sends. -/
private inductive Step (s t : Strategy Book) : Event Layers → List CreateOrder → Prop
  | quiet {e} (orderId : t.orderId = s.orderId) (nextRequest : t.nextRequest = s.nextRequest)
      (countdown : t.countdown = s.countdown)
      (other : downloaded e ≠ some s.settings.account) : Step s t e []
  | told {account maxOrderId} (own : s.settings.account = account)
      (orderId : t.orderId = max s.orderId (uint64 maxOrderId))
      (nextRequest : t.nextRequest = s.nextRequest) (countdown : t.countdown = s.countdown) :
      Step s t (.downloadEnd account maxOrderId) []
  | warmed {e time} (received : receiveTime e = some time) (cold : s.nextRequest = 0)
      (orderId : t.orderId = s.orderId) (nextRequest : t.nextRequest = time + warmupDelay)
      (countdown : t.countdown = s.countdown) : Step s t e []
  | failed {e time} (received : receiveTime e = some time)
      (orderId : t.orderId = uint64 (s.orderId + 1)) (nextRequest : t.nextRequest = s.nextRequest)
      (countdown : t.countdown = s.countdown) : Step s t e []
  | sent {e time createOrder} (received : receiveTime e = some time) (warm : s.nextRequest ≠ 0)
      (due : s.nextRequest ≤ time) (left : s.countdown ≠ 0)
      (orderId : t.orderId = uint64 (s.orderId + 1))
      (nextRequest : t.nextRequest = time + requestDelay)
      (countdown : t.countdown = s.countdown - 1)
      (numbered : createOrder.orderId = uint64 (s.orderId + 1)) : Step s t e [createOrder]

private theorem createOrder_step (s : Strategy Book) {e : Event Layers} {time : Int}
    (received : receiveTime e = some time) (layer : Layer) (connected : Bool) :
    Step s (s.createOrder compare time layer connected).1 e
      (s.createOrder compare time layer connected).2 := by
  have other : downloaded e ≠ some s.settings.account := by
    cases e with
    | downloadEnd => cases received
    | downloadBegin | referenceData | topOfBook | marketByPriceUpdate | orderAck =>
        exact (Option.some_ne_none _).symm
  unfold Strategy.createOrder
  split
  · exact .quiet rfl rfl rfl other
  · rename_i left
    split
    · rename_i warm
      split
      · exact .quiet rfl rfl rfl other
      · rename_i due
        split
        · exact .quiet rfl rfl rfl other
        · dsimp only
          split
          · exact .sent received warm (not_lt.mp due) left rfl rfl rfl rfl
          · exact .failed received rfl rfl rfl
    · rename_i cold
      exact .warmed received (not_not.mp cold) rfl rfl rfl

/-- A step that starts from another order book. -/
private theorem Step.of_book {s t : Strategy Book} {book : Book} {e : Event Layers}
    {orders : List CreateOrder} (step : Step { s with marketByPrice := book } t e orders) :
    Step s t e orders := by
  cases step with
  | quiet orderId nextRequest countdown other => exact .quiet orderId nextRequest countdown other
  | told own orderId nextRequest countdown => exact .told own orderId nextRequest countdown
  | warmed received cold orderId nextRequest countdown =>
      exact .warmed received cold orderId nextRequest countdown
  | failed received orderId nextRequest countdown =>
      exact .failed received orderId nextRequest countdown
  | sent received warm due left orderId nextRequest countdown numbered =>
      exact .sent received warm due left orderId nextRequest countdown numbered

private theorem handle_step (s : Strategy Book) (e : Event Layers) :
    Step s (s.handle mbp compare e).1 e (s.handle mbp compare e).2 := by
  cases e with
  | downloadBegin account =>
      unfold Strategy.handle
      dsimp only
      split
      · exact .quiet rfl rfl rfl (Option.some_ne_none _).symm
      · exact .quiet rfl rfl rfl (Option.some_ne_none _).symm
  | downloadEnd account maxOrderId =>
      unfold Strategy.handle
      dsimp only
      split
      · rename_i own
        exact .told own rfl rfl rfl
      · rename_i other
        exact .quiet rfl rfl rfl fun same => other (Option.some.inj same).symm
  | referenceData | orderAck =>
      exact .quiet rfl rfl rfl (Option.some_ne_none _).symm
  | topOfBook time layer connected =>
      unfold Strategy.handle
      dsimp only
      split
      · exact createOrder_step s rfl layer connected
      · exact .quiet rfl rfl rfl (Option.some_ne_none _).symm
  | marketByPriceUpdate time update connected =>
      unfold Strategy.handle
      dsimp only
      split
      · exact .quiet rfl rfl rfl (Option.some_ne_none _).symm
      · split
        · exact .quiet rfl rfl rfl (Option.some_ne_none _).symm
        · split
          · exact .quiet rfl rfl rfl (Option.some_ne_none _).symm
          · rename_i layer _
            exact (createOrder_step _ rfl layer connected).of_book

private theorem told_of_other {s : Strategy Book} {e : Event Layers}
    (other : downloaded e ≠ some s.settings.account) : told s e = [] := by
  cases e with
  | downloadEnd account maxOrderId =>
      refine if_neg fun own => other ?_
      rw [own]
      rfl
  | downloadBegin | referenceData | topOfBook | marketByPriceUpdate | orderAck => rfl

private theorem told_of_received {s : Strategy Book} {e : Event Layers} {time : Int}
    (received : receiveTime e = some time) : told s e = [] := by
  cases e with
  | topOfBook | marketByPriceUpdate => rfl
  | downloadBegin | downloadEnd | referenceData | orderAck => cases received

/-- The strategy after the events: the orders that are left, and when the next one is due. -/
private structure Kept (es : List (Event Layers)) (orders : List (Int × CreateOrder))
    (ids : List (Nat × Bool)) (s : Strategy Book) : Prop where
  count : s.countdown + orders.length = 16
  nonneg : 0 ≤ s.nextRequest
  cold : s.nextRequest = 0 → orders = []
  waits : s.nextRequest ≠ 0 → Warm es s.nextRequest
  due : ∀ order ∈ orders, order.1 + requestDelay ≤ s.nextRequest
  apart : orders.Pairwise fun earlier later => earlier.1 + requestDelay ≤ later.1
  warm : ∀ order ∈ orders, Warm es order.1
  known : ∀ id ∈ ids, id.1 ≤ s.orderId
  fresh : ids.Pairwise fun earlier later => later.2 = true → earlier.1 < later.1

private theorem Warm.more {es : List (Event Layers)} {time later : Int} (warm : Warm es time)
    (after : time ≤ later) (e : Event Layers) : Warm (es ++ [e]) later := by
  obtain ⟨first, mem, start, received, early⟩ := warm
  exact ⟨first, List.mem_append_left _ mem, start, received, early.trans after⟩

variable {es : List (Event Layers)} {orders : List (Int × CreateOrder)} {ids : List (Nat × Bool)}
  {s t : Strategy Book} {e : Event Layers}

/-- A step that sends nothing and does not touch the time of the next order. -/
private theorem kept_silent (kept : Kept es orders ids s)
    (nextRequest : t.nextRequest = s.nextRequest) (countdown : t.countdown = s.countdown)
    {more : List (Nat × Bool)} (grows : s.orderId ≤ t.orderId)
    (known : ∀ id ∈ more, id.1 ≤ t.orderId ∧ id.2 = false) (single : more.length ≤ 1) :
    Kept (es ++ [e]) orders (ids ++ more) t where
  count := by rw [countdown, kept.count]
  nonneg := nextRequest ▸ kept.nonneg
  cold := fun zero => kept.cold (nextRequest.symm.trans zero)
  waits := by
    intro running
    rw [nextRequest] at running ⊢
    exact (kept.waits running).more (le_refl _) e
  due := fun order mem => (kept.due order mem).trans_eq nextRequest.symm
  apart := kept.apart
  warm := fun order mem => (kept.warm order mem).more (le_refl _) e
  known := by
    intro id mem
    rcases List.mem_append.mp mem with old | new
    · exact (kept.known id old).trans grows
    · exact (known id new).1
  fresh := by
    refine List.pairwise_append.mpr ⟨kept.fresh, ?_, ?_⟩
    · match more with
      | [] => exact .nil
      | [id] => exact List.pairwise_singleton _ id
      | _ :: _ :: _ => exact absurd single (by simp)
    · intro earlier _ later mem taken
      rw [(known later mem).2] at taken
      cases taken

private theorem kept_warmed (kept : Kept es orders ids s) {time : Int} (early : 0 ≤ time)
    (received : receiveTime e = some time) (cold : s.nextRequest = 0)
    (orderId : t.orderId = s.orderId) (nextRequest : t.nextRequest = time + warmupDelay)
    (countdown : t.countdown = s.countdown) : Kept (es ++ [e]) orders ids t := by
  have none := kept.cold cold
  have delay : 0 < warmupDelay := by decide
  refine ⟨by rw [countdown, kept.count], by omega, fun _ => none, fun _ => ?_, ?_, kept.apart, ?_,
    fun id mem => (kept.known id mem).trans_eq orderId.symm, kept.fresh⟩
  · exact ⟨e, List.mem_append_right _ (List.mem_singleton_self e), time, received,
      nextRequest.ge⟩
  · rw [none]
    exact fun _ mem => (List.not_mem_nil mem).elim
  · rw [none]
    exact fun _ mem => (List.not_mem_nil mem).elim

private theorem kept_sent (kept : Kept es orders ids s) (last : s.orderId + 1 < 2 ^ 64)
    {time : Int} {createOrder : CreateOrder} (warm : s.nextRequest ≠ 0)
    (due : s.nextRequest ≤ time) (left : s.countdown ≠ 0)
    (orderId : t.orderId = uint64 (s.orderId + 1))
    (nextRequest : t.nextRequest = time + requestDelay)
    (countdown : t.countdown = s.countdown - 1)
    (numbered : createOrder.orderId = uint64 (s.orderId + 1)) :
    Kept (es ++ [e]) (orders ++ [(time, createOrder)])
      (ids ++ [(createOrder.orderId, true)]) t := by
  have next_id : uint64 (s.orderId + 1) = s.orderId + 1 := Nat.mod_eq_of_lt last
  rw [next_id] at orderId numbered
  have delay : 0 < requestDelay := by decide
  have nonneg := kept.nonneg
  refine ⟨?_, by omega, fun zero => ?_, fun _ => ?_, ?_, ?_, ?_, ?_, ?_⟩
  · have count := kept.count
    rw [List.length_append, List.length_singleton]
    omega
  · omega
  · exact (kept.waits warm).more (by omega) e
  · intro order mem
    rcases List.mem_append.mp mem with old | new
    · have before := kept.due order old
      omega
    · rw [List.mem_singleton.mp new]
      exact nextRequest.ge
  · refine List.pairwise_append.mpr ⟨kept.apart, List.pairwise_singleton _ _, ?_⟩
    intro order mem later new
    rw [List.mem_singleton.mp new]
    exact (kept.due order mem).trans due
  · intro order mem
    rcases List.mem_append.mp mem with old | new
    · exact (kept.warm order old).more (le_refl _) e
    · rw [List.mem_singleton.mp new]
      exact (kept.waits warm).more due e
  · intro id mem
    rcases List.mem_append.mp mem with old | new
    · have before := kept.known id old
      omega
    · rw [List.mem_singleton.mp new]
      exact (numbered.trans orderId.symm).le
  · refine List.pairwise_append.mpr ⟨kept.fresh, List.pairwise_singleton _ _, ?_⟩
    intro id mem later new _
    rw [List.mem_singleton.mp new]
    have before := kept.known id mem
    show id.1 < createOrder.orderId
    omega

private theorem kept_step (kept : Kept es orders ids s) (timed : Timed e) (last : IdsLast s e)
    (t : Strategy Book) (handled : (s.handle mbp compare e).1 = t) :
    Kept (es ++ [e]) (orders ++ sends mbp compare s e) (ids ++ orderIds mbp compare s e) t := by
  have step : Step s (s.handle mbp compare e).1 e (s.handle mbp compare e).2 := handle_step s e
  rw [handled] at step
  unfold orderIds sends
  generalize (s.handle mbp compare e).2 = sent at step
  have silent (nextRequest : t.nextRequest = s.nextRequest)
      (countdown : t.countdown = s.countdown) (grows : s.orderId ≤ t.orderId) :
      Kept (es ++ [e]) (orders ++ []) (ids ++ ([] ++ [])) t := by
    rw [List.append_nil, List.append_nil]
    exact kept_silent kept nextRequest countdown grows
      (fun _ mem => (List.not_mem_nil mem).elim) (Nat.zero_le 1)
  cases step with
  | quiet orderId nextRequest countdown other =>
      rw [told_of_other other]
      exact silent nextRequest countdown orderId.ge
  | @told account maxOrderId own orderId nextRequest countdown =>
      have tells : told s (.downloadEnd account maxOrderId : Event Layers) =
        [uint64 maxOrderId] := if_pos own
      rw [tells, List.map_nil, List.map_nil, List.append_nil, List.append_nil]
      refine kept_silent kept nextRequest countdown (orderId ▸ Nat.le_max_left _ _) ?_ (le_refl 1)
      intro id mem
      rw [List.mem_singleton.mp mem]
      exact ⟨orderId ▸ Nat.le_max_right _ _, rfl⟩
  | @warmed _ time received cold orderId nextRequest countdown =>
      rw [told_of_received received, List.map_nil, List.map_nil, List.map_nil, List.append_nil,
        List.append_nil, List.append_nil]
      exact kept_warmed kept (timed time received) received cold orderId nextRequest countdown
  | failed received orderId nextRequest countdown =>
      rw [told_of_received received]
      refine silent nextRequest countdown ?_
      have next_id : uint64 (s.orderId + 1) = s.orderId + 1 := Nat.mod_eq_of_lt last
      omega
  | sent received warm due left orderId nextRequest countdown numbered =>
      rw [told_of_received received, received]
      exact kept_sent kept last warm due left orderId nextRequest countdown numbered

variable (mbp compare)

/-- For every run, whatever market data, downloads, reference data and acks come, and with sends
that throw after their order id was taken: no more than 16 orders are sent, any two of them at least
100 seconds apart and none within 30 seconds of the first market data; and the id of an order is
above all that were sent before and all that a download of the account has told. -/
theorem orders_are_paced (settings : Settings) (es : List (Event Layers))
    (timed : ∀ e ∈ es, Timed e)
    (last : AllSteps (next mbp compare) IdsLast (Strategy.new mbp settings) es) :
    Paced es (trace (next mbp compare) (sends mbp compare) (Strategy.new mbp settings) es)
      (trace (next mbp compare) (orderIds mbp compare) (Strategy.new mbp settings) es) := by
  let orders (es : List (Event Layers)) :=
    trace (next mbp compare) (sends mbp compare) (Strategy.new mbp settings) es
  let ids (es : List (Event Layers)) :=
    trace (next mbp compare) (orderIds mbp compare) (Strategy.new mbp settings) es
  have start : Kept ([] : List (Event Layers)) [] [] (Strategy.new mbp settings) := by
    refine ⟨rfl, le_refl _, fun _ => rfl, fun running => (running rfl).elim, ?_, .nil, ?_, ?_,
      .nil⟩
    · exact fun _ mem => (List.not_mem_nil mem).elim
    · exact fun _ mem => (List.not_mem_nil mem).elim
    · exact fun _ mem => (List.not_mem_nil mem).elim
  have total (s : Strategy Book) (e : Event Layers) : ∃ t, next mbp compare s e = some t :=
    ⟨_, rfl⟩
  obtain ⟨s, reached⟩ := run_of_total total (Strategy.new mbp settings) es
  have kept : Kept es (orders es) (ids es) s := by
    refine run_history (I := fun es s => (∀ e ∈ es, Timed e) →
      AllSteps (next mbp compare) IdsLast (Strategy.new mbp settings) es →
      Kept es (orders es) (ids es) s) (fun _ _ => start) ?_ reached timed last
    intro es e m t reached ih taken timed last
    obtain ⟨steps, now⟩ := allSteps_append.mp last
    have before := ih (fun e mem => timed e (List.mem_append_left _ mem)) steps
    have here := ((allSteps_cons taken []).mp (now m reached)).1
    have after := kept_step before (timed e (List.mem_append_right _ (List.mem_singleton_self e)))
      here t (Option.some.inj taken)
    have sent : orders (es ++ [e]) = orders es ++ sends mbp compare m e := by
      show trace _ _ _ _ = _
      rw [trace_append reached, trace_singleton taken]
    have numbered : ids (es ++ [e]) = ids es ++ orderIds mbp compare m e := by
      show trace _ _ _ _ = _
      rw [trace_append reached, trace_singleton taken]
    rw [sent, numbered]
    exact after
  have few : (orders es).length ≤ 16 := by
    have count := kept.count
    omega
  exact ⟨few, kept.apart, kept.warm, kept.fresh⟩

section Examples

/-- `utils::compare` of a number with zero; NaN is left to the library. -/
private def compareNumbers (x y : Double) : Ordering :=
  if x = y then .eq else if Double.lt x y then .lt else .gt

/-- The book is the layer that the last update brings. -/
private def latestLayer : MarketByPrice (Option Layer) (Option Layer) where
  create _ _ := none
  update _ update := update.layers
  extract book := book

private def layer : Layer where
  bidPrice := 100
  bidQuantity := 1

private def update (time : Int) (connected : Bool) : Event (Option Layer) :=
  .marketByPriceUpdate time { updateType := .incremental, layers := some layer } connected

/-- The second order fails, the third is below the order ids that a second download tells. -/
private def orderEvents : List (Event (Option Layer)) :=
  [.downloadEnd "A1" 1000, .referenceData 1, update 1 true, update (1 + 30 * 10 ^ 9) true,
    update (2 + 30 * 10 ^ 9) true, update (1 + 130 * 10 ^ 9) false, .downloadEnd "A1" 1010,
    update (2 + 130 * 10 ^ 9) true]

/-- Two orders 100 seconds apart. -/
theorem orders_are_paced_after_failure :
    (∃ first second, trace (next latestLayer compareNumbers) (sends latestLayer compareNumbers)
      (Strategy.new latestLayer {}) orderEvents = [first, second] ∧
        first.2.orderId = 1001 ∧ second.2.orderId = 1011) ∧
    Paced orderEvents
      (trace (next latestLayer compareNumbers) (sends latestLayer compareNumbers)
        (Strategy.new latestLayer {}) orderEvents)
      (trace (next latestLayer compareNumbers) (orderIds latestLayer compareNumbers)
        (Strategy.new latestLayer {}) orderEvents) := by
  refine ⟨⟨_, _, rfl, rfl, rfl⟩, ?_⟩
  exact orders_are_paced latestLayer compareNumbers {} orderEvents (by decide)
    (by decide +kernel)

end Examples

end RoqSamples.Example8.OrderPacing
