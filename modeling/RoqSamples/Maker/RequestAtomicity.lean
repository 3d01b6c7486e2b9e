/- Maker/RequestAtomicity
   digest: A request that is blocked or not sent leaves no trace, and the ids of the orders that
     are sent only grow. -/
import RoqSamples.Maker.Requests
import RoqSamples.Maker.RoundAway

set_option autoImplicit false
set_option relaxedAutoImplicit false

namespace RoqSamples.Maker.RequestAtomicity

open RoqSamples.Arith (Double)
open RoqSamples.Client
open RoqSamples.Execution.Runs
open RoqSamples.Maker.QuoteRepresentation (next Creates)
open RoqSamples.Maker.Requests

/-- The limiter blocks the request, or its send throws NotConnected. -/
def Unsent (shared : Shared) (now : Int) (connected : Bool) : Prop :=
  shared.isBlocked now = true ∨ connected = false

/-- No timer can use up the order ids. -/
def BelowLimit (s : Strategy) : Event → Prop
  | .timer _ _ _ => s.shared.maxOrderId + 2 < 2 ^ 64
  | _ => True

instance (s : Strategy) : (e : Event) → Decidable (BelowLimit s e)
  | .timer _ _ _ => inferInstanceAs (Decidable (_ < _))
  | .disconnected | .downloadEnd _ | .ready _ | .referenceData _ | .marketStatus _
  | .topOfBook _ _ | .cancelAllOrdersAck | .orderAck _ | .orderUpdate _ => isTrue trivial

/-- The order and the state of a quote are what they were. -/
def SameRequest (before after : Quote) : Prop :=
  after.orderId = before.orderId ∧ after.state = before.state

/-- What a run keeps at an event it meets: a quote whose request is not sent leaves the counter, the
history and itself alone, a timer without any request does so for both quotes, and every assertion
of the helper holds. -/
structure Sound [Utils] (roundAway : Side → Double → Double → Double) (s : Strategy) (e : Event) :
    Prop where
  atomic : ∀ quote shared now connected outcome, TimerOf s e quote shared now connected →
    Unsent shared now connected → quote.onTimer shared now connected = .ok outcome →
    outcome.2.1 = shared ∧ SameRequest quote outcome.1 ∧ outcome.2.2 = []
  silent : ∀ now bidConnected askConnected t effects, e = .timer now bidConnected askConnected →
    Unsent s.shared now bidConnected → Unsent s.shared now askConnected →
    s.handle roundAway e = .ok (t, effects) →
    t.shared = s.shared ∧ SameRequest s.bid t.bid ∧ SameRequest s.ask t.ask ∧ effects = []
  asserted : ∀ holds, .assertion holds ∈ emitted s e → holds = true

/-- An id that a CreateOrder is sent with, or that a DownloadEnd reports. -/
inductive Entry
  | sent (orderId : Nat)
  | reported (maxOrderId : Nat)
  deriving DecidableEq

namespace Entry

def id : Entry → Nat
  | .sent orderId => orderId
  | .reported maxOrderId => maxOrderId

/-- An order that is sent has a larger id than all that came before. -/
def Precedes (x y : Entry) : Prop := ∀ orderId, y = .sent orderId → x.id < orderId

end Entry

def sentOf : Effect → Option Entry
  | .createOrder request => some (.sent request.orderId)
  | _ => none

def entries (s : Strategy) : Event → List Entry
  | .downloadEnd maxOrderId => [.reported (uint64 maxOrderId)]
  | e => (emitted s e).filterMap sentOf

/-- The entries of a run, those of an event that ends in log::fatal included. -/
def log [Utils] (roundAway : Side → Double → Double → Double) (s : Strategy) :
    List Event → List Entry
  | [] => []
  | e :: es =>
      entries s e ++
        match next roundAway s e with
        | none => []
        | some t => log roundAway t es

section Atomic

private theorem createOrder_atomic {quote : Quote} {shared : Shared} {now : Int}
    {connected : Bool} {outcome : Quote.Outcome} (unsent : Unsent shared now connected)
    (handled : quote.createOrder shared now connected = .ok outcome) :
    outcome = (quote, shared, []) := by
  by_cases state : quote.state = .undefined
  · by_cases target : quote.targetPrice = .nan
    · rw [Quote.createOrder_nan shared now connected state target] at handled
      cases handled
    · rw [Quote.createOrder_unsent state target unsent] at handled
      cases handled
      rfl
  · simp [Quote.createOrder, state] at handled

private theorem cancelOrder_atomic {quote : Quote} {shared : Shared} {now : Int}
    {connected : Bool} {outcome : Quote.Outcome} (unsent : Unsent shared now connected)
    (handled : quote.cancelOrder shared now connected = .ok outcome) :
    outcome = (quote, shared, []) := by
  by_cases state : quote.state = .working
  · rw [Quote.cancelOrder_unsent state (.inr unsent)] at handled
    cases handled
    rfl
  · simp [Quote.cancelOrder, state] at handled

/-- The timer of a quote whose request is not sent. -/
private theorem onTimer_atomic {quote : Quote} {shared : Shared} {now : Int}
    {connected : Bool} {outcome : Quote.Outcome} (unsent : Unsent shared now connected)
    (handled : quote.onTimer shared now connected = .ok outcome) :
    outcome.2.1 = shared ∧ SameRequest quote outcome.1 ∧ outcome.2.2 = [] := by
  unfold Quote.onTimer at handled
  split at handled
  · obtain ⟨acted, result, rfl⟩ := ok_of_map handled
    have untouched : acted = (quote, shared, []) := by
      unfold Quote.act at result
      split at result
      · exact createOrder_atomic unsent result
      · exact (Except.ok.inj result).symm
      · exact (Except.ok.inj result).symm
      · exact (Except.ok.inj result).symm
      · exact cancelOrder_atomic unsent result
    subst untouched
    exact ⟨rfl, ⟨rfl, rfl⟩, rfl⟩
  · cases handled
    exact ⟨rfl, ⟨rfl, rfl⟩, rfl⟩

end Atomic

section Ids

/-- A quote without an order has no order id. -/
private def Free (s : Strategy) : Prop :=
  (s.bid.state = .undefined → s.bid.orderId = 0) ∧ (s.ask.state = .undefined → s.ask.orderId = 0)

private theorem onTimer_free {quote : Quote} {shared : Shared} {now : Int} {connected : Bool}
    {outcome : Quote.Outcome} (free : quote.state = .undefined → quote.orderId = 0)
    (handled : quote.onTimer shared now connected = .ok outcome) :
    outcome.1.state = .undefined → outcome.1.orderId = 0 := by
  rcases Quote.onTimer_cases handled with ⟨_, rfl⟩ | ⟨_, acted, act, rfl⟩
  · exact free
  · cases act with
    | idle => exact free
    | create => exact fun state => by cases state
    | cancel => exact fun state => by cases state

private theorem onOrderAck_free [Utils] {quote after : Quote} {orderAck : OrderAck}
    (free : quote.state = .undefined → quote.orderId = 0)
    (handled : quote.onOrderAck orderAck = .ok after) :
    after.state = .undefined → after.orderId = 0 := by
  cases Quote.onOrderAck_step handled with
  | pending => exact free
  | created => exact fun state => by cases state
  | modified => exact fun state => by cases state
  | canceled => exact fun _ => rfl

private theorem onOrderUpdate_free [Utils] {quote : Quote} (shared : Shared)
    (orderUpdate : OrderUpdate) (free : quote.state = .undefined → quote.orderId = 0) :
    (quote.onOrderUpdate shared orderUpdate).1.state = .undefined →
      (quote.onOrderUpdate shared orderUpdate).1.orderId = 0 := by
  rw [Quote.onOrderUpdate_quote]
  split
  · exact fun _ => rfl
  · exact free

private theorem step_free [Utils] {roundAway : Side → Double → Double → Double} {s t : Strategy}
    {e : Event} {effects : List Effect} (free : Free s)
    (step : Strategy.Step roundAway s e t effects) : Free t := by
  obtain ⟨bid, ask⟩ := free
  cases step with
  | idle | downloadEnd | ready | referenceData | marketStatus | unpriced => exact ⟨bid, ask⟩
  | timer _ bidHandled askHandled =>
      exact ⟨onTimer_free bid bidHandled, onTimer_free ask askHandled⟩
  | disconnected => exact ⟨fun _ => rfl, fun _ => rfl⟩
  | priced =>
      simp only [Free, Quote.updateTargetPrice_state, Quote.updateTargetPrice_orderId]
      exact ⟨bid, ask⟩
  | cancelAllOrdersAck =>
      unfold Strategy.onCancelAllOrdersAck
      split <;> exact ⟨bid, ask⟩
  | bidAck _ handled => exact ⟨onOrderAck_free bid handled, ask⟩
  | askAck _ handled => exact ⟨bid, onOrderAck_free ask handled⟩
  | bidUpdate => exact ⟨onOrderUpdate_free _ _ bid, ask⟩
  | askUpdate => exact ⟨bid, onOrderUpdate_free _ _ ask⟩

/-- Below the limit the timer of a quote either takes the next order id or leaves the counter. -/
private theorem onTimer_ids {quote : Quote} {shared : Shared} {now : Int} {connected : Bool}
    {outcome : Quote.Outcome} (below : shared.maxOrderId + 1 < 2 ^ 64)
    (handled : quote.onTimer shared now connected = .ok outcome) :
    outcome.2.2.filterMap sentOf = [] ∧ outcome.2.1.maxOrderId = shared.maxOrderId ∨
      outcome.2.2.filterMap sentOf = [.sent (shared.maxOrderId + 1)] ∧
        outcome.2.1.maxOrderId = shared.maxOrderId + 1 := by
  rcases Quote.onTimer_cases handled with ⟨_, rfl⟩ | ⟨_, acted, act, rfl⟩
  · exact .inl ⟨rfl, rfl⟩
  · cases act with
    | idle => exact .inl ⟨rfl, rfl⟩
    | create =>
        refine .inr ?_
        simp [Quote.created, Quote.createOrderRequest, Shared.record, sentOf,
          uint64_succ_of_lt below]
    | cancel => exact .inl ⟨rfl, rfl⟩

/-- The entries are in order, those of orders above `low`, and none is above `high`. -/
private structure Grows (low high : Nat) (log : List Entry) : Prop where
  ordered : log.Pairwise Entry.Precedes
  above : ∀ orderId, .sent orderId ∈ log → low < orderId
  below : ∀ x ∈ log, x.id ≤ high
  le : low ≤ high

private theorem grows_nil {low high : Nat} (le : low ≤ high) : Grows low high [] :=
  ⟨.nil, fun _ mem => (by cases mem), fun _ mem => (by cases mem), le⟩

private theorem Grows.append {low mid high : Nat} {front back : List Entry}
    (first : Grows low mid front) (second : Grows mid high back) :
    Grows low high (front ++ back) := by
  refine ⟨List.pairwise_append.mpr ⟨first.ordered, second.ordered, ?_⟩, ?_, ?_,
    first.le.trans second.le⟩
  · rintro x left y right orderId rfl
    exact (first.below x left).trans_lt (second.above orderId right)
  · intro orderId mem
    rcases List.mem_append.mp mem with left | right
    · exact first.above orderId left
    · exact first.le.trans_lt (second.above orderId right)
  · intro x mem
    rcases List.mem_append.mp mem with left | right
    · exact (first.below x left).trans second.le
    · exact second.below x right

private theorem Grows.weaken {low less high : Nat} {log : List Entry} (grows : Grows low high log)
    (le : less ≤ low) : Grows less high log :=
  ⟨grows.ordered, fun orderId mem => le.trans_lt (grows.above orderId mem), grows.below,
    le.trans grows.le⟩

private theorem onTimer_grows {quote : Quote} {shared : Shared} {now : Int} {connected : Bool}
    {outcome : Quote.Outcome} (below : shared.maxOrderId + 1 < 2 ^ 64)
    (handled : quote.onTimer shared now connected = .ok outcome) :
    Grows shared.maxOrderId outcome.2.1.maxOrderId (outcome.2.2.filterMap sentOf) := by
  rcases onTimer_ids below handled with ⟨none, same⟩ | ⟨sent, taken⟩
  · rw [none, same]
    exact grows_nil le_rfl
  · rw [sent, taken]
    refine ⟨List.pairwise_singleton _ _, ?_, ?_, by omega⟩
    · rintro orderId mem
      cases List.mem_singleton.mp mem
      omega
    · intro x mem
      rw [List.mem_singleton.mp mem]
      exact le_rfl

private theorem timer_grows {s : Strategy} (now : Int) (bidConnected askConnected : Bool)
    (below : s.shared.maxOrderId + 2 < 2 ^ 64) :
    ∃ high, Grows s.shared.maxOrderId high
        ((timerEffects s now bidConnected askConnected).filterMap sentOf) ∧
      ∀ t effects, s.onTimer now bidConnected askConnected = .ok (t, effects) →
        high ≤ t.shared.maxOrderId := by
  unfold timerEffects Strategy.onTimer
  cases s.canTrade with
  | false =>
      refine ⟨_, grows_nil le_rfl, fun t effects handled => ?_⟩
      cases handled
      exact le_rfl
  | true =>
      simp only [if_true]
      cases bidHandled : s.bid.onTimer s.shared now bidConnected with
      | error reason => exact ⟨_, grows_nil le_rfl, fun _ _ handled => by cases handled⟩
      | ok bid =>
          have first := onTimer_grows (by omega) bidHandled
          have reached : bid.2.1.maxOrderId + 1 < 2 ^ 64 := by
            rcases onTimer_ids (by omega) bidHandled with ⟨_, same⟩ | ⟨_, taken⟩
            · omega
            · omega
          dsimp only
          cases askHandled : s.ask.onTimer bid.2.1 now askConnected with
          | error reason => exact ⟨_, first, fun _ _ handled => by cases handled⟩
          | ok ask =>
              dsimp only
              rw [List.filterMap_append]
              refine ⟨_, first.append (onTimer_grows reached askHandled),
                fun t effects handled => ?_⟩
              cases handled
              exact le_rfl

variable {roundAway : Side → Double → Double → Double}

/-- Events other than timers and DownloadEnd leave the counter. -/
private theorem step_maxOrderId [Utils] {s t : Strategy} {e : Event} {effects : List Effect}
    (step : Strategy.Step roundAway s e t effects)
    (no_timer : ∀ now bidConnected askConnected, e ≠ .timer now bidConnected askConnected)
    (no_download : ∀ maxOrderId, e ≠ .downloadEnd maxOrderId) :
    t.shared.maxOrderId = s.shared.maxOrderId := by
  cases step with
  | idle | disconnected | ready | referenceData | marketStatus | unpriced | priced | bidAck
  | askAck => rfl
  | timer => exact (no_timer _ _ _ rfl).elim
  | downloadEnd => exact (no_download _ rfl).elim
  | cancelAllOrdersAck =>
      unfold Strategy.onCancelAllOrdersAck
      split <;> rfl
  | bidUpdate => exact Quote.onOrderUpdate_maxOrderId _ _ _
  | askUpdate => exact Quote.onOrderUpdate_maxOrderId _ _ _

/-- The entries of an event lie between the counter before it and the counter after it. -/
private theorem entries_grow [Utils] {s : Strategy} {e : Event} (below : BelowLimit s e) :
    ∃ high, Grows s.shared.maxOrderId high (entries s e) ∧
      ∀ t, next roundAway s e = some t → high ≤ t.shared.maxOrderId := by
  have quiet : entries s e = [] →
      (∀ now bidConnected askConnected, e ≠ .timer now bidConnected askConnected) →
      (∀ maxOrderId, e ≠ .downloadEnd maxOrderId) →
      ∃ high, Grows s.shared.maxOrderId high (entries s e) ∧
        ∀ t, next roundAway s e = some t → high ≤ t.shared.maxOrderId := by
    intro none no_timer no_download
    refine ⟨s.shared.maxOrderId, none ▸ grows_nil le_rfl, fun t taken => ?_⟩
    obtain ⟨effects, handled⟩ := next_handled taken
    exact (step_maxOrderId (Strategy.handle_step handled) no_timer no_download).ge
  cases e with
  | timer now bidConnected askConnected =>
      obtain ⟨high, grows, after⟩ := timer_grows now bidConnected askConnected below
      refine ⟨high, grows, fun t taken => ?_⟩
      obtain ⟨effects, handled⟩ := next_handled taken
      exact after t effects handled
  | downloadEnd maxOrderId =>
      refine ⟨max s.shared.maxOrderId (uint64 maxOrderId), ⟨List.pairwise_singleton _ _, ?_, ?_,
        le_max_left _ _⟩, fun t taken => ?_⟩
      · intro orderId mem
        cases List.mem_singleton.mp mem
      · intro x mem
        rw [List.mem_singleton.mp mem]
        exact le_max_right _ _
      · cases taken
        exact le_rfl
  | ready connected =>
      refine quiet ?_ (fun _ _ _ => Event.noConfusion) fun _ => Event.noConfusion
      cases connected <;> rfl
  | disconnected | referenceData | marketStatus | topOfBook | cancelAllOrdersAck | orderAck
  | orderUpdate => exact quiet rfl (fun _ _ _ => Event.noConfusion) fun _ => Event.noConfusion

private theorem log_grows [Utils] {s : Strategy} {es : List Event}
    (below : AllMet (next roundAway) BelowLimit s es) :
    ∃ high, Grows s.shared.maxOrderId high (log roundAway s es) := by
  induction es generalizing s with
  | nil => exact ⟨_, grows_nil le_rfl⟩
  | cons e es ih =>
      obtain ⟨high, grows, after⟩ := @entries_grow roundAway _ s e below.here
      unfold log
      cases taken : next roundAway s e with
      | none => exact ⟨high, grows.append (grows_nil le_rfl)⟩
      | some t =>
          obtain ⟨higher, rest⟩ := ih ((allMet_cons taken es).mp below).2
          exact ⟨higher, grows.append (rest.weaken (after t taken))⟩

end Ids

section Assertions

private theorem onTimer_asserted {quote : Quote} {shared : Shared} {now : Int} {connected : Bool}
    {outcome : Quote.Outcome} (below : shared.maxOrderId + 1 < 2 ^ 64)
    (free : quote.state = .undefined → quote.orderId = 0)
    (handled : quote.onTimer shared now connected = .ok outcome) {holds : Bool}
    (mem : .assertion holds ∈ outcome.2.2) : holds = true := by
  rcases Quote.onTimer_cases handled with ⟨_, rfl⟩ | ⟨_, acted, act, rfl⟩
  · cases mem
  · cases act with
    | idle => cases mem
    | create state =>
        simp only [Quote.created, List.mem_cons, List.not_mem_nil, or_false, reduceCtorEq,
          false_or, Effect.assertion.injEq] at mem
        rcases mem with rfl | rfl
        · rw [uint64_succ_of_lt below]
          exact decide_eq_true (Nat.lt_succ_self _)
        · exact decide_eq_true (free state)
    | cancel => simp [Quote.canceled] at mem

variable {roundAway : Side → Double → Double → Double}

private theorem event_sound [Utils] {s : Strategy} {e : Event} (free : Free s)
    (below : BelowLimit s e) : Sound roundAway s e := by
  refine ⟨fun _ _ _ _ _ _ unsent handled => onTimer_atomic unsent handled, ?_, ?_⟩
  · rintro now bidConnected askConnected t effects rfl bidUnsent askUnsent handled
    cases Strategy.handle_step handled with
    | idle => exact ⟨rfl, ⟨rfl, rfl⟩, ⟨rfl, rfl⟩, rfl⟩
    | timer _ bidHandled askHandled =>
        obtain ⟨same, bid, none⟩ := onTimer_atomic bidUnsent bidHandled
        rw [same] at askHandled
        obtain ⟨same', ask, none'⟩ := onTimer_atomic askUnsent askHandled
        exact ⟨same', bid, ask, by rw [none, none', List.append_nil]⟩
  · intro holds mem
    cases e with
    | timer now bidConnected askConnected =>
        obtain ⟨_, _, _, _, outcome, reached, handled, mem⟩ := mem_emitted_timer.mp mem
        unfold BelowLimit at below
        cases reached with
        | bid => exact onTimer_asserted (by omega) free.1 handled mem
        | ask _ bidHandled =>
            refine onTimer_asserted ?_ free.2 handled mem
            rcases onTimer_ids (by omega) bidHandled with ⟨_, same⟩ | ⟨_, taken⟩
            · omega
            · omega
    | ready connected => cases connected <;> simp [emitted, Strategy.onReady] at mem
    | disconnected | downloadEnd | referenceData | marketStatus | topOfBook | cancelAllOrdersAck
    | orderAck | orderUpdate => cases mem

end Assertions

/-- In every run below the limit of the order ids, requests that are not sent change nothing, the
assertions of the helper hold, and each CreateOrder has a larger id than all orders sent and all
ids reported before it. -/
theorem requests_atomic [Utils] (roundAway : Side → Double → Double → Double) (es : List Event)
    (below : AllMet (next roundAway) BelowLimit {} es) :
    AllMet (next roundAway) (Sound roundAway) {} es ∧
      (log roundAway {} es).Pairwise Entry.Precedes := by
  refine ⟨?_, ?_⟩
  · refine below.guarantee (I := Free) (fun s e t free _ taken => ?_)
      (fun s e free limit => event_sound free limit) ⟨fun _ => rfl, fun _ => rfl⟩
    obtain ⟨effects, handled⟩ := next_handled taken
    exact step_free free (Strategy.handle_step handled)
  · obtain ⟨_, grows⟩ := log_grows below
    exact grows.ordered

section Examples

open scoped RoqSamples.Client.Documented

/-- The first timer sends only the SELL order; a second download reports a larger id. -/
private def twoDownloads : List Event :=
  [.downloadEnd 7, .ready true, .cancelAllOrdersAck, .referenceData 1, .marketStatus .«open»,
    .topOfBook 99 101, .timer 0 false true, .downloadEnd 20, .topOfBook 109 111,
    .timer 1 true true]

theorem requests_atomic_two_downloads :
    AllMet (next toGrid) (Sound toGrid) {} twoDownloads ∧
      (log toGrid {} twoDownloads).Pairwise Entry.Precedes :=
  requests_atomic toGrid twoDownloads (by decide +kernel)

example : log toGrid {} twoDownloads =
    [.reported 7, .sent 8, .reported 20, .sent 21] := by decide +kernel

end Examples

end RoqSamples.Maker.RequestAtomicity
