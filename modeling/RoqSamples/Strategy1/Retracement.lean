/- Strategy1/Retracement
   digest: One leg at most is pulled back, and only when the other one has finished, so that the two
     orders never cross. -/
import Mathlib.Tactic.Linarith
import RoqSamples.Strategy1.Calls

set_option autoImplicit false
set_option relaxedAutoImplicit false

namespace RoqSamples.Strategy1.Retracement

open RoqSamples.Arith (Double)
open RoqSamples.Client
open RoqSamples.Execution.Components
open RoqSamples.Execution.Runs
open RoqSamples.Strategy1.Calls
open RoqSamples.Strategy1.LegSteps
open RoqSamples.Strategy1.LegTokens (next_step initial_held)

variable {settings : StrategySettings}

/-- The flags give both prices, as the constructor of a leg asserts. -/
def Numbers (settings : StrategySettings) : Prop :=
  settings.priceHigh ≠ .nan ∧ settings.priceLow ≠ .nan

private theorem third (x : ℚ) : (Double.num x / 3 : Double) = .num (x / 3) := by
  have three : (3 : Double) = .num 3 := rfl
  have nonzero : (3 : ℚ) ≠ 0 := by norm_num
  rw [three]
  change (if (3 : ℚ) = 0 then Double.nan else .num (x / 3)) = .num (x / 3)
  exact if_neg nonzero

private theorem pullBack_low {low high : ℚ} (priceLow : settings.priceLow = .num low)
    (priceHigh : settings.priceHigh = .num high) :
    settings.pullBack .low = .num ((low + 2 * high) / 3) := by
  rw [StrategySettings.pullBack, priceLow, priceHigh]
  exact third _

private theorem pullBack_high {low high : ℚ} (priceLow : settings.priceLow = .num low)
    (priceHigh : settings.priceHigh = .num high) :
    settings.pullBack .high = .num ((2 * low + high) / 3) := by
  rw [StrategySettings.pullBack, priceLow, priceHigh]
  exact third _

private theorem pullBack_ne_nan (numbers : Numbers settings) (name : LegName) :
    settings.pullBack name ≠ .nan := by
  obtain ⟨high, priceHigh⟩ := Double.exists_num numbers.1
  obtain ⟨low, priceLow⟩ := Double.exists_num numbers.2
  cases name with
  | high =>
      rw [pullBack_high priceLow priceHigh]
      exact Double.noConfusion
  | low =>
      rw [pullBack_low priceLow priceHigh]
      exact Double.noConfusion

private theorem kept_start : Kept (Strategy.onAddMarket settings) := by
  refine ⟨?_, ?_, fun _ _ mem => (List.not_mem_nil mem).elim, ?_⟩
  · intro name
    cases name <;> exact initial_held _ _ _
  · intro name
    cases name <;> exact LegCompletion.initial_tracked _ _ _
  · intro name rests
    cases name <;> cases rests

private theorem together_start : Together (Strategy.onAddMarket settings) :=
  fun _ => Iff.rfl

private theorem priced_start : Priced settings none (Strategy.onAddMarket settings) := by
  refine ⟨?_, nofun, nofun, fun _ _ mem => (List.not_mem_nil mem).elim⟩
  intro name
  cases name <;> rfl

private theorem keeps_next {s t : Strategy} {e : StrategyEvent} (numbers : Numbers settings)
    (inv : Kept s ∧ Together s) (orderly : Orderly s e) (taken : s.next settings e = some t) :
    Kept t ∧ Together t := by
  obtain ⟨expands, together⟩ :=
    next_expands (pullBack_ne_nan numbers) inv.1 inv.2 orderly taken
  refine ⟨expands.preserves (fun s call t kept called taken => ?_) inv.1, together⟩
  exact kept_call (pullBack_ne_nan numbers) kept called taken

/-- In an orderly run everything goes through calls of the legs. -/
private theorem run_calls {s t : Strategy} {es : List StrategyEvent} (numbers : Numbers settings)
    (inv : Kept s ∧ Together s) (orderly : AllSteps (Strategy.next settings) Orderly s es)
    (reached : run (Strategy.next settings) s es = some t) :
    Expands (calls settings) (Called settings) s t ∧ Kept t ∧ Together t := by
  refine ⟨?_, ?_⟩
  · exact run_expands id (fun _ _ _ inv orderly taken => keeps_next numbers inv orderly taken)
      (fun _ _ _ inv orderly taken =>
        (next_expands (pullBack_ne_nan numbers) inv.1 inv.2 orderly taken).1) inv orderly reached
  · exact (AllSteps.invariant (I := fun s => Kept s ∧ Together s)
      (fun _ _ _ inv orderly taken => keeps_next numbers inv orderly taken) inv orderly).last
      reached

private theorem kept_calls {s t : Strategy} (numbers : Numbers settings) (kept : Kept s)
    (expands : Expands (calls settings) (Called settings) s t) : Kept t :=
  expands.preserves
    (fun _ _ _ kept called taken => kept_call (pullBack_ne_nan numbers) kept called taken) kept

private theorem priced_calls {s t : Strategy} {pulled : Option LegName}
    (numbers : Numbers settings) (kept : Kept s) (priced : Priced settings pulled s)
    (expands : Expands (calls settings) (Called settings) s t) :
    ∃ pulled', Priced settings pulled' t ∧ (pulled' = pulled ∨ pulled = none) := by
  have both : Kept t ∧ ∃ pulled', Priced settings pulled' t ∧
      (pulled' = pulled ∨ pulled = none) := by
    refine expands.preserves (J := fun t => Kept t ∧ ∃ pulled', Priced settings pulled' t ∧
      (pulled' = pulled ∨ pulled = none)) ?_ ⟨kept, pulled, priced, .inl rfl⟩
    rintro m call t ⟨kept, middle, priced, before⟩ called taken
    refine ⟨kept_call (pullBack_ne_nan numbers) kept called taken, ?_⟩
    obtain ⟨last, priced', after⟩ := priced_call kept priced called taken
    refine ⟨last, priced', ?_⟩
    rcases before with same | fresh
    · rw [← same]
      exact after
    · exact .inr fresh
  exact both.2

/-- For every interleaving of market events, responses, retry timers and OrderUpdates of any order,
the handlers of an OrderUpdate in either order: no assertion of the strategy fails. Callbacks and
timers find the leg in the state they expect, and modify_order is called with a number, never before
the leg was submitted. -/
theorem assertions_hold (numbers : Numbers settings) (es : List StrategyEvent)
    (orderly : AllSteps (Strategy.next settings) Orderly (.onAddMarket settings) es) (t : Strategy)
    (reached : run (Strategy.next settings) (.onAddMarket settings) es = some t) (name : LegName) :
    ∀ check ∈ assertionsOf t name, Holds check :=
  (run_calls numbers ⟨kept_start, together_start⟩ orderly reached).2.1.checks name

/-- The price changes that a step makes. -/
def repricings (settings : StrategySettings) (s : Strategy) (e : StrategyEvent) :
    List (LegName × Double) :=
  match s.next settings e with
  | none => []
  | some t =>
      [LegName.high, LegName.low].filterMap fun name =>
        if (t.leg name).leg.price = (s.leg name).leg.price then none
        else some (name, (t.leg name).leg.price)

/-- The leg that has been pulled back with its price. -/
def pullBackOf (settings : StrategySettings) (pulled : Option LegName) : List (LegName × Double) :=
  (pulled.map fun name => (name, settings.pullBack name)).toList

private theorem repricings_next {s t : Strategy} {e : StrategyEvent}
    {pulled pulled' : Option LegName} (before : Priced settings pulled s)
    (after : Priced settings pulled' t) (grows : pulled' = pulled ∨ pulled = none)
    (taken : s.next settings e = some t) :
    pullBackOf settings pulled ++ repricings settings s e = pullBackOf settings pulled' := by
  have price (name : LegName) := before.price name
  have price' (name : LegName) := after.price name
  simp only [repricings, taken, price, price', List.filterMap_cons, List.filterMap_nil]
  rcases grows with rfl | rfl
  · simp
  · cases pulled' with
    | none => simp
    | some name =>
        have moved := after.moved name rfl
        cases name <;> simp [pullBackOf, moved]

/-- For every interleaving, the handlers of an OrderUpdate in either order: at most one price change
happens in the whole run. It moves one leg from its initial price to its pull-back, it happens only
when the other leg has finished, which then stays finished, and every request ever sent carries the
price that its leg had at that time. -/
theorem pulled_back_at_most_once (numbers : Numbers settings) (es : List StrategyEvent)
    (orderly : AllSteps (Strategy.next settings) Orderly (.onAddMarket settings) es) (t : Strategy)
    (reached : run (Strategy.next settings) (.onAddMarket settings) es = some t) :
    ∃ pulled, Priced settings pulled t ∧
      trace (Strategy.next settings) (repricings settings) (.onAddMarket settings) es =
        pullBackOf settings pulled := by
  let Tells (es : List StrategyEvent) (t : Strategy) : Prop :=
    AllSteps (Strategy.next settings) Orderly (.onAddMarket settings) es →
      (Kept t ∧ Together t) ∧ ∃ pulled, Priced settings pulled t ∧
        trace (Strategy.next settings) (repricings settings) (.onAddMarket settings) es =
          pullBackOf settings pulled
  have history : Tells es t := by
    refine run_history (I := Tells)
      (fun _ => ⟨⟨kept_start, together_start⟩, none, priced_start, rfl⟩) ?_ reached
    intro es e m t before inv taken orderly
    obtain ⟨earlier, last⟩ := allSteps_append.mp orderly
    have now := ((allSteps_cons taken []).mp (last m before)).1
    obtain ⟨inv, pulled, priced, changes⟩ := inv earlier
    obtain ⟨expands, _⟩ := next_expands (pullBack_ne_nan numbers) inv.1 inv.2 now taken
    obtain ⟨pulled', priced', grows⟩ := priced_calls numbers inv.1 priced expands
    refine ⟨keeps_next numbers inv now taken, pulled', priced', ?_⟩
    rw [trace_append before, trace_singleton taken, changes]
    exact repricings_next priced priced' grows taken
  exact (history orderly).2

/-- With the bid below the offer, and in exact arithmetic, every request ever sent for the buy leg
is priced below every request ever sent for the sell leg: the strategy never trades with itself. -/
theorem never_crosses (low high : ℚ) (priceLow : settings.priceLow = .num low)
    (priceHigh : settings.priceHigh = .num high) (below : low < high) (es : List StrategyEvent)
    (orderly : AllSteps (Strategy.next settings) Orderly (.onAddMarket settings) es) (t : Strategy)
    (reached : run (Strategy.next settings) (.onAddMarket settings) es = some t) :
    ∀ bid ∈ sentOf t .low, ∀ offer ∈ sentOf t .high, bid.lt offer = true := by
  have numbers : Numbers settings := by
    rw [Numbers, priceLow, priceHigh]
    exact ⟨Double.noConfusion, Double.noConfusion⟩
  obtain ⟨expands, _⟩ := run_calls numbers ⟨kept_start, together_start⟩ orderly reached
  obtain ⟨pulled, priced, _⟩ := priced_calls numbers kept_start priced_start expands
  have back_low := pullBack_low priceLow priceHigh
  have back_high := pullBack_high priceLow priceHigh
  intro bid bid_sent offer offer_sent
  have bid_price : bid = .num low ∨ pulled = some .low ∧ bid = .num ((low + 2 * high) / 3) := by
    rw [← priceLow, ← back_low]
    exact priced.sent .low bid bid_sent
  have offer_price : offer = .num high ∨
      pulled = some .high ∧ offer = .num ((2 * low + high) / 3) := by
    rw [← priceHigh, ← back_high]
    exact priced.sent .high offer offer_sent
  rcases bid_price with rfl | ⟨was_low, rfl⟩
  · rcases offer_price with rfl | ⟨_, rfl⟩
    · rw [Double.lt_num]
      exact below
    · rw [Double.lt_num]
      linarith
  · rcases offer_price with rfl | ⟨was_high, rfl⟩
    · rw [Double.lt_num]
      linarith
    · cases was_low.symm.trans was_high

private theorem finished_calls {s t : Strategy} {name : LegName} (numbers : Numbers settings)
    (kept : Kept s) (expands : Expands (calls settings) (Called settings) s t)
    (finished : (s.leg name).leg.state = .finished) :
    (t.leg name).leg.state = .finished ∧ sentOf t name = sentOf s name := by
  have both : Kept t ∧ (t.leg name).leg.state = .finished ∧ sentOf t name = sentOf s name := by
    refine expands.preserves (J := fun t => Kept t ∧ (t.leg name).leg.state = .finished ∧
      sentOf t name = sentOf s name) ?_ ⟨kept, finished, rfl⟩
    rintro m ⟨name', e⟩ t ⟨kept, finished, sent⟩ called taken
    refine ⟨kept_call (pullBack_ne_nan numbers) kept called taken, ?_⟩
    rcases call_steps taken with ⟨rfl, _⟩ | steps
    · exact ⟨finished, sent⟩
    by_cases here : name = name'
    · subst here
      obtain ⟨_, o, step, does, same⟩ := next_step steps.taken
      obtain ⟨stays, silent⟩ :=
        finished_step (kept.tracked name) (answered_of_called called) step finished
      refine ⟨?_, ?_⟩
      · rw [same]
        exact stays
      · rw [sentOf, steps.entries, List.filterMap_append, entries_sent, does, silent]
        exact (List.append_nil _).trans sent
    · rw [steps.frame name here, sentOf, steps.silent name here]
      exact ⟨finished, sent⟩
  exact both.2

/-- A leg that has finished, by an OrderUpdate or because it was too late to modify it, is done: in
every continuation of the run it stays finished, and nothing more is sent for it. -/
theorem finished_leg_is_done (numbers : Numbers settings) (es fs : List StrategyEvent)
    (orderly : AllSteps (Strategy.next settings) Orderly (.onAddMarket settings) (es ++ fs))
    (s t : Strategy) (reached : run (Strategy.next settings) (.onAddMarket settings) es = some s)
    (continued : run (Strategy.next settings) s fs = some t) (name : LegName)
    (finished : (s.leg name).leg.isFinished = true) :
    (t.leg name).leg.isFinished = true ∧ sentOf t name = sentOf s name := by
  obtain ⟨earlier, later⟩ := allSteps_append.mp orderly
  obtain ⟨_, inv⟩ := run_calls numbers ⟨kept_start, together_start⟩ earlier reached
  obtain ⟨expands, _⟩ := run_calls numbers inv (later s reached) continued
  obtain ⟨stays, silent⟩ := finished_calls numbers inv.1 expands (of_decide_eq_true finished)
  exact ⟨decide_eq_true stays, silent⟩

/-- The handler of the leg comes before the one of the strategy. -/
def LegFirst : StrategyEvent → Prop
  | .orderUpdate _ _ legFirst _ => legFirst = true
  | .market _ _ _ _ | .response _ _ _ _ | .timer _ _ _ => True

/-- The leg has finished, or its price is the pull-back. -/
private def Settled (settings : StrategySettings) (s : Strategy) (name : LegName) : Prop :=
  (s.leg name).leg.state = .finished ∨ (s.leg name).leg.price = settings.pullBack name

/-- A leg whose other leg is completed is settled. -/
private def Repriced (settings : StrategySettings) (s : Strategy) : Prop :=
  ∀ name, (s.leg name.other).completed = true → Settled settings s name

private theorem settled_call {s t : Strategy} {name name' : LegName} {e : Event} (kept : Kept s)
    (called : Called settings s (name, e)) (taken : s.call settings name e = some t)
    (settled : Settled settings s name') : Settled settings t name' := by
  rcases call_steps taken with ⟨rfl, _⟩ | steps
  · exact settled
  by_cases here : name' = name
  · subst here
    obtain ⟨_, o, step, _, same⟩ := next_step steps.taken
    rw [Settled, same]
    rcases settled with finished | price
    · exact .inl (finished_step (kept.tracked name') (answered_of_called called) step finished).1
    · refine .inr ((LegDiscipline.step_price step).trans ?_)
      cases e with
      | modifyOrder p link => exact called.1
      | market | response | timer | orderUpdate => exact price
  · rw [Settled, steps.frame name' here]
    exact settled

private theorem repriced_call {s t : Strategy} {name : LegName} {e : Event} (kept : Kept s)
    (repriced : Repriced settings s) (called : Called settings s (name, e))
    (open_order : e ≠ .orderUpdate .completed) (taken : s.call settings name e = some t) :
    Repriced settings t := by
  intro name' completed
  refine settled_call kept called taken (repriced name' ?_)
  rcases call_steps taken with ⟨rfl, _⟩ | steps
  · exact completed
  by_cases here : name'.other = name
  · rw [here] at completed ⊢
    obtain ⟨_, o, step, _, same⟩ := next_step steps.taken
    rw [same] at completed
    rcases completed_step step completed with before | now
    · exact before
    · exact (open_order now).elim
  · rw [steps.frame _ here] at completed
    exact completed

/-- An OrderUpdate does not stop a leg. -/
private theorem onLegOrderUpdate_running {s t : Strategy} {order : Option LegName}
    {orderStatus : OrderStatus} (running : s.stopped = false)
    (taken : s.onLegOrderUpdate settings order orderStatus = some t) : t.stopped = false := by
  cases order with
  | none =>
      cases taken
      exact running
  | some name =>
      rcases call_steps taken with ⟨_, stopped⟩ | steps
      · cases running.symm.trans stopped
      have here : (t.leg name).ended = false := by
        obtain ⟨_, o, step, _, same⟩ := next_step steps.taken
        rw [same]
        cases step
        rfl
      obtain ⟨high, low⟩ := Bool.or_eq_false_iff.mp running
      cases name with
      | high =>
          have frame : t.low = s.low := steps.frame .low nofun
          exact Bool.or_eq_false_iff.mpr ⟨here, by rwa [frame]⟩
      | low =>
          have frame : t.high = s.high := steps.frame .high nofun
          exact Bool.or_eq_false_iff.mpr ⟨by rwa [frame], here⟩

/-- The handler of the strategy sees every completion that is there. -/
private theorem onOrderUpdate_repriced {s t : Strategy} {link : Link} (kept : Kept s)
    (running : s.stopped = false)
    (taken : s.onOrderUpdate settings link = some t) : Repriced settings t := by
  rcases onOrderUpdate_cases taken with ⟨rfl, agree⟩ | ⟨name, finished, unfinished, called⟩
  · intro name completed
    have other := (kept.tracked name.other).finished completed
    cases name with
    | high => exact .inl (agree.mpr other)
    | low => exact .inl (agree.mp other)
  · rcases call_steps called with ⟨_, stopped⟩ | steps
    · cases running.symm.trans stopped
    intro name' _
    by_cases here : name' = name
    · rw [here]
      obtain ⟨_, o, step, _, same⟩ := next_step steps.taken
      rw [Settled, same]
      exact .inr (LegDiscipline.step_price step)
    · have there : name' = name.other := by
        cases name <;> cases name' <;> first | rfl | exact (here rfl).elim
      rw [Settled, steps.frame name' here, there]
      exact .inl finished

private theorem repriced_next {s t : Strategy} {e : StrategyEvent} (numbers : Numbers settings)
    (inv : (Kept s ∧ Together s) ∧ Repriced settings s) (orderly : Orderly s e ∧ LegFirst e)
    (taken : s.next settings e = some t) : (Kept t ∧ Together t) ∧ Repriced settings t := by
  obtain ⟨⟨kept, together⟩, repriced⟩ := inv
  have after := keeps_next numbers ⟨kept, together⟩ orderly.1 taken
  refine ⟨after, ?_⟩
  obtain ⟨orderly, first⟩ := orderly
  unfold Strategy.next at taken
  split at taken
  · cases taken
  rename_i up
  have running : s.stopped = false := by simpa using up
  cases e with
  | market ready tradingStatus high low =>
      obtain ⟨m, first, second⟩ := Option.bind_eq_some_iff.mp taken
      have asked_high : Called settings s (.high, .market ready tradingStatus high) := trivial
      have asked_low : Called settings m (.low, .market ready tradingStatus low) := trivial
      have kept' := kept_calls numbers kept (expands_call asked_high first)
      have halfway := repriced_call kept repriced asked_high Event.noConfusion first
      exact repriced_call kept' halfway asked_low Event.noConfusion second
  | response name index response link =>
      have asked : Called settings s (name, .response index response link) := orderly
      exact repriced_call kept repriced asked Event.noConfusion taken
  | timer name index link =>
      have asked : Called settings s (name, .timer index link) := orderly
      exact repriced_call kept repriced asked Event.noConfusion taken
  | orderUpdate order orderStatus legFirst link =>
      cases legFirst with
      | false => cases first
      | true =>
          obtain ⟨m, updated, handled⟩ := Option.bind_eq_some_iff.mp taken
          have submitted (name : LegName) (which : order = some name) :
              orderStatus = .completed → (s.leg name).leg.state ≠ .undefined := by
            rw [which] at orderly
            exact orderly
          obtain ⟨expands, _⟩ := onLegOrderUpdate_expands kept submitted updated
          exact onOrderUpdate_repriced (kept_calls numbers kept expands)
            (onLegOrderUpdate_running running updated) handled

instance (e : StrategyEvent) : Decidable (LegFirst e) :=
  match e with
  | .orderUpdate _ _ legFirst _ => inferInstanceAs (Decidable (legFirst = true))
  | .market _ _ _ _ | .response _ _ _ _ | .timer _ _ _ => inferInstanceAs (Decidable True)

/-- When the handler of a leg comes before the one of the strategy, no completion is overlooked:
from the COMPLETED OrderUpdate of one leg on the other one is finished or has the pull-back as its
price, and whenever it rests, the pull-back is what the exchange has acknowledged last. -/
theorem no_completion_is_overlooked (numbers : Numbers settings) (es : List StrategyEvent)
    (orderly : AllSteps (Strategy.next settings) (fun s e => Orderly s e ∧ LegFirst e)
      (.onAddMarket settings) es) (t : Strategy)
    (reached : run (Strategy.next settings) (.onAddMarket settings) es = some t) (name : LegName)
    (completed : (t.leg name.other).completed = true)
    (unfinished : (t.leg name).leg.isFinished = false) :
    (t.leg name).leg.price = settings.pullBack name ∧
      ((t.leg name).leg.state = .waiting →
        (acknowledgedOf t name).getLast? = some (settings.pullBack name)) := by
  have start : (Kept (.onAddMarket settings) ∧ Together (.onAddMarket settings)) ∧
      Repriced settings (.onAddMarket settings) := by
    refine ⟨⟨kept_start, together_start⟩, ?_⟩
    intro name completed
    cases name <;> cases completed
  obtain ⟨⟨kept, _⟩, repriced⟩ := (AllSteps.invariant
    (I := fun s => (Kept s ∧ Together s) ∧ Repriced settings s)
    (fun _ _ _ inv orderly taken => repriced_next numbers inv orderly taken) start orderly).last
    reached
  have price : (t.leg name).leg.price = settings.pullBack name := by
    rcases repriced name completed with finished | price
    · have done : (t.leg name).leg.isFinished = true := decide_eq_true finished
      cases unfinished.symm.trans done
    · exact price
  refine ⟨price, fun rests => ?_⟩
  rw [← price]
  exact kept.acknowledged name rests

section Examples

/-- A range from 100 to 110. -/
def rangeSettings : StrategySettings where
  strategyId := 0
  maxRetries := 3
  retryDelay := 10000000000
  quantity := 1
  priceHigh := 110
  priceLow := 100

/-- Both orders rest. -/
def bothRest : List StrategyEvent :=
  [.market true .«open» ⟨true, 0, true⟩ ⟨true, 0, true⟩,
    .response .high 0 (.success ⟨1, .sell, .createOrder, .accepted, .undefined, 110⟩)
      ⟨true, 0, true⟩,
    .response .low 0 (.success ⟨2, .buy, .createOrder, .accepted, .undefined, 100⟩)
      ⟨true, 0, true⟩]

/-- The offer is filled, and the bid is moved up by a modify that the exchange acknowledges. -/
def offerFilled : List StrategyEvent :=
  [.orderUpdate (some .high) .completed true ⟨true, 0, true⟩,
    .response .low 0 (.success ⟨2, .buy, .modifyOrder, .accepted, .undefined, .num (320 / 3)⟩)
      ⟨true, 0, true⟩]

private theorem range_numbers : Numbers rangeSettings :=
  ⟨Double.noConfusion, Double.noConfusion⟩

private theorem range_orderly :
    AllSteps (Strategy.next rangeSettings) (fun s e => Orderly s e ∧ LegFirst e)
      (.onAddMarket rangeSettings) (bothRest ++ offerFilled) := by
  decide +kernel

theorem assertions_hold_when_filled : ∃ t,
    run (Strategy.next rangeSettings) (.onAddMarket rangeSettings) (bothRest ++ offerFilled) =
      some t ∧ assertionsOf t .low ≠ [] ∧ ∀ check ∈ assertionsOf t .low, Holds check := by
  obtain ⟨t, reached, some_evaluated⟩ : ∃ t, run (Strategy.next rangeSettings)
      (.onAddMarket rangeSettings) (bothRest ++ offerFilled) = some t ∧
        (assertionsOf t .low).length ≠ 0 := reaches_of_any (by decide +kernel)
  refine ⟨t, reached, fun none_evaluated => some_evaluated (by rw [none_evaluated]; rfl), ?_⟩
  exact assertions_hold range_numbers _ (range_orderly.mono fun _ _ both => both.1) t reached .low

theorem pulled_back_when_filled : ∃ t,
    run (Strategy.next rangeSettings) (.onAddMarket rangeSettings) (bothRest ++ offerFilled) =
      some t ∧ t.low.leg.price = .num (320 / 3) ∧
    ∃ pulled, Priced rangeSettings pulled t ∧
      trace (Strategy.next rangeSettings) (repricings rangeSettings) (.onAddMarket rangeSettings)
        (bothRest ++ offerFilled) = pullBackOf rangeSettings pulled := by
  obtain ⟨t, reached, price⟩ : ∃ t, run (Strategy.next rangeSettings)
      (.onAddMarket rangeSettings) (bothRest ++ offerFilled) = some t ∧
        t.low.leg.price = .num (320 / 3) := reaches_of_any (by decide +kernel)
  exact ⟨t, reached, price, pulled_back_at_most_once range_numbers _
    (range_orderly.mono fun _ _ both => both.1) t reached⟩

theorem never_crosses_when_filled : ∃ t,
    run (Strategy.next rangeSettings) (.onAddMarket rangeSettings) (bothRest ++ offerFilled) =
      some t ∧ sentOf t .low = [.num 100, .num (320 / 3)] ∧
    ∀ bid ∈ sentOf t .low, ∀ offer ∈ sentOf t .high, bid.lt offer = true := by
  obtain ⟨t, reached, sent⟩ : ∃ t, run (Strategy.next rangeSettings)
      (.onAddMarket rangeSettings) (bothRest ++ offerFilled) = some t ∧
        sentOf t .low = [.num 100, .num (320 / 3)] := reaches_of_any (by decide +kernel)
  exact ⟨t, reached, sent, never_crosses 100 110 rfl rfl (by norm_num) _
    (range_orderly.mono fun _ _ both => both.1) t reached⟩

theorem finished_leg_is_done_when_filled : ∃ s t,
    run (Strategy.next rangeSettings) (.onAddMarket rangeSettings)
      (bothRest ++ [.orderUpdate (some .high) .completed true ⟨true, 0, true⟩]) = some s ∧
    run (Strategy.next rangeSettings) s [.orderUpdate none .canceled true ⟨true, 0, true⟩] =
      some t ∧ (t.leg .high).leg.isFinished = true ∧ sentOf t .high = sentOf s .high := by
  obtain ⟨s, reached, finished, goes_on⟩ : ∃ s, run (Strategy.next rangeSettings)
      (.onAddMarket rangeSettings)
      (bothRest ++ [.orderUpdate (some .high) .completed true ⟨true, 0, true⟩]) = some s ∧
        (s.leg .high).leg.isFinished = true ∧
        (run (Strategy.next rangeSettings) s
          [.orderUpdate none .canceled true ⟨true, 0, true⟩]).isSome = true :=
    reaches_of_any (by decide +kernel)
  obtain ⟨t, continued⟩ := Option.isSome_iff_exists.mp goes_on
  have orderly : AllSteps (Strategy.next rangeSettings) Orderly (.onAddMarket rangeSettings)
      (bothRest ++ [.orderUpdate (some .high) .completed true ⟨true, 0, true⟩] ++
        [.orderUpdate none .canceled true ⟨true, 0, true⟩]) := by
    decide +kernel
  exact ⟨s, t, reached, continued,
    finished_leg_is_done range_numbers _ _ orderly s t reached continued .high finished⟩

theorem no_completion_is_overlooked_when_filled : ∃ t,
    run (Strategy.next rangeSettings) (.onAddMarket rangeSettings) (bothRest ++ offerFilled) =
      some t ∧ t.low.leg.state = .waiting ∧
    (acknowledgedOf t .low).getLast? = some (rangeSettings.pullBack .low) := by
  obtain ⟨t, reached, completed, unfinished, rests⟩ : ∃ t, run (Strategy.next rangeSettings)
      (.onAddMarket rangeSettings) (bothRest ++ offerFilled) = some t ∧
        t.high.completed = true ∧ t.low.leg.isFinished = false ∧ t.low.leg.state = .waiting :=
    reaches_of_any (by decide +kernel)
  exact ⟨t, reached, rests, (no_completion_is_overlooked range_numbers _ range_orderly t reached
    .low completed unfinished).2 rests⟩

end Examples

end RoqSamples.Strategy1.Retracement
