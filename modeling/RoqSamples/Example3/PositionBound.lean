/- Example3/PositionBound
   digest: The position stays between the position at the start and one minimum volume on either
     side of zero. -/
import RoqSamples.Execution.Runs
import RoqSamples.Example3.Strategy
import Mathlib.Tactic.Linarith

set_option autoImplicit false
set_option relaxedAutoImplicit false

namespace RoqSamples.Example3.PositionBound

open RoqSamples.Arith (Double)
open RoqSamples.Client
open RoqSamples.Execution.Runs
open RoqSamples.Example3.Strategy (halfWeights sample recovery)

variable {Book Update : Type} (mbp : MarketByPrice Book Update)

/-- The strategy, the quantity of the order it created last, what that order has traded according
to its last update, and the orders that have received a terminal update. -/
structure Session (Book : Type) where
  strategy : Strategy Book
  quantity : Double := 0
  reported : Double := 0
  ended : List Nat

namespace Session

/-- The order of the last update before the start, if there was one, has ended. -/
def start (strategy : Strategy Book) : Session Book where
  strategy := strategy
  ended := [strategy.instrument.lastOrderId]

def send (s : Session Book) : Effect → Session Book
  | .createOrder createOrder => { s with quantity := createOrder.quantity, reported := 0 }
  | .cancelOrder _ => s

def hear [Utils] (s : Session Book) : Event Update → Session Book
  | .message _ (.orderUpdate orderUpdate) =>
      { s with
        reported := orderUpdate.tradedQuantity
        ended :=
          if Utils.isOrderComplete orderUpdate.orderStatus then orderUpdate.orderId :: s.ended
          else s.ended }
  | _ => s

def next [Utils] (s : Session Book) (e : Event Update) : Option (Session Book) :=
  match s.strategy.handle mbp e with
  | .error _ => none
  | .ok (strategy, effects) => some (effects.foldl send ({ s with strategy := strategy }.hear e))

/-- There is no download and no disconnect, and the minimum volume is constant. An update is about
the working order, which has not ended: it has its side, and a traded quantity that starts from
zero, never decreases and never exceeds the quantity of the order. -/
def Admissible (s : Session Book) : Event Update → Prop
  | .message source (.orderUpdate orderUpdate) =>
      source = 0 ∧ s.strategy.workingOrderId ≠ 0 ∧
        orderUpdate.orderId = s.strategy.workingOrderId ∧
        orderUpdate.side = s.strategy.workingSide ∧
        s.reported.le orderUpdate.tradedQuantity ∧ orderUpdate.tradedQuantity.le s.quantity ∧
        orderUpdate.orderId ∉ s.ended
  | .message source .disconnected => source ≠ 0
  | .message source (.downloadBegin account) => source = 0 → account ≠ ""
  | .message source (.downloadEnd account _) => source = 0 → account ≠ ""
  | .message source (.referenceData _ _ _ minTradeVol _) =>
      source = 0 → minTradeVol = s.strategy.instrument.minTradeVol
  | _ => True

instance (s : Session Book) (e : Event Update) : Decidable (s.Admissible e) := by
  unfold Admissible
  split <;> infer_instance

def Within (p₀ v p : ℚ) : Prop := min p₀ (-v) ≤ p ∧ p ≤ max p₀ v

/-- Seen from its side, the working order was created against the position, and since then the
position has moved by no more than what the order has traded. -/
def Moved (p₀ v p traded : ℚ) (side : Side) : Prop :=
  ∃ created, Within p₀ v created ∧ side.sign * created ≤ 0 ∧
    0 ≤ side.sign * (p - created) ∧ side.sign * (p - created) ≤ traded

/-- What carries the bound from event to event. -/
structure Guarded (p₀ v : ℚ) (s : Session Book) : Prop where
  positive : 0 < v
  minTradeVol : s.strategy.instrument.minTradeVol = .num v
  download : s.strategy.instrument.download = false
  free : s.strategy.workingOrderId = 0 →
    Within p₀ v s.strategy.instrument.netPosition ∧
      s.strategy.instrument.lastOrderId ∈ s.ended
  working : s.strategy.workingOrderId ≠ 0 →
    s.strategy.workingSide ≠ .undefined ∧ s.quantity = .num v ∧
      ∃ traded : ℚ, s.reported = .num traded ∧ traded ≤ v ∧
        Moved p₀ v s.strategy.instrument.netPosition traded s.strategy.workingSide ∧
        (s.strategy.workingOrderId ∉ s.ended →
          s.strategy.instrument.known s.strategy.workingOrderId = .num traded)

section Arithmetic

variable {p₀ v p traded : ℚ} {side : Side}

/-- The order stays on its side of the position it was created at, and within one volume of
zero. -/
private theorem Moved.within (moved : Moved p₀ v p traded side) (sided : side ≠ .undefined)
    (limit : traded ≤ v) : Within p₀ v p := by
  obtain ⟨created, ⟨low, high⟩, against, forward, bounded⟩ := moved
  cases side with
  | undefined => exact (sided rfl).elim
  | buy =>
      simp only [Side.sign, one_mul] at against forward bounded
      exact ⟨by linarith, le_max_of_le_right (by linarith)⟩
  | sell =>
      simp only [Side.sign] at against forward bounded
      exact ⟨min_le_of_right_le (by linarith), by linarith⟩

private theorem Moved.created (within : Within p₀ v p) (against : side.sign * p ≤ 0) :
    Moved p₀ v p 0 side := by
  refine ⟨p, within, against, ?_, ?_⟩
  · rw [sub_self, mul_zero]
  · rw [sub_self, mul_zero]

/-- The order trades more, and the position follows or stays. -/
private theorem Moved.trade {after more : ℚ} (moved : Moved p₀ v p traded side)
    (sided : side ≠ .undefined) (monotone : traded ≤ more)
    (follows : after = p + side.sign * (more - traded) ∨ after = p) :
    Moved p₀ v after more side := by
  obtain ⟨created, within, against, forward, bounded⟩ := moved
  refine ⟨created, within, against, ?_⟩
  rcases follows with rfl | rfl
  · cases side with
    | undefined => exact (sided rfl).elim
    | buy =>
        simp only [Side.sign] at forward bounded ⊢
        constructor <;> linarith
    | sell =>
        simp only [Side.sign] at forward bounded ⊢
        constructor <;> linarith
  · exact ⟨forward, bounded.trans monotone⟩

end Arithmetic

variable {mbp} {p₀ v : ℚ}

/-- What the bound needs of a strategy is the same. -/
structure Quiet (before after : Strategy Book) : Prop where
  workingOrderId : after.workingOrderId = before.workingOrderId
  workingSide : after.workingSide = before.workingSide
  minTradeVol : after.instrument.minTradeVol = before.instrument.minTradeVol
  download : after.instrument.download = before.instrument.download
  netPosition : after.instrument.netPosition = before.instrument.netPosition
  lastOrderId : after.instrument.lastOrderId = before.instrument.lastOrderId
  known : ∀ orderId, after.instrument.known orderId = before.instrument.known orderId

private theorem Guarded.of_quiet {s : Session Book} {strategy : Strategy Book}
    (guarded : s.Guarded p₀ v) (quiet : Quiet s.strategy strategy) :
    Guarded p₀ v { s with strategy := strategy } := by
  refine ⟨guarded.positive, quiet.minTradeVol.trans guarded.minTradeVol,
    quiet.download.trans guarded.download, fun free => ?_, fun working => ?_⟩
  · rw [quiet.workingOrderId] at free
    rw [quiet.netPosition, quiet.lastOrderId]
    exact guarded.free free
  · rw [quiet.workingOrderId] at working
    rw [quiet.workingOrderId, quiet.workingSide, quiet.netPosition, quiet.known]
    exact guarded.working working

private theorem Quiet.of_instrument {before after : Strategy Book}
    (workingOrderId : after.workingOrderId = before.workingOrderId)
    (workingSide : after.workingSide = before.workingSide)
    (instrument : after.instrument = before.instrument) : Quiet before after := by
  refine ⟨workingOrderId, workingSide, ?_, ?_, ?_, ?_, ?_⟩ <;> simp only [instrument, implies_true]

private theorem Quiet.of_sameAccount {strategy : Strategy Book} {instrument : Instrument Book}
    (same : strategy.instrument.SameAccount instrument)
    (minTradeVol : instrument.minTradeVol = strategy.instrument.minTradeVol) :
    Quiet strategy { strategy with instrument := instrument } :=
  ⟨rfl, rfl, minTradeVol, same.download, same.netPosition, same.lastOrderId, same.known⟩

/-- Messages other than order updates leave the account alone. -/
private theorem handled_quiet [Utils] {s : Session Book} {message : Message Update}
    {instrument : Instrument Book} (guarded : s.Guarded p₀ v)
    (admissible : s.Admissible (.message 0 message))
    (other : ∀ orderUpdate, message ≠ .orderUpdate orderUpdate)
    (handled : s.strategy.instrument.handle mbp message = .ok instrument) :
    Quiet s.strategy { s.strategy with instrument := instrument } := by
  have stays : message ≠ .disconnected := by
    rintro rfl
    exact admissible rfl
  have minTradeVol : instrument.minTradeVol = s.strategy.instrument.minTradeVol := by
    refine Instrument.handle_minTradeVol stays ?_ handled
    rintro _ _ _ _ _ rfl
    exact admissible rfl
  have spared (spares : s.strategy.instrument.spares message = true) :
      Quiet s.strategy { s.strategy with instrument := instrument } :=
    .of_sameAccount (Instrument.handle_sameAccount spares handled) minTradeVol
  cases message with
  | connected =>
      cases handled
      obtain ⟨_, _, same⟩ := s.strategy.instrument.onConnected_eq
      rw [same]
      exact ⟨rfl, rfl, rfl, rfl, rfl, rfl, fun _ => rfl⟩
  | disconnected => exact (stays rfl).elim
  | downloadBegin account => exact spared (decide_eq_true (admissible rfl))
  | downloadEnd account maxOrderId => exact spared (decide_eq_true (admissible rfl))
  | gatewayStatus _ _ _ | referenceData _ _ _ _ _ | marketStatus _ _ _
  | marketByPriceUpdate _ _ _ => exact spared rfl
  | positionUpdate _ _ _ =>
      refine spared ?_
      simpa [Instrument.spares] using guarded.download
  | orderUpdate orderUpdate => exact (other orderUpdate rfl).elim

/-- The strategy itself only keeps the largest order id of a download. -/
private theorem react_quiet [Utils] {before after : Strategy Book} {message : Message Update}
    (other : ∀ orderUpdate, message ≠ .orderUpdate orderUpdate) (quiet : Quiet before after) :
    Quiet before (after.react message) := by
  cases message with
  | orderUpdate orderUpdate => exact (other orderUpdate rfl).elim
  | downloadEnd _ _ =>
      exact ⟨quiet.workingOrderId, quiet.workingSide, quiet.minTradeVol, quiet.download,
        quiet.netPosition, quiet.lastOrderId, quiet.known⟩
  | _ => exact quiet

private theorem message_quiet [Utils] {s : Session Book} {source : Nat} {message : Message Update}
    {strategy : Strategy Book} (guarded : s.Guarded p₀ v)
    (admissible : s.Admissible (.message source message))
    (other : ∀ orderUpdate, message ≠ .orderUpdate orderUpdate)
    (dispatched : s.strategy.dispatch mbp source message = .ok strategy) :
    Quiet s.strategy (strategy.react message) := by
  refine react_quiet other ?_
  rcases Strategy.dispatch_cases dispatched with ⟨_, rfl⟩ | ⟨rfl, instrument, handled, rfl⟩
  · exact .of_instrument rfl rfl rfl
  · exact handled_quiet guarded admissible other handled

private theorem Guarded.create [Utils] {s : Session Book} {side : Side} {price : Double}
    (guarded : s.Guarded p₀ v) (model : Model) (nextSample : Int) (orderId : Nat)
    (free : s.strategy.workingOrderId = 0)
    (allowed : s.strategy.instrument.canTrade side = true) :
    Guarded p₀ v
      ({ s with
        strategy :=
          { s.strategy with
            model := model
            nextSample := nextSample
            maxOrderId := orderId
            workingOrderId := orderId
            workingSide := side } }.send
        (.createOrder (s.strategy.createOrderRequest orderId side price))) := by
  obtain ⟨within, last⟩ := guarded.free free
  refine ⟨guarded.positive, guarded.minTradeVol, guarded.download, fun _ => ⟨within, last⟩,
    fun _ => ?_⟩
  have against : side.sign * s.strategy.instrument.netPosition ≤ 0 := by
    cases side with
    | undefined => cases allowed
    | buy => simpa [Side.sign] using Instrument.canTrade_buy allowed
    | sell => simpa [Side.sign] using Instrument.canTrade_sell allowed
  refine ⟨Instrument.canTrade_side allowed, guarded.minTradeVol, 0, rfl, guarded.positive.le,
    Moved.created within against, fun running => ?_⟩
  have other : s.strategy.instrument.lastOrderId ≠ orderId := by
    rintro rfl
    exact running last
  exact if_pos other

private theorem le_cases {x : ℚ} {y : Double} (le : (Double.num x).le y = true) :
    ∃ z, y = .num z ∧ x ≤ z := by
  cases y with
  | nan => cases le
  | num z => exact ⟨z, rfl, by simpa using le⟩

/-- An update of the working order moves the position by what is new in it, or not at all. -/
private theorem orderUpdate_guarded [Utils] {s : Session Book} {orderUpdate : OrderUpdate}
    (guarded : s.Guarded p₀ v)
    (admissible : s.Admissible (.message 0 (.orderUpdate orderUpdate) : Event Update)) :
    let instrument := s.strategy.instrument.onOrderUpdate orderUpdate
    let message : Message Update := .orderUpdate orderUpdate
    Guarded p₀ v
      ({ s with strategy := { s.strategy with instrument := instrument }.react message }.hear
        (.message 0 message)) := by
  obtain ⟨_, working, own, side, monotone, limited, running⟩ := admissible
  obtain ⟨sided, quantity, traded, reported, _, moved, known⟩ := guarded.working working
  rw [reported] at monotone
  obtain ⟨more, number, monotone⟩ := le_cases monotone
  have limited : more ≤ v := by simpa [number, quantity] using limited
  have known : s.strategy.instrument.known orderUpdate.orderId = .num traded := by
    rw [own] at running ⊢
    exact known running
  have follows :
      (s.strategy.instrument.onOrderUpdate orderUpdate).netPosition =
          s.strategy.instrument.netPosition + s.strategy.workingSide.sign * (more - traded) ∨
        (s.strategy.instrument.onOrderUpdate orderUpdate).netPosition =
          s.strategy.instrument.netPosition := by
    by_cases nan : s.strategy.instrument.sideQuantity orderUpdate.side = .nan
    · exact .inr (Instrument.onOrderUpdate_netPosition_nan nan)
    · rw [← side]
      exact .inl (Instrument.onOrderUpdate_netPosition number known (.inr nan))
  have after := moved.trade sided monotone follows
  have minTradeVol := (Instrument.onOrderUpdate_minTradeVol _ orderUpdate).trans
    guarded.minTradeVol
  have download := (Instrument.onOrderUpdate_download _ orderUpdate).trans guarded.download
  dsimp only [hear, Strategy.react]
  by_cases complete : Utils.isOrderComplete orderUpdate.orderStatus = true
  · rw [if_pos complete, if_pos complete]
    refine ⟨guarded.positive, minTradeVol, download, fun _ => ⟨after.within sided limited, ?_⟩,
      fun none => (none rfl).elim⟩
    rw [Instrument.onOrderUpdate_lastOrderId]
    exact List.mem_cons_self
  · rw [if_neg complete, if_neg complete]
    refine ⟨guarded.positive, minTradeVol, download, fun free => (working free).elim, fun _ => ?_⟩
    refine ⟨sided, quantity, more, number, limited, after, fun _ => ?_⟩
    dsimp only
    rw [← own, Instrument.onOrderUpdate_known, number]

private theorem guarded_step [Utils] {s t : Session Book} {e : Event Update}
    (guarded : s.Guarded p₀ v)
    (admissible : s.Admissible e) (taken : s.next mbp e = some t) : t.Guarded p₀ v := by
  unfold next at taken
  split at taken
  · cases taken
  · rename_i strategy effects handled
    cases taken
    cases Strategy.handle_step handled with
    | ready | orderAck => exact guarded
    | timer trades =>
        cases trades with
        | none _ _ _ | cancel _ _ _ _ _ =>
            exact guarded.of_quiet (.of_instrument rfl rfl rfl)
        | create model nextSample _ free allowed =>
            exact guarded.create model nextSample _ free allowed
    | @message source message strategy dispatched =>
        by_cases update : ∃ orderUpdate, message = .orderUpdate orderUpdate
        · obtain ⟨orderUpdate, rfl⟩ := update
          obtain rfl : source = 0 := admissible.1
          cases dispatched
          exact orderUpdate_guarded guarded admissible
        · have other : ∀ orderUpdate, message ≠ .orderUpdate orderUpdate :=
            fun orderUpdate same => update ⟨orderUpdate, same⟩
          have unheard : { s with strategy := strategy.react message }.hear
              (.message source message) = { s with strategy := strategy.react message } := by
            cases message with
            | orderUpdate orderUpdate => exact (other orderUpdate rfl).elim
            | _ => rfl
          simp only [List.foldl_nil]
          rw [unheard]
          exact guarded.of_quiet (message_quiet guarded admissible other dispatched)

private theorem Guarded.within {s : Session Book} (guarded : s.Guarded p₀ v) :
    Within p₀ v s.strategy.instrument.netPosition := by
  by_cases free : s.strategy.workingOrderId = 0
  · exact (guarded.free free).1
  · obtain ⟨sided, _, traded, _, limit, moved, _⟩ := guarded.working free
    exact moved.within sided limit

/-- The position of the session is a number within the bounds. -/
def Bounded (p₀ v : ℚ) (s : Session Book) : Prop :=
  ∃ p, s.strategy.instrument.position = .num p ∧ min p₀ (-v) ≤ p ∧ p ≤ max p₀ v

/-- For every run from a position without a working order, with any depth, any signals, and any
admissible partial fills and cancels: the position stays between the one at the start and one
minimum volume on either side of zero. -/
theorem position_bounded [Utils] (mbp : MarketByPrice Book Update) (strategy : Strategy Book)
    (p₀ v : ℚ) (positive : 0 < v) (position : strategy.instrument.position = .num p₀)
    (minTradeVol : strategy.instrument.minTradeVol = .num v)
    (download : strategy.instrument.download = false) (free : strategy.workingOrderId = 0)
    (es : List (Event Update)) (admissible : AllSteps (next mbp) Admissible (start strategy) es) :
    AllStates (next mbp) (Bounded p₀ v) (start strategy) es := by
  have net : strategy.instrument.netPosition = p₀ :=
    Double.num.inj ((Instrument.position_eq _).symm.trans position)
  have initial : (start strategy).Guarded p₀ v := by
    refine ⟨positive, minTradeVol, download, fun _ => ⟨?_, List.mem_cons_self⟩,
      fun working => (working free).elim⟩
    exact net ▸ ⟨min_le_left _ _, le_max_left _ _⟩
  have guarded : AllStates (next mbp) (Guarded p₀ v) (start strategy) es :=
    admissible.invariant (fun _ _ _ => guarded_step) initial
  refine guarded.mono fun s guarded => ?_
  exact ⟨_, Instrument.position_eq _, guarded.within⟩

section Examples

open scoped RoqSamples.Client.Documented

/-- The strategy is ready, short by 1/4. -/
def readyShort : Strategy Depth where
  settings := halfWeights
  instrument :=
    { Instrument.new snapshots halfWeights with
      connected := true
      tickSize := .num (1 / 2)
      minTradeVol := 1
      multiplier := 1
      tradingStatus := .«open»
      marketData := true
      orderManagement := true
      ready := true
      shortPosition := .num (1 / 4) }
  model := Model.new halfWeights

def filled (orderStatus : OrderStatus) (traded : ℚ) : Event Depth :=
  .message 0 (.orderUpdate ⟨1, .buy, .incremental, orderStatus, 1, .num traded, 100⟩)

/-- A signal to buy creates order 1, which is filled in two parts; the next signal creates none. -/
def buyOnce : List (Event Depth) :=
  sample 1 100 101 ++ sample 2 100 101 ++ recovery 3 ++
    [filled .working (1 / 2), filled .completed 1] ++ recovery 5

/-- The run ends long by 3/4. -/
theorem position_bounded_when_filled :
    (∃ t, run (next snapshots) (start readyShort) buyOnce = some t ∧
        t.strategy.instrument.position = .num (3 / 4) ∧ t.strategy.maxOrderId = 1) ∧
      AllStates (next snapshots) (Bounded (-1 / 4) 1) (start readyShort) buyOnce :=
  ⟨reaches_of_any (by decide +kernel),
    position_bounded snapshots readyShort (-1 / 4) 1 (by decide +kernel) (by decide +kernel) rfl rfl
      rfl buyOnce (by decide +kernel)⟩

end Examples

end Session

end RoqSamples.Example3.PositionBound
