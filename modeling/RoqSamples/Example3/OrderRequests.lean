/- Example3/OrderRequests
   digest: Every request of the strategy is well formed and its own, and no order id is used
     twice. -/
import RoqSamples.Example3.SampleRate
import RoqSamples.Example3.WorkingOrder

set_option autoImplicit false
set_option relaxedAutoImplicit false

namespace RoqSamples.Example3.OrderRequests

open RoqSamples.Arith (Double)
open RoqSamples.Client
open RoqSamples.Execution.Runs
open RoqSamples.Example3.SampleRate (next)

variable {Book Update : Type} (mbp : MarketByPrice Book Update)

private theorem pairwise_of_length_le {α : Type} {R : α → α → Prop} {l : List α}
    (few : l.length ≤ 1) : l.Pairwise R := by
  match l with
  | [] => exact .nil
  | [a] => exact List.pairwise_singleton R a
  | _ :: _ :: _ => exact absurd few (by simp)

section Requests

variable [Utils]

/-- What the strategy sends for an event. -/
def sends (s : Strategy Book) (e : Event Update) : List Effect :=
  match s.handle mbp e with
  | .error _ => []
  | .ok (_, effects) => effects

/-- What decides which order works: an order that was created, and a terminal update of an order. -/
inductive Mark
  | created (createOrder : CreateOrder)
  | ended (orderId : Nat)

def Mark.next (mark : Mark) (order : Option CreateOrder) : Option CreateOrder :=
  match mark with
  | .created createOrder => some createOrder
  | .ended orderId => order.filter fun createOrder => createOrder.orderId ≠ orderId

/-- The orders of the strategy are those of the first gateway. -/
def endsOrder : Event Update → List Mark
  | .message source (.orderUpdate orderUpdate) =>
      if source = 0 ∧ Utils.isOrderComplete orderUpdate.orderStatus then
        [.ended orderUpdate.orderId]
      else []
  | .message _ _ | .timer _ _ | .ready | .orderAck _ => []

def createdBy : Effect → Option CreateOrder
  | .createOrder createOrder => some createOrder
  | .cancelOrder _ => none

def marks (s : Strategy Book) (e : Event Update) : List Mark :=
  ((sends mbp s e).filterMap createdBy).map .created ++ endsOrder e

/-- The last order created, unless a terminal update of it has been received. -/
def working : List Mark → Option CreateOrder :=
  List.foldl (fun order mark => mark.next order) none

/-- A terminal update that arrives while an order works is one of that order. -/
def EndsWorking (s : Strategy Book) : Event Update → Prop
  | .message source (.orderUpdate orderUpdate) =>
      Utils.isOrderComplete orderUpdate.orderStatus = true → s.workingOrderId ≠ 0 →
        source = 0 ∧ orderUpdate.orderId = s.workingOrderId
  | .message _ _ | .timer _ _ | .ready | .orderAck _ => True

instance (s : Strategy Book) : ∀ e : Event Update, Decidable (EndsWorking s e)
  | .message _ (.orderUpdate _) => inferInstanceAs (Decidable (_ = true → _ ≠ 0 → _ ∧ _))
  | .timer _ _ | .ready | .orderAck _ | .message _ .connected | .message _ .disconnected
  | .message _ (.downloadBegin _) | .message _ (.downloadEnd _ _)
  | .message _ (.gatewayStatus _ _ _) | .message _ (.referenceData _ _ _ _ _)
  | .message _ (.marketStatus _ _ _) | .message _ (.marketByPriceUpdate _ _ _)
  | .message _ (.positionUpdate _ _ _) => isTrue trivial

/-- A level of the book without a price has no quantity, as the client library documents. -/
def Quoted (depth : Depth) : Prop :=
  ∀ layer ∈ depth.layers,
    (Double.lt 0 layer.bidQuantity = true → layer.bidPrice ≠ .nan) ∧
      (Double.lt 0 layer.askQuantity = true → layer.askPrice ≠ .nan)

/-- What a request rests on, after the events `past` that lead to the strategy `s`. -/
def WellFormed (settings : Settings) (past : List (Event Update)) (s : Strategy Book) :
    Effect → Prop
  | .createOrder createOrder =>
      s.settings.enableTrading = true ∧
      (AllSteps (next mbp) EndsWorking (Strategy.new mbp settings) past →
        working (trace (next mbp) (marks mbp) (Strategy.new mbp settings) past) = none) ∧
      s.instrument.connected = true ∧ s.instrument.tradingStatus = .«open» ∧
      createOrder.account = settings.account ∧ createOrder.exchange = settings.exchange ∧
      createOrder.symbol = settings.symbol ∧
      createOrder.quantity = s.instrument.minTradeVol ∧
      Double.lt 0 createOrder.quantity = true ∧ createOrder.price ≠ .nan ∧
      (createOrder.side = .buy ∧ createOrder.price = s.instrument.bestBid ∧
          s.instrument.netPosition ≤ 0 ∨
        createOrder.side = .sell ∧ createOrder.price = s.instrument.bestAsk ∧
          0 ≤ s.instrument.netPosition)
  | .cancelOrder cancelOrder =>
      s.settings.enableTrading = true ∧ cancelOrder.account = settings.account ∧
      ∃ createOrder,
        working (trace (next mbp) (marks mbp) (Strategy.new mbp settings) past) =
          some createOrder ∧
        cancelOrder.orderId = createOrder.orderId

/-- The account was told an order id, or took it for an order. -/
def orderIds (s : Strategy Book) : Event Update → List (Nat × Bool)
  | .message _ (.downloadEnd _ maxOrderId) => [(uint64 maxOrderId, false)]
  | e => ((sends mbp s e).filterMap createdBy).map fun createOrder => (createOrder.orderId, true)

/-- What a timer does to the strategy and what it sends. -/
private inductive Timed (s : Strategy Book) : Strategy Book → List Effect → Prop
  | quiet (model : Model) (nextSample : Int) :
      Timed s { s with model := model, nextSample := nextSample } []
  | blocked (model : Model) (nextSample : Int) :
      Timed s
        { s with
          model := model, nextSample := nextSample, maxOrderId := uint64 (s.maxOrderId + 1) } []
  | cancelled (model : Model) (nextSample : Int) (trading : s.settings.enableTrading = true)
      (works : s.workingOrderId ≠ 0) :
      Timed s { s with model := model, nextSample := nextSample }
        [.cancelOrder s.cancelOrderRequest]
  | created (model : Model) (nextSample : Int) {side : Side} {price : Double}
      (trading : s.settings.enableTrading = true) (ready : s.instrument.ready = true)
      (full : Model.validate s.instrument.depth = true) (free : s.workingOrderId = 0)
      (allowed : s.instrument.canTrade side = true)
      (priced : side = .buy ∧ price = s.instrument.bestBid ∨
        side = .sell ∧ price = s.instrument.bestAsk) :
      Timed s
        { s with
          model := model
          nextSample := nextSample
          maxOrderId := uint64 (s.maxOrderId + 1)
          workingOrderId := uint64 (s.maxOrderId + 1)
          workingSide := side }
        [.createOrder (s.createOrderRequest (uint64 (s.maxOrderId + 1)) side price)]

variable {mbp}

private theorem Timed.rescheduled {s t : Strategy Book} {effects : List Effect}
    (timed : Timed s t effects) (nextSample : Int) :
    Timed s { t with nextSample := nextSample } effects := by
  cases timed with
  | quiet model _ => exact .quiet model nextSample
  | blocked model _ => exact .blocked model nextSample
  | cancelled model _ trading works => exact .cancelled model nextSample trading works
  | created model _ trading ready full free allowed priced =>
      exact .created model nextSample trading ready full free allowed priced

private theorem tryTrade_timed (s : Strategy Book) (model : Model) {side : Side} {price : Double}
    (connected : Bool) (ready : s.instrument.ready = true)
    (full : Model.validate s.instrument.depth = true)
    (priced : side = .buy ∧ price = s.instrument.bestBid ∨
      side = .sell ∧ price = s.instrument.bestAsk) :
    Timed s ({ s with model := model }.tryTrade side price connected).strategy
      ({ s with model := model }.tryTrade side price connected).effects := by
  unfold Strategy.tryTrade
  dsimp only
  split
  · exact .quiet model _
  rename_i trading
  have trading : s.settings.enableTrading = true := by simpa using trading
  split
  · rename_i works
    split
    · split
      · exact .cancelled model _ trading works
      · exact .quiet model _
    · exact .quiet model _
  · rename_i free
    have free : s.workingOrderId = 0 := not_not.mp free
    split
    · exact .quiet model _
    · rename_i allowed
      have allowed : s.instrument.canTrade side = true := by simpa using allowed
      split
      · exact .created model _ trading ready full free allowed priced
      · exact .blocked model _

/-- A signal takes full depth. -/
private theorem full_of_signal {model : Model} {depth : Depth}
    (signal : (model.update depth).2 ≠ .undefined) : Model.validate depth = true := by
  by_contra partly
  apply signal
  unfold Model.update
  rw [if_neg partly]

private theorem updateModel_timed (s : Strategy Book) (connected : Bool) :
    Timed s (s.updateModel connected).strategy (s.updateModel connected).effects := by
  unfold Strategy.updateModel
  split
  · rename_i ready
    have full (signal : (s.model.update s.instrument.depth).2 ≠ .undefined) :=
      full_of_signal signal
    dsimp only
    split
    · exact .quiet _ _
    · rename_i buys
      exact tryTrade_timed s _ connected ready (full (by rw [buys]; decide)) (.inl ⟨rfl, rfl⟩)
    · rename_i sells
      exact tryTrade_timed s _ connected ready (full (by rw [sells]; decide)) (.inr ⟨rfl, rfl⟩)
  · exact .quiet _ _

private theorem onTimer_timed (s : Strategy Book) (now : Int) (connected : Bool) :
    Timed s (s.onTimer now connected).1 (s.onTimer now connected).2 := by
  unfold Strategy.onTimer
  split
  · exact .quiet _ _
  · have sampled := updateModel_timed s connected
    dsimp only
    by_cases initialized : s.nextSample ≠ 0
    · rw [if_pos initialized]
      split
      · exact sampled.rescheduled _
      · exact sampled
    · rw [if_neg initialized]
      exact .quiet _ _

/-- What readiness says, whenever it was determined last. -/
private def ReadyMeans (i : Instrument Book) : Prop :=
  i.ready = true →
    i.connected = true ∧ i.tradingStatus = .«open» ∧ Double.lt 0 i.minTradeVol = true

private theorem readyMeans_checkReady (i : Instrument Book) : ReadyMeans i.checkReady := by
  intro ready
  simp only [Instrument.checkReady, Bool.and_eq_true, decide_eq_true_eq] at ready
  obtain ⟨⟨⟨⟨⟨⟨⟨connected, _⟩, _⟩, minTradeVol⟩, _⟩, isOpen⟩, _⟩, _⟩ := ready
  exact ⟨connected, isOpen, Utils.isGreater_zero.mp minTradeVol⟩

private theorem readyMeans_handle {i after : Instrument Book} {message : Message Update}
    (means : ReadyMeans i) (handled : i.handle mbp message = .ok after) : ReadyMeans after := by
  cases message with
  | connected =>
      cases handled
      unfold Instrument.onConnected
      split
      · exact means
      · exact readyMeans_checkReady _
  | disconnected =>
      cases handled
      unfold Instrument.onDisconnected
      split
      · exact fun ready => Bool.noConfusion ready
      · exact means
  | downloadBegin account =>
      cases handled
      unfold Instrument.onDownloadBegin
      split
      · exact means
      · exact means
  | downloadEnd account maxOrderId =>
      cases handled
      unfold Instrument.onDownloadEnd
      split
      · exact readyMeans_checkReady _
      · exact means
  | gatewayStatus | referenceData | marketStatus =>
      cases handled
      exact readyMeans_checkReady _
  | marketByPriceUpdate exchange symbol update =>
      obtain rfl := Instrument.onMarketByPriceUpdate_ok handled
      exact means
  | orderUpdate orderUpdate =>
      cases handled
      unfold Instrument.onOrderUpdate
      cases orderUpdate.side <;> exact means
  | positionUpdate account longQuantity shortQuantity =>
      cases handled
      unfold Instrument.onPositionUpdate
      split
      · exact means
      · exact means

/-- The depth is what the book gave last. -/
private theorem quoted_handle {i after : Instrument Book} {message : Message Update}
    (lawful : ∀ book, Quoted (mbp.extract book)) (quoted : Quoted i.depth)
    (handled : i.handle mbp message = .ok after) : Quoted after.depth := by
  have kept (same : after.depth = i.depth) : Quoted after.depth := by rwa [same]
  cases message with
  | connected =>
      cases handled
      unfold Instrument.onConnected at kept ⊢
      split
      · exact quoted
      · exact quoted
  | disconnected =>
      cases handled
      unfold Instrument.onDisconnected at kept ⊢
      split
      · exact quoted
      · exact quoted
  | downloadBegin account =>
      cases handled
      unfold Instrument.onDownloadBegin at kept ⊢
      split
      · exact quoted
      · exact quoted
  | downloadEnd account maxOrderId =>
      cases handled
      unfold Instrument.onDownloadEnd at kept ⊢
      split
      · exact quoted
      · exact quoted
  | gatewayStatus account available unavailable =>
      cases handled
      refine kept ?_
      unfold Instrument.onGatewayStatus
      dsimp only
      split
      · rfl
      · split <;> rfl
  | referenceData | marketStatus =>
      cases handled
      exact quoted
  | marketByPriceUpdate exchange symbol update =>
      obtain rfl := Instrument.onMarketByPriceUpdate_ok handled
      exact lawful _
  | orderUpdate orderUpdate =>
      cases handled
      refine kept ?_
      unfold Instrument.onOrderUpdate
      cases orderUpdate.side <;> rfl
  | positionUpdate account longQuantity shortQuantity =>
      cases handled
      unfold Instrument.onPositionUpdate at kept ⊢
      split
      · exact quoted
      · exact quoted

/-- The order ids do not run out. -/
def IdsLast (s : Strategy Book) (_ : Event Update) : Prop := s.maxOrderId + 1 < 2 ^ 64

instance (s : Strategy Book) (e : Event Update) : Decidable (IdsLast s e) :=
  inferInstanceAs (Decidable (_ < _))

/-- The working order of the strategy is the one that the marks say. Without one, no order works
according to the marks, if `alone`. -/
private structure Works (alone : Prop) (s : Strategy Book) (order : Option CreateOrder) : Prop where
  names : s.workingOrderId ≠ 0 →
    ∃ createOrder, order = some createOrder ∧ s.workingOrderId = createOrder.orderId
  free : alone → s.workingOrderId = 0 → order = none

private structure Kept (mbp : MarketByPrice Book Update) (settings : Settings)
    (es : List (Event Update)) (s : Strategy Book) : Prop where
  flags : s.settings = settings
  quoted : Quoted s.instrument.depth
  ready : ReadyMeans s.instrument
  works : Works (AllSteps (next mbp) EndsWorking (Strategy.new mbp settings) es) s
    (working (trace (next mbp) (marks mbp) (Strategy.new mbp settings) es))

private theorem next_eq_some {s t : Strategy Book} {e : Event Update}
    (taken : next mbp s e = some t) : s.handle mbp e = .ok (t, sends mbp s e) := by
  unfold next at taken
  unfold sends
  split at taken
  · cases taken
  · rename_i u effects handled
    cases taken
    rw [handled]

/-- A message sends nothing and leaves the settings, the working order and the samples alone. -/
private theorem message_step {s t : Strategy Book} {source : Nat} {message : Message Update}
    {effects : List Effect}
    (handled : s.handle mbp (.message source message) = .ok (t, effects)) :
    effects = [] ∧ ∃ instrument,
      (instrument = s.instrument ∨ s.instrument.handle mbp message = .ok instrument) ∧
      t = { s with instrument := instrument }.react message := by
  obtain ⟨u, dispatched, same⟩ := ok_of_map handled
  cases same
  refine ⟨rfl, ?_⟩
  rcases Strategy.dispatch_cases dispatched with ⟨_, rfl⟩ | ⟨_, instrument, given, rfl⟩
  · exact ⟨u.instrument, .inl rfl, rfl⟩
  · exact ⟨instrument, .inr given, rfl⟩

private theorem react_instrument (s : Strategy Book) (message : Message Update) :
    (s.react message).instrument = s.instrument ∧ (s.react message).settings = s.settings := by
  cases message with
  | orderUpdate orderUpdate =>
      unfold Strategy.react
      dsimp only
      split
      · exact ⟨rfl, rfl⟩
      · exact ⟨rfl, rfl⟩
  | connected | disconnected | downloadBegin | downloadEnd | gatewayStatus | referenceData
  | marketStatus | marketByPriceUpdate | positionUpdate => exact ⟨rfl, rfl⟩

private theorem react_works {alone : Prop} {s : Strategy Book} {source : Nat}
    {message : Message Update} {order : Option CreateOrder} (works : Works alone s order) :
    Works (alone ∧ EndsWorking s (.message source message)) (s.react message)
      ((endsOrder (.message source message)).foldl (fun order mark => mark.next order)
        order) := by
  have same : Works (alone ∧ EndsWorking s (.message source message)) s order :=
    ⟨works.names, fun both => works.free both.1⟩
  cases message with
  | orderUpdate orderUpdate =>
      unfold Strategy.react endsOrder
      dsimp only
      by_cases complete : Utils.isOrderComplete orderUpdate.orderStatus = true
      · rw [if_pos complete]
        refine ⟨fun working => absurd rfl working, fun ⟨earlier, ends⟩ _ => ?_⟩
        by_cases free : s.workingOrderId = 0
        · rw [works.free earlier free]
          split <;> rfl
        · obtain ⟨first, own⟩ := ends complete free
          obtain ⟨createOrder, rfl, named⟩ := works.names free
          rw [if_pos ⟨first, complete⟩]
          simp [Mark.next, own, named]
      · rw [if_neg complete, if_neg (fun both => complete both.2)]
        exact same
  | connected | disconnected | downloadBegin | downloadEnd | gatewayStatus | referenceData
  | marketStatus | marketByPriceUpdate | positionUpdate => exact ⟨same.names, same.free⟩

private theorem kept_next {settings : Settings} {es : List (Event Update)} {s t : Strategy Book}
    {e : Event Update} (lawful : ∀ book, Quoted (mbp.extract book))
    (reached : run (next mbp) (Strategy.new mbp settings) es = some s)
    (kept : Kept mbp settings es s) (last : IdsLast s e) (taken : next mbp s e = some t) :
    Kept mbp settings (es ++ [e]) t := by
  have handled := next_eq_some taken
  have order : working (trace (next mbp) (marks mbp) (Strategy.new mbp settings) (es ++ [e])) =
      (marks mbp s e).foldl (fun order mark => mark.next order)
        (working (trace (next mbp) (marks mbp) (Strategy.new mbp settings) es)) := by
    rw [trace_append reached, trace_singleton taken, working, List.foldl_append]
  have split : AllSteps (next mbp) EndsWorking (Strategy.new mbp settings) (es ++ [e]) →
      AllSteps (next mbp) EndsWorking (Strategy.new mbp settings) es ∧ EndsWorking s e := by
    intro steps
    obtain ⟨earlier, now⟩ := allSteps_append.mp steps
    exact ⟨earlier, ((allSteps_cons taken []).mp (now s reached)).1⟩
  obtain ⟨same, quoted, ready, works⟩ := kept
  have idle : Works (AllSteps (next mbp) EndsWorking (Strategy.new mbp settings) (es ++ [e])) s
      (working (trace (next mbp) (marks mbp) (Strategy.new mbp settings) es)) :=
    ⟨works.names, fun steps => works.free (split steps).1⟩
  cases e with
  | timer now connected =>
      have outcome : s.onTimer now connected = (t, sends mbp s (.timer now connected)) :=
        Except.ok.inj handled
      have timed := onTimer_timed s now connected
      rw [outcome] at timed
      rw [marks, endsOrder, List.append_nil] at order
      generalize sends mbp s (.timer now connected) = effects at timed order
      cases timed with
      | quiet | blocked | cancelled =>
          exact ⟨same, quoted, ready, by rw [order]; exact ⟨idle.names, idle.free⟩⟩
      | created model nextSample _ _ _ _ _ _ =>
          have new_id : uint64 (s.maxOrderId + 1) = s.maxOrderId + 1 := Nat.mod_eq_of_lt last
          refine ⟨same, quoted, ready, ?_⟩
          rw [order]
          refine ⟨fun _ => ⟨_, rfl, rfl⟩, fun _ free => ?_⟩
          change uint64 (s.maxOrderId + 1) = 0 at free
          omega
  | ready =>
      cases Except.ok.inj handled
      exact ⟨same, quoted, ready, by rw [order]; exact idle⟩
  | orderAck ack =>
      cases Except.ok.inj handled
      exact ⟨same, quoted, ready, by rw [order]; exact idle⟩
  | message source message =>
      obtain ⟨silent, instrument, given, rfl⟩ := message_step handled
      obtain ⟨here, flags⟩ := react_instrument { s with instrument := instrument } message
      rw [marks, silent] at order
      refine ⟨flags.trans same, ?_, ?_, ?_⟩
      · rw [here]
        rcases given with rfl | given
        · exact quoted
        · exact quoted_handle lawful quoted given
      · rw [here]
        rcases given with rfl | given
        · exact ready
        · exact readyMeans_handle ready given
      · rw [order]
        have before : Works (AllSteps (next mbp) EndsWorking (Strategy.new mbp settings) es)
            { s with instrument := instrument }
            (working (trace (next mbp) (marks mbp) (Strategy.new mbp settings) es)) :=
          ⟨works.names, works.free⟩
        have after : Works (_ ∧ EndsWorking _ (.message source message)) (Strategy.react _ message)
            _ := react_works before
        refine ⟨after.names, fun steps => after.free ?_⟩
        obtain ⟨earlier, ends⟩ := split steps
        refine ⟨earlier, ?_⟩
        cases message with
        | orderUpdate => exact ends
        | _ => trivial

private theorem kept_run {settings : Settings} {es : List (Event Update)} {s : Strategy Book}
    (lawful : ∀ book, Quoted (mbp.extract book))
    (last : AllSteps (next mbp) IdsLast (Strategy.new mbp settings) es)
    (reached : run (next mbp) (Strategy.new mbp settings) es = some s) :
    Kept mbp settings es s := by
  have start : Kept mbp settings [] (Strategy.new mbp settings) := by
    refine ⟨rfl, ?_, fun ready => Bool.noConfusion ready,
      ⟨fun working => absurd rfl working, fun _ _ => rfl⟩⟩
    intro layer mem
    have empty : layer = {} := by
      simpa [Strategy.new, Instrument.new, Depth.layers] using mem
    rw [empty]
    exact ⟨fun positive => Bool.noConfusion positive, fun positive => Bool.noConfusion positive⟩
  refine run_history (I := fun es s => AllSteps (next mbp) IdsLast (Strategy.new mbp settings) es →
    Kept mbp settings es s) (fun _ => start) ?_ reached last
  intro es e m t before kept taken steps
  obtain ⟨earlier, now⟩ := allSteps_append.mp steps
  exact kept_next lawful before (kept earlier) ((allSteps_cons taken []).mp (now m before)).1 taken

/-- For every run, with any number of reconnects, downloads and messages of any gateway and with
sends that throw: a CreateOrder is sent only while trading is enabled, for an instrument that is
connected and open, and after the end of the order created last, if all terminal updates so far were
of the order that worked; it has the positive minimum volume of the instrument, and the best price
of its side, which is a number; and it never adds to a position. A CancelOrder names the order that
was created last, and that has not ended since. -/
theorem requests_are_well_formed (lawful : ∀ book, Quoted (mbp.extract book)) (settings : Settings)
    (es : List (Event Update))
    (last : AllSteps (next mbp) IdsLast (Strategy.new mbp settings) es) (s : Strategy Book)
    (reached : run (next mbp) (Strategy.new mbp settings) es = some s) (e : Event Update) :
    ∀ effect ∈ sends mbp s e, WellFormed mbp settings es s effect := by
  obtain ⟨flags, quoted, ready, works⟩ := kept_run lawful last reached
  intro effect sent
  cases e with
  | ready | orderAck => exact (List.not_mem_nil sent).elim
  | message source message =>
      unfold sends at sent
      split at sent
      · exact (List.not_mem_nil sent).elim
      · rename_i t effects handled
        rw [(message_step handled).1] at sent
        exact (List.not_mem_nil sent).elim
  | timer now connected =>
      have outcome : sends mbp s (.timer now connected) = (s.onTimer now connected).2 := rfl
      rw [outcome] at sent
      have timed := onTimer_timed s now connected
      generalize (s.onTimer now connected).1 = t at timed
      generalize (s.onTimer now connected).2 = effects at timed sent
      cases timed with
      | quiet | blocked => exact (List.not_mem_nil sent).elim
      | cancelled _ _ trading working_now =>
          rw [List.mem_singleton.mp sent]
          exact ⟨trading, congrArg Settings.account flags, works.names working_now⟩
      | @created _ _ side price trading up full free allowed priced =>
          rw [List.mem_singleton.mp sent]
          obtain ⟨connected, isOpen, minTradeVol⟩ := ready up
          have first : s.instrument.depth.first ∈ s.instrument.depth.layers :=
            List.mem_cons_self
          obtain ⟨bid, ask⟩ := quoted _ first
          simp only [Model.validate, Depth.layers, List.foldl_cons, List.foldl_nil,
            Bool.and_eq_true, Bool.true_and] at full
          obtain ⟨⟨⟨⟨⟨bid_quantity, ask_quantity⟩, _⟩, _⟩, _⟩, _⟩ := full
          refine ⟨trading, fun ends => works.free ends free, connected, isOpen,
            congrArg Settings.account flags, congrArg Settings.exchange flags,
            congrArg Settings.symbol flags, rfl, minTradeVol, ?_, ?_⟩
          · rcases priced with ⟨_, same⟩ | ⟨_, same⟩
            · change price ≠ .nan
              rw [same]
              exact bid (Utils.isGreater_zero.mp bid_quantity)
            · change price ≠ .nan
              rw [same]
              exact ask (Utils.isGreater_zero.mp ask_quantity)
          · rcases priced with ⟨rfl, same⟩ | ⟨rfl, same⟩
            · exact .inl ⟨rfl, same, Instrument.canTrade_buy allowed⟩
            · exact .inr ⟨rfl, same, Instrument.canTrade_sell allowed⟩

/-- An order id that is taken is above all that are known, and is known from then on. -/
private theorem orderIds_step {s t : Strategy Book} {e : Event Update} (last : IdsLast s e)
    (taken : next mbp s e = some t) :
    s.maxOrderId ≤ t.maxOrderId ∧ (∀ id ∈ orderIds mbp s e, id.1 ≤ t.maxOrderId) ∧
      ∀ id ∈ orderIds mbp s e, id.2 = true → s.maxOrderId < id.1 := by
  have handled := next_eq_some taken
  have new_id : uint64 (s.maxOrderId + 1) = s.maxOrderId + 1 := Nat.mod_eq_of_lt last
  cases e with
  | ready | orderAck =>
      cases Except.ok.inj handled
      exact ⟨le_refl _, fun _ mem => (List.not_mem_nil mem).elim,
        fun _ mem => (List.not_mem_nil mem).elim⟩
  | timer now connected =>
      have outcome : s.onTimer now connected = (t, sends mbp s (.timer now connected)) :=
        Except.ok.inj handled
      have timed := onTimer_timed s now connected
      rw [outcome] at timed
      have ids : orderIds mbp s (.timer now connected) =
          ((sends mbp s (.timer now connected)).filterMap createdBy).map
            fun createOrder => (createOrder.orderId, true) := rfl
      generalize sends mbp s (.timer now connected) = effects at timed ids
      rw [ids]
      cases timed with
      | quiet | cancelled =>
          exact ⟨le_refl _, fun _ mem => (List.not_mem_nil mem).elim,
            fun _ mem => (List.not_mem_nil mem).elim⟩
      | blocked =>
          refine ⟨?_, fun _ mem => (List.not_mem_nil mem).elim,
            fun _ mem => (List.not_mem_nil mem).elim⟩
          change s.maxOrderId ≤ uint64 (s.maxOrderId + 1)
          omega
      | created =>
          refine ⟨?_, ?_, ?_⟩
          · change s.maxOrderId ≤ uint64 (s.maxOrderId + 1)
            omega
          · intro id mem
            rw [List.mem_singleton.mp mem]
            exact le_refl _
          · intro id mem _
            rw [List.mem_singleton.mp mem]
            change s.maxOrderId < uint64 (s.maxOrderId + 1)
            omega
  | message source message =>
      obtain ⟨silent, instrument, _, rfl⟩ := message_step handled
      cases message with
      | downloadEnd account maxOrderId =>
          refine ⟨Nat.le_max_left _ _, ?_, ?_⟩
          · intro id mem
            rw [List.mem_singleton.mp mem]
            exact Nat.le_max_right _ _
          · intro id mem created
            rw [List.mem_singleton.mp mem] at created
            cases created
      | orderUpdate orderUpdate =>
          simp only [orderIds, silent]
          refine ⟨?_, fun _ mem => (List.not_mem_nil mem).elim,
            fun _ mem => (List.not_mem_nil mem).elim⟩
          unfold Strategy.react
          dsimp only
          split
          · exact le_refl _
          · exact le_refl _
      | connected | disconnected | downloadBegin | gatewayStatus | referenceData | marketStatus
      | marketByPriceUpdate | positionUpdate =>
          simp only [orderIds, silent]
          exact ⟨le_refl _, fun _ mem => (List.not_mem_nil mem).elim,
            fun _ mem => (List.not_mem_nil mem).elim⟩

private theorem orderIds_single {s t : Strategy Book} {e : Event Update}
    (taken : next mbp s e = some t) : (orderIds mbp s e).length ≤ 1 := by
  have handled := next_eq_some taken
  cases e with
  | ready | orderAck => exact Nat.zero_le 1
  | timer now connected =>
      have sent : sends mbp s (.timer now connected) = (s.onTimer now connected).2 := rfl
      have timed := onTimer_timed s now connected
      simp only [orderIds, sent, List.length_map]
      generalize (s.onTimer now connected).1 = t at timed
      generalize (s.onTimer now connected).2 = effects at timed ⊢
      cases timed with
      | quiet | blocked | cancelled => exact Nat.zero_le 1
      | created => exact le_refl 1
  | message source message =>
      obtain ⟨silent, _⟩ := message_step handled
      cases message with
      | downloadEnd => exact le_refl 1
      | connected | disconnected | downloadBegin | gatewayStatus | referenceData | marketStatus
      | marketByPriceUpdate | positionUpdate | orderUpdate =>
          simp only [orderIds, silent]
          exact Nat.zero_le 1

/-- For every run, also when a send throws after its order id has been taken: the order id of a
CreateOrder is above all that were sent before, and above all that a download has told. -/
theorem order_ids_never_recur (settings : Settings) (es : List (Event Update))
    (last : AllSteps (next mbp) IdsLast (Strategy.new mbp settings) es) (s : Strategy Book)
    (reached : run (next mbp) (Strategy.new mbp settings) es = some s) :
    (trace (next mbp) (orderIds mbp) (Strategy.new mbp settings) es).Pairwise fun earlier later =>
      later.2 = true → earlier.1 < later.1 := by
  let Known (es : List (Event Update)) (s : Strategy Book) : Prop :=
    let ids := trace (next mbp) (orderIds mbp) (Strategy.new mbp settings) es
    (∀ id ∈ ids, id.1 ≤ s.maxOrderId) ∧
      ids.Pairwise fun earlier later => later.2 = true → earlier.1 < later.1
  have known : Known es s := by
    refine run_history (I := fun es s =>
      AllSteps (next mbp) IdsLast (Strategy.new mbp settings) es → Known es s)
      (fun _ => ⟨fun _ mem => (List.not_mem_nil mem).elim, .nil⟩) ?_ reached last
    intro es e m t before known taken steps
    obtain ⟨earlier, now⟩ := allSteps_append.mp steps
    obtain ⟨bounded, ordered⟩ := known earlier
    obtain ⟨grows, below, above⟩ :=
      orderIds_step ((allSteps_cons taken []).mp (now m before)).1 taken
    have more : trace (next mbp) (orderIds mbp) (Strategy.new mbp settings) (es ++ [e]) =
        trace (next mbp) (orderIds mbp) (Strategy.new mbp settings) es ++ orderIds mbp m e := by
      rw [trace_append before, trace_singleton taken]
    refine ⟨?_, ?_⟩
    · intro id mem
      rw [more] at mem
      rcases List.mem_append.mp mem with old | new
      · exact (bounded id old).trans grows
      · exact below id new
    · rw [more]
      refine List.pairwise_append.mpr ⟨ordered, pairwise_of_length_le (orderIds_single taken), ?_⟩
      intro id old id' new created
      exact Nat.lt_of_le_of_lt (bounded id old) (above id' new created)
  exact known.2

end Requests

section Examples

open scoped RoqSamples.Client.Documented

open RoqSamples.Example3.Strategy (halfWeights recovery)
open RoqSamples.Example3.WorkingOrder.Session (canceled opening)

/-- A level without a price has no quantity. -/
def tidyLayer (layer : Layer) : Layer :=
  { layer with
    bidQuantity := if layer.bidPrice.isNaN then 0 else layer.bidQuantity
    askQuantity := if layer.askPrice.isNaN then 0 else layer.askQuantity }

/-- A book that gets a snapshot with every update. -/
def tidySnapshots : MarketByPrice Depth Depth where
  empty := {}
  apply := fun _ depth => depth
  extract := fun depth =>
    { first := tidyLayer depth.first
      second := tidyLayer depth.second
      third := tidyLayer depth.third }
  clear := fun _ => {}

private theorem tidyLayer_quoted (layer : Layer) :
    (Double.lt 0 (tidyLayer layer).bidQuantity = true → (tidyLayer layer).bidPrice ≠ .nan) ∧
      (Double.lt 0 (tidyLayer layer).askQuantity = true → (tidyLayer layer).askPrice ≠ .nan) := by
  refine ⟨fun positive missing => ?_, fun positive missing => ?_⟩
  · have price : layer.bidPrice = .nan := missing
    simp [tidyLayer, price, Double.lt] at positive
  · have price : layer.askPrice = .nan := missing
    simp [tidyLayer, price, Double.lt] at positive

private theorem tidySnapshots_quoted (book : Depth) : Quoted (tidySnapshots.extract book) := by
  intro layer mem
  simp only [tidySnapshots, Depth.layers, List.mem_cons, List.not_mem_nil, or_false] at mem
  rcases mem with rfl | rfl | rfl
  · exact tidyLayer_quoted _
  · exact tidyLayer_quoted _
  · exact tidyLayer_quoted _

/-- The second signal comes after the end of the order of the first one. -/
private def signals : List (Event Depth) :=
  opening ++ recovery 3 ++ [canceled 1] ++ (recovery 5).dropLast

/-- Both signals are to buy, at a best bid of 100. -/
theorem requests_are_well_formed_when_signalled : ∃ s createOrder,
    run (next tidySnapshots) (Strategy.new tidySnapshots halfWeights) signals = some s ∧
      sends tidySnapshots s (.timer 6000000000 true) = [.createOrder createOrder] ∧
      createOrder.orderId = 2 ∧ createOrder.price = 100 ∧
      AllSteps (next tidySnapshots) EndsWorking (Strategy.new tidySnapshots halfWeights) signals ∧
      WellFormed tidySnapshots halfWeights signals s (.createOrder createOrder) := by
  obtain ⟨s, reached, sent⟩ : ∃ s, run (next tidySnapshots)
      (Strategy.new tidySnapshots halfWeights) signals = some s ∧
        sends tidySnapshots s (.timer 6000000000 true) =
          [.createOrder (s.createOrderRequest 2 .buy 100)] := reaches_of_any (by decide +kernel)
  refine ⟨s, _, reached, sent, rfl, rfl, by decide +kernel, ?_⟩
  refine requests_are_well_formed tidySnapshots_quoted halfWeights _ (by decide +kernel) s reached
    (.timer 6000000000 true) _ ?_
  rw [sent]
  exact List.mem_singleton_self _

theorem order_ids_never_recur_when_signalled : ∃ s,
    run (next tidySnapshots) (Strategy.new tidySnapshots halfWeights)
        (.message 0 (.downloadEnd "A1" 7) :: opening ++ recovery 3) = some s ∧
      trace (next tidySnapshots) (orderIds tidySnapshots)
          (Strategy.new tidySnapshots halfWeights)
          (.message 0 (.downloadEnd "A1" 7) :: opening ++ recovery 3) = [(7, false), (8, true)] ∧
      (trace (next tidySnapshots) (orderIds tidySnapshots)
          (Strategy.new tidySnapshots halfWeights)
          (.message 0 (.downloadEnd "A1" 7) :: opening ++ recovery 3)).Pairwise
        fun earlier later => later.2 = true → earlier.1 < later.1 := by
  obtain ⟨s, reached⟩ := Option.isSome_iff_exists.mp
    (show (run (next tidySnapshots) (Strategy.new tidySnapshots halfWeights)
      (.message 0 (.downloadEnd "A1" 7) :: opening ++ recovery 3)).isSome = true by
        decide +kernel)
  exact ⟨s, reached, by decide +kernel,
    order_ids_never_recur halfWeights _ (by decide +kernel) s reached⟩

end Examples

end RoqSamples.Example3.OrderRequests
