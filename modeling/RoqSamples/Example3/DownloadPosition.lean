/- Example3/DownloadPosition
   digest: The position of the instrument is that of the exchange after any number of downloads, as
     long as no download counts the trades of an order twice. -/
import RoqSamples.Execution.Runs
import RoqSamples.Example3.Instrument

set_option autoImplicit false
set_option relaxedAutoImplicit false

namespace RoqSamples.Example3.DownloadPosition

open RoqSamples.Arith (Double)
open RoqSamples.Client
open RoqSamples.Execution.Runs

/-- An order at the exchange. -/
structure Working where
  orderId : Nat
  side : Side
  traded : ℚ
  deriving DecidableEq

/-- What the client is told. A download notes whether the position and the order have been
delivered. -/
inductive Phase
  | disconnected | connected | downloading (position order : Bool) | live
  deriving DecidableEq

/-- Changes go unreported while there is no connection, and until a download has delivered
something. -/
def Phase.isSilent : Phase → Bool
  | .disconnected | .connected => true
  | .downloading position order => !position && !order
  | .live => false

/-- The net position of the account, the only order that works, and all order ids so far. -/
structure Exchange where
  phase : Phase := .disconnected
  net : ℚ
  working : Option Working
  orderIds : List Nat

/-- What happens at the exchange without a message: an order begins to work, it trades, it ends. -/
inductive Change
  | begin (orderId : Nat) (side : Side)
  | trade (quantity : ℚ)
  | finish
  deriving DecidableEq

namespace Working

def IsReportedBy (order : Working) (orderUpdate : OrderUpdate) : Prop :=
  orderUpdate.orderId = order.orderId ∧ orderUpdate.side = order.side ∧
    orderUpdate.tradedQuantity = .num order.traded

instance (order : Working) (orderUpdate : OrderUpdate) :
    Decidable (order.IsReportedBy orderUpdate) :=
  inferInstanceAs (Decidable (_ ∧ _ ∧ _))

def trade (order : Working) (quantity : ℚ) : Working :=
  { order with traded := order.traded + quantity }

end Working

namespace Exchange

/-- An account with any position, and maybe with an order from an earlier session. -/
def account (net : ℚ) (working : Option Working) (orderIds : List Nat) : Exchange where
  net := net
  working := working
  orderIds := (working.map (·.orderId)).toList ++ orderIds

/-- The working order trades, and ends if it is complete. -/
def trade (exchange : Exchange) (order : Working) (quantity : ℚ) (complete : Bool) : Exchange :=
  { exchange with
    net := exchange.net + order.side.sign * quantity
    working := if complete then none else some (order.trade quantity) }

/-- At most one order works at a time, and order ids are not used again. -/
def change (exchange : Exchange) : Change → Option Exchange
  | .begin orderId side =>
      if (exchange.phase.isSilent ∨ exchange.phase = .live) ∧ exchange.working = none ∧
          orderId ∉ exchange.orderIds ∧ side ≠ .undefined then
        some
          { exchange with
            working := some { orderId := orderId, side := side, traded := 0 }
            orderIds := orderId :: exchange.orderIds }
      else none
  | .trade quantity =>
      if exchange.phase.isSilent ∧ 0 ≤ quantity then
        exchange.working.map fun order => exchange.trade order quantity false
      else none
  | .finish => if exchange.phase.isSilent then some { exchange with working := none } else none

/-- While live, every change of the working order comes with its update: the traded quantity is
cumulative and does not decrease. -/
def report [Utils] (exchange : Exchange) (order : Working) (orderUpdate : OrderUpdate) :
    Option Exchange :=
  let quantity := orderUpdate.tradedQuantity.orZero - order.traded
  if 0 ≤ quantity ∧ (order.trade quantity).IsReportedBy orderUpdate then
    some (exchange.trade order quantity (Utils.isOrderComplete orderUpdate.orderStatus))
  else none

variable {Update : Type}

/-- The message that the gateway delivers next. A download has one PositionUpdate and an
OrderUpdate if an order works, in any order; the exchange then stands still until the download
ends. -/
def deliver [Utils] (exchange : Exchange) : Message Update → Option Exchange
  | .connected =>
      if exchange.phase = .disconnected then some { exchange with phase := .connected } else none
  | .disconnected =>
      if exchange.phase = .disconnected then none else some { exchange with phase := .disconnected }
  | .downloadBegin account =>
      if account ≠ "" then some exchange
      else if exchange.phase = .connected ∨ exchange.phase = .live then
        some { exchange with phase := .downloading false false }
      else none
  | .downloadEnd account _ =>
      if account ≠ "" then some exchange
      else
        match exchange.phase with
        | .downloading true order =>
            if exchange.working = none ∨ order then some { exchange with phase := .live } else none
        | _ => none
  | .positionUpdate _ longQuantity shortQuantity =>
      match exchange.phase with
      | .downloading false order =>
          if longQuantity.orZero - shortQuantity.orZero = exchange.net then
            some { exchange with phase := .downloading true order }
          else none
      | .downloading true _ => none
      | .disconnected | .connected | .live => some exchange
  | .orderUpdate orderUpdate =>
      match exchange.phase, exchange.working with
      | .downloading position false, some order =>
          if order.IsReportedBy orderUpdate ∧
              Utils.isOrderComplete orderUpdate.orderStatus = false then
            some { exchange with phase := .downloading position true }
          else none
      | .live, some order => exchange.report order orderUpdate
      | _, _ => none
  | .gatewayStatus _ _ _ | .referenceData _ _ _ _ _ | .marketStatus _ _ _
  | .marketByPriceUpdate _ _ _ => some exchange

end Exchange

inductive Event (Update : Type)
  | change (change : Change)
  | message (message : Message Update)
  deriving DecidableEq

structure System (Book : Type) where
  instrument : Instrument Book
  exchange : Exchange

namespace System

variable {Book Update : Type} (mbp : MarketByPrice Book Update)

def next [Utils] (s : System Book) : Event Update → Option (System Book)
  | .change change => (s.exchange.change change).map fun exchange => { s with exchange := exchange }
  | .message message =>
      match s.exchange.deliver message, s.instrument.handle mbp message with
      | some exchange, .ok instrument => some { instrument := instrument, exchange := exchange }
      | _, _ => none

/-- After a download, and after every update that follows, the position is that of the account. -/
def AtNet (s : System Book) : Prop :=
  s.exchange.phase = .live → s.instrument.position = .num s.exchange.net

/-- The update of a download tells nothing new once the position is known. Later, whatever is new
goes to a side whose quantity is a number. -/
def CountsOnce (s : System Book) : Event Update → Prop
  | .message (.orderUpdate orderUpdate) =>
      let nothingNew := orderUpdate.tradedQuantity = s.instrument.known orderUpdate.orderId
      match s.exchange.phase with
      | .downloading true _ => nothingNew
      | .live => nothingNew ∨ s.instrument.sideQuantity orderUpdate.side ≠ .nan
      | _ => True
  | _ => True

/-- The instrument knows what the order has traded. -/
def Knows (instrument : Instrument Book) (exchange : Exchange) : Prop :=
  ∀ order, exchange.working = some order →
    instrument.known order.orderId = .num order.traded

/-- What each phase has established. -/
def Agrees (instrument : Instrument Book) (exchange : Exchange) : Prop :=
  match exchange.phase with
  | .disconnected | .connected => instrument.download = false
  | .downloading position order =>
      instrument.download = true ∧ (position = true → instrument.netPosition = exchange.net) ∧
        (order = true → Knows instrument exchange)
  | .live =>
      instrument.download = false ∧ instrument.netPosition = exchange.net ∧
        Knows instrument exchange

structure Consistent (s : System Book) : Prop where
  connected : s.instrument.connected = decide (s.exchange.phase ≠ .disconnected)
  listed : ∀ order, s.exchange.working = some order → order.orderId ∈ s.exchange.orderIds
  fresh : ∀ orderId, orderId ∉ s.exchange.orderIds → s.instrument.known orderId = .num 0
  agrees : Agrees s.instrument s.exchange

instance (s : System Book) (e : Event Update) : Decidable (s.CountsOnce e) := by
  unfold CountsOnce
  split
  · dsimp only
    split <;> infer_instance
  · infer_instance

variable {mbp}

private theorem Knows.of_sameAccount {before after : Instrument Book} {exchange : Exchange}
    (same : before.SameAccount after) (knows : Knows before exchange) : Knows after exchange := by
  intro order working
  rw [same.known]
  exact knows order working

private theorem Agrees.of_sameAccount {before after : Instrument Book} {exchange : Exchange}
    (same : before.SameAccount after) (agrees : Agrees before exchange) :
    Agrees after exchange := by
  unfold Agrees at agrees ⊢
  cases phase : exchange.phase with
  | disconnected | connected =>
      rw [phase] at agrees
      exact same.download.trans agrees
  | downloading position order =>
      rw [phase] at agrees
      obtain ⟨download, net, knows⟩ := agrees
      exact ⟨same.download.trans download, fun known => same.netPosition.trans (net known),
        fun known => (knows known).of_sameAccount same⟩
  | live =>
      rw [phase] at agrees
      obtain ⟨download, net, knows⟩ := agrees
      exact ⟨same.download.trans download, same.netPosition.trans net, knows.of_sameAccount same⟩

private theorem Consistent.up {s : System Book} (consistent : s.Consistent)
    (up : s.exchange.phase ≠ .disconnected) : s.instrument.connected = true := by
  rw [consistent.connected]
  exact decide_eq_true up

private theorem Consistent.downloading {s : System Book} {position order : Bool}
    (consistent : s.Consistent) (phase : s.exchange.phase = .downloading position order) :
    s.instrument.download = true ∧
      (position = true → s.instrument.netPosition = s.exchange.net) ∧
        (order = true → Knows s.instrument s.exchange) := by
  have agrees := consistent.agrees
  rwa [Agrees, phase] at agrees

private theorem Consistent.live {s : System Book} (consistent : s.Consistent)
    (phase : s.exchange.phase = .live) :
    s.instrument.download = false ∧ s.instrument.netPosition = s.exchange.net ∧
      Knows s.instrument s.exchange := by
  have agrees := consistent.agrees
  rwa [Agrees, phase] at agrees

private theorem Consistent.of_sameAccount {s : System Book} {after : Instrument Book}
    (same : s.instrument.SameAccount after) (consistent : s.Consistent) :
    Consistent { s with instrument := after } where
  connected := same.connected.trans consistent.connected
  listed := consistent.listed
  fresh := fun orderId unused => (same.known orderId).trans (consistent.fresh orderId unused)
  agrees := consistent.agrees.of_sameAccount same

/-- While changes go unreported, nothing is established that they could break. -/
private theorem Agrees.of_silent {instrument : Instrument Book} {exchange after : Exchange}
    (silent : exchange.phase.isSilent = true) (phase : after.phase = exchange.phase)
    (agrees : Agrees instrument exchange) : Agrees instrument after := by
  unfold Agrees at agrees ⊢
  rw [phase]
  cases at_phase : exchange.phase with
  | disconnected | connected =>
      rw [at_phase] at agrees
      exact agrees
  | downloading position order =>
      rw [at_phase] at agrees silent
      obtain ⟨rfl, rfl⟩ : position = false ∧ order = false := by
        simpa [Phase.isSilent] using silent
      exact ⟨agrees.1, Bool.noConfusion, Bool.noConfusion⟩
  | live =>
      rw [at_phase] at silent
      cases silent

private theorem begin_consistent {s : System Book} {exchange : Exchange} {orderId : Nat}
    {side : Side} (consistent : s.Consistent)
    (changed : s.exchange.change (.begin orderId side) = some exchange) :
    Consistent { s with exchange := exchange } := by
  simp only [Exchange.change] at changed
  split at changed
  · rename_i possible
    obtain ⟨phase, none, unused, _⟩ := possible
    cases changed
    refine ⟨consistent.connected, ?_, ?_, ?_⟩
    · intro order working
      cases working
      exact List.mem_cons_self
    · intro other unlisted
      exact consistent.fresh other fun mem => unlisted (List.mem_cons_of_mem orderId mem)
    · rcases phase with silent | live
      · exact consistent.agrees.of_silent silent rfl
      · obtain ⟨download, net, _⟩ := consistent.live live
        rw [Agrees, live]
        refine ⟨download, net, ?_⟩
        intro order working
        cases working
        exact consistent.fresh orderId unused
  · cases changed

private theorem change_consistent {s : System Book} {exchange : Exchange} {change : Change}
    (consistent : s.Consistent) (changed : s.exchange.change change = some exchange) :
    Consistent { s with exchange := exchange } := by
  cases change with
  | begin orderId side => exact begin_consistent consistent changed
  | trade quantity =>
      simp only [Exchange.change] at changed
      split at changed
      · rename_i possible
        obtain ⟨order, working, rfl⟩ := Option.map_eq_some_iff.mp changed
        refine ⟨consistent.connected, ?_, consistent.fresh,
          consistent.agrees.of_silent possible.1 rfl⟩
        intro traded still
        obtain rfl := Option.some.inj still
        exact consistent.listed order working
      · cases changed
  | finish =>
      simp only [Exchange.change] at changed
      split at changed
      · rename_i silent
        cases changed
        refine ⟨consistent.connected, ?_, consistent.fresh, consistent.agrees.of_silent silent rfl⟩
        intro order working
        cases working
      · cases changed

private theorem connection_consistent [Utils] {s : System Book} {exchange : Exchange}
    (consistent : s.Consistent)
    (delivered : s.exchange.deliver (.connected : Message Update) = some exchange) :
    Consistent { instrument := s.instrument.onConnected, exchange := exchange } := by
  simp only [Exchange.deliver] at delivered
  split at delivered
  · rename_i disconnected
    cases delivered
    have connected : s.instrument.connected = false := by
      simpa [disconnected] using consistent.connected
    have handled : s.instrument.onConnected = { s.instrument with connected := true }.checkReady :=
      by simp [Instrument.onConnected, connected]
    have download : s.instrument.download = false := by
      simpa only [Agrees, disconnected] using consistent.agrees
    rw [handled]
    exact ⟨rfl, consistent.listed, consistent.fresh, download⟩
  · cases delivered

/-- The state of the connection is reset. -/
private theorem disconnection_consistent [Utils] {s : System Book} {exchange : Exchange}
    (consistent : s.Consistent)
    (delivered : s.exchange.deliver (.disconnected : Message Update) = some exchange) :
    Consistent { instrument := s.instrument.onDisconnected mbp, exchange := exchange } := by
  simp only [Exchange.deliver] at delivered
  split at delivered
  · cases delivered
  · rename_i up
    cases delivered
    have connected := consistent.up up
    have handled : s.instrument.onDisconnected mbp =
        { s.instrument with connected := false }.reset mbp := by
      simp [Instrument.onDisconnected, connected]
    rw [handled]
    exact ⟨rfl, consistent.listed, fun _ _ => ite_self _, rfl⟩

private theorem downloadBegin_consistent [Utils] {s : System Book} {exchange : Exchange}
    (consistent : s.Consistent)
    (delivered : s.exchange.deliver (.downloadBegin "" : Message Update) =
      some exchange) :
    Consistent { instrument := s.instrument.onDownloadBegin "", exchange := exchange } := by
  simp only [Exchange.deliver, ne_eq, not_true_eq_false, if_false] at delivered
  split at delivered
  · rename_i phase
    cases delivered
    have up : s.exchange.phase ≠ .disconnected := by
      rcases phase with phase | phase <;> rw [phase] <;> exact Phase.noConfusion
    exact ⟨consistent.up up, consistent.listed, consistent.fresh, rfl, Bool.noConfusion,
      Bool.noConfusion⟩
  · cases delivered

private theorem downloadEnd_consistent [Utils] {s : System Book} {exchange : Exchange}
    {maxOrderId : Nat} (consistent : s.Consistent)
    (delivered : s.exchange.deliver (.downloadEnd "" maxOrderId : Message Update) =
      some exchange) :
    Consistent { instrument := s.instrument.onDownloadEnd "", exchange := exchange } := by
  simp only [Exchange.deliver, ne_eq, not_true_eq_false, if_false] at delivered
  split at delivered
  · rename_i order phase
    split at delivered
    · rename_i complete
      cases delivered
      obtain ⟨_, net, knows⟩ := consistent.downloading phase
      have connected := consistent.up (by rw [phase]; exact Phase.noConfusion)
      refine ⟨connected, consistent.listed, consistent.fresh, rfl, net rfl, ?_⟩
      intro working still
      rcases complete with none | told
      · cases none.symm.trans still
      · exact knows told working still
    · cases delivered
  · cases delivered

/-- A position is taken over while downloading, and ignored at any other time. -/
private theorem position_consistent [Utils] {s : System Book} {exchange : Exchange}
    {after : Instrument Book} {account : String} {longQuantity shortQuantity : Double}
    (consistent : s.Consistent)
    (delivered : s.exchange.deliver
      (.positionUpdate account longQuantity shortQuantity : Message Update) =
        some exchange)
    (handled : s.instrument.handle mbp (.positionUpdate account longQuantity shortQuantity) =
      .ok after) :
    Consistent { instrument := after, exchange := exchange } := by
  have ignored (late : s.instrument.download = false) (same : s.exchange = exchange) :
      Consistent { instrument := after, exchange := exchange } := by
    have spared : s.instrument.spares
        (.positionUpdate account longQuantity shortQuantity : Message Update) = true := by
      simpa [Instrument.spares] using late
    rw [← same]
    exact consistent.of_sameAccount (Instrument.handle_sameAccount spared handled)
  simp only [Exchange.deliver] at delivered
  cases phase : s.exchange.phase with
  | disconnected | connected =>
      simp only [phase, Option.some.injEq] at delivered
      have late : s.instrument.download = false := by
        have agrees := consistent.agrees
        rwa [Agrees, phase] at agrees
      exact ignored late delivered
  | live =>
      simp only [phase, Option.some.injEq] at delivered
      exact ignored (consistent.live phase).1 delivered
  | downloading position order =>
      obtain ⟨download, _, knows⟩ := consistent.downloading phase
      cases position with
      | true => simp only [phase, reduceCtorEq] at delivered
      | false =>
          simp only [phase] at delivered
          split at delivered
          · rename_i net
            cases delivered
            simp only [Instrument.handle, Instrument.onPositionUpdate, download, if_true] at handled
            cases handled
            have connected := consistent.up (by rw [phase]; exact Phase.noConfusion)
            exact ⟨connected, consistent.listed, consistent.fresh, rfl, fun _ => net, knows⟩
          · cases delivered

/-- An update of the working order makes its traded quantity known. -/
private theorem known_update {s : System Book} {order : Working} {orderUpdate : OrderUpdate}
    (consistent : s.Consistent) (working : s.exchange.working = some order)
    (same : orderUpdate.orderId = order.orderId) {orderId : Nat}
    (unused : orderId ∉ s.exchange.orderIds) :
    (s.instrument.onOrderUpdate orderUpdate).known orderId = .num 0 := by
  have other : (s.instrument.onOrderUpdate orderUpdate).lastOrderId ≠ orderId := by
    rw [Instrument.onOrderUpdate_lastOrderId, same]
    rintro rfl
    exact unused (consistent.listed order working)
  rw [Instrument.known, if_pos other]
  rfl

private theorem downloaded_consistent {s : System Book} {order : Working}
    {orderUpdate : OrderUpdate} {position : Bool} (consistent : s.Consistent)
    (phase : s.exchange.phase = .downloading position false)
    (working : s.exchange.working = some order) (reported : order.IsReportedBy orderUpdate)
    (counts : position = true →
      orderUpdate.tradedQuantity = s.instrument.known orderUpdate.orderId) :
    Consistent
      { instrument := s.instrument.onOrderUpdate orderUpdate
        exchange := { s.exchange with phase := .downloading position true } } := by
  obtain ⟨same, _, traded⟩ := reported
  have connected := consistent.connected
  rw [phase] at connected
  obtain ⟨download, net, _⟩ := consistent.downloading phase
  refine ⟨(Instrument.onOrderUpdate_connected _ _).trans connected, consistent.listed,
    fun orderId unused => known_update consistent working same unused, by simpa using download,
    fun known => ?_, fun _ => ?_⟩
  · have nothing_new := (counts known).symm.trans traded
    rw [Instrument.onOrderUpdate_netPosition traded nothing_new (.inl rfl), sub_self, mul_zero,
      add_zero]
    exact net known
  · intro other still
    obtain rfl := Option.some.inj (working.symm.trans still)
    rw [← same, Instrument.onOrderUpdate_known, traded]

private theorem traded_working {exchange : Exchange} {order after : Working} {quantity : ℚ}
    {complete : Bool} (still : (exchange.trade order quantity complete).working = some after) :
    after = order.trade quantity := by
  simp only [Exchange.trade] at still
  split at still
  · cases still
  · exact (Option.some.inj still).symm

private theorem traded_consistent [Utils] {s : System Book} {order : Working}
    {orderUpdate : OrderUpdate}
    {quantity : ℚ} (consistent : s.Consistent) (phase : s.exchange.phase = .live)
    (working : s.exchange.working = some order)
    (reported : (order.trade quantity).IsReportedBy orderUpdate)
    (counts : orderUpdate.tradedQuantity = s.instrument.known orderUpdate.orderId ∨
      s.instrument.sideQuantity orderUpdate.side ≠ .nan) :
    Consistent
      { instrument := s.instrument.onOrderUpdate orderUpdate
        exchange :=
          s.exchange.trade order quantity (Utils.isOrderComplete orderUpdate.orderStatus) } := by
  obtain ⟨same, side, traded⟩ := reported
  have connected := consistent.connected
  obtain ⟨download, net, knows⟩ := consistent.live phase
  have before : s.instrument.known orderUpdate.orderId = .num order.traded := by
    rw [same]
    exact knows order working
  have counted : order.traded + quantity = order.traded ∨
      s.instrument.sideQuantity orderUpdate.side ≠ .nan := by
    refine counts.imp_left fun nothing_new => ?_
    exact Double.num.inj (traded.symm.trans (nothing_new.trans before))
  refine ⟨(Instrument.onOrderUpdate_connected _ _).trans connected, ?_,
    fun orderId unused => known_update consistent working same unused, ?_⟩
  · intro after still
    obtain rfl := traded_working still
    exact consistent.listed order working
  · have live : (s.exchange.trade order quantity
        (Utils.isOrderComplete orderUpdate.orderStatus)).phase = .live := phase
    rw [Agrees, live]
    refine ⟨(Instrument.onOrderUpdate_download _ _).trans download, ?_, ?_⟩
    · rw [Instrument.onOrderUpdate_netPosition traded before counted, net, side]
      simp only [Exchange.trade, Working.trade, add_sub_cancel_left]
    · intro after still
      obtain rfl := traded_working still
      have known := Instrument.onOrderUpdate_known s.instrument orderUpdate
      rw [traded, same] at known
      exact known

private theorem message_consistent [Utils] {s : System Book} {exchange : Exchange}
    {after : Instrument Book} {message : Message Update} (consistent : s.Consistent)
    (counts : s.CountsOnce (.message message))
    (delivered : s.exchange.deliver message = some exchange)
    (handled : s.instrument.handle mbp message = .ok after) :
    Consistent { instrument := after, exchange := exchange } := by
  have spared (spares : s.instrument.spares message = true) (same : s.exchange = exchange) :
      Consistent { instrument := after, exchange := exchange } :=
    same ▸ consistent.of_sameAccount (Instrument.handle_sameAccount spares handled)
  cases message with
  | connected =>
      cases handled
      exact connection_consistent consistent delivered
  | disconnected =>
      cases handled
      exact disconnection_consistent consistent delivered
  | downloadBegin account =>
      by_cases own : account = ""
      · subst own
        cases handled
        exact downloadBegin_consistent consistent delivered
      · simp only [Exchange.deliver, ne_eq, own, not_false_eq_true, if_true,
          Option.some.injEq] at delivered
        exact spared (decide_eq_true own) delivered
  | downloadEnd account maxOrderId =>
      by_cases own : account = ""
      · subst own
        cases handled
        exact downloadEnd_consistent consistent delivered
      · simp only [Exchange.deliver, ne_eq, own, not_false_eq_true, if_true,
          Option.some.injEq] at delivered
        exact spared (decide_eq_true own) delivered
  | gatewayStatus _ _ _ | referenceData _ _ _ _ _ | marketStatus _ _ _
  | marketByPriceUpdate _ _ _ => exact spared rfl (Option.some.inj delivered)
  | positionUpdate account longQuantity shortQuantity =>
      exact position_consistent consistent delivered handled
  | orderUpdate orderUpdate =>
      cases handled
      simp only [Exchange.deliver] at delivered
      split at delivered
      · rename_i position order phase working
        split at delivered
        · rename_i reported
          cases delivered
          refine downloaded_consistent consistent phase working reported.1 fun known => ?_
          subst known
          simpa only [CountsOnce, phase] using counts
        · cases delivered
      · rename_i order phase working
        simp only [Exchange.report] at delivered
        split at delivered
        · rename_i reported
          cases delivered
          refine traded_consistent consistent phase working reported.2 ?_
          simpa only [CountsOnce, phase] using counts
        · cases delivered
      · cases delivered

private theorem consistent_step [Utils] {s t : System Book} {e : Event Update}
    (consistent : s.Consistent)
    (counts : s.CountsOnce e) (taken : s.next mbp e = some t) : t.Consistent := by
  cases e with
  | change change =>
      obtain ⟨exchange, changed, rfl⟩ := Option.map_eq_some_iff.mp taken
      exact change_consistent consistent changed
  | message message =>
      simp only [next] at taken
      split at taken
      · rename_i exchange instrument delivered handled
        cases taken
        exact message_consistent consistent counts delivered handled
      · cases taken

private theorem Consistent.atNet {s : System Book} (consistent : s.Consistent) : s.AtNet := by
  intro live
  obtain ⟨_, net, _⟩ := consistent.live live
  rw [Instrument.position_eq, net]

def start (mbp : MarketByPrice Book Update) (settings : Settings) (net : ℚ)
    (working : Option Working) (orderIds : List Nat) : System Book where
  instrument := Instrument.new mbp settings
  exchange := Exchange.account net working orderIds

private theorem start_consistent (settings : Settings) (net : ℚ) (working : Option Working)
    (orderIds : List Nat) : (start mbp settings net working orderIds).Consistent := by
  refine ⟨rfl, ?_, fun _ _ => ite_self _, rfl⟩
  rintro order rfl
  exact List.mem_cons_self

/-- For every account, every number of disconnects, reconnects and downloads, and every order of
delivery within a download: while trades are counted once, the position is the net position of the
exchange after every download and every later update. -/
theorem position_is_net [Utils] (mbp : MarketByPrice Book Update) (settings : Settings) (net : ℚ)
    (working : Option Working) (orderIds : List Nat) (es : List (Event Update))
    (counts : AllSteps (next mbp) CountsOnce (start mbp settings net working orderIds) es) :
    AllStates (next mbp) AtNet (start mbp settings net working orderIds) es := by
  have consistent : AllStates (next mbp) Consistent (start mbp settings net working orderIds) es :=
    counts.invariant (fun _ _ _ => consistent_step)
      (start_consistent settings net working orderIds)
  exact consistent.mono fun _ => Consistent.atNet

section Examples

open scoped RoqSamples.Client.Documented

def reported (updateType : UpdateType) (traded : ℚ) : Event Depth :=
  .message (.orderUpdate ⟨1, .buy, updateType, .working, 5, .num traded, 100⟩)

def position (quantity : ℚ) : Event Depth := .message (.positionUpdate "A1" (.num quantity) 0)

def download (messages : List (Event Depth)) : List (Event Depth) :=
  [.message .connected, .message (.downloadBegin "")] ++ messages ++
    [.message (.downloadEnd "" 1)]

/-- Order 1 trades 2 of 5, and another 1 while the client is disconnected. The second download
delivers `messages`. -/
def reconnection (messages : List (Event Depth)) : List (Event Depth) :=
  download [position 0] ++ [.change (.begin 1 .buy), reported .incremental 2,
    .message .disconnected, .change (.trade 1)] ++ download messages

/-- When the order is downloaded before the position, the position is 3, and 4 after one more
trade. -/
theorem position_is_net_when_order_first :
    AllStates (next snapshots) AtNet (start snapshots {} 0 none [])
      (reconnection [reported .snapshot 3, position 3] ++ [reported .incremental 4]) :=
  position_is_net snapshots {} 0 none [] _ (by decide +kernel)

/-- When the order is downloaded after the position, its trades are counted twice. -/
theorem order_after_position_counts_twice :
    (∃ t, run (next snapshots) (start snapshots {} 0 none [])
        (reconnection [position 3, reported .snapshot 3]) = some t ∧
        t.exchange.phase = .live ∧ t.exchange.net = 3 ∧ t.instrument.position = .num 6) ∧
      ¬ AllStates (next snapshots) AtNet (start snapshots {} 0 none [])
        (reconnection [position 3, reported .snapshot 3]) := by
  have reached : ∃ t, run (next snapshots) (start snapshots {} 0 none [])
      (reconnection [position 3, reported .snapshot 3]) = some t ∧
      t.exchange.phase = .live ∧ t.exchange.net = 3 ∧ t.instrument.position = .num 6 :=
    reaches_of_any (by decide +kernel)
  refine ⟨reached, fun states => ?_⟩
  obtain ⟨t, reached, live, net, position⟩ := reached
  have at_net := states.last reached live
  rw [position, net, Double.num.injEq] at at_net
  exact absurd at_net (by decide +kernel)

end Examples

end System

end RoqSamples.Example3.DownloadPosition
