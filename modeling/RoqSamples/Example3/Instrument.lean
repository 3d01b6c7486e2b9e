/- Example3/Instrument
   digest: The instrument of example-3: its readiness, its order book and its position. -/
import RoqSamples.Example3.Model
import Mathlib.Tactic.Ring

set_option autoImplicit false
set_option relaxedAutoImplicit false

namespace RoqSamples.Example3

open RoqSamples.Arith (Double)
open RoqSamples.Client

/-- The order book of the client library, which is not part of the samples. -/
structure MarketByPrice (Book Update : Type) where
  empty : Book
  apply : Book → Update → Book
  extract : Book → Depth
  clear : Book → Book

/-- A book that gets a snapshot with every update. -/
def snapshots : MarketByPrice Depth Depth where
  empty := {}
  apply := fun _ depth => depth
  extract := fun depth => depth
  clear := fun _ => {}

/-- The message types that the instrument requires; every other type keeps its code. -/
inductive SupportType
  | referenceData | marketStatus | marketByPrice
  | createOrder | cancelOrder | order | position
  | other (code : Nat)
  deriving DecidableEq

/-- What the instrument receives. -/
inductive Message (Update : Type)
  | connected
  | disconnected
  | downloadBegin (account : String)
  | downloadEnd (account : String) (maxOrderId : Nat)
  | gatewayStatus (account : String) (available unavailable : List SupportType)
  | referenceData (exchange symbol : String) (tickSize minTradeVol multiplier : Double)
  | marketStatus (exchange symbol : String) (tradingStatus : TradingStatus)
  | marketByPriceUpdate (exchange symbol : String) (update : Update)
  | orderUpdate (orderUpdate : OrderUpdate)
  | positionUpdate (account : String) (longQuantity shortQuantity : Double)
  deriving DecidableEq

/-- The reason to end in log::fatal. -/
inductive Fatal
  | probablySomethingWrong (exchange symbol : String) (depth : Depth)
  deriving DecidableEq

structure Instrument (Book : Type) where
  exchange : String
  symbol : String
  account : String
  allowPriceInversion : Bool
  connected : Bool := false
  download : Bool := false
  tickSize : Double := .nan
  minTradeVol : Double := .nan
  multiplier : Double := .nan
  tradingStatus : TradingStatus := .undefined
  marketData : Bool := false
  orderManagement : Bool := false
  depth : Depth := {}
  marketByPrice : Book
  longPosition : Double := 0
  shortPosition : Double := 0
  ready : Bool := false
  lastOrderId : Nat := 0
  lastTradedQuantity : Double := 0

namespace Instrument

variable {Book Update : Type} (mbp : MarketByPrice Book Update)

def new (settings : Settings) : Instrument Book where
  exchange := settings.exchange
  symbol := settings.symbol
  account := settings.account
  allowPriceInversion := settings.allowPriceInversion
  marketByPrice := mbp.empty

def bestBid (instrument : Instrument Book) : Double := instrument.depth.first.bidPrice

def bestAsk (instrument : Instrument Book) : Double := instrument.depth.first.askPrice

/-- A side without a position may be NaN, which counts as zero. -/
def position (instrument : Instrument Book) : Double :=
  (if instrument.longPosition.isNaN then 0 else instrument.longPosition) -
    (if instrument.shortPosition.isNaN then 0 else instrument.shortPosition)

section Handlers

variable [Utils]

/-- The other sides fail an assertion. -/
def canTrade (instrument : Instrument Book) : Side → Bool
  | .buy => Utils.isLessOrEqual instrument.position 0
  | .sell => Utils.isGreaterOrEqual instrument.position 0
  | .undefined => false

def checkReady (instrument : Instrument Book) : Instrument Book :=
  { instrument with
    ready := instrument.connected && !instrument.download &&
      Utils.isGreater instrument.tickSize 0 && Utils.isGreater instrument.minTradeVol 0 &&
      Utils.isGreater instrument.multiplier 0 &&
      decide (instrument.tradingStatus = .«open») && instrument.marketData &&
      instrument.orderManagement }

/-- The members that `reset` writes; the multiplier and the depth are not among them. -/
def reset (instrument : Instrument Book) : Instrument Book :=
  { instrument with
    connected := false
    download := false
    tickSize := .nan
    minTradeVol := .nan
    tradingStatus := .undefined
    marketData := false
    orderManagement := false
    marketByPrice := mbp.clear instrument.marketByPrice
    longPosition := 0
    shortPosition := 0
    ready := false
    lastOrderId := 0
    lastTradedQuantity := 0 }

def onConnected (instrument : Instrument Book) : Instrument Book :=
  if instrument.connected then instrument
  else { instrument with connected := true }.checkReady

def onDisconnected (instrument : Instrument Book) : Instrument Book :=
  if instrument.connected then { instrument with connected := false }.reset mbp else instrument

/-- Downloads of an account are ignored. -/
def onDownloadBegin (instrument : Instrument Book) (account : String) : Instrument Book :=
  if account = "" then { instrument with download := true } else instrument

def onDownloadEnd (instrument : Instrument Book) (account : String) : Instrument Book :=
  if account = "" then { instrument with download := false }.checkReady else instrument

/-- All required types are available and none of them is unavailable. -/
def supports (required available unavailable : List SupportType) : Bool :=
  required.all fun type => type ∈ available ∧ type ∉ unavailable

def onGatewayStatus (instrument : Instrument Book) (account : String)
    (available unavailable : List SupportType) : Instrument Book :=
  let instrument :=
    if account = "" then
      { instrument with
        marketData :=
          supports [.referenceData, .marketStatus, .marketByPrice] available unavailable }
    else if account = instrument.account then
      { instrument with
        orderManagement :=
          supports [.createOrder, .cancelOrder, .order, .position] available unavailable }
    else instrument
  instrument.checkReady

def onReferenceData (instrument : Instrument Book) (tickSize minTradeVol multiplier : Double) :
    Instrument Book :=
  { instrument with
    tickSize := tickSize
    minTradeVol := minTradeVol
    multiplier := multiplier }.checkReady

def onMarketStatus (instrument : Instrument Book) (tradingStatus : TradingStatus) :
    Instrument Book :=
  { instrument with tradingStatus := tradingStatus }.checkReady

/-- The best prices may be missing, but not cross. -/
def validate (instrument : Instrument Book) (depth : Depth) : Except Fatal Unit :=
  if Utils.isLessOrEqual depth.first.bidQuantity 0 ||
      Utils.isLessOrEqual depth.first.askQuantity 0 then .ok ()
  else
    let spread := depth.first.askPrice - depth.first.bidPrice
    if !instrument.allowPriceInversion && Utils.isLessOrEqual spread 0 then
      .error (.probablySomethingWrong instrument.exchange instrument.symbol depth)
    else .ok ()

def onMarketByPriceUpdate (instrument : Instrument Book) (update : Update) :
    Except Fatal (Instrument Book) :=
  let book := mbp.apply instrument.marketByPrice update
  let instrument := { instrument with marketByPrice := book, depth := mbp.extract book }
  (instrument.validate instrument.depth).map fun _ => instrument

/-- What the order had traded according to the last update of the same order. -/
def known (instrument : Instrument Book) (orderId : Nat) : Double :=
  if instrument.lastOrderId ≠ orderId then 0 else instrument.lastTradedQuantity

/-- The increment of the traded quantity goes to the side; an unknown side fails an assertion. -/
def onOrderUpdate (instrument : Instrument Book) (orderUpdate : OrderUpdate) : Instrument Book :=
  let quantity := orderUpdate.tradedQuantity - instrument.known orderUpdate.orderId
  let instrument :=
    { instrument with
      lastOrderId := orderUpdate.orderId
      lastTradedQuantity := orderUpdate.tradedQuantity }
  match orderUpdate.side with
  | .buy => { instrument with longPosition := instrument.longPosition + quantity }
  | .sell => { instrument with shortPosition := instrument.shortPosition + quantity }
  | .undefined => instrument

/-- Positions are taken over while downloading; later the own ones are more reliable. -/
def onPositionUpdate (instrument : Instrument Book) (longQuantity shortQuantity : Double) :
    Instrument Book :=
  if instrument.download then
    { instrument with longPosition := longQuantity, shortPosition := shortQuantity }
  else instrument

def handle (instrument : Instrument Book) : Message Update → Except Fatal (Instrument Book)
  | .connected => .ok instrument.onConnected
  | .disconnected => .ok (instrument.onDisconnected mbp)
  | .downloadBegin account => .ok (instrument.onDownloadBegin account)
  | .downloadEnd account _ => .ok (instrument.onDownloadEnd account)
  | .gatewayStatus account available unavailable =>
      .ok (instrument.onGatewayStatus account available unavailable)
  | .referenceData _ _ tickSize minTradeVol multiplier =>
      .ok (instrument.onReferenceData tickSize minTradeVol multiplier)
  | .marketStatus _ _ tradingStatus => .ok (instrument.onMarketStatus tradingStatus)
  | .marketByPriceUpdate _ _ update => instrument.onMarketByPriceUpdate mbp update
  | .orderUpdate orderUpdate => .ok (instrument.onOrderUpdate orderUpdate)
  | .positionUpdate _ longQuantity shortQuantity =>
      .ok (instrument.onPositionUpdate longQuantity shortQuantity)

end Handlers

/-- The assertions of the handlers, which a release build does not evaluate. -/
def asserts (instrument : Instrument Book) : Message Update → Bool
  | .downloadBegin account => account = "" → instrument.download = false
  | .downloadEnd account _ => account = "" → instrument.download = true
  | .referenceData exchange symbol _ _ _ =>
      instrument.exchange = exchange ∧ instrument.symbol = symbol
  | .marketStatus exchange symbol _ =>
      instrument.exchange = exchange ∧ instrument.symbol = symbol
  | .marketByPriceUpdate exchange symbol _ =>
      instrument.exchange = exchange ∧ instrument.symbol = symbol
  | .orderUpdate orderUpdate => orderUpdate.side ≠ .undefined
  | .positionUpdate account _ _ => instrument.account = account
  | .connected | .disconnected | .gatewayStatus _ _ _ => true

/-- The quantity that an update of a side adds to. -/
def sideQuantity (instrument : Instrument Book) : Side → Double
  | .buy => instrument.longPosition
  | .sell => instrument.shortPosition
  | .undefined => 0

def netPosition (instrument : Instrument Book) : ℚ :=
  instrument.longPosition.orZero - instrument.shortPosition.orZero

theorem position_eq (instrument : Instrument Book) :
    instrument.position = .num instrument.netPosition := by
  have counted (x : Double) : (if x.isNaN then 0 else x) = .num x.orZero := by
    cases x <;> rfl
  rw [position, counted, counted, Double.num_sub_num, netPosition]

theorem canTrade_buy [Utils] {instrument : Instrument Book}
    (allowed : instrument.canTrade .buy = true) : instrument.netPosition ≤ 0 := by
  simpa [canTrade, position_eq] using allowed

theorem canTrade_sell [Utils] {instrument : Instrument Book}
    (allowed : instrument.canTrade .sell = true) : 0 ≤ instrument.netPosition := by
  simpa [canTrade, position_eq] using allowed

theorem canTrade_side [Utils] {instrument : Instrument Book} {side : Side}
    (allowed : instrument.canTrade side = true) : side ≠ .undefined := by
  rintro rfl
  cases allowed

/-- What connects the instrument and its account: everything but market data and readiness. -/
structure SameAccount (before after : Instrument Book) : Prop where
  connected : after.connected = before.connected
  download : after.download = before.download
  longPosition : after.longPosition = before.longPosition
  shortPosition : after.shortPosition = before.shortPosition
  lastOrderId : after.lastOrderId = before.lastOrderId
  lastTradedQuantity : after.lastTradedQuantity = before.lastTradedQuantity

theorem SameAccount.refl (instrument : Instrument Book) : SameAccount instrument instrument :=
  ⟨rfl, rfl, rfl, rfl, rfl, rfl⟩

theorem SameAccount.netPosition {before after : Instrument Book}
    (same : SameAccount before after) : after.netPosition = before.netPosition := by
  rw [Instrument.netPosition, same.longPosition, same.shortPosition, Instrument.netPosition]

theorem SameAccount.known {before after : Instrument Book} (same : SameAccount before after)
    (orderId : Nat) : after.known orderId = before.known orderId := by
  rw [Instrument.known, same.lastOrderId, same.lastTradedQuantity, Instrument.known]

theorem SameAccount.sideQuantity {before after : Instrument Book}
    (same : SameAccount before after) (side : Side) :
    after.sideQuantity side = before.sideQuantity side := by
  cases side with
  | undefined => rfl
  | buy => exact same.longPosition
  | sell => exact same.shortPosition

@[simp] theorem onOrderUpdate_download (instrument : Instrument Book) (orderUpdate : OrderUpdate) :
    (instrument.onOrderUpdate orderUpdate).download = instrument.download := by
  unfold onOrderUpdate
  cases orderUpdate.side <;> rfl

@[simp] theorem onOrderUpdate_connected (instrument : Instrument Book)
    (orderUpdate : OrderUpdate) :
    (instrument.onOrderUpdate orderUpdate).connected = instrument.connected := by
  unfold onOrderUpdate
  cases orderUpdate.side <;> rfl

@[simp] theorem onOrderUpdate_lastOrderId (instrument : Instrument Book)
    (orderUpdate : OrderUpdate) :
    (instrument.onOrderUpdate orderUpdate).lastOrderId = orderUpdate.orderId := by
  unfold onOrderUpdate
  cases orderUpdate.side <;> rfl

@[simp] theorem onOrderUpdate_lastTradedQuantity (instrument : Instrument Book)
    (orderUpdate : OrderUpdate) :
    (instrument.onOrderUpdate orderUpdate).lastTradedQuantity = orderUpdate.tradedQuantity := by
  unfold onOrderUpdate
  cases orderUpdate.side <;> rfl

@[simp] theorem onOrderUpdate_known (instrument : Instrument Book) (orderUpdate : OrderUpdate) :
    (instrument.onOrderUpdate orderUpdate).known orderUpdate.orderId =
      orderUpdate.tradedQuantity := by
  simp [known]

/-- An update moves the position by what is new in it. It does not when the quantity of its side is
NaN. -/
theorem onOrderUpdate_netPosition {instrument : Instrument Book} {orderUpdate : OrderUpdate}
    {before traded : ℚ} (number : orderUpdate.tradedQuantity = .num traded)
    (known : instrument.known orderUpdate.orderId = .num before)
    (counted : traded = before ∨ instrument.sideQuantity orderUpdate.side ≠ .nan) :
    (instrument.onOrderUpdate orderUpdate).netPosition =
      instrument.netPosition + orderUpdate.side.sign * (traded - before) := by
  have added {quantity : Double} (counted : traded = before ∨ quantity ≠ .nan) :
      (quantity + (orderUpdate.tradedQuantity - instrument.known orderUpdate.orderId)).orZero =
        quantity.orZero + (traded - before) := by
    rw [number, known]
    cases quantity with
    | nan =>
        have nothing_new : traded = before := by simpa using counted
        simp [nothing_new]
    | num x => rfl
  unfold onOrderUpdate
  cases side : orderUpdate.side with
  | undefined =>
      simp only [netPosition, Side.sign, zero_mul, add_zero]
  | buy =>
      have counted : traded = before ∨ instrument.longPosition ≠ .nan := by
        simpa only [side, sideQuantity] using counted
      simp only [netPosition, Side.sign, one_mul]
      rw [added counted]
      ring
  | sell =>
      have counted : traded = before ∨ instrument.shortPosition ≠ .nan := by
        simpa only [side, sideQuantity] using counted
      simp only [netPosition, Side.sign]
      rw [added counted]
      ring

/-- A side whose quantity is NaN stays so, and counts as zero as before. -/
theorem onOrderUpdate_netPosition_nan {instrument : Instrument Book} {orderUpdate : OrderUpdate}
    (nan : instrument.sideQuantity orderUpdate.side = .nan) :
    (instrument.onOrderUpdate orderUpdate).netPosition = instrument.netPosition := by
  unfold onOrderUpdate
  cases side : orderUpdate.side with
  | undefined => rfl
  | buy =>
      have nan : instrument.longPosition = .nan := by simpa only [side, sideQuantity] using nan
      simp only [netPosition, nan, Double.nan_add]
  | sell =>
      have nan : instrument.shortPosition = .nan := by simpa only [side, sideQuantity] using nan
      simp only [netPosition, nan, Double.nan_add]

theorem onOrderUpdate_minTradeVol (instrument : Instrument Book) (orderUpdate : OrderUpdate) :
    (instrument.onOrderUpdate orderUpdate).minTradeVol = instrument.minTradeVol := by
  unfold onOrderUpdate
  cases orderUpdate.side <;> rfl

variable [Utils]

/-- A connection changes nothing but the readiness. -/
theorem onConnected_eq (instrument : Instrument Book) :
    ∃ connected ready,
      instrument.onConnected = { instrument with connected := connected, ready := ready } := by
  unfold onConnected
  split
  · exact ⟨instrument.connected, instrument.ready, rfl⟩
  · exact ⟨true, _, rfl⟩

/-- The messages that leave the account alone: those about the market and the gateway, the
downloads of an account, and positions outside of a download. -/
def spares (instrument : Instrument Book) : Message Update → Bool
  | .connected | .disconnected | .orderUpdate _ => false
  | .downloadBegin account | .downloadEnd account _ => account ≠ ""
  | .positionUpdate _ _ _ => !instrument.download
  | .gatewayStatus _ _ _ | .referenceData _ _ _ _ _ | .marketStatus _ _ _
  | .marketByPriceUpdate _ _ _ => true

variable {mbp}

theorem onMarketByPriceUpdate_ok {instrument after : Instrument Book} {update : Update}
    (handled : instrument.onMarketByPriceUpdate mbp update = .ok after) :
    after =
      { instrument with
        marketByPrice := mbp.apply instrument.marketByPrice update
        depth := mbp.extract (mbp.apply instrument.marketByPrice update) } := by
  obtain ⟨_, _, installed⟩ := ok_of_map handled
  exact installed.symm

theorem handle_sameAccount {instrument after : Instrument Book} {message : Message Update}
    (spared : instrument.spares message = true)
    (handled : instrument.handle mbp message = .ok after) : SameAccount instrument after := by
  cases message with
  | connected | disconnected | orderUpdate _ => cases spared
  | downloadBegin account =>
      have other : account ≠ "" := of_decide_eq_true spared
      simp only [handle, onDownloadBegin, if_neg other, Except.ok.injEq] at handled
      exact handled ▸ SameAccount.refl instrument
  | downloadEnd account maxOrderId =>
      have other : account ≠ "" := of_decide_eq_true spared
      simp only [handle, onDownloadEnd, if_neg other, Except.ok.injEq] at handled
      exact handled ▸ SameAccount.refl instrument
  | gatewayStatus account available unavailable =>
      cases handled
      unfold onGatewayStatus
      dsimp only
      split
      · exact ⟨rfl, rfl, rfl, rfl, rfl, rfl⟩
      · split <;> exact ⟨rfl, rfl, rfl, rfl, rfl, rfl⟩
  | referenceData _ _ _ _ _ | marketStatus _ _ _ =>
      cases handled
      exact ⟨rfl, rfl, rfl, rfl, rfl, rfl⟩
  | marketByPriceUpdate exchange symbol update =>
      obtain rfl := onMarketByPriceUpdate_ok handled
      exact ⟨rfl, rfl, rfl, rfl, rfl, rfl⟩
  | positionUpdate account longQuantity shortQuantity =>
      have late : instrument.download = false := by simpa [spares] using spared
      simp only [handle, onPositionUpdate, late, Bool.false_eq_true, if_false,
        Except.ok.injEq] at handled
      exact handled ▸ SameAccount.refl instrument

/-- Only reference data and a disconnect change the minimum volume. -/
theorem handle_minTradeVol {instrument after : Instrument Book} {message : Message Update}
    (stays : message ≠ .disconnected)
    (constant : ∀ exchange symbol tickSize minTradeVol multiplier,
      message = .referenceData exchange symbol tickSize minTradeVol multiplier →
        minTradeVol = instrument.minTradeVol)
    (handled : instrument.handle mbp message = .ok after) :
    after.minTradeVol = instrument.minTradeVol := by
  cases message with
  | disconnected => exact (stays rfl).elim
  | connected =>
      cases handled
      obtain ⟨_, _, same⟩ := instrument.onConnected_eq
      rw [same]
  | downloadBegin account =>
      cases handled
      unfold onDownloadBegin
      split <;> rfl
  | downloadEnd account maxOrderId =>
      cases handled
      unfold onDownloadEnd
      split <;> rfl
  | gatewayStatus account available unavailable =>
      cases handled
      unfold onGatewayStatus
      dsimp only
      split
      · rfl
      · split <;> rfl
  | referenceData _ _ _ minTradeVol _ =>
      cases handled
      exact constant _ _ _ minTradeVol _ rfl
  | marketStatus _ _ _ =>
      cases handled
      rfl
  | marketByPriceUpdate _ _ update =>
      obtain rfl := onMarketByPriceUpdate_ok handled
      rfl
  | orderUpdate orderUpdate =>
      cases handled
      exact instrument.onOrderUpdate_minTradeVol orderUpdate
  | positionUpdate account longQuantity shortQuantity =>
      cases handled
      unfold onPositionUpdate
      split <;> rfl

end Instrument

end RoqSamples.Example3
