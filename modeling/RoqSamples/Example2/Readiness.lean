/- Example2/Readiness
   digest: The ready flags of example-2 and example-3 follow their inputs exactly as long as no
     market download begins while the flag is up. -/
import RoqSamples.Example2.Instrument
import RoqSamples.Execution.CachedFlag

set_option autoImplicit false
set_option relaxedAutoImplicit false

namespace RoqSamples.Example2.Readiness

open RoqSamples.Arith (Double Rounding binary64)
open RoqSamples.Client
open RoqSamples.Execution.CachedFlag
open RoqSamples.Execution.Runs

section Instrument2

variable {Book Update : Type} (rounding : Rounding) (mbp : Example2.MarketByPrice Book Update)

variable [Utils]

/-- The conjunction that defines the readiness of example-2. -/
def Required2 (i : Example2.Instrument Book) : Prop :=
  i.connected = true ∧ i.download = false ∧ Utils.isGreater i.tickSize 0 = true ∧
    Utils.isGreater i.minTradeVol 0 = true ∧ Utils.isGreater i.multiplier 0 = true ∧
    i.tradingStatus = .«open» ∧ i.marketData = true

/-- The instrument takes a message unless it ends in log::fatal. -/
def next2 (i : Example2.Instrument Book) (message : Example2.Message Update) :
    Option (Example2.Instrument Book) :=
  (i.handle rounding mbp message).toOption

abbrev Fresh2 (i : Example2.Instrument Book) : Prop := Fresh Example2.Instrument.ready Required2 i

private theorem checkReady_fresh2 (i : Example2.Instrument Book) : Fresh2 i.checkReady := by
  unfold Fresh2 Fresh Required2 Example2.Instrument.checkReady
  simp only [Bool.and_eq_true, Bool.not_eq_true', decide_eq_true_eq, and_assoc]

private theorem reset_fresh2 (i : Example2.Instrument Book) : Fresh2 (i.reset mbp) :=
  iff_of_false Bool.false_ne_true fun required => Bool.false_ne_true required.1

private theorem updateModel_eq {i after : Example2.Instrument Book}
    (updated : i.updateModel rounding = .ok after) :
    ∃ midPrice avgPrice, after = { i with midPrice := midPrice, avgPrice := avgPrice } := by
  unfold Example2.Instrument.updateModel at updated
  dsimp only at updated
  split at updated
  · cases updated
    exact ⟨i.midPrice, i.avgPrice, rfl⟩
  · split at updated
    · cases updated
    · cases updated
      exact ⟨_, _, rfl⟩

/-- An update of the book moves the book, the depth and the model only. -/
private theorem marketByPrice_eq {i after : Example2.Instrument Book} {update : Update}
    (handled : i.onMarketByPriceUpdate rounding mbp update = .ok after) :
    ∃ book depth midPrice avgPrice, after =
      { i with
        marketByPrice := book, depth := depth, midPrice := midPrice, avgPrice := avgPrice } := by
  unfold Example2.Instrument.onMarketByPriceUpdate at handled
  dsimp only at handled
  split at handled
  · obtain ⟨midPrice, avgPrice, rfl⟩ := updateModel_eq rounding handled
    exact ⟨_, _, midPrice, avgPrice, rfl⟩
  · cases handled
    exact ⟨_, _, i.midPrice, i.avgPrice, rfl⟩

/-- Every message but a market DownloadBegin refreshes the flag, or leaves flag and inputs alone. -/
private theorem keeps2 {i after : Example2.Instrument Book} {message : Example2.Message Update}
    (handled : i.handle rounding mbp message = .ok after) (other : message ≠ .downloadBegin "")
    (fresh : Fresh2 i) : Fresh2 after := by
  cases message with
  | connected =>
      cases handled
      unfold Example2.Instrument.onConnected
      split
      · exact fresh
      · exact checkReady_fresh2 _
  | disconnected =>
      cases handled
      unfold Example2.Instrument.onDisconnected
      split
      · exact reset_fresh2 mbp _
      · exact fresh
  | downloadBegin account =>
      have of_account : account ≠ "" := by
        rintro rfl
        exact other rfl
      cases handled
      rw [Example2.Instrument.onDownloadBegin, if_neg of_account]
      exact fresh
  | downloadEnd account maxOrderId =>
      cases handled
      unfold Example2.Instrument.onDownloadEnd
      split
      · exact checkReady_fresh2 _
      · exact fresh
  | gatewayStatus account available unavailable =>
      cases handled
      unfold Example2.Instrument.onGatewayStatus
      split
      · exact checkReady_fresh2 _
      · exact fresh
  | referenceData _ _ tickSize minTradeVol multiplier | marketStatus _ _ tradingStatus =>
      cases handled
      exact checkReady_fresh2 _
  | marketByPriceUpdate _ _ update =>
      obtain ⟨book, depth, midPrice, avgPrice, rfl⟩ := marketByPrice_eq rounding mbp handled
      exact fresh.of_same rfl Iff.rfl

end Instrument2

section Instrument3

variable {Book Update : Type} (mbp : Example3.MarketByPrice Book Update)

variable [Utils]

/-- Example-3 requires the order management in addition. -/
def Required3 (i : Example3.Instrument Book) : Prop :=
  i.connected = true ∧ i.download = false ∧ Utils.isGreater i.tickSize 0 = true ∧
    Utils.isGreater i.minTradeVol 0 = true ∧ Utils.isGreater i.multiplier 0 = true ∧
    i.tradingStatus = .«open» ∧ i.marketData = true ∧ i.orderManagement = true

def next3 (i : Example3.Instrument Book) (message : Example3.Message Update) :
    Option (Example3.Instrument Book) :=
  (i.handle mbp message).toOption

abbrev Fresh3 (i : Example3.Instrument Book) : Prop := Fresh Example3.Instrument.ready Required3 i

private theorem checkReady_fresh3 (i : Example3.Instrument Book) : Fresh3 i.checkReady := by
  unfold Fresh3 Fresh Required3 Example3.Instrument.checkReady
  simp only [Bool.and_eq_true, Bool.not_eq_true', decide_eq_true_eq, and_assoc]

private theorem reset_fresh3 (i : Example3.Instrument Book) : Fresh3 (i.reset mbp) :=
  iff_of_false Bool.false_ne_true fun required => Bool.false_ne_true required.1

private theorem keeps3 {i after : Example3.Instrument Book} {message : Example3.Message Update}
    (handled : i.handle mbp message = .ok after) (other : message ≠ .downloadBegin "")
    (fresh : Fresh3 i) : Fresh3 after := by
  cases message with
  | connected =>
      cases handled
      unfold Example3.Instrument.onConnected
      split
      · exact fresh
      · exact checkReady_fresh3 _
  | disconnected =>
      cases handled
      unfold Example3.Instrument.onDisconnected
      split
      · exact reset_fresh3 mbp _
      · exact fresh
  | downloadBegin account =>
      have of_account : account ≠ "" := by
        rintro rfl
        exact other rfl
      cases handled
      rw [Example3.Instrument.onDownloadBegin, if_neg of_account]
      exact fresh
  | downloadEnd account maxOrderId =>
      cases handled
      unfold Example3.Instrument.onDownloadEnd
      split
      · exact checkReady_fresh3 _
      · exact fresh
  | gatewayStatus _ _ _ | referenceData _ _ _ _ _ | marketStatus _ _ _ =>
      cases handled
      exact checkReady_fresh3 _
  | marketByPriceUpdate _ _ update =>
      obtain rfl := Example3.Instrument.onMarketByPriceUpdate_ok handled
      exact fresh.of_same rfl Iff.rfl
  | orderUpdate orderUpdate =>
      cases handled
      unfold Example3.Instrument.onOrderUpdate
      cases orderUpdate.side <;> exact fresh.of_same rfl Iff.rfl
  | positionUpdate _ longQuantity shortQuantity =>
      cases handled
      unfold Example3.Instrument.onPositionUpdate
      split
      · exact fresh.of_same rfl Iff.rfl
      · exact fresh

end Instrument3

/-- In both samples, for every sequence of messages: the flag equals the defining conjunction after
every message exactly when no market download begins while the flag is up. -/
theorem ready_fresh_iff [Utils] {Book Update : Type} (exchange symbol : String) (alpha : Double)
    (settings : Example3.Settings) (rounding : Rounding)
    (mbp2 : Example2.MarketByPrice Book Update)
    (mbp3 : Example3.MarketByPrice Book Update) :
    (∀ es : List (Example2.Message Update),
      AllStates (next2 rounding mbp2) Fresh2
          (Example2.Instrument.new mbp2 exchange symbol alpha) es ↔
        AllSteps (next2 rounding mbp2)
          (fun i message => message = .downloadBegin "" → i.ready = false)
          (Example2.Instrument.new mbp2 exchange symbol alpha) es) ∧
    (∀ es : List (Example3.Message Update),
      AllStates (next3 mbp3) Fresh3 (Example3.Instrument.new mbp3 settings) es ↔
        AllSteps (next3 mbp3) (fun i message => message = .downloadBegin "" → i.ready = false)
          (Example3.Instrument.new mbp3 settings) es) := by
  have down : ¬ (false = true) := Bool.false_ne_true
  constructor
  · intro es
    refine allStates_fresh_iff ?_ ?_ (iff_of_false down fun required => down required.1)
    · intro i message after taken other fresh
      exact keeps2 rounding mbp2 (ok_of_toOption taken) other fresh
    · rintro i message after taken rfl
      cases ok_of_toOption taken
      exact ⟨rfl, fun required => Bool.noConfusion required.2.1⟩
  · intro es
    refine allStates_fresh_iff ?_ ?_ (iff_of_false down fun required => down required.1)
    · intro i message after taken other fresh
      exact keeps3 mbp3 (ok_of_toOption taken) other fresh
    · rintro i message after taken rfl
      cases ok_of_toOption taken
      exact ⟨rfl, fun required => Bool.noConfusion required.2.1⟩

section Examples

open scoped RoqSamples.Client.Documented

/-- A book of example-2 that gets a snapshot of two levels with every update. -/
def snapshots2 : Example2.MarketByPrice Example2.Depth Example2.Depth where
  empty := {}
  apply := fun _ depth => depth
  extract := fun depth => (depth, 2)
  clear := fun _ => {}

/-- The instrument becomes ready, and then another market download begins. -/
def secondDownload2 : List (Example2.Message Example2.Depth) :=
  [.connected, .downloadBegin "", .referenceData "E" "S" 1 1 1, .marketStatus "E" "S" .«open»,
    .downloadEnd "" 0, .gatewayStatus "" [.referenceData, .marketStatus, .marketByPrice] [],
    .downloadBegin ""]

def secondDownload3 : List (Example3.Message Example3.Depth) :=
  [.connected, .downloadBegin "", .referenceData "deribit" "BTC-PERPETUAL" 1 1 1,
    .marketStatus "deribit" "BTC-PERPETUAL" .«open», .downloadEnd "" 0,
    .gatewayStatus "" [.referenceData, .marketStatus, .marketByPrice] [],
    .gatewayStatus "A1" [.createOrder, .cancelOrder, .order, .position] [], .downloadBegin ""]

/-- All assertions of the handlers hold, and yet the flag stays up while the download runs. -/
theorem second_download_leaves_flag_up :
    (AllSteps (next2 binary64 snapshots2) (fun i message => i.asserts message = true)
        (Example2.Instrument.new snapshots2 "E" "S" 1) secondDownload2 ∧
      ¬ AllStates (next2 binary64 snapshots2) Fresh2 (Example2.Instrument.new snapshots2 "E" "S" 1)
        secondDownload2) ∧
    (AllSteps (next3 Example3.snapshots) (fun i message => i.asserts message = true)
        (Example3.Instrument.new Example3.snapshots {}) secondDownload3 ∧
      ¬ AllStates (next3 Example3.snapshots) Fresh3
        (Example3.Instrument.new Example3.snapshots {}) secondDownload3) := by
  refine ⟨⟨by decide +kernel, fun states => ?_⟩, ⟨by decide +kernel, fun states => ?_⟩⟩
  · obtain ⟨t, reached, ready, download⟩ :
        ∃ t, run (next2 binary64 snapshots2) (Example2.Instrument.new snapshots2 "E" "S" 1)
          secondDownload2 = some t ∧ t.ready = true ∧ t.download = true :=
      reaches_of_any (by decide +kernel)
    have required := (states.last reached).mp ready
    exact Bool.noConfusion (required.2.1.symm.trans download)
  · obtain ⟨t, reached, ready, download⟩ :
        ∃ t, run (next3 Example3.snapshots) (Example3.Instrument.new Example3.snapshots {})
          secondDownload3 = some t ∧ t.ready = true ∧ t.download = true :=
      reaches_of_any (by decide +kernel)
    have required := (states.last reached).mp ready
    exact Bool.noConfusion (required.2.1.symm.trans download)

end Examples

end RoqSamples.Example2.Readiness
