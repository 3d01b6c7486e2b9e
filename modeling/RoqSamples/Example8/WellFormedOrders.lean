/- Example8/WellFormedOrders
   digest: The strategy of example-8 relies on its events to keep its orders well formed: on quiet
     downloads, on tick sizes and on bids. -/
import RoqSamples.Example8.Strategy
import Mathlib.Data.List.Induction

set_option autoImplicit false
set_option relaxedAutoImplicit false

namespace RoqSamples.Example8.WellFormedOrders

open RoqSamples.Arith (Double)
open RoqSamples.Client
open RoqSamples.Example3 (Layer)
open Strategy (new after)

section History

variable {Layers : Type}

/-- A download of the account has begun and has not ended. -/
def Downloading (account : String) (past : List (Event Layers)) : Prop :=
  ∃ before between, past = before ++ .downloadBegin account :: between ∧
    ∀ maxOrderId, .downloadEnd account maxOrderId ∉ between

/-- Some ReferenceData has had a positive tick size. -/
def HasTickSize (past : List (Event Layers)) : Prop :=
  ∃ tickSize, .referenceData tickSize ∈ past ∧ Double.lt 0 tickSize = true

/-- What an order rests on, after the events `past`. -/
structure WellFormed (past : List (Event Layers)) (createOrder : CreateOrder) : Prop where
  outside : ¬ Downloading createOrder.account past
  tickSize : HasTickSize past
  price : createOrder.price ≠ .nan

private theorem downloading_append {account : String} {past : List (Event Layers)}
    {event : Event Layers} :
    Downloading account (past ++ [event]) ↔
      event = .downloadBegin account ∨
        Downloading account past ∧ ∀ maxOrderId, event ≠ .downloadEnd account maxOrderId := by
  constructor
  · rintro ⟨before, between, split, none⟩
    rcases List.eq_nil_or_concat between with rfl | ⟨inner, last, rfl⟩
    · obtain ⟨rfl, same⟩ := List.append_inj' split rfl
      exact .inl (List.cons.inj same).1
    · rw [List.concat_eq_append, ← List.cons_append, ← List.append_assoc] at split
      obtain ⟨rfl, same⟩ := List.append_inj' split rfl
      rw [(List.cons.inj same).1]
      refine .inr ⟨⟨before, inner, rfl, fun maxOrderId inside => ?_⟩, fun maxOrderId ended => ?_⟩
      · exact none maxOrderId (by simp [inside])
      · exact none maxOrderId (by simp [ended])
  · rintro (rfl | ⟨⟨before, between, rfl, none⟩, other⟩)
    · exact ⟨past, [], rfl, fun _ inside => nomatch inside⟩
    · refine ⟨before, between ++ [event], by simp, fun maxOrderId inside => ?_⟩
      rcases List.mem_append.mp inside with earlier | last
      · exact none maxOrderId earlier
      · exact other maxOrderId (List.mem_singleton.mp last).symm

end History

section Orders

variable {Book Layers : Type} (mbp : MarketByPrice Book Layers)
  (compare : Double → Double → Ordering)

/-- Every order of a run is well formed. -/
def AllWellFormed (settings : Settings) (events : List (Event Layers)) : Prop :=
  ∀ past event rest, events = past ++ event :: rest →
    ∀ createOrder ∈ ((after mbp compare settings past).handle mbp compare event).2,
      WellFormed past createOrder

/-- The layer that an event hands to `create_order`, with the time of the event. -/
def trigger (s : Strategy Book) : Event Layers → Option (Int × Layer)
  | .topOfBook receiveTime layer true =>
      if s.settings.topOfBook then some (receiveTime, layer) else none
  | .marketByPriceUpdate receiveTime update true =>
      if s.settings.topOfBook = false ∧ update.updateType = .incremental then
        (mbp.extract (mbp.update s.marketByPrice update)).map fun layer => (receiveTime, layer)
      else none
  | _ => none

/-- The guards of `create_order`: counting down, warm, the delay elapsed, and a tick size that does
not compare equal to zero. -/
def Due (s : Strategy Book) (receiveTime : Int) : Prop :=
  s.countdown ≠ 0 ∧ s.nextRequest ≠ 0 ∧ s.nextRequest ≤ receiveTime ∧ compare s.tickSize 0 ≠ .eq

/-- The market data of the chosen trigger mode. -/
def IsTrigger (settings : Settings) : Event Layers → Bool
  | .topOfBook _ _ _ => settings.topOfBook
  | .marketByPriceUpdate _ update _ =>
      !settings.topOfBook && decide (update.updateType = .incremental)
  | .downloadBegin _ | .downloadEnd _ _ | .referenceData _ | .orderAck => false

/-- The order book that the updates of some events lead to. -/
def bookOf (settings : Settings) (past : List (Event Layers)) : Book :=
  past.foldl (fun book event =>
    match event with
    | .marketByPriceUpdate _ update _ => mbp.update book update
    | _ => book) (mbp.create settings.exchange settings.symbol)

/-- The best layer that market data comes with, or leads to. -/
def layerOf (settings : Settings) (past : List (Event Layers)) : Event Layers → Option Layer
  | .topOfBook _ layer _ => some layer
  | .marketByPriceUpdate _ update _ => mbp.extract (mbp.update (bookOf mbp settings past) update)
  | .downloadBegin _ | .downloadEnd _ _ | .referenceData _ | .orderAck => none

/-- What the strategy takes for granted about its events: no market data of its mode comes during a
download of its account or before the first tick size, tick sizes are positive where they do not
compare equal to zero, and the best layer has a bid. -/
structure Orderly (settings : Settings) (events : List (Event Layers)) : Prop where
  quiet : ∀ past event rest, events = past ++ event :: rest → IsTrigger settings event = true →
    ¬ Downloading settings.account past
  informed : ∀ past event rest, events = past ++ event :: rest → IsTrigger settings event = true →
    ∃ tickSize, .referenceData tickSize ∈ past
  positive : ∀ tickSize, .referenceData tickSize ∈ events → compare tickSize 0 ≠ .eq →
    Double.lt 0 tickSize = true
  bids : ∀ past event rest, events = past ++ event :: rest → IsTrigger settings event = true →
    ∀ layer, layerOf mbp settings past event = some layer → layer.bidPrice ≠ .nan

private theorem createOrder_sent {s : Strategy Book} {receiveTime : Int} {layer : Layer}
    {connected : Bool} {createOrder : CreateOrder} :
    createOrder ∈ (s.createOrder compare receiveTime layer connected).2 ↔
      connected = true ∧ Due compare s receiveTime ∧
        createOrder = s.createOrderRequest (uint64 (s.orderId + 1)) layer := by
  unfold Strategy.createOrder Due
  generalize compare s.tickSize 0 = ordering
  by_cases done : s.countdown = 0
  · simp [done]
  by_cases cold : s.nextRequest = 0
  · simp [done, cold]
  by_cases early : receiveTime < s.nextRequest
  · simp [done, cold, early]
  by_cases zero : ordering = .eq
  · simp [done, cold, early, zero]
  · cases connected with
    | true => simp [done, cold, early, zero, Int.not_lt.mp early]
    | false => simp [done, cold, early, zero]

/-- An event sends an order exactly when it triggers one that is due. -/
private theorem handle_sent {s : Strategy Book} {event : Event Layers}
    {createOrder : CreateOrder} :
    createOrder ∈ (s.handle mbp compare event).2 ↔
      ∃ receiveTime layer, trigger mbp s event = some (receiveTime, layer) ∧
        Due compare s receiveTime ∧
          createOrder = s.createOrderRequest (uint64 (s.orderId + 1)) layer := by
  cases event with
  | downloadBegin | downloadEnd | referenceData | orderAck => simp [Strategy.handle, trigger]
  | topOfBook receiveTime layer connected =>
      cases chosen : s.settings.topOfBook with
      | false => cases connected <;> simp [Strategy.handle, trigger, chosen]
      | true =>
          simp only [Strategy.handle, chosen, if_true, createOrder_sent]
          cases connected <;> simp [trigger, chosen]
  | marketByPriceUpdate receiveTime update connected =>
      cases chosen : s.settings.topOfBook with
      | true => cases connected <;> simp [Strategy.handle, trigger, chosen]
      | false =>
          by_cases incremental : update.updateType = .incremental
          · cases extracted : mbp.extract (mbp.update s.marketByPrice update) with
            | none =>
                cases connected <;>
                  simp [Strategy.handle, trigger, chosen, incremental, extracted]
            | some layer =>
                have sent := @createOrder_sent Book compare
                  { s with marketByPrice := mbp.update s.marketByPrice update } receiveTime layer
                  connected createOrder
                simp only [Strategy.handle, chosen, incremental, extracted]
                refine sent.trans ?_
                cases connected with
                | true =>
                    simp [trigger, chosen, incremental, extracted]
                    rfl
                | false => simp [trigger]
          · cases connected <;> simp [Strategy.handle, trigger, chosen, incremental]

/-- What create_order leaves alone. -/
private theorem createOrder_frame (s : Strategy Book) (receiveTime : Int) (layer : Layer)
    (connected : Bool) :
    let t := (s.createOrder compare receiveTime layer connected).1
    t.settings = s.settings ∧ t.downloading = s.downloading ∧ t.tickSize = s.tickSize ∧
      t.marketByPrice = s.marketByPrice := by
  unfold Strategy.createOrder
  dsimp only
  split
  · exact ⟨rfl, rfl, rfl, rfl⟩
  split
  · split
    · exact ⟨rfl, rfl, rfl, rfl⟩
    split
    · exact ⟨rfl, rfl, rfl, rfl⟩
    · cases connected <;> exact ⟨rfl, rfl, rfl, rfl⟩
  · exact ⟨rfl, rfl, rfl, rfl⟩

private theorem handle_settings (s : Strategy Book) (event : Event Layers) :
    (s.handle mbp compare event).1.settings = s.settings := by
  unfold Strategy.handle
  cases event with
  | downloadBegin account =>
      dsimp only
      split <;> rfl
  | downloadEnd account maxOrderId =>
      dsimp only
      split <;> rfl
  | referenceData | orderAck => rfl
  | topOfBook receiveTime layer connected =>
      dsimp only
      split
      · exact (createOrder_frame compare s receiveTime layer connected).1
      · rfl
  | marketByPriceUpdate receiveTime update connected =>
      dsimp only
      split
      · rfl
      split
      · rfl
      split
      · rfl
      · exact (createOrder_frame compare _ receiveTime _ connected).1

/-- Only the downloads of the account move the flag. -/
private theorem handle_downloading (s : Strategy Book) (event : Event Layers) :
    (s.handle mbp compare event).1.downloading = true ↔
      event = .downloadBegin s.settings.account ∨
        s.downloading = true ∧
          ∀ maxOrderId, event ≠ .downloadEnd s.settings.account maxOrderId := by
  unfold Strategy.handle
  cases event with
  | downloadBegin account =>
      by_cases own : s.settings.account = account
      · simp [own]
      · simp [own, Ne.symm own]
  | downloadEnd account maxOrderId =>
      by_cases own : s.settings.account = account
      · simp [own]
      · simp [own, Ne.symm own]
  | referenceData | orderAck => simp
  | topOfBook receiveTime layer connected =>
      dsimp only
      split
      · simp [(createOrder_frame compare s receiveTime layer connected).2.1]
      · simp
  | marketByPriceUpdate receiveTime update connected =>
      dsimp only
      split
      · simp
      split
      · simp
      split
      · simp
      · simp [(createOrder_frame compare _ receiveTime _ connected).2.1]

/-- Only ReferenceData moves the tick size. -/
private theorem handle_tickSize (s : Strategy Book) (event : Event Layers) :
    (∃ tickSize, event = .referenceData tickSize ∧
      (s.handle mbp compare event).1.tickSize = tickSize) ∨
    (∀ tickSize, event ≠ .referenceData tickSize) ∧
      (s.handle mbp compare event).1.tickSize = s.tickSize := by
  unfold Strategy.handle
  cases event with
  | referenceData tickSize => exact .inl ⟨tickSize, rfl, rfl⟩
  | downloadBegin account =>
      refine .inr ⟨(fun _ same => nomatch same), ?_⟩
      dsimp only
      split <;> rfl
  | downloadEnd account maxOrderId =>
      refine .inr ⟨(fun _ same => nomatch same), ?_⟩
      dsimp only
      split <;> rfl
  | orderAck => exact .inr ⟨(fun _ same => nomatch same), rfl⟩
  | topOfBook receiveTime layer connected =>
      refine .inr ⟨(fun _ same => nomatch same), ?_⟩
      dsimp only
      split
      · exact (createOrder_frame compare s receiveTime layer connected).2.2.1
      · rfl
  | marketByPriceUpdate receiveTime update connected =>
      refine .inr ⟨(fun _ same => nomatch same), ?_⟩
      dsimp only
      split
      · rfl
      split
      · rfl
      split
      · rfl
      · exact (createOrder_frame compare _ receiveTime _ connected).2.2.1

/-- When the book is the trigger, every update goes into it. -/
private theorem handle_book {s : Strategy Book} (chosen : s.settings.topOfBook = false)
    (event : Event Layers) :
    (s.handle mbp compare event).1.marketByPrice =
      match event with
      | .marketByPriceUpdate _ update _ => mbp.update s.marketByPrice update
      | _ => s.marketByPrice := by
  unfold Strategy.handle
  cases event with
  | referenceData | orderAck => rfl
  | downloadBegin account =>
      dsimp only
      split <;> rfl
  | downloadEnd account maxOrderId =>
      dsimp only
      split <;> rfl
  | topOfBook receiveTime layer connected =>
      dsimp only
      rw [chosen]
      rfl
  | marketByPriceUpdate receiveTime update connected =>
      dsimp only
      rw [chosen]
      simp only [Bool.false_eq_true, if_false]
      split
      · rfl
      split
      · rfl
      · exact (createOrder_frame compare _ receiveTime _ connected).2.2.2

private theorem after_append (settings : Settings) (past : List (Event Layers))
    (event : Event Layers) :
    after mbp compare settings (past ++ [event]) =
      ((after mbp compare settings past).handle mbp compare event).1 := by
  simp only [after, List.foldl_append, List.foldl_cons, List.foldl_nil]

private theorem after_settings (settings : Settings) (past : List (Event Layers)) :
    (after mbp compare settings past).settings = settings := by
  induction past using List.reverseRecOn with
  | nil => rfl
  | append_singleton past event ih => rw [after_append, handle_settings, ih]

/-- The flag says whether a download of the account is in progress. -/
theorem after_downloading (settings : Settings) (past : List (Event Layers)) :
    (after mbp compare settings past).downloading = true ↔
      Downloading settings.account past := by
  induction past using List.reverseRecOn with
  | nil => simp [after, new, Downloading]
  | append_singleton past event ih =>
      rw [after_append, handle_downloading, after_settings, downloading_append, ih]

/-- The price is a number exactly when the bid and the tick size are. -/
theorem price_number {s : Strategy Book} {layer : Layer} :
    s.price layer ≠ .nan ↔ layer.bidPrice ≠ .nan ∧ s.tickSize ≠ .nan := by
  unfold Strategy.price
  cases layer.bidPrice with
  | nan => simp
  | num bid =>
      cases s.tickSize with
      | nan => simp
      | num tick => simp

/-- The tick size is one that has been received, once there was one. -/
private theorem after_tickSize (settings : Settings) {past : List (Event Layers)}
    (informed : ∃ tickSize, .referenceData tickSize ∈ past) :
    .referenceData (after mbp compare settings past).tickSize ∈ past := by
  induction past using List.reverseRecOn with
  | nil =>
      obtain ⟨_, mem⟩ := informed
      exact (List.not_mem_nil mem).elim
  | append_singleton past event ih =>
      rw [after_append]
      rcases handle_tickSize mbp compare (after mbp compare settings past) event with
        ⟨tickSize, rfl, same⟩ | ⟨other, same⟩
      · rw [same]
        exact List.mem_append_right _ (List.mem_singleton_self _)
      · rw [same]
        obtain ⟨tickSize, mem⟩ := informed
        rcases List.mem_append.mp mem with earlier | last
        · exact List.mem_append_left _ (ih ⟨tickSize, earlier⟩)
        · exact (other tickSize (List.mem_singleton.mp last).symm).elim

private theorem after_book {settings : Settings} (chosen : settings.topOfBook = false)
    (past : List (Event Layers)) :
    (after mbp compare settings past).marketByPrice = bookOf mbp settings past := by
  induction past using List.reverseRecOn with
  | nil => rfl
  | append_singleton past event ih =>
      have mode : (after mbp compare settings past).settings.topOfBook = false := by
        rw [after_settings]
        exact chosen
      rw [after_append, handle_book mbp compare mode, ih, bookOf, bookOf, List.foldl_append]
      rfl

/-- What `create_order` is called with is market data of the mode. -/
private theorem trigger_layer {settings : Settings} {past : List (Event Layers)}
    {event : Event Layers} {receiveTime : Int} {layer : Layer}
    (triggered :
      trigger mbp (after mbp compare settings past) event = some (receiveTime, layer)) :
    IsTrigger settings event = true ∧ layerOf mbp settings past event = some layer := by
  unfold trigger at triggered
  split at triggered
  · split at triggered
    · rename_i chosen
      rw [after_settings] at chosen
      cases triggered
      exact ⟨chosen, rfl⟩
    · cases triggered
  · split at triggered
    · rename_i chosen
      rw [after_settings] at chosen
      obtain ⟨mode, incremental⟩ := chosen
      obtain ⟨found, extracted, same⟩ := Option.map_eq_some_iff.mp triggered
      cases same
      rw [after_book mbp compare mode] at extracted
      refine ⟨?_, extracted⟩
      rw [IsTrigger, mode, decide_eq_true incremental]
      rfl
    · cases triggered
  · cases triggered

private theorem ne_nan_of_positive {x : Double} (positive : Double.lt 0 x = true) : x ≠ .nan := by
  rintro rfl
  cases positive

/-- In every sequence of events that gives the strategy what it takes for granted, in both trigger
modes, every order that is sent is well formed. -/
theorem orders_well_formed (settings : Settings) (events : List (Event Layers))
    (orderly : Orderly mbp compare settings events) :
    AllWellFormed mbp compare settings events := by
  intro past event rest split createOrder sent
  obtain ⟨receiveTime, layer, triggered, due, rfl⟩ := (handle_sent mbp compare).mp sent
  obtain ⟨market_data, from_book⟩ := trigger_layer mbp compare triggered
  have received := after_tickSize mbp compare settings
    (orderly.informed past event rest split market_data)
  have positive : Double.lt 0 (after mbp compare settings past).tickSize = true := by
    refine orderly.positive _ ?_ due.2.2.2
    rw [split]
    exact List.mem_append_left _ received
  refine ⟨?_, ⟨_, received, positive⟩, ?_⟩
  · change ¬ Downloading (after mbp compare settings past).settings.account past
    rw [after_settings]
    exact orderly.quiet past event rest split market_data
  · exact price_number.mpr ⟨orderly.bids past event rest split market_data layer from_book,
      ne_nan_of_positive positive⟩

end Orders

section Examples

/-- `utils::compare` of a number with zero; NaN is left to the library. -/
private def compareZero (x y : Double) : Ordering :=
  if x = y then .eq else if Double.lt x y then .lt else .gt

/-- The book is the layer that the last update brings. -/
private def lastLayer : MarketByPrice (Option Layer) (Option Layer) where
  create _ _ := none
  update _ update := update.layers
  extract book := book

private def bid : Layer where
  bidPrice := 100
  bidQuantity := 1

private def seconds (n : Nat) : Int := n * Strategy.nanosecondsPerSecond

/-- A download that ends before the first market data, and an order after the warmup. -/
private def afterDownload : List (Event (Option Layer)) :=
  [.downloadBegin "A1", .downloadEnd "A1" 7, .referenceData 1, .topOfBook (seconds 1) bid true,
    .topOfBook (seconds 31) bid true]

/-- A property of all splits of a list is one of finitely many positions. -/
private theorem splits_of_positions {α : Type} {P : List α → α → Prop} {events : List α}
    (all : ∀ i : Fin events.length, P (events.take i) (events.get i)) :
    ∀ past event rest, events = past ++ event :: rest → P past event := by
  rintro past event rest rfl
  have here := all ⟨past.length, by simp⟩
  simpa using here

theorem orders_well_formed_after_download :
    AllWellFormed lastLayer compareZero { topOfBook := true } afterDownload ∧
      ((after lastLayer compareZero { topOfBook := true } afterDownload).countdown = 15) := by
  have idle (past : List (Event (Option Layer)))
      (flag : (after lastLayer compareZero { topOfBook := true } past).downloading = false) :
      ¬ Downloading "A1" past := by
    rw [← after_downloading lastLayer compareZero { topOfBook := true } past, flag]
    exact Bool.false_ne_true
  have orderly : Orderly lastLayer compareZero { topOfBook := true } afterDownload := by
    refine ⟨?_, ?_, ?_, ?_⟩
    · refine splits_of_positions (fun i market_data => idle _ ?_)
      revert i market_data
      decide +kernel
    · refine splits_of_positions (fun i market_data => ⟨1, ?_⟩)
      have later : 3 ≤ i.val := by
        revert i market_data
        decide +kernel
      exact List.mem_take_iff_getElem.mpr ⟨2, by simp [afterDownload]; omega, rfl⟩
    · intro tickSize mem _
      simp only [afterDownload, List.mem_cons, reduceCtorEq, false_or, Event.referenceData.injEq,
        List.not_mem_nil, or_false] at mem
      rw [mem]
      rfl
    · refine splits_of_positions (fun i market_data => ?_)
      revert i market_data
      decide +kernel
  exact ⟨orders_well_formed lastLayer compareZero _ _ orderly, by decide +kernel⟩

/-- A download that is still in progress when the warmup is over. -/
private def duringDownload : List (Event (Option Layer)) :=
  [.referenceData 1, .topOfBook (seconds 1) bid true, .downloadBegin "A1"]

/-- The guards do not ask for the end of the download. -/
theorem order_during_download :
    ¬ ∀ (settings : Settings) (events : List (Event (Option Layer))),
      AllWellFormed lastLayer compareZero settings events := by
  intro formed
  have sends : ∃ createOrder, createOrder ∈
      ((after lastLayer compareZero { topOfBook := true } duringDownload).handle lastLayer
        compareZero (.topOfBook (seconds 31) bid true)).2 ∧ createOrder.account = "A1" :=
    ⟨_, List.mem_cons_self, rfl⟩
  obtain ⟨createOrder, sent, own⟩ := sends
  refine (formed { topOfBook := true } _ duringDownload _ [] rfl createOrder sent).outside ?_
  rw [own]
  exact ⟨[.referenceData 1, .topOfBook (seconds 1) bid true], [], rfl,
    fun _ inside => nomatch inside⟩

end Examples

end RoqSamples.Example8.WellFormedOrders
