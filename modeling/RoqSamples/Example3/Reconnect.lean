/- Example3/Reconnect
   digest: What a disconnect leaves behind: the depth, until the next update of the book, and a
     multiplier that nothing reads before it is overwritten. -/
import RoqSamples.Example3.Instrument
import RoqSamples.Execution.Runs

set_option autoImplicit false
set_option relaxedAutoImplicit false

namespace RoqSamples.Example3.Reconnect

open RoqSamples.Arith (Double)
open RoqSamples.Client
open RoqSamples.Execution.Runs

variable {Book Update : Type} (mbp : MarketByPrice Book Update)

section Histories

variable [Utils]

/-- The instrument takes a message unless it ends in log::fatal. -/
def next (i : Instrument Book) (message : Message Update) : Option (Instrument Book) :=
  (i.handle mbp message).toOption

/-- A history of a fresh instrument whose last event is a Disconnected received while connected. -/
structure Disconnects (settings : Settings) (history : List (Message Update))
    (after : Instrument Book) : Prop where
  last : ∃ before i, history = before ++ [.disconnected] ∧
    run (next mbp) (Instrument.new mbp settings) before = some i ∧ i.connected = true
  reached : run (next mbp) (Instrument.new mbp settings) history = some after

/-- The strategy cannot tell the two instruments apart. -/
structure SameView (a b : Instrument Book) : Prop where
  position : a.position = b.position
  canTrade : ∀ side, a.canTrade side = b.canTrade side
  tickSize : a.tickSize = b.tickSize
  minTradeVol : a.minTradeVol = b.minTradeVol
  multiplier : a.multiplier = b.multiplier
  bestBid : a.bestBid = b.bestBid
  bestAsk : a.bestAsk = b.bestAsk
  depth : a.depth = b.depth

/-- At each point of the suffix where the first instrument is ready, the second one is ready too
and looks the same. -/
def Forgets (a b : Instrument Book) (suffix : List (Message Update)) : Prop :=
  ∀ prior, prior <+: suffix → ∀ a', run (next mbp) a prior = some a' → a'.ready = true →
    ∃ b', run (next mbp) b prior = some b' ∧ b'.ready = true ∧ SameView a' b'

def isBookUpdate : Message Update → Bool
  | .marketByPriceUpdate _ _ _ => true
  | _ => false

/-- The book has been updated before the instrument is ready again. -/
def BookFirst (a : Instrument Book) (suffix : List (Message Update)) : Prop :=
  ∀ prior, prior <+: suffix → ∀ a', run (next mbp) a prior = some a' → a'.ready = true →
    prior.any isBookUpdate = true

/-- Two instruments that agree but for the depth, and for a multiplier that does not count as long
as there is no tick size. -/
def Related (a b : Instrument Book) : Prop :=
  ∃ multiplier depth, b = { a with multiplier := multiplier, depth := depth } ∧
    (multiplier = a.multiplier ∨ a.tickSize = .nan ∧ a.ready = false)

/-- Readiness reads the multiplier, but not without a tick size. -/
private theorem checkReady_related {a b : Instrument Book} (related : Related a b) :
    Related a.checkReady b.checkReady := by
  obtain ⟨multiplier, depth, rfl, same | ⟨no_tick, _⟩⟩ := related
  · subst same
    exact ⟨a.multiplier, depth, rfl, .inl rfl⟩
  · refine ⟨multiplier, depth, ?_, .inr ⟨no_tick, ?_⟩⟩
    · simp only [Instrument.checkReady, no_tick, Utils.isGreater_nan, Bool.and_false,
        Bool.false_and]
    · simp only [Instrument.checkReady, no_tick, Utils.isGreater_nan, Bool.and_false,
        Bool.false_and]

/-- What a book update shows of two related instruments is the same. -/
private theorem book_related {a a' b : Instrument Book} {update : Update} (related : Related a b)
    (handled : a.onMarketByPriceUpdate mbp update = .ok a') :
    ∃ b', b.onMarketByPriceUpdate mbp update = .ok b' ∧ Related a' b' ∧ a'.depth = b'.depth := by
  obtain ⟨multiplier, depth, rfl, counts⟩ := related
  have installed := Instrument.onMarketByPriceUpdate_ok handled
  obtain ⟨_, valid, _⟩ := ok_of_map handled
  refine ⟨{ a' with multiplier := multiplier }, ?_, ?_, rfl⟩
  · subst installed
    unfold Instrument.onMarketByPriceUpdate Instrument.validate at *
    dsimp only at *
    rw [valid]
    rfl
  · subst installed
    exact ⟨multiplier, _, rfl, counts⟩

/-- Every message keeps two instruments related. -/
private theorem handle_related {a a' b : Instrument Book} {message : Message Update}
    (related : Related a b) (handled : a.handle mbp message = .ok a') :
    ∃ b', b.handle mbp message = .ok b' ∧ Related a' b' := by
  cases message with
  | marketByPriceUpdate _ _ update =>
      obtain ⟨b', handled', after, _⟩ := book_related mbp related handled
      exact ⟨b', handled', after⟩
  | connected =>
      cases handled
      refine ⟨_, rfl, ?_⟩
      obtain ⟨multiplier, depth, rfl, counts⟩ := related
      unfold Instrument.onConnected
      dsimp only
      split
      · exact ⟨multiplier, depth, rfl, counts⟩
      · exact checkReady_related ⟨multiplier, depth, rfl, counts⟩
  | disconnected =>
      cases handled
      refine ⟨_, rfl, ?_⟩
      obtain ⟨multiplier, depth, rfl, counts⟩ := related
      unfold Instrument.onDisconnected
      dsimp only
      split
      · exact ⟨multiplier, depth, rfl, .inr ⟨rfl, rfl⟩⟩
      · exact ⟨multiplier, depth, rfl, counts⟩
  | downloadBegin account =>
      cases handled
      refine ⟨_, rfl, ?_⟩
      obtain ⟨multiplier, depth, rfl, counts⟩ := related
      unfold Instrument.onDownloadBegin
      split <;> exact ⟨multiplier, depth, rfl, counts⟩
  | downloadEnd account maxOrderId =>
      cases handled
      refine ⟨_, rfl, ?_⟩
      obtain ⟨multiplier, depth, rfl, counts⟩ := related
      unfold Instrument.onDownloadEnd
      split
      · exact checkReady_related ⟨multiplier, depth, rfl, counts⟩
      · exact ⟨multiplier, depth, rfl, counts⟩
  | gatewayStatus account available unavailable =>
      cases handled
      refine ⟨_, rfl, ?_⟩
      obtain ⟨multiplier, depth, rfl, counts⟩ := related
      refine checkReady_related ?_
      dsimp only
      split_ifs <;> exact ⟨multiplier, depth, rfl, counts⟩
  | referenceData _ _ tickSize minTradeVol fresh =>
      -- from here on the multiplier counts, and it is the same
      cases handled
      refine ⟨_, rfl, ?_⟩
      obtain ⟨multiplier, depth, rfl, _⟩ := related
      exact checkReady_related ⟨fresh, depth, rfl, .inl rfl⟩
  | marketStatus _ _ tradingStatus =>
      cases handled
      refine ⟨_, rfl, ?_⟩
      obtain ⟨multiplier, depth, rfl, counts⟩ := related
      exact checkReady_related ⟨multiplier, depth, rfl, counts⟩
  | orderUpdate orderUpdate =>
      cases handled
      refine ⟨_, rfl, ?_⟩
      obtain ⟨multiplier, depth, rfl, counts⟩ := related
      unfold Instrument.onOrderUpdate
      cases orderUpdate.side <;> exact ⟨multiplier, depth, rfl, counts⟩
  | positionUpdate account longQuantity shortQuantity =>
      cases handled
      refine ⟨_, rfl, ?_⟩
      obtain ⟨multiplier, depth, rfl, counts⟩ := related
      unfold Instrument.onPositionUpdate
      dsimp only
      split <;> exact ⟨multiplier, depth, rfl, counts⟩

/-- The constant members. -/
def config (i : Instrument Book) : String × String × String × Bool :=
  (i.exchange, i.symbol, i.account, i.allowPriceInversion)

/-- No message changes the constant members, and only an update of the book the depth. -/
private theorem handle_frame {i after : Instrument Book} {message : Message Update}
    (handled : i.handle mbp message = .ok after) :
    config after = config i ∧ (isBookUpdate message = false → after.depth = i.depth) := by
  cases message with
  | marketByPriceUpdate _ _ update =>
      obtain rfl := Instrument.onMarketByPriceUpdate_ok handled
      exact ⟨rfl, fun other => Bool.noConfusion other⟩
  | connected =>
      cases handled
      unfold Instrument.onConnected
      split <;> exact ⟨rfl, fun _ => rfl⟩
  | disconnected =>
      cases handled
      unfold Instrument.onDisconnected
      split <;> exact ⟨rfl, fun _ => rfl⟩
  | downloadBegin account =>
      cases handled
      unfold Instrument.onDownloadBegin
      split <;> exact ⟨rfl, fun _ => rfl⟩
  | downloadEnd account maxOrderId =>
      cases handled
      unfold Instrument.onDownloadEnd
      split <;> exact ⟨rfl, fun _ => rfl⟩
  | gatewayStatus account available unavailable =>
      cases handled
      unfold Instrument.onGatewayStatus
      dsimp only
      split_ifs <;> exact ⟨rfl, fun _ => rfl⟩
  | referenceData _ _ _ _ _ | marketStatus _ _ _ =>
      cases handled
      exact ⟨rfl, fun _ => rfl⟩
  | orderUpdate orderUpdate =>
      cases handled
      unfold Instrument.onOrderUpdate
      cases orderUpdate.side <;> exact ⟨rfl, fun _ => rfl⟩
  | positionUpdate account longQuantity shortQuantity =>
      cases handled
      unfold Instrument.onPositionUpdate
      split <;> exact ⟨rfl, fun _ => rfl⟩

private theorem handle_of_next {i after : Instrument Book} {message : Message Update}
    (taken : next mbp i message = some after) : i.handle mbp message = .ok after :=
  ok_of_toOption taken

private theorem next_of_handle {i after : Instrument Book} {message : Message Update}
    (handled : i.handle mbp message = .ok after) : next mbp i message = some after := by
  rw [next, handled]
  rfl

private theorem run_config {i after : Instrument Book} {messages : List (Message Update)}
    (reached : run (next mbp) i messages = some after) : config after = config i :=
  run_invariant (I := fun j => config j = config i)
    (fun _ _ _ same taken => (handle_frame mbp (handle_of_next mbp taken)).1.trans same) rfl reached

/-- The depth survives until the next update of the book. -/
private theorem run_depth {i after : Instrument Book} {messages : List (Message Update)}
    (reached : run (next mbp) i messages = some after)
    (none_updates : messages.any isBookUpdate = false) : after.depth = i.depth := by
  induction messages generalizing i with
  | nil =>
      cases reached
      rfl
  | cons message messages ih =>
      rw [List.any_cons, Bool.or_eq_false_iff] at none_updates
      obtain ⟨j, taken, rest⟩ := run_cons_eq_some.mp reached
      have here := (handle_frame mbp (handle_of_next mbp taken)).2 none_updates.1
      exact (ih rest none_updates.2).trans here

private theorem related_run {a a' b : Instrument Book} {messages : List (Message Update)}
    (related : Related a b) (reached : run (next mbp) a messages = some a') :
    ∃ b', run (next mbp) b messages = some b' ∧ Related a' b' := by
  refine run_simulation ?_ related reached
  intro a b message a' related taken
  obtain ⟨b', handled', after⟩ := handle_related mbp related (handle_of_next mbp taken)
  exact ⟨b', next_of_handle mbp handled', after⟩

/-- Once the depths agree they stay the same. -/
private theorem same_depth_run {a a' b : Instrument Book} {messages : List (Message Update)}
    (related : Related a b) (same : a.depth = b.depth)
    (reached : run (next mbp) a messages = some a') :
    ∃ b', run (next mbp) b messages = some b' ∧ Related a' b' ∧ a'.depth = b'.depth := by
  refine run_simulation (R := fun a b => Related a b ∧ a.depth = b.depth) ?_ ⟨related, same⟩ reached
  rintro a b message a' ⟨related, same⟩ taken
  have handled := handle_of_next mbp taken
  by_cases update : isBookUpdate message = true
  · cases message with
    | marketByPriceUpdate _ _ _ =>
        obtain ⟨b', handled', after, same'⟩ := book_related mbp related handled
        exact ⟨b', next_of_handle mbp handled', after, same'⟩
    | _ => cases update
  · have other : isBookUpdate message = false := by simpa using update
    obtain ⟨b', handled', after⟩ := handle_related mbp related handled
    refine ⟨b', next_of_handle mbp handled', after, ?_⟩
    rw [(handle_frame mbp handled).2 other, (handle_frame mbp handled').2 other, same]

/-- An update of the book makes the depths agree. -/
private theorem updated_run {a a' b : Instrument Book} {messages : List (Message Update)}
    (related : Related a b) (updates : messages.any isBookUpdate = true)
    (reached : run (next mbp) a messages = some a') :
    ∃ b', run (next mbp) b messages = some b' ∧ Related a' b' ∧ a'.depth = b'.depth := by
  obtain ⟨message, mem, updating⟩ := List.any_eq_true.mp updates
  obtain ⟨before, after, rfl⟩ := List.append_of_mem mem
  rw [run_append] at reached
  obtain ⟨a₁, reached₁, rest⟩ := Option.bind_eq_some_iff.mp reached
  obtain ⟨b₁, reached₁', related₁⟩ := related_run mbp related reached₁
  obtain ⟨a₂, taken, remaining⟩ := run_cons_eq_some.mp rest
  cases message with
  | marketByPriceUpdate exchange symbol update =>
      obtain ⟨b₂, handled, related₂, same⟩ := book_related mbp related₁ (handle_of_next mbp taken)
      have taken' : next mbp b₁ (.marketByPriceUpdate exchange symbol update) = some b₂ :=
        next_of_handle mbp handled
      obtain ⟨b', remaining', last⟩ := same_depth_run mbp related₂ same remaining
      refine ⟨b', ?_, last⟩
      rw [run_append, reached₁', Option.bind_some, run_cons taken', remaining']
  | _ => cases updating

/-- The disconnect forgets all but the multiplier and the depth. -/
private theorem disconnected_related {settings : Settings} {h₁ h₂ : List (Message Update)}
    {a b : Instrument Book} (cleared : ∀ book, mbp.clear book = mbp.empty)
    (first : Disconnects mbp settings h₁ a) (second : Disconnects mbp settings h₂ b) :
    Related a b := by
  obtain ⟨⟨before₁, i, rfl, reached₁, up₁⟩, last₁⟩ := first
  obtain ⟨⟨before₂, j, rfl, reached₂, up₂⟩, last₂⟩ := second
  rw [run_append, reached₁, Option.bind_some] at last₁
  rw [run_append, reached₂, Option.bind_some] at last₂
  have same : config j = config i :=
    (run_config mbp reached₂).trans (run_config mbp reached₁).symm
  simp only [config, Prod.mk.injEq] at same
  obtain ⟨exchange, symbol, account, inversion⟩ := same
  simp only [run, next, Instrument.handle, Instrument.onDisconnected, up₁, if_true,
    Except.toOption, Option.some.injEq] at last₁
  simp only [run, next, Instrument.handle, Instrument.onDisconnected, up₂, if_true,
    Except.toOption, Option.some.injEq] at last₂
  subst last₁ last₂
  refine ⟨j.multiplier, j.depth, ?_, .inr ⟨rfl, rfl⟩⟩
  simp only [Instrument.reset, cleared, exchange, symbol, account, inversion]

private theorem Related.sameView {a b : Instrument Book} (related : Related a b)
    (ready : a.ready = true) (same : a.depth = b.depth) : b.ready = true ∧ SameView a b := by
  obtain ⟨multiplier, depth, rfl, rfl | ⟨_, down⟩⟩ := related
  · cases same
    exact ⟨ready, rfl, fun _ => rfl, rfl, rfl, rfl, rfl, rfl, rfl⟩
  · exact Bool.noConfusion (down.symm.trans ready)

/-- Of two histories of the same configuration that end in a disconnect, and for every suffix:
nothing of the past shows while the instrument is ready exactly when both left the same depth
behind, or the book is always updated before the instrument is ready again. -/
theorem forgets_iff (settings : Settings) (cleared : ∀ book, mbp.clear book = mbp.empty)
    (h₁ h₂ suffix : List (Message Update)) (a b : Instrument Book)
    (first : Disconnects mbp settings h₁ a) (second : Disconnects mbp settings h₂ b) :
    Forgets mbp a b suffix ↔ a.depth = b.depth ∨ BookFirst mbp a suffix := by
  have related := disconnected_related mbp cleared first second
  constructor
  · intro forgets
    by_contra neither
    obtain ⟨differs, early⟩ := not_or.mp neither
    refine early fun prior inside a' reached ready => ?_
    by_contra none_updates
    have stale : prior.any isBookUpdate = false := by simpa using none_updates
    obtain ⟨b', reached', _, same⟩ := forgets prior inside a' reached ready
    have shown := same.depth
    rw [run_depth mbp reached stale, run_depth mbp reached' stale] at shown
    exact differs shown
  · intro either prior inside a' reached ready
    have agree : ∃ b', run (next mbp) b prior = some b' ∧ Related a' b' ∧ a'.depth = b'.depth := by
      rcases either with same | book_first
      · exact same_depth_run mbp related same reached
      · exact updated_run mbp related (book_first prior inside a' reached ready) reached
    obtain ⟨b', reached', related', same⟩ := agree
    obtain ⟨ready', view⟩ := related'.sameView ready same
    exact ⟨b', reached', ready', view⟩

end Histories

section Examples

open scoped RoqSamples.Client.Documented

/-- The download of a reconnect after which the instrument is ready. -/
def redownload : List (Message Depth) :=
  [.connected, .downloadBegin "", .referenceData "deribit" "BTC-PERPETUAL" 1 1 10,
    .marketStatus "deribit" "BTC-PERPETUAL" .«open», .downloadEnd "" 0,
    .gatewayStatus "" [.referenceData, .marketStatus, .marketByPrice] [],
    .gatewayStatus "A1" [.createOrder, .cancelOrder, .order, .position] []]

/-- A multiplier of the past never shows. -/
theorem forgets_multiplier : ∃ a b : Instrument Depth,
    Disconnects snapshots {} [.connected, .disconnected] a ∧
      Disconnects snapshots {}
        [.connected, .referenceData "deribit" "BTC-PERPETUAL" 1 1 7, .disconnected] b ∧
      Forgets snapshots a b redownload := by
  have first : Disconnects snapshots {} [.connected, .disconnected] _ :=
    ⟨⟨[.connected], _, rfl, rfl, rfl⟩, rfl⟩
  have second : Disconnects snapshots {}
      [.connected, .referenceData "deribit" "BTC-PERPETUAL" 1 1 7, .disconnected] _ :=
    ⟨⟨[.connected, .referenceData "deribit" "BTC-PERPETUAL" 1 1 7], _, rfl, rfl, rfl⟩, rfl⟩
  exact ⟨_, _, first, second,
    (forgets_iff snapshots {} (fun _ => rfl) _ _ redownload _ _ first second).mpr (.inl rfl)⟩

/-- A book with one level on each side. -/
def lastBook : Depth where
  first := { bidPrice := 99, bidQuantity := 1, askPrice := 101, askQuantity := 1 }

def firstConnection : List (Message Depth) :=
  [.connected, .marketByPriceUpdate "deribit" "BTC-PERPETUAL" lastBook, .disconnected]

/-- The best prices of the first connection are still shown while the instrument is ready after the
reconnect, and all assertions hold on the way. -/
theorem stale_depth_survives_disconnect :
    AllSteps (next snapshots) (fun i message => i.asserts message = true)
        (Instrument.new snapshots {}) (firstConnection ++ redownload) ∧
      ∃ a b : Instrument Depth, Disconnects snapshots {} firstConnection a ∧
        Disconnects snapshots {} [.connected, .disconnected] b ∧
        ¬ Forgets snapshots a b redownload := by
  refine ⟨by decide +kernel, ?_⟩
  obtain ⟨i, before, up⟩ : ∃ i, run (next snapshots) (Instrument.new snapshots {})
      [.connected, .marketByPriceUpdate "deribit" "BTC-PERPETUAL" lastBook] = some i ∧
        i.connected = true := reaches_of_any (by decide +kernel)
  obtain ⟨a', reached, ready, stale⟩ : ∃ a', run (next snapshots) (Instrument.new snapshots {})
      (firstConnection ++ redownload) = some a' ∧ a'.ready = true ∧ a'.bestBid = 99 :=
    reaches_of_any (by decide +kernel)
  rw [run_append] at reached
  obtain ⟨a, last, suffix⟩ := Option.bind_eq_some_iff.mp reached
  have second : Disconnects snapshots {} [.connected, .disconnected] _ :=
    ⟨⟨[.connected], _, rfl, rfl, rfl⟩, rfl⟩
  refine ⟨a, _, ⟨⟨_, i, rfl, before, up⟩, last⟩, second, ?_⟩
  intro forgets
  obtain ⟨b', reached', _, view⟩ := forgets redownload (List.prefix_refl _) a' suffix ready
  have unknown : (run (next snapshots)
      (Instrument.onDisconnected snapshots (Instrument.new snapshots {}).onConnected)
      redownload).map Instrument.bestBid = some .nan := by decide +kernel
  rw [reached', Option.map_some, ← view.bestBid, stale] at unknown
  cases unknown

end Examples

end RoqSamples.Example3.Reconnect
