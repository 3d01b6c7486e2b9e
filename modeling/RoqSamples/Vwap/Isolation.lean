/- Vwap/Isolation
   digest: Each line depends on one instrument alone exactly when no symbol has two exchanges. -/
import RoqSamples.Vwap.Processor

set_option autoImplicit false
set_option relaxedAutoImplicit false

namespace RoqSamples.Vwap.Isolation

open RoqSamples.Arith (Double)
open RoqSamples.Example3 (Layer)
open RoqSamples.Execution.Calls (Map)
open RoqSamples.Execution.KeyedStore

section Books

variable {Book Layers : Type} (mbp : MarketByPrice Book Layers)

/-- The processor keys its books by the symbol. -/
def bySymbol : Keyed String (Event Layers) Book where
  key event := event.marketByPriceUpdate.symbol
  create event := mbp.create event.marketByPriceUpdate.exchange event.marketByPriceUpdate.symbol
  update book event := mbp.update book event.marketByPriceUpdate

private theorem getMarketByPrice_value (p : Processor Book) (event : Event Layers) :
    p.getMarketByPrice mbp event.marketByPriceUpdate =
      (bySymbol mbp).value p.marketByPrice event := by
  unfold Processor.getMarketByPrice Keyed.value
  cases found : p.marketByPrice.lookup event.marketByPriceUpdate.symbol with
  | some book => simp [bySymbol, found]
  | none => simp [bySymbol, found]

private theorem handle_spec (p : Processor Book) (event : Event Layers) :
    p.handle mbp event =
      ({ p with marketByPrice := (bySymbol mbp).absorb p.marketByPrice event },
        line event (mbp.computeVwap
          ((bySymbol mbp).update ((bySymbol mbp).value p.marketByPrice event) event)
          p.quantity)) := by
  rw [← getMarketByPrice_value mbp p event]
  unfold Processor.handle Keyed.absorb
  rw [← getMarketByPrice_value mbp p event]
  rfl

/-- The line of an event, from the books that the events before it have left. -/
private theorem dispatch_at (p : Processor Book) (past rest : List (Event Layers))
    (event : Event Layers) :
    (p.dispatch mbp (past ++ event :: rest))[past.length]? =
      some (line event (mbp.computeVwap
        ((bySymbol mbp).update ((bySymbol mbp).value
          (past.foldl (bySymbol mbp).absorb p.marketByPrice) event) event) p.quantity)) := by
  induction past generalizing p with
  | nil =>
      rw [List.nil_append, Processor.dispatch, handle_spec]
      rfl
  | cons first past ih =>
      rw [List.cons_append, Processor.dispatch, List.length_cons, List.getElem?_cons_succ, ih,
        handle_spec, List.foldl_cons]

/-- The book that the line of an event is computed from has seen the updates of its symbol. -/
private theorem printed (quantity : Double) (past rest : List (Event Layers))
    (event : Event Layers) :
    ∃ book, (bySymbol mbp).replay ((bySymbol mbp).events (past ++ [event])
        event.marketByPriceUpdate.symbol) = some book ∧
      (({ quantity } : Processor Book).dispatch mbp (past ++ event :: rest))[past.length]? =
        some (line event (mbp.computeVwap book quantity)) := by
  refine ⟨_, ?_, dispatch_at mbp _ past rest event⟩
  rw [← (bySymbol mbp).lookup_foldl, List.foldl_append, List.foldl_cons, List.foldl_nil]
  exact (bySymbol mbp).lookup_absorb_same _ event

end Books

section Instruments

variable {Layers : Type}

/-- The updates of a symbol, whatever their exchange. -/
private def ofSymbol (symbol : String) (log : List (Event Layers)) : List (Event Layers) :=
  log.filter fun event => event.marketByPriceUpdate.symbol = symbol

private theorem events_ofSymbol {Book : Type} (mbp : MarketByPrice Book Layers)
    (log : List (Event Layers)) (symbol : String) :
    (bySymbol mbp).events log symbol = ofSymbol symbol log := rfl

/-- With one exchange for each symbol, the symbol alone tells the instrument. -/
private theorem ofSymbol_eq {log : List (Event Layers)} (single : OneExchange log)
    {event : Event Layers} (member : event ∈ log) {part : List (Event Layers)}
    (within : ∀ e ∈ part, e ∈ log) :
    ofSymbol event.marketByPriceUpdate.symbol part =
      ofInstrument event.marketByPriceUpdate.exchange event.marketByPriceUpdate.symbol part := by
  refine List.filter_congr fun e inPart => ?_
  by_cases same : e.marketByPriceUpdate.symbol = event.marketByPriceUpdate.symbol
  · have exchange := single e (within e inPart) event member same
    simp [same, exchange]
  · simp [same]

/-- A book made by the updates of one instrument alone is that instrument's own book. -/
private theorem replay_ofInstrument {Book : Type} (mbp : MarketByPrice Book Layers)
    {exchange symbol : String} {log : List (Event Layers)} {book : Book}
    (made : (bySymbol mbp).replay (ofInstrument exchange symbol log) = some book) :
    book = ownBook mbp exchange symbol log := by
  unfold ownBook
  cases updates : ofInstrument exchange symbol log with
  | nil =>
      rw [updates] at made
      cases made
  | cons first rest =>
      have inside : first ∈ ofInstrument exchange symbol log := by
        rw [updates]
        exact List.mem_cons_self
      have own := of_decide_eq_true (List.mem_filter.mp inside).2
      rw [updates] at made
      have built := Option.some.inj made
      rw [← built, ← own.1, ← own.2]
      rfl

/-- A book that knows only whether it was created for the exchange `x`. -/
private def probe (x : String) : MarketByPrice Bool Layers where
  create exchange _ := decide (exchange = x)
  update book _ := book
  computeVwap book _ := if book then { bidPrice := 1 } else {}

private theorem foldl_probe (x : String) (book : Bool) (log : List (Event Layers)) :
    log.foldl (bySymbol (probe x)).update book = book := by
  induction log with
  | nil => rfl
  | cons first log ih => exact ih

private theorem probe_vwap {x : String} {book other : Bool} {quantity : Double}
    {event : Event Layers}
    (same : line event ((probe x : MarketByPrice Bool Layers).computeVwap book quantity) =
      line event ((probe x : MarketByPrice Bool Layers).computeVwap other quantity)) :
    book = other := by
  have price : (if book then ({ bidPrice := 1 } : Layer) else {}).bidPrice =
      (if other then ({ bidPrice := 1 } : Layer) else {}).bidPrice :=
    congrArg Line.bidPrice same
  clear same
  revert price
  revert book other
  decide

private theorem ownBook_probe (exchange symbol : String) (log : List (Event Layers)) :
    ownBook (probe exchange) exchange symbol log = true := by
  refine (foldl_probe exchange _ (ofInstrument exchange symbol log)).trans ?_
  exact decide_eq_true rfl

/-- An isolated line needs the first update of the symbol to come from the same exchange. -/
private theorem first_exchange {log : List (Event Layers)}
    (isolated : ∀ (Book : Type) (mbp : MarketByPrice Book Layers) (quantity : Double),
      Isolated mbp quantity log) {event : Event Layers} (member : event ∈ log) :
    ∃ first, (ofSymbol event.marketByPriceUpdate.symbol log).head? = some first ∧
      first.marketByPriceUpdate.exchange = event.marketByPriceUpdate.exchange := by
  obtain ⟨past, rest, rfl⟩ := List.append_of_mem member
  have alone := isolated Bool (probe event.marketByPriceUpdate.exchange) 1 past event rest rfl
  obtain ⟨book, made, shown⟩ :=
    printed (probe event.marketByPriceUpdate.exchange) 1 past rest event
  rw [shown] at alone
  have agree := (probe_vwap (Option.some.inj alone)).trans (ownBook_probe _ _ _)
  subst agree
  rw [events_ofSymbol] at made
  have split : past ++ event :: rest = past ++ [event] ++ rest := by simp
  cases updates : ofSymbol event.marketByPriceUpdate.symbol (past ++ [event]) with
  | nil =>
      rw [updates] at made
      cases made
  | cons first more =>
      rw [updates] at made
      refine ⟨first, ?_, ?_⟩
      · rw [split, ofSymbol, List.filter_append]
        rw [ofSymbol] at updates
        rw [updates]
        rfl
      · have created := (foldl_probe event.marketByPriceUpdate.exchange _
          (first :: more)).symm.trans (Option.some.inj made)
        exact of_decide_eq_true created

/-- Whatever the book does, every line is that of a fresh book of its instrument, exactly when no
symbol of the log comes from two exchanges. -/
theorem isolated_iff (log : List (Event Layers)) :
    (∀ (Book : Type) (mbp : MarketByPrice Book Layers) (quantity : Double),
      Isolated mbp quantity log) ↔ OneExchange log := by
  constructor
  · intro isolated first firstIn second secondIn same
    obtain ⟨head, here, exchange⟩ := first_exchange isolated firstIn
    obtain ⟨other, there, exchange'⟩ := first_exchange isolated secondIn
    rw [same, there] at here
    rw [← exchange, ← exchange', Option.some.inj here]
  · intro single Book mbp quantity past event rest whole
    obtain ⟨book, made, shown⟩ := printed mbp quantity past rest event
    have member : event ∈ log := by
      rw [whole]
      simp
    have within : ∀ e ∈ past ++ [event], e ∈ log := by
      intro e inPart
      rw [whole]
      simp only [List.mem_append, List.mem_cons] at inPart ⊢
      tauto
    rw [events_ofSymbol, ofSymbol_eq single member within] at made
    rw [whole, shown, replay_ofInstrument mbp made]

end Instruments

section Examples

private def update (exchange symbol : String) (receiveTime : Int) : Event Nat where
  receiveTime
  marketByPriceUpdate := { exchange, symbol, layers := 0 }

/-- The second exchange's line is computed from the first exchange's book. -/
theorem book_of_two_exchanges :
    ¬ ∀ (log : List (Event Nat)) (Book : Type) (mbp : MarketByPrice Book Nat) (quantity : Double),
      Isolated mbp quantity log := by
  intro isolated
  have alone := isolated [update "deribit" "BTC" 1, update "cme" "BTC" 2] Bool (probe "cme") 1
    [update "deribit" "BTC" 1] (update "cme" "BTC" 2) [] rfl
  revert alone
  decide

end Examples

end RoqSamples.Vwap.Isolation
