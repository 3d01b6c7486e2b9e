/- Maker/Requests
   digest: What the timers of the maker send, also when the second quote ends in log::fatal after
     the first one has sent. -/
import RoqSamples.Maker.QuoteRepresentation

set_option autoImplicit false
set_option relaxedAutoImplicit false

namespace RoqSamples.Maker.Requests

open RoqSamples.Arith (Double)
open RoqSamples.Client
open RoqSamples.Maker.QuoteRepresentation (next Creates)

/-- The effects of a timer, those before a log::fatal included. -/
def timerEffects (s : Strategy) (now : Int) (bidConnected askConnected : Bool) : List Effect :=
  if s.canTrade then
    match s.bid.onTimer s.shared now bidConnected with
    | .error _ => []
    | .ok (_, shared, bidEffects) =>
        match s.ask.onTimer shared now askConnected with
        | .error _ => bidEffects
        | .ok (_, _, askEffects) => bidEffects ++ askEffects
  else []

def emitted (s : Strategy) : Event → List Effect
  | .timer now bidConnected askConnected => timerEffects s now bidConnected askConnected
  | .ready connected => (s.onReady connected).2
  | _ => []

/-- The timer of a quote that an event reaches, with the shared state it meets. -/
inductive TimerOf (s : Strategy) : Event → Quote → Shared → Int → Bool → Prop
  | bid {now : Int} {bidConnected askConnected : Bool} (trading : s.canTrade = true) :
      TimerOf s (.timer now bidConnected askConnected) s.bid s.shared now bidConnected
  | ask {now : Int} {bidConnected askConnected : Bool} {bid : Quote.Outcome}
      (trading : s.canTrade = true)
      (bidHandled : s.bid.onTimer s.shared now bidConnected = .ok bid) :
      TimerOf s (.timer now bidConnected askConnected) s.ask bid.2.1 now askConnected

section Emitted

variable {roundAway : Side → Double → Double → Double}

theorem next_handled [Utils] {s t : Strategy} {e : Event} (taken : next roundAway s e = some t) :
    ∃ effects, s.handle roundAway e = .ok (t, effects) := by
  unfold next at taken
  split at taken
  · rename_i handled
    cases taken
    exact ⟨_, handled⟩
  · cases taken

/-- The effects of a timer are those of the quotes whose timers are reached. -/
theorem mem_emitted_timer {s : Strategy} {now : Int} {bidConnected askConnected : Bool}
    {effect : Effect} :
    effect ∈ emitted s (.timer now bidConnected askConnected) ↔
      ∃ quote shared at_time connected outcome,
        TimerOf s (.timer now bidConnected askConnected) quote shared at_time connected ∧
          quote.onTimer shared at_time connected = .ok outcome ∧ effect ∈ outcome.2.2 := by
  constructor
  · intro mem
    rw [emitted, timerEffects] at mem
    split at mem
    · rename_i trading
      split at mem
      · cases mem
      rename_i bidHandled
      split at mem
      · exact ⟨_, _, _, _, _, .bid trading, bidHandled, mem⟩
      · rename_i askHandled
        rcases List.mem_append.mp mem with mem | mem
        · exact ⟨_, _, _, _, _, .bid trading, bidHandled, mem⟩
        · exact ⟨_, _, _, _, _, .ask trading bidHandled, askHandled, mem⟩
    · cases mem
  · rintro ⟨_, _, _, _, outcome, reached, handled, mem⟩
    rw [emitted, timerEffects]
    cases reached with
    | bid trading =>
        rw [if_pos trading, handled]
        dsimp only
        split
        · exact mem
        · exact List.mem_append_left _ mem
    | ask trading bidHandled =>
        rw [if_pos trading, bidHandled]
        dsimp only
        rw [handled]
        exact List.mem_append_right _ mem

end Emitted

/-- A quote sends a CreateOrder exactly when its timer makes it take an order id. -/
theorem mem_createOrder {quote : Quote} {shared : Shared} {now : Int} {connected : Bool}
    {outcome : Quote.Outcome} (handled : quote.onTimer shared now connected = .ok outcome)
    {request : CreateOrder} :
    .createOrder request ∈ outcome.2.2 ↔ Creates quote shared now connected ∧
      request = Quote.createOrderRequest quote.side (uint64 (shared.maxOrderId + 1))
        quote.targetPrice := by
  rcases Quote.onTimer_cases handled with ⟨flag, rfl⟩ | ⟨flag, acted, act, rfl⟩
  · simp [Creates, flag]
  · cases act with
    | idle unsent => simp [Creates, unsent]
    | create state target free sent =>
        simp [Creates, Quote.created, Quote.Sends, flag, state, free, sent]
    | cancel state order free sent => simp [Creates, Quote.canceled, state]

/-- A quote that takes an order id has a price. -/
theorem creates_target {quote : Quote} {shared : Shared} {now : Int} {connected : Bool}
    {outcome : Quote.Outcome} (creates : Creates quote shared now connected)
    (handled : quote.onTimer shared now connected = .ok outcome) : quote.targetPrice ≠ .nan := by
  intro target
  obtain ⟨e, failed⟩ := Quote.onTimer_error_iff.mpr ⟨creates.1, creates.2.1, target⟩
  cases failed.symm.trans handled

end RoqSamples.Maker.Requests
