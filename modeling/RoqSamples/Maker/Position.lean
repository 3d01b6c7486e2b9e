/- Maker/Position
   digest: The position counts the orders that were filled in full, and it is the net position
     exactly when the trades of all other orders cancel out. -/
import RoqSamples.Execution.Closing
import RoqSamples.Execution.Runs
import RoqSamples.Maker.Strategy
import Mathlib.Tactic.Linarith

set_option autoImplicit false
set_option relaxedAutoImplicit false

namespace RoqSamples.Maker.Position

open RoqSamples.Arith (Double)
open RoqSamples.Client
open RoqSamples.Execution.Closing
open RoqSamples.Execution.Runs

def next [Utils] (s : Strategy) (orderUpdate : OrderUpdate) : Option Strategy :=
  match s.onOrderUpdate orderUpdate with
  | .ok t => some t
  | .error _ => none

/-- The incremental updates of any number of orders, all of which have ended: the traded quantity
of an order never decreases, never exceeds its quantity, and is the quantity when it completes. -/
structure Reported [Utils] (updates : List OrderUpdate) : Prop where
  incremental : ∀ u ∈ updates, u.updateType = .incremental
  sided : ∀ u ∈ updates, u.side ≠ .undefined
  traded : ∀ u ∈ updates, ∃ quantity traded : ℚ, u.quantity = .num quantity ∧
    u.tradedQuantity = .num traded ∧ 0 ≤ traded ∧ traded ≤ quantity ∧
      (u.orderStatus = .completed → traded = quantity)
  cumulative : updates.Pairwise fun earlier later => earlier.orderId = later.orderId →
    earlier.side = later.side ∧ earlier.quantity = later.quantity ∧
      earlier.tradedQuantity.orZero ≤ later.tradedQuantity.orZero
  closed : Closed OrderUpdate.orderId (fun u => Utils.isOrderComplete u.orderStatus) updates

/-- The signed quantity that an order has traded by the time of an update. -/
def signedTraded (u : OrderUpdate) : ℚ := u.side.sign * u.tradedQuantity.orZero

/-- The sum over all orders of the signed quantity that each has traded in the end. -/
def net (updates : List OrderUpdate) : ℚ :=
  ((keys OrderUpdate.orderId updates).map fun orderId =>
    ((last OrderUpdate.orderId updates orderId).map signedTraded).getD 0).sum

/-- The updates that end an order. -/
def ended [Utils] (updates : List OrderUpdate) : List OrderUpdate :=
  updates.filter fun u => Utils.isOrderComplete u.orderStatus

/-- What the orders traded that were canceled, expired or rejected. -/
def uncounted [Utils] (updates : List OrderUpdate) : ℚ :=
  (((ended updates).filter fun u => u.orderStatus ≠ .completed).map signedTraded).sum

/-- What the orders traded that were completed. -/
def counted [Utils] (updates : List OrderUpdate) : ℚ :=
  (((ended updates).filter fun u => u.orderStatus = .completed).map signedTraded).sum

private theorem net_eq [Utils] {updates : List OrderUpdate} (reported : Reported updates) :
    net updates = counted updates + uncounted updates := by
  have over_ended : net updates = ((ended updates).map signedTraded).sum := by
    rw [net, reported.closed.sum_keys fun entry => (entry.map signedTraded).getD 0]
    rfl
  have split := List.filter_append_perm (fun u : OrderUpdate => u.orderStatus = .completed)
    (ended updates)
  rw [over_ended, counted, uncounted, ← List.sum_append, ← List.map_append]
  refine (List.Perm.sum_eq (List.Perm.map _ ?_)).symm
  simpa using split

/-- One update adds the signed quantity of an order that it completes. -/
def share (u : OrderUpdate) : ℚ :=
  if u.orderStatus = .completed then u.side.sign * u.quantity.orZero else 0

private theorem fill_position {quote : Quote} {shared : Shared} {u : OrderUpdate} {p quantity : ℚ}
    (position : shared.position = .num p) (side : quote.side = u.side)
    (number : u.quantity = .num quantity) :
    (quote.fill shared u).position = .num (p + share u) := by
  unfold Quote.fill share
  split
  · simp [position, side, number]
  · simpa using position

private theorem onOrderUpdate_position [Utils] {quote : Quote} {shared : Shared} {u : OrderUpdate}
    (incremental : u.updateType = .incremental) :
    (quote.onOrderUpdate shared u).2.position = (quote.fill shared u).position := by
  unfold Quote.onOrderUpdate
  rw [if_neg (by simp [incremental])]
  dsimp only
  split <;> rfl

private theorem next_position [Utils] {s : Strategy} {u : OrderUpdate} {p quantity : ℚ}
    (sided : s.Sided) (position : s.shared.position = .num p)
    (incremental : u.updateType = .incremental) (side : u.side ≠ .undefined)
    (number : u.quantity = .num quantity) :
    ∃ t, next s u = some t ∧ t.Sided ∧ t.shared.position = .num (p + share u) := by
  cases at_side : u.side with
  | undefined => exact (side at_side).elim
  | buy =>
      have taken : next s u = some
          { s with
            shared := (s.bid.onOrderUpdate s.shared u).2
            bid := (s.bid.onOrderUpdate s.shared u).1 } := by
        simp only [next, Strategy.onOrderUpdate, at_side, Strategy.getQuote, Strategy.setQuote]
      refine ⟨_, taken, ⟨(Quote.onOrderUpdate_side _ _ _).trans sided.bid, sided.ask⟩, ?_⟩
      exact (onOrderUpdate_position incremental).trans
        (fill_position position (sided.bid.trans at_side.symm) number)
  | sell =>
      have taken : next s u = some
          { s with
            shared := (s.ask.onOrderUpdate s.shared u).2
            ask := (s.ask.onOrderUpdate s.shared u).1 } := by
        simp only [next, Strategy.onOrderUpdate, at_side, Strategy.getQuote, Strategy.setQuote]
      refine ⟨_, taken, ⟨sided.bid, (Quote.onOrderUpdate_side _ _ _).trans sided.ask⟩, ?_⟩
      exact (onOrderUpdate_position incremental).trans
        (fill_position position (sided.ask.trans at_side.symm) number)

private theorem run_position [Utils] {s : Strategy} {p : ℚ} {updates : List OrderUpdate}
    (sided : s.Sided) (position : s.shared.position = .num p)
    (wellFormed : ∀ u ∈ updates, u.updateType = .incremental ∧ u.side ≠ .undefined ∧
      ∃ quantity : ℚ, u.quantity = .num quantity) :
    ∃ t, run next s updates = some t ∧
      t.shared.position = .num (p + (updates.map share).sum) := by
  induction updates generalizing s p with
  | nil => exact ⟨s, rfl, by simpa using position⟩
  | cons u updates ih =>
      obtain ⟨incremental, side, quantity, number⟩ := wellFormed u List.mem_cons_self
      obtain ⟨m, taken, m_sided, m_position⟩ :=
        next_position sided position incremental side number
      obtain ⟨t, reached, after⟩ := ih m_sided m_position
        fun v mem => wellFormed v (List.mem_cons_of_mem u mem)
      refine ⟨t, by rw [run_cons taken, reached], ?_⟩
      rw [after, List.map_cons, List.sum_cons, add_assoc]

private theorem sum_share [Utils] {updates : List OrderUpdate}
    (traded : ∀ u ∈ updates, u.orderStatus = .completed → u.tradedQuantity = u.quantity) :
    (updates.map share).sum = counted updates := by
  induction updates with
  | nil => rfl
  | cons u updates ih =>
      have rest := ih fun v mem => traded v (List.mem_cons_of_mem u mem)
      rw [List.map_cons, List.sum_cons, rest]
      by_cases completed : u.orderStatus = .completed
      · simp [share, counted, ended, completed, Utils.isOrderComplete_completed, signedTraded,
          traded u List.mem_cons_self completed]
      · by_cases complete : Utils.isOrderComplete u.orderStatus = true
        · simp [share, counted, ended, completed, complete]
        · simp [share, counted, ended, completed, complete]

/-- For every sequence of reported updates: the maker handles all of them, and its position is the
net position exactly when what was traded by the orders that did not complete cancels out. -/
theorem position_is_net_iff [Utils] (s : Strategy) (p : ℚ) (updates : List OrderUpdate)
    (sided : s.Sided) (position : s.shared.position = .num p) (reported : Reported updates) :
    (∃ t, run next s updates = some t ∧ t.shared.position = .num (p + net updates)) ↔
      uncounted updates = 0 := by
  have wellFormed : ∀ u ∈ updates, u.updateType = .incremental ∧ u.side ≠ .undefined ∧
      ∃ quantity : ℚ, u.quantity = .num quantity := by
    intro u mem
    obtain ⟨quantity, _, number, _⟩ := reported.traded u mem
    exact ⟨reported.incremental u mem, reported.sided u mem, quantity, number⟩
  have in_full : ∀ u ∈ updates, u.orderStatus = .completed → u.tradedQuantity = u.quantity := by
    intro u mem completed
    obtain ⟨quantity, traded, number, at_traded, _, _, full⟩ := reported.traded u mem
    rw [at_traded, number, full completed]
  obtain ⟨t, reached, after⟩ := run_position sided position wellFormed
  rw [sum_share in_full] at after
  rw [net_eq reported]
  constructor
  · rintro ⟨t', reached', claimed⟩
    obtain rfl : t = t' := Option.some.inj (reached.symm.trans reached')
    have same := Double.num.inj (after.symm.trans claimed)
    linarith
  · intro none_lost
    refine ⟨t, reached, ?_⟩
    rw [after, none_lost, add_zero]

section Examples

open scoped RoqSamples.Client.Documented

/-- A BUY order trades 2/5 of its quantity, a SELL order fills, and then the BUY order ends. -/
def twoOrders (orderStatus : OrderStatus) (traded : ℚ) : List OrderUpdate :=
  [⟨1, .buy, .incremental, .working, 1, .num (2 / 5), 99⟩,
    ⟨2, .sell, .incremental, .completed, 1, 1, 101⟩,
    ⟨1, .buy, .incremental, orderStatus, 1, .num traded, 99⟩]

private theorem twoOrders_reported {orderStatus : OrderStatus} {traded : ℚ}
    (complete : Utils.isOrderComplete orderStatus = true) (low : 2 / 5 ≤ traded) (high : traded ≤ 1)
    (full : orderStatus = .completed → traded = 1) : Reported (twoOrders orderStatus traded) where
  incremental := by simp [twoOrders]
  sided := by simp [twoOrders]
  traded := by
    intro u mem
    simp only [twoOrders, List.mem_cons, List.not_mem_nil, or_false] at mem
    rcases mem with rfl | rfl | rfl
    · exact ⟨1, 2 / 5, rfl, rfl, by norm_num, by norm_num, by simp⟩
    · exact ⟨1, 1, rfl, rfl, by norm_num, by norm_num, by simp⟩
    · exact ⟨1, traded, rfl, rfl, by linarith, high, full⟩
  cumulative := by simpa [twoOrders] using low
  closed := by
    have working : Utils.isOrderComplete .working = false := rfl
    have completed : Utils.isOrderComplete .completed = true := rfl
    refine ⟨by simp [twoOrders, working], ?_⟩
    simp [twoOrders, completed, complete]

/-- When the BUY order fills too, the maker ends flat, and so does the account. -/
theorem position_is_net_when_filled :
    ∃ t, run next {} (twoOrders .completed 1) = some t ∧
      t.shared.position = .num (0 + net (twoOrders .completed 1)) :=
  (position_is_net_iff {} 0 (twoOrders .completed 1) Strategy.initial_sided rfl
    (twoOrders_reported rfl (by norm_num) le_rfl fun _ => rfl)).mpr (by decide +kernel)

/-- When the BUY order is canceled, the maker takes its position for -1 although it is -3/5. -/
theorem partial_fill_is_not_counted :
    Reported (twoOrders .canceled (2 / 5)) ∧
      (run next {} (twoOrders .canceled (2 / 5))).map (·.shared.position) = some (.num (-1)) ∧
      ¬ ∃ t, run next {} (twoOrders .canceled (2 / 5)) = some t ∧
        t.shared.position = .num (net (twoOrders .canceled (2 / 5))) := by
  have position : (run next {} (twoOrders .canceled (2 / 5))).map (·.shared.position) =
      some (.num (-1)) := by decide +kernel
  have account : net (twoOrders .canceled (2 / 5)) = -3 / 5 := by decide +kernel
  refine ⟨twoOrders_reported rfl le_rfl (by norm_num) (by simp), position, ?_⟩
  rintro ⟨t, reached, same⟩
  rw [reached, Option.map_some, same, account, Option.some.injEq, Double.num.injEq] at position
  norm_num at position

end Examples

end RoqSamples.Maker.Position
