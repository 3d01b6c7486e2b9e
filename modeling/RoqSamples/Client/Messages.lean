/- Client/Messages
   digest: The client interface of the samples: enumerations, requests, and messages received. -/
import RoqSamples.Arith.Double

set_option autoImplicit false
set_option relaxedAutoImplicit false

namespace RoqSamples.Client

open RoqSamples.Arith (Double)

inductive Side
  | undefined | buy | sell
  deriving DecidableEq

/-- `utils::sign`: +1 for BUY and -1 for SELL. -/
def Side.sign : Side → ℚ
  | .undefined => 0
  | .buy => 1
  | .sell => -1

inductive OrderStatus
  | undefined | sent | accepted | suspended | working | stopped
  | completed | expired | canceled | rejected
  deriving DecidableEq

inductive RequestStatus
  | undefined | forwarded | accepted | rejected | disconnected | timeout | failed
  deriving DecidableEq

inductive RequestType
  | undefined | createOrder | modifyOrder | cancelOrder
  deriving DecidableEq

/-- The errors that the samples tell apart; every other error keeps its code. -/
inductive Error
  | undefined
  | requestRateLimitReached
  | tooLateToModifyOrCancel
  | other (code : Nat)
  deriving DecidableEq

inductive UpdateType
  | undefined | snapshot | incremental | stale
  deriving DecidableEq

/-- Only OPEN and the default value matter to the samples. -/
inductive TradingStatus
  | undefined
  | «open»
  | other (code : Nat)
  deriving DecidableEq

inductive OrderType
  | undefined | limit
  deriving DecidableEq

inductive TimeInForce
  | undefined | gtc
  deriving DecidableEq

inductive ExecutionInstruction
  | participateDoNotInitiate
  deriving DecidableEq

/-- A request to create an order. Members that every sample leaves at their default are omitted. -/
structure CreateOrder where
  account : String
  orderId : Nat
  exchange : String
  symbol : String
  side : Side
  maxShowQuantity : Double
  orderType : OrderType
  timeInForce : TimeInForce
  executionInstructions : List ExecutionInstruction
  quantity : Double
  price : Double
  stopPrice : Double
  leverage : Double
  strategyId : Nat
  deriving DecidableEq

/-- A request to change the quantity or the price of an order; NaN leaves the member alone. -/
structure ModifyOrder where
  account : String
  orderId : Nat
  quantity : Double
  price : Double
  deriving DecidableEq

structure CancelOrder where
  account : String
  orderId : Nat
  deriving DecidableEq

structure CancelAllOrders where
  account : String
  exchange : String
  symbol : String
  deriving DecidableEq

structure OrderAck where
  orderId : Nat
  side : Side
  requestType : RequestType
  requestStatus : RequestStatus
  error : Error
  price : Double
  deriving DecidableEq

structure OrderUpdate where
  orderId : Nat
  side : Side
  updateType : UpdateType
  orderStatus : OrderStatus
  quantity : Double
  tradedQuantity : Double
  price : Double
  deriving DecidableEq

/-- `NotConnected`, the exception thrown by a send without connection. -/
inductive NotConnected
  | notConnected
  deriving DecidableEq

/-- The wrap-around of a `uint64_t`. -/
def uint64 (n : Nat) : Nat := n % 2 ^ 64

theorem uint64_succ_of_lt {n : Nat} (below : n + 1 < 2 ^ 64) : uint64 (n + 1) = n + 1 :=
  Nat.mod_eq_of_lt below

/-- A handler that succeeds after its result has been mapped succeeded before. -/
theorem ok_of_map {ε α β : Type} {result : Except ε α} {f : α → β} {b : β}
    (mapped : result.map f = .ok b) : ∃ a, result = .ok a ∧ f a = b := by
  cases result with
  | error e => cases mapped
  | ok a =>
      cases mapped
      exact ⟨a, rfl, rfl⟩

/-- A handler whose failure is forgotten returned what is left of it. -/
theorem ok_of_toOption {ε α : Type} {result : Except ε α} {a : α}
    (taken : result.toOption = some a) : result = .ok a := by
  cases result with
  | error e => cases taken
  | ok b =>
      cases taken
      rfl

end RoqSamples.Client
