/- Example7/Strategy
   digest: The publisher of example-7: custom metrics and a matrix of the last three mid prices for
     every TopOfBook. -/
import RoqSamples.Client.Messages

set_option autoImplicit false
set_option relaxedAutoImplicit false

namespace RoqSamples.Example7

open RoqSamples.Arith (Double)
open RoqSamples.Client (UpdateType)

/-- The flags that the strategy reads, with their defaults; `symbol` is a regex, so that the events
of several symbols can arrive. -/
structure Settings where
  account : String := ""
  label : String := "ToB"
  subscriber : Bool := false

/-- Exchange and symbol. -/
abbrev Key := String × String

/-- A double of `data_`. The code does not keep the instrument of the event that it comes from; what
the array holds before any event has none. -/
structure Cell where
  value : Double
  origin : Option Key
  deriving DecidableEq

structure Measurement where
  name : String
  value : Double
  deriving DecidableEq

structure CustomMetrics where
  label : String
  account : String
  exchange : String
  symbol : String
  measurements : Vector Measurement 2
  updateType : UpdateType
  deriving DecidableEq

structure CustomMatrix where
  label : String
  account : String
  exchange : String
  symbol : String
  rows : Vector String 3
  columns : List String
  data : Vector Cell 3
  updateType : UpdateType
  version : Nat
  deriving DecidableEq

inductive Effect
  | customMetrics (customMetrics : CustomMetrics)
  | customMatrix (customMatrix : CustomMatrix)
  deriving DecidableEq

structure TopOfBook where
  exchange : String
  symbol : String
  bidPrice : Double
  askPrice : Double
  deriving DecidableEq

def TopOfBook.key (topOfBook : TopOfBook) : Key := (topOfBook.exchange, topOfBook.symbol)

def TopOfBook.mid (topOfBook : TopOfBook) : Double :=
  .num (1 / 2) * (topOfBook.bidPrice + topOfBook.askPrice)

/-- The events of the client that the strategy does more with than to log them. A TopOfBook tells
whether each of the two sends would go through. -/
inductive Event
  | downloadBegin
  | downloadEnd
  | topOfBook (topOfBook : TopOfBook) (metricsConnected matrixConnected : Bool)
  deriving DecidableEq

structure Strategy where
  settings : Settings
  measurements : Vector Measurement 2 := #v[⟨"bp", .nan⟩, ⟨"ap", .nan⟩]
  rows : Vector String 3 := #v["0", "-1", "-2"]
  data : Vector Cell 3
  version : Nat := 0
  downloading : Bool := false

namespace Strategy

/-- Nothing initializes `data_`. -/
def initialData (garbage : Vector Double 3) : Vector Cell 3 :=
  garbage.map fun value => { value := value, origin := none }

def new (settings : Settings) (garbage : Vector Double 3) : Strategy where
  settings := settings
  data := initialData garbage

/-- `std::shift_right` by one, and the new first element. -/
def shiftRight (first : Cell) (data : Vector Cell 3) : Vector Cell 3 := #v[first, data[0], data[1]]

def customMetrics (s : Strategy) (topOfBook : TopOfBook) : CustomMetrics where
  label := s.settings.label
  account := s.settings.account
  exchange := topOfBook.exchange
  symbol := topOfBook.symbol
  measurements := s.measurements
  updateType := .incremental

def customMatrix (s : Strategy) (topOfBook : TopOfBook) : CustomMatrix where
  label := s.settings.label
  account := s.settings.account
  exchange := topOfBook.exchange
  symbol := topOfBook.symbol
  rows := s.rows
  columns := []
  data := s.data
  updateType := .incremental
  version := s.version

/-- The measurements, the shifted data and the next version. -/
def measure (s : Strategy) (topOfBook : TopOfBook) : Strategy :=
  { s with
    measurements := #v[{ s.measurements[0] with value := topOfBook.bidPrice },
      { s.measurements[1] with value := topOfBook.askPrice }]
    data := shiftRight { value := topOfBook.mid, origin := some topOfBook.key } s.data
    version := (s.version + 1) % 2 ^ 32 }

/-- The state has been changed when a send throws, and the matrix follows the metrics. -/
def onTopOfBook (s : Strategy) (topOfBook : TopOfBook) (metricsConnected matrixConnected : Bool) :
    Strategy × List Effect :=
  if s.settings.subscriber then (s, [])
  else if s.downloading then (s, [])
  else
    let measured := s.measure topOfBook
    let effects :=
      if metricsConnected = false then []
      else if matrixConnected = false then
        [.customMetrics (measured.customMetrics topOfBook)]
      else
        [.customMetrics (measured.customMetrics topOfBook),
          .customMatrix (measured.customMatrix topOfBook)]
    (measured, effects)

def handle (s : Strategy) : Event → Strategy × List Effect
  | .downloadBegin => ({ s with downloading := true }, [])
  | .downloadEnd => ({ s with downloading := false }, [])
  | .topOfBook topOfBook metricsConnected matrixConnected =>
      s.onTopOfBook topOfBook metricsConnected matrixConnected

theorem toList_shiftRight (first : Cell) (data : Vector Cell 3) :
    (shiftRight first data).toList = first :: data.toList.take 2 := by
  have length := data.length_toList
  generalize cells : data.toList = list at length
  match list, length with
  | [a, b, c], _ =>
      have all : data = #v[a, b, c] := Vector.toList_inj.mp cells
      rw [all]
      rfl

end Strategy

end RoqSamples.Example7
