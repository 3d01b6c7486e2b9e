/- AlgoProto/Configuration
   digest: The configuration file of the bridge: which TOML tables are accepted, and as what. -/
import RoqSamples.Algo.Framework
import Mathlib.Data.List.Forall2

set_option autoImplicit false
set_option relaxedAutoImplicit false

namespace RoqSamples.AlgoProto

open RoqSamples.Algo
open RoqSamples.Arith (Double)
open RoqSamples.Execution.Calls (Map emplace)

/-- The nodes of a TOML document as far as the configuration tells them apart. An integer can be
read as a number, and a table has its keys in order. -/
inductive Node
  | string (value : String)
  | number (value : Double)
  | array (items : List Node)
  | table (entries : List (String × Node))
  | other

/-- Why no configuration comes out: log::fatal, or a node of another type, whose absent value is
dereferenced. -/
inductive Rejection
  | unexpectedKey (key : String)
  | exchangeAndSymbolRequired
  | instrumentsEmpty
  | strategiesExpected
  | undefined
  deriving DecidableEq

/-- The text of log::fatal. -/
def Rejection.text : Rejection → Option String
  | .unexpectedKey key => some ("Unexpected: key=\"" ++ key ++ "\"")
  | .exchangeAndSymbolRequired => some "Unexpected: exchange and symbol required"
  | .instrumentsEmpty => some "Unexpected: instruments is empty"
  | .strategiesExpected => some "Expected: strategies"
  | .undefined => none

namespace Node

def asString : Node → Except Rejection String
  | .string value => .ok value
  | _ => .error .undefined

def asNumber : Node → Except Rejection Double
  | .number value => .ok value
  | _ => .error .undefined

def asArray : Node → Except Rejection (List Node)
  | .array items => .ok items
  | _ => .error .undefined

def asTable : Node → Except Rejection (List (String × Node))
  | .table entries => .ok entries
  | _ => .error .undefined

end Node

/-- An instrument while its table is read. -/
structure InstrumentFields where
  exchange : String := ""
  symbol : String := ""
  weight : Double := .nan

/-- One entry of the table of an instrument. -/
def readInstrument (result : InstrumentFields) (entry : String × Node) :
    Except Rejection InstrumentFields :=
  if entry.1 = "exchange" then
    entry.2.asString.map fun exchange => { result with exchange }
  else if entry.1 = "symbol" then
    entry.2.asString.map fun symbol => { result with symbol }
  else if entry.1 = "weight" then
    entry.2.asNumber.map fun weight => { result with weight }
  else .error (.unexpectedKey entry.1)

def parseInstrument (node : Node) : Except Rejection Instrument := do
  let entries ← node.asTable
  let result ← entries.foldlM readInstrument {}
  if named : result.exchange ≠ "" ∧ result.symbol ≠ "" then
    .ok { exchange := result.exchange, symbol := result.symbol, weight := result.weight, named }
  else .error .exchangeAndSymbolRequired

def parseItems : List Node → Except Rejection (List Instrument)
  | [] => .ok []
  | item :: items => do
      let instrument ← parseInstrument item
      let instruments ← parseItems items
      return instrument :: instruments

def parseInstruments (node : Node) : Except Rejection (List Instrument) := do
  let items ← node.asArray
  parseItems items

/-- A strategy while its table is read. -/
structure StrategyFields where
  type : String := ""
  instruments : List Instrument := []

/-- One entry of the table of a strategy. -/
def readStrategy (strategy : StrategyFields) (entry : String × Node) :
    Except Rejection StrategyFields :=
  if entry.1 = "type" then
    entry.2.asString.map fun type => { strategy with type }
  else if entry.1 = "instruments" then
    (parseInstruments entry.2).map fun instruments => { strategy with instruments }
  else .error (.unexpectedKey entry.1)

def parseStrategy (node : Node) : Except Rejection StrategyConfig := do
  let entries ← node.asTable
  let strategy ← entries.foldlM readStrategy {}
  if complete : strategy.type ≠ "" ∧ strategy.instruments ≠ [] then
    .ok { type := strategy.type, instruments := strategy.instruments, complete }
  else .error .instrumentsEmpty

/-- One entry of the table of strategies. -/
def readConfig (config : Config) (entry : String × Node) : Except Rejection Config :=
  (parseStrategy entry.2).map fun strategy =>
    { config with strategies := emplace entry.1 strategy config.strategies }

/-- The constructor of `Config`, for the root of the document. -/
def parseConfig (root : Node) : Except Rejection Config := do
  let entries ← root.asTable
  match entries.lookup "strategies" with
  | none => .error .strategiesExpected
  | some strategies => (← strategies.asTable).foldlM readConfig { strategies := ∅ }

end RoqSamples.AlgoProto
