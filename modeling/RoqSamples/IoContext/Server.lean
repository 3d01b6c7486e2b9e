/- IoContext/Server
   digest: The sessions of the server, the requests they process, and the controller that collects
     them. -/
import Mathlib.Data.Finset.Basic
import RoqSamples.Client.Messages
import RoqSamples.Execution.Runs

set_option autoImplicit false
set_option relaxedAutoImplicit false

namespace RoqSamples.IoContext

inductive Exception
  | parseError
  | typeError
  deriving DecidableEq

structure Shared where
  sessionsToRemove : Finset Nat
  symbols : Finset String

/-- What the web server hands over to the session of a connection. -/
inductive Incoming
  | disconnected
  | request (upgrade keepAlive : Bool) (body : String)
  | text (payload : String)
  | binary

inductive Connection
  | keepAlive | close
  deriving DecidableEq

/-- What a session asks the web server to do. -/
inductive Outgoing
  | upgrade
  | send (connection : Connection) (body : String)
  | sendText (payload : String)
  | close
  deriving DecidableEq

/-- The JSON library, with `parse` and `value` of its documents, and the size of the type
std::string, which differs between standard libraries. -/
structure Platform where
  Json : Type
  parse : String → Except Exception Json
  value (json : Json) (key default : String) : Except Exception String
  sizeofString : Nat

namespace Session

variable (platform : Platform)

def success : String := "\x7b\"status\":\"successs\"\x7d"

def error (text : String) : String :=
  "\x7b\"status\":\"error\",\"text\":\"" ++ text ++ "\"\x7d"

/-- The bound is the size of the type of the members of `Shared::symbols`. -/
def validateSymbol (symbol : String) : Bool :=
  if symbol.isEmpty then false
  else if symbol.utf8ByteSize > platform.sizeofString then false
  else true

/-- The reply, and the symbols after the request. -/
def processRequest (message : String) (symbols : Finset String) :
    Except Exception (String × Finset String) := do
  let json ← platform.parse message
  let action ← platform.value json "action" ""
  let symbol ← platform.value json "symbol" ""
  if action.isEmpty then
    return (error "missing 'action'", symbols)
  if action = "subscribe" then
    if validateSymbol platform symbol then
      return (success, insert symbol symbols)
    return (error "invalid symbol", symbols)
  if action = "unsubscribe" then
    if validateSymbol platform symbol then
      return (success, symbols.erase symbol)
    return (error "invalid symbol", symbols)
  return (error "unknown 'action'", symbols)

/-- The handlers of a session. Both exceptions are caught, and the connection is closed. -/
def handle (sessionId : Nat) (shared : Shared) : Incoming → List Outgoing × Shared
  | .disconnected =>
      ([], { shared with sessionsToRemove := insert sessionId shared.sessionsToRemove })
  | .request true _ _ => ([.upgrade], shared)
  | .request false keepAlive body =>
      match processRequest platform body shared.symbols with
      | .ok (result, symbols) =>
          let connection := if keepAlive then Connection.keepAlive else Connection.close
          ([.send connection result], { shared with symbols := symbols })
      | .error _ => ([.close], shared)
  | .text payload =>
      match processRequest platform payload shared.symbols with
      | .ok (result, symbols) => ([.sendText result], { shared with symbols := symbols })
      | .error _ => ([.close], shared)
  | .binary => ([.close], shared)

end Session

/-- A session is known by its id. -/
structure Controller where
  sessions : Finset Nat
  nextGarbageCollection : Int
  nextSessionId : Nat
  shared : Shared

/-- Everything that reaches the controller. What a timer event drains from the I/O context comes as
events of its own before it. -/
inductive Event
  | timer (now : Int)
  | topOfBook (symbol : String)
  | connection
  | session (sessionId : Nat) (incoming : Incoming)

/-- What leaves the process. -/
inductive Output
  | reply (sessionId : Nat) (outgoing : Outgoing)
  | topOfBook (symbol : String)
  deriving DecidableEq

namespace Controller

variable (platform : Platform) (filterSymbols : Bool)

/-- `1s`, in nanoseconds. -/
def oneSecond : Int := 1000000000

def initial : Controller where
  sessions := ∅
  nextGarbageCollection := 0
  nextSessionId := 0
  shared := { sessionsToRemove := ∅, symbols := ∅ }

/-- `remove_zombies`. Times are nanoseconds, and a second after each of them is still within
64 bits. -/
def removeZombies (c : Controller) (now : Int) : Controller :=
  if now < c.nextGarbageCollection then c
  else
    { c with
      nextGarbageCollection := now + oneSecond
      sessions := c.sessions \ c.shared.sessionsToRemove
      shared := { c.shared with sessionsToRemove := ∅ } }

/-- The handler of the listener: `++next_session_id_` and `try_emplace`. -/
def onConnection (c : Controller) : Controller :=
  let sessionId := Client.uint64 (c.nextSessionId + 1)
  { c with nextSessionId := sessionId, sessions := insert sessionId c.sessions }

/-- What an event sends out. -/
def outputs (c : Controller) : Event → List Output
  | .topOfBook symbol =>
      if filterSymbols = true ∧ symbol ∉ c.shared.symbols then [] else [.topOfBook symbol]
  | .session sessionId incoming =>
      (Session.handle platform sessionId c.shared incoming).1.map (.reply sessionId)
  | .timer _ | .connection => []

/-- Only a session that is there can be called. -/
def next (c : Controller) : Event → Option Controller
  | .timer now => some (c.removeZombies now)
  | .topOfBook _ => some c
  | .connection => some c.onConnection
  | .session sessionId incoming =>
      if sessionId ∈ c.sessions then
        some { c with shared := (Session.handle platform sessionId c.shared incoming).2 }
      else none

end Controller

end RoqSamples.IoContext
