/- IoContext/Subscriptions
   digest: The last accepted request decides about a symbol, whoever sent it, and what a client is
     answered depends on its own messages only. -/
import RoqSamples.Execution.Switches
import RoqSamples.IoContext.Server

set_option autoImplicit false
set_option relaxedAutoImplicit false

namespace RoqSamples.IoContext.Subscriptions

open RoqSamples.Execution.Runs
open RoqSamples.Execution.Switches
open Controller (initial next outputs)
open Session (processRequest validateSymbol)

variable (platform : Platform)

/-- The symbol that a message switches on or off, when it is accepted. -/
def accepted (message : String) : Option (String × Bool) :=
  match platform.parse message with
  | .error _ => none
  | .ok json =>
      match platform.value json "action" "", platform.value json "symbol" "" with
      | .ok action, .ok symbol =>
          if validateSymbol platform symbol = false then none
          else if action = "subscribe" then some (symbol, true)
          else if action = "unsubscribe" then some (symbol, false)
          else none
      | _, _ => none

/-- The message that a session processes. -/
def messageOf : Incoming → Option String
  | .request false _ body => some body
  | .text payload => some payload
  | .request true _ _ | .disconnected | .binary => none

/-- The accepted requests of an event. -/
def switchesOf : Event → List (String × Bool)
  | .session _ incoming => ((messageOf incoming).bind (accepted platform)).toList
  | .timer _ | .topOfBook _ | .connection => []

/-- What a client is answered: nothing but its message matters. -/
def answer : Incoming → Option Outgoing
  | .disconnected => none
  | .request true _ _ => some .upgrade
  | .request false keepAlive body =>
      match processRequest platform body ∅ with
      | .ok (result, _) =>
          some (.send (if keepAlive then Connection.keepAlive else Connection.close) result)
      | .error _ => some .close
  | .text payload =>
      match processRequest platform payload ∅ with
      | .ok (result, _) => some (.sendText result)
      | .error _ => some .close
  | .binary => some .close

/-- What one client is answered. -/
def replyTo (sessionId : Nat) : Output → Option Outgoing
  | .reply sessionId' outgoing => if sessionId' = sessionId then some outgoing else none
  | .topOfBook _ => none

/-- What one client sends. -/
def incomingOf (sessionId : Nat) : Event → Option Incoming
  | .session sessionId' incoming => if sessionId' = sessionId then some incoming else none
  | .timer _ | .topOfBook _ | .connection => none

/-- A request is processed in one of three ways. -/
private theorem processRequest_cases (message : String) :
    (∃ e, accepted platform message = none ∧
        ∀ symbols, processRequest platform message symbols = .error e) ∨
      (∃ text, accepted platform message = none ∧
        ∀ symbols, processRequest platform message symbols =
          .ok (Session.error text, symbols)) ∨
      ∃ s, accepted platform message = some s ∧ validateSymbol platform s.1 = true ∧
        ∀ symbols, processRequest platform message symbols =
          .ok (Session.success, switch symbols s) := by
  unfold accepted processRequest
  cases platform.parse message with
  | error e => exact .inl ⟨e, rfl, fun _ => rfl⟩
  | ok json =>
      cases action_read : platform.value json "action" "" with
      | error e =>
          refine .inl ⟨e, by simp only [action_read], fun symbols => ?_⟩
          simp only [bind, Except.bind, action_read]
      | ok action =>
          cases symbol_read : platform.value json "symbol" "" with
          | error e =>
              refine .inl ⟨e, by simp only [action_read, symbol_read], fun symbols => ?_⟩
              simp only [bind, Except.bind, action_read, symbol_read]
          | ok symbol =>
              simp only [bind, Except.bind, action_read, symbol_read, pure, Except.pure]
              refine .inr ?_
              cases valid : validateSymbol platform symbol with
              | false =>
                  refine .inl ?_
                  by_cases missing : action.isEmpty = true
                  · exact ⟨"missing 'action'", by simp, fun symbols => by simp [missing]⟩
                  · by_cases known : action = "subscribe" ∨ action = "unsubscribe"
                    · refine ⟨"invalid symbol", by simp, fun symbols => ?_⟩
                      rcases known with rfl | rfl <;> simp
                    · obtain ⟨no_on, no_off⟩ := not_or.mp known
                      exact ⟨"unknown 'action'", by simp, fun symbols => by
                        simp [missing, no_on, no_off]⟩
              | true =>
                  by_cases on : action = "subscribe"
                  · refine .inr ⟨(symbol, true), by simp [on], valid, fun symbols => ?_⟩
                    subst on
                    simp [switch]
                  · by_cases off : action = "unsubscribe"
                    · refine .inr ⟨(symbol, false), by simp [off], valid, fun symbols => ?_⟩
                      subst off
                      simp [switch]
                    · refine .inl ?_
                      by_cases missing : action.isEmpty = true
                      · exact ⟨"missing 'action'", by simp [on, off],
                          fun symbols => by simp [missing]⟩
                      · exact ⟨"unknown 'action'", by simp [on, off], fun symbols => by
                          simp [missing, on, off]⟩

variable {platform}

/-- An accepted request switches its symbol; nothing else touches the symbols. -/
private theorem handle_symbols (sessionId : Nat) (shared : Shared) (incoming : Incoming) :
    (Session.handle platform sessionId shared incoming).2.symbols =
      ((messageOf incoming).bind (accepted platform)).toList.foldl switch shared.symbols := by
  cases incoming with
  | disconnected => rfl
  | binary => rfl
  | request upgrade keepAlive body =>
      cases upgrade with
      | true => rfl
      | false =>
          rcases processRequest_cases platform body with
            ⟨e, ignored, fails⟩ | ⟨text, ignored, refuses⟩ | ⟨s, accepts, _, changes⟩
          · simp [Session.handle, messageOf, fails, ignored]
          · simp [Session.handle, messageOf, refuses, ignored]
          · simp [Session.handle, messageOf, changes, accepts]
  | text payload =>
      rcases processRequest_cases platform payload with
        ⟨e, ignored, fails⟩ | ⟨text, ignored, refuses⟩ | ⟨s, accepts, _, changes⟩
      · simp [Session.handle, messageOf, fails, ignored]
      · simp [Session.handle, messageOf, refuses, ignored]
      · simp [Session.handle, messageOf, changes, accepts]

/-- The answer does not depend on the symbols. -/
private theorem handle_answer (sessionId : Nat) (shared : Shared) (incoming : Incoming) :
    (Session.handle platform sessionId shared incoming).1 = (answer platform incoming).toList := by
  cases incoming with
  | disconnected => rfl
  | binary => rfl
  | request upgrade keepAlive body =>
      cases upgrade with
      | true => rfl
      | false =>
          rcases processRequest_cases platform body with
            ⟨e, _, fails⟩ | ⟨text, _, refuses⟩ | ⟨s, _, _, changes⟩
          · simp [Session.handle, answer, fails]
          · simp [Session.handle, answer, refuses]
          · simp [Session.handle, answer, changes]
  | text payload =>
      rcases processRequest_cases platform payload with
        ⟨e, _, fails⟩ | ⟨text, _, refuses⟩ | ⟨s, _, _, changes⟩
      · simp [Session.handle, answer, fails]
      · simp [Session.handle, answer, refuses]
      · simp [Session.handle, answer, changes]

private theorem next_symbols {c d : Controller} {e : Event}
    (taken : next platform c e = some d) :
    d.shared.symbols = (switchesOf platform e).foldl switch c.shared.symbols := by
  cases e with
  | timer now =>
      cases taken
      unfold Controller.removeZombies
      split <;> rfl
  | topOfBook symbol =>
      cases taken
      rfl
  | connection =>
      cases taken
      rfl
  | session sessionId incoming =>
      simp only [next] at taken
      split at taken
      · cases taken
        exact handle_symbols sessionId c.shared incoming
      · cases taken

private theorem run_symbols {c : Controller} {es : List Event}
    (reached : run (next platform) initial es = some c) :
    c.shared.symbols = (es.flatMap (switchesOf platform)).foldl switch ∅ := by
  refine run_history (I := fun es c =>
    c.shared.symbols = (es.flatMap (switchesOf platform)).foldl switch ∅) rfl ?_ reached
  intro es e m t _ symbols taken
  rw [next_symbols taken, symbols, List.flatMap_append, List.foldl_append]
  simp

/-- The last accepted request for a symbol, of all that the events hold. -/
def lastRequest (platform : Platform) (es : List Event) (symbol : String) : Option Bool :=
  ((es.flatMap (switchesOf platform)).filter fun s => s.1 = symbol).getLast?.map Prod.snd

/-- For every interleaving of connections, requests, messages and disconnects of all sessions,
timers and market data: a symbol is subscribed exactly when the last accepted request for it, from
whichever session, was to subscribe; only valid symbols are; and a TopOfBook is published exactly
when its symbol is subscribed or symbols are not filtered. -/
theorem last_request_decides (filterSymbols : Bool) (es : List Event) (c : Controller)
    (reached : run (next platform) initial es = some c) (symbol : String) :
    (symbol ∈ c.shared.symbols ↔ lastRequest platform es symbol = some true) ∧
      (symbol ∈ c.shared.symbols → validateSymbol platform symbol = true) ∧
      (outputs platform filterSymbols c (.topOfBook symbol) = [.topOfBook symbol] ↔
        filterSymbols = false ∨ lastRequest platform es symbol = some true) := by
  have symbols := run_symbols reached
  have decides : symbol ∈ c.shared.symbols ↔ lastRequest platform es symbol = some true := by
    rw [symbols]
    exact mem_foldl_switch _ symbol
  refine ⟨decides, ?_, ?_⟩
  · intro mem
    rw [symbols] at mem
    obtain ⟨e, _, switched⟩ := List.mem_flatMap.mp (switched_on_of_mem mem)
    cases e with
    | timer | topOfBook | connection => cases switched
    | session sessionId incoming =>
        obtain ⟨message, _, accepts⟩ :=
          Option.bind_eq_some_iff.mp (Option.mem_toList.mp switched)
        rcases processRequest_cases platform message with
          ⟨_, refused, _⟩ | ⟨_, refused, _⟩ | ⟨s, found, valid, _⟩
        · cases refused.symm.trans accepts
        · cases refused.symm.trans accepts
        · cases found.symm.trans accepts
          exact valid
  · rw [← decides]
    cases filterSymbols <;> simp [outputs]

/-- For every interleaving: what a client is answered, in order, is what its own messages alone ask
for. Each of them gets one answer, and none depends on the other sessions or on the symbols. -/
theorem answers_depend_on_own_messages (filterSymbols : Bool) (es : List Event) (c : Controller)
    (reached : run (next platform) initial es = some c) (sessionId : Nat) :
    (trace (next platform) (outputs platform filterSymbols) initial es).filterMap
        (replyTo sessionId) =
      (es.filterMap (incomingOf sessionId)).filterMap (answer platform) := by
  refine run_history (I := fun es _ =>
    (trace (next platform) (outputs platform filterSymbols) initial es).filterMap
        (replyTo sessionId) =
      (es.filterMap (incomingOf sessionId)).filterMap (answer platform)) rfl ?_ reached
  intro es e m t before earlier taken
  have here : (outputs platform filterSymbols m e).filterMap (replyTo sessionId) =
      ((incomingOf sessionId e).bind (answer platform)).toList := by
    cases e with
    | timer now => rfl
    | connection => rfl
    | topOfBook symbol =>
        simp only [outputs]
        split <;> rfl
    | session sessionId' incoming =>
        simp only [outputs, handle_answer, incomingOf]
        by_cases same : sessionId' = sessionId
        · cases answered : answer platform incoming <;> simp [replyTo, same, answered]
        · cases answered : answer platform incoming <;> simp [replyTo, same]
  rw [trace_append before, trace_singleton taken, List.filterMap_append, earlier, here,
    List.filterMap_append, List.filterMap_append]
  cases own : incomingOf sessionId e with
  | none => simp [own]
  | some incoming => cases answered : answer platform incoming <;> simp [own, answered]

section Examples

/-- A platform that knows three messages. -/
def threeMessages : Platform where
  Json := String → Option String
  parse := fun message =>
    let object (action symbol : String) := fun key =>
      if key = "action" then some action else if key = "symbol" then some symbol else none
    if message = "on" then .ok (object "subscribe" "BTC")
    else if message = "off" then .ok (object "unsubscribe" "BTC")
    else if message = "bad" then .ok (object "subscribe" "")
    else .error .parseError
  value := fun json key default => .ok ((json key).getD default)
  sizeofString := 32

/-- Two clients, one with the REST interface and one with a websocket. -/
def twoClients : List Event :=
  [.connection, .connection, .session 1 (.request false true "on"),
    .session 2 (.request true false ""), .session 2 (.text "off"),
    .session 1 (.request false true "on"), .session 2 (.text "bad")]

theorem last_request_decides_between_clients : ∃ c,
    run (next threeMessages) initial twoClients = some c ∧
      lastRequest threeMessages twoClients "BTC" = some true ∧
      ("BTC" ∈ c.shared.symbols ↔ lastRequest threeMessages twoClients "BTC" = some true) := by
  obtain ⟨c, reached⟩ := Option.isSome_iff_exists.mp
    (show (run (next threeMessages) initial twoClients).isSome = true by decide +kernel)
  refine ⟨c, reached, by decide +kernel, ?_⟩
  exact (last_request_decides true twoClients c reached "BTC").1

theorem answers_depend_on_own_messages_of_two : ∃ c,
    run (next threeMessages) initial twoClients = some c ∧
      (trace (next threeMessages) (outputs threeMessages true) initial twoClients).filterMap
          (replyTo 2) =
        [.upgrade, .sendText Session.success, .sendText (Session.error "invalid symbol")] := by
  obtain ⟨c, reached⟩ := Option.isSome_iff_exists.mp
    (show (run (next threeMessages) initial twoClients).isSome = true by decide +kernel)
  refine ⟨c, reached, ?_⟩
  rw [answers_depend_on_own_messages true twoClients c reached 2]
  decide +kernel

end Examples

end RoqSamples.IoContext.Subscriptions
