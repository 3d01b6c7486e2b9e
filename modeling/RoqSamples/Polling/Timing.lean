/- Polling/Timing
   digest: The polling strategy never acts early, and on a connection that stays up it is done in
     bounded time. -/
import RoqSamples.Polling.Lifecycle

set_option autoImplicit false
set_option relaxedAutoImplicit false

namespace RoqSamples.Polling.Timing

open RoqSamples.Client
open RoqSamples.Execution.Runs
open Session (effects next initial)
open Lifecycle (Awaited SingleConnection)

/-- The clock is not behind the time that a refresh was given, which was read before. -/
def Consistent : Event → Prop
  | .refresh now clock _ => now ≤ clock
  | _ => True

/-- When the connection became ready, unless it has been lost since. -/
def readyAt (since : Option Nat) : Event → Option Nat
  | .ready clock => some clock
  | .disconnected _ => none
  | _ => since

variable {maybeCompleted : RequestStatus → Bool}

section Waiting

variable [Utils]

/-- When a CreateOrder was last acknowledged as successful, unless the connection has been lost
since. -/
def confirmedAt (maybeCompleted : RequestStatus → Bool) (since : Option Nat) : Event → Option Nat
  | .orderAck orderAck clock =>
      if Session.confirms maybeCompleted orderAck then some clock else since
  | .disconnected _ => none
  | _ => since

/-- Two waits have passed since then. -/
def Waited (since : Option Nat) (now : Nat) : Prop :=
  ∃ clock, since = some clock ∧ clock + 2 * waitThisLongBeforeNextStateChange ≤ now

/-- An order is created two waits after the connection became ready, and canceled two waits after
it was acknowledged; other effects need no time. -/
def Timely (maybeCompleted : RequestStatus → Bool) (past : List Event) (now : Nat) :
    Effect → Prop
  | .createOrder _ => Waited (past.foldl readyAt none) now
  | .cancelOrder _ => Waited (past.foldl (confirmedAt maybeCompleted) none) now
  | .check _ | .fatal _ | .stop => True

def IsRequest : Effect → Prop
  | .createOrder _ | .cancelOrder _ => True
  | .check _ | .fatal _ | .stop => False

/-- An event comes after the last refresh, and no later than the delay between two of them. -/
def Prompt (delay last : Nat) : Event → Prop
  | .refresh now clock _ => last ≤ now ∧ now ≤ clock ∧ clock ≤ last + delay
  | .orderAck _ clock => last ≤ clock ∧ clock ≤ last + delay
  | _ => True

/-- The time that was last given to a refresh. -/
def lastRefresh (last : Nat) : Event → Nat
  | .refresh now _ _ => now
  | _ => last

/-- All events are prompt, from the time of the last refresh on. -/
def OnTime (delay last : Nat) : List Event → Prop
  | [] => True
  | e :: es => Prompt delay last e ∧ OnTime delay (lastRefresh last e) es

instance : ∀ e, Decidable (Consistent e)
  | .refresh _ _ _ => inferInstanceAs (Decidable (_ ≤ _))
  | .connected | .disconnected _ | .downloadBegin | .downloadEnd _ | .ready _ | .orderAck _ _ =>
      inferInstanceAs (Decidable True)

instance (delay last : Nat) : ∀ e, Decidable (Prompt delay last e)
  | .refresh _ _ _ => inferInstanceAs (Decidable (_ ∧ _))
  | .orderAck _ _ => inferInstanceAs (Decidable (_ ∧ _))
  | .connected | .disconnected _ | .downloadBegin | .downloadEnd _ | .ready _ =>
      inferInstanceAs (Decidable True)

instance decidableOnTime (delay : Nat) : ∀ last es, Decidable (OnTime delay last es)
  | _, [] => inferInstanceAs (Decidable True)
  | last, e :: es =>
      have _ := decidableOnTime delay (lastRefresh last e) es
      inferInstanceAs (Decidable (_ ∧ _))

/-- The states that a refresh leaves once their time is over, and the ones that follow them. -/
private def expiry : State → Option State
  | .undefined => some .connecting
  | .ready => some .createOrder
  | .createOrder => some .waitingCreate
  | .waitingCreate => some .done
  | .working => some .cancelOrder
  | .cancelOrder => some .waitingCancel
  | .waitingCancel => some .done
  | .connecting | .done => none

private structure Stays (s t : Session) : Prop where
  state : t.strategy.state = s.strategy.state
  nextUpdate : t.strategy.nextUpdate = s.strategy.nextUpdate

private structure Enters (state : State) (clock : Nat) (t : Session) : Prop where
  state : t.strategy.state = state
  nextUpdate : t.strategy.nextUpdate = clock + waitThisLongBeforeNextStateChange

private theorem refresh_moves {s t : Session} {now clock : Nat} {failure : Option SendError}
    (taken : s.next maybeCompleted (.refresh now clock failure) = some t) :
    (now < s.strategy.nextUpdate ∨ expiry s.strategy.state = none) ∧ Stays s t ∨
      s.strategy.nextUpdate ≤ now ∧
        ∃ state, expiry s.strategy.state = some state ∧ Enters state clock t := by
  obtain ⟨_, connection, _, rfl⟩ := Session.next_eq_some taken
  by_cases early : now < s.strategy.nextUpdate
  · have same : s.strategy.refresh now clock failure = (s.strategy, []) := if_pos early
    refine .inl ⟨.inl early, ?_, ?_⟩
    · exact congrArg (fun outcome => outcome.1.state) same
    · exact congrArg (fun outcome => outcome.1.nextUpdate) same
  · have due : s.strategy.nextUpdate ≤ now := not_lt.mp early
    cases state : s.strategy.state with
    | connecting | done =>
        refine .inl ⟨.inr rfl, ?_, ?_⟩
        · simp [Session.handle, Strategy.refresh, early, state]
        · simp [Session.handle, Strategy.refresh, early, state]
    | undefined | ready | waitingCreate | working | waitingCancel =>
        refine .inr ⟨due, _, rfl, ?_, ?_⟩
        · simp [Session.handle, Strategy.refresh, early, state, Strategy.andThen,
            Strategy.setState]
        · simp [Session.handle, Strategy.refresh, early, state, Strategy.andThen,
            Strategy.setState]
    | createOrder =>
        refine .inr ⟨due, _, rfl, ?_, ?_⟩
        · simp [Session.handle, Strategy.refresh, early, state, Strategy.andThen,
            Strategy.setState, Strategy.createOrder]
        · simp [Session.handle, Strategy.refresh, early, state, Strategy.andThen,
            Strategy.setState, Strategy.createOrder]
    | cancelOrder =>
        refine .inr ⟨due, _, rfl, ?_, ?_⟩
        · simp [Session.handle, Strategy.refresh, early, state, Strategy.andThen,
            Strategy.setState, Strategy.cancelOrder]
        · simp [Session.handle, Strategy.refresh, early, state, Strategy.andThen,
            Strategy.setState, Strategy.cancelOrder]

private theorem ack_moves {s t : Session} {orderAck : OrderAck} {clock : Nat}
    (taken : s.next maybeCompleted (.orderAck orderAck clock) = some t) :
    Session.confirms maybeCompleted orderAck = true ∧ Enters .working clock t ∨
      Session.confirms maybeCompleted orderAck = false ∧ (Stays s t ∨
        maybeCompleted orderAck.requestStatus = true ∧
          (Utils.hasRequestFailed orderAck.requestStatus = true ∨
            orderAck.requestType = .cancelOrder) ∧ Enters .done clock t) := by
  obtain ⟨_, connection, _, rfl⟩ := Session.next_eq_some taken
  cases completed : maybeCompleted orderAck.requestStatus with
  | false =>
      refine .inr ⟨by simp [Session.confirms, completed], .inl ⟨?_, ?_⟩⟩
      · simp [Session.handle, Strategy.onOrderAck, completed]
      · simp [Session.handle, Strategy.onOrderAck, completed]
  | true =>
      cases failed : Utils.hasRequestFailed orderAck.requestStatus with
      | true =>
          refine .inr ⟨by simp [Session.confirms, failed], .inr ⟨rfl, .inl rfl, ?_, ?_⟩⟩
          · simp [Session.handle, Strategy.onOrderAck, completed, failed, Strategy.setState]
          · simp [Session.handle, Strategy.onOrderAck, completed, failed, Strategy.setState]
      | false =>
          cases type : orderAck.requestType with
          | undefined | modifyOrder =>
              refine .inr ⟨by simp [Session.confirms, type], .inl ⟨?_, ?_⟩⟩
              · simp [Session.handle, Strategy.onOrderAck, completed, failed, type]
              · simp [Session.handle, Strategy.onOrderAck, completed, failed, type]
          | createOrder =>
              refine .inl ⟨by simp [Session.confirms, completed, failed, type], ?_, ?_⟩
              · simp [Session.handle, Strategy.onOrderAck, completed, failed, type,
                  Strategy.setState]
              · simp [Session.handle, Strategy.onOrderAck, completed, failed, type,
                  Strategy.setState]
          | cancelOrder =>
              refine .inr ⟨by simp [Session.confirms, type], .inr ⟨rfl, .inr rfl, ?_, ?_⟩⟩
              · simp [Session.handle, Strategy.onOrderAck, completed, failed, type,
                  Strategy.setState]
              · simp [Session.handle, Strategy.onOrderAck, completed, failed, type,
                  Strategy.setState]

private theorem ready_moves {s t : Session} {clock : Nat}
    (taken : s.next maybeCompleted (.ready clock) = some t) : Enters .ready clock t := by
  obtain ⟨_, connection, _, rfl⟩ := Session.next_eq_some taken
  exact ⟨rfl, rfl⟩

private theorem disconnected_moves {s t : Session} {clock : Nat}
    (taken : s.next maybeCompleted (.disconnected clock) = some t) :
    Enters .connecting clock t := by
  obtain ⟨_, connection, _, rfl⟩ := Session.next_eq_some taken
  exact ⟨rfl, rfl⟩

/-- The states that a refresh acts on later say how long ago they were prepared. -/
private def Prepared (maybeCompleted : RequestStatus → Bool) (past : List Event) (s : Session) :
    Prop :=
  match s.strategy.state with
  | .ready => ∃ clock, past.foldl readyAt none = some clock ∧
      clock + waitThisLongBeforeNextStateChange = s.strategy.nextUpdate
  | .createOrder => Waited (past.foldl readyAt none) s.strategy.nextUpdate
  | .working => ∃ clock, past.foldl (confirmedAt maybeCompleted) none = some clock ∧
      clock + waitThisLongBeforeNextStateChange = s.strategy.nextUpdate
  | .cancelOrder =>
      Waited (past.foldl (confirmedAt maybeCompleted) none) s.strategy.nextUpdate
  | _ => True

private theorem prepared_stays {past : List Event} {s t : Session} {e : Event}
    (prepared : Prepared maybeCompleted past s) (stays : Stays s t)
    (ready : readyAt (past.foldl readyAt none) e = past.foldl readyAt none)
    (confirmed : confirmedAt maybeCompleted (past.foldl (confirmedAt maybeCompleted) none) e =
      past.foldl (confirmedAt maybeCompleted) none) :
    Prepared maybeCompleted (past ++ [e]) t := by
  unfold Prepared at prepared ⊢
  rw [List.foldl_append, List.foldl_append, List.foldl_cons, List.foldl_cons, List.foldl_nil,
    List.foldl_nil, ready, confirmed, stays.state, stays.nextUpdate]
  exact prepared

end Waiting

private theorem waited_next {since : Option Nat} {nextUpdate now clock : Nat}
    (prepared : ∃ start, since = some start ∧
      start + waitThisLongBeforeNextStateChange = nextUpdate)
    (due : nextUpdate ≤ now) (consistent : now ≤ clock) :
    Waited since (clock + waitThisLongBeforeNextStateChange) := by
  obtain ⟨start, known, rfl⟩ := prepared
  exact ⟨start, known, by omega⟩

private theorem prepared_step [Utils] {past : List Event} {s t : Session} {e : Event}
    (prepared : Prepared maybeCompleted past s) (consistent : Consistent e)
    (taken : s.next maybeCompleted e = some t) : Prepared maybeCompleted (past ++ [e]) t := by
  cases e with
  | refresh now clock failure =>
      rcases refresh_moves taken with ⟨_, stays⟩ | ⟨due, state, expires, enters⟩
      · exact prepared_stays prepared stays rfl rfl
      · unfold Prepared at prepared ⊢
        rw [List.foldl_append, List.foldl_append, enters.state, enters.nextUpdate]
        cases before : s.strategy.state with
        | connecting | done =>
            rw [before] at expires
            cases expires
        | undefined | createOrder | waitingCreate | cancelOrder | waitingCancel =>
            rw [before] at expires
            cases expires
            trivial
        | ready | working =>
            rw [before] at expires prepared
            cases expires
            exact waited_next prepared due consistent
  | orderAck orderAck clock =>
      rcases ack_moves taken with ⟨confirmed, enters⟩ | ⟨unconfirmed, stays | ⟨_, _, enters⟩⟩
      · unfold Prepared
        rw [List.foldl_append, List.foldl_append, enters.state, enters.nextUpdate]
        exact ⟨clock, if_pos confirmed, rfl⟩
      · refine prepared_stays prepared stays rfl (if_neg ?_)
        rw [unconfirmed]
        exact Bool.false_ne_true
      · unfold Prepared
        rw [enters.state]
        trivial
  | ready clock =>
      have enters := ready_moves taken
      unfold Prepared
      rw [List.foldl_append, enters.state, enters.nextUpdate]
      exact ⟨clock, rfl, rfl⟩
  | disconnected clock =>
      unfold Prepared
      rw [(disconnected_moves taken).state]
      trivial
  | connected | downloadBegin | downloadEnd =>
      obtain ⟨_, connection, _, rfl⟩ := Session.next_eq_some taken
      exact prepared_stays prepared ⟨rfl, rfl⟩ rfl rfl

/-- Only a refresh sends requests. -/
private theorem request_of_refresh [Utils] {s : Session} {e : Event} {effect : Effect}
    (sent : effect ∈ s.effects maybeCompleted e) (request : IsRequest effect) :
    ∃ now clock failure, e = .refresh now clock failure := by
  cases e with
  | refresh now clock failure => exact ⟨now, clock, failure, rfl⟩
  | downloadBegin | downloadEnd => exact (List.not_mem_nil sent).elim
  | connected | disconnected =>
      rw [List.mem_singleton.mp sent] at request
      exact request.elim
  | ready clock =>
      rcases List.mem_append.mp sent with first | second
      · rw [List.mem_singleton.mp first] at request
        exact request.elim
      · rw [List.mem_singleton.mp second] at request
        exact request.elim
  | orderAck orderAck clock =>
      simp only [Session.effects, Session.handle, Strategy.onOrderAck] at sent
      split at sent
      · exact (List.not_mem_nil sent).elim
      · split at sent
        · rw [List.mem_singleton.mp sent] at request
          exact request.elim
        · cases type : orderAck.requestType with
          | undefined | createOrder | modifyOrder | cancelOrder =>
              rw [type] at sent
              rw [List.mem_singleton.mp sent] at request
              exact request.elim

/-- A refresh sends a request when the time of the state before it is over. -/
private theorem request_due [Utils] {s : Session} {now clock : Nat} {failure : Option SendError}
    {effect : Effect} (sent : effect ∈ s.effects maybeCompleted (.refresh now clock failure)) :
    (∀ request, effect = .createOrder request →
        s.strategy.nextUpdate ≤ now ∧ s.strategy.state = .createOrder) ∧
      ∀ request, effect = .cancelOrder request →
        s.strategy.nextUpdate ≤ now ∧ s.strategy.state = .cancelOrder := by
  by_cases early : now < s.strategy.nextUpdate
  · simp [Session.effects, Session.handle, Strategy.refresh, early] at sent
  · have due := not_lt.mp early
    cases state : s.strategy.state with
    | createOrder =>
        simp [Session.effects, Session.handle, Strategy.refresh, early, state, Strategy.andThen,
          Strategy.setState, Strategy.createOrder] at sent
        refine ⟨fun _ _ => ⟨due, rfl⟩, ?_⟩
        rintro request rfl
        cases failure <;> simp [Strategy.send] at sent
    | cancelOrder =>
        simp [Session.effects, Session.handle, Strategy.refresh, early, state, Strategy.andThen,
          Strategy.setState, Strategy.cancelOrder] at sent
        refine ⟨?_, fun _ _ => ⟨due, rfl⟩⟩
        rintro request rfl
        cases failure <;> simp [Strategy.send] at sent
    | connecting => simp [Session.effects, Session.handle, Strategy.refresh, early, state] at sent
    | undefined | ready | waitingCreate | working | waitingCancel | done =>
        simp [Session.effects, Session.handle, Strategy.refresh, early, state, Strategy.andThen,
          Strategy.setState] at sent
        constructor
        · rintro request rfl
          simp at sent
        · rintro request rfl
          simp at sent

/-- For every interleaving of refresh calls with connections, downloads and acks of any kind: a
request is only ever sent by a refresh; a CreateOrder at least twenty seconds after the Ready of a
connection that has not been lost since; and a CancelOrder at least twenty seconds after the last
successful ack of a CreateOrder, on a connection that has not been lost since. -/
theorem requests_wait [Utils] (settings : Settings) (es : List Event)
    (consistent : ∀ e ∈ es, Consistent e) (s : Session)
    (reached : run (next maybeCompleted) (initial settings) es = some s) (e : Event) :
    ∀ effect ∈ s.effects maybeCompleted e, IsRequest effect →
      ∃ now clock failure, e = .refresh now clock failure ∧
        Timely maybeCompleted es now effect := by
  have prepared : Prepared maybeCompleted es s := by
    refine run_history (I := fun es s => (∀ e ∈ es, Consistent e) → Prepared maybeCompleted es s)
      (fun _ => ?_) ?_ reached consistent
    · exact trivial
    intro es e m t _ prepared taken all
    refine prepared_step (prepared fun e mem => ?_) ?_ taken
    · exact all e (List.mem_append_left _ mem)
    · exact all e (List.mem_append_right _ (List.mem_singleton_self e))
  intro effect sent request
  obtain ⟨now, clock, failure, rfl⟩ := request_of_refresh sent request
  refine ⟨now, clock, failure, rfl, ?_⟩
  obtain ⟨creates, cancels⟩ := request_due sent
  have later {since : Option Nat} (waited : Waited since s.strategy.nextUpdate)
      (due : s.strategy.nextUpdate ≤ now) : Waited since now := by
    obtain ⟨start, known, passed⟩ := waited
    exact ⟨start, known, passed.trans due⟩
  cases effect with
  | createOrder create =>
      obtain ⟨due, state⟩ := creates create rfl
      unfold Prepared at prepared
      rw [state] at prepared
      exact later prepared due
  | cancelOrder cancel =>
      obtain ⟨due, state⟩ := cancels cancel rfl
      unfold Prepared at prepared
      rw [state] at prepared
      exact later prepared due
  | check | fatal | stop => trivial

/-- How many states are ahead of the strategy once the connection is ready. -/
private def remaining : State → Nat
  | .undefined | .connecting => 7
  | .ready => 6
  | .createOrder => 5
  | .waitingCreate => 4
  | .working => 3
  | .cancelOrder => 2
  | .waitingCancel => 1
  | .done => 0

private structure Ready (s : Session) : Prop where
  connection : s.connection = .ready
  state : remaining s.strategy.state ≤ 6

/-- The time of the state is not over, and it is over early enough for those ahead. -/
private structure Underway (start delay last : Nat) (s : Session) : Prop where
  early : last < s.strategy.nextUpdate
  enough : s.strategy.nextUpdate +
      remaining s.strategy.state * (waitThisLongBeforeNextStateChange + delay) ≤
    start + waitThisLongBeforeNextStateChange +
      6 * (waitThisLongBeforeNextStateChange + delay)

private theorem remaining_expiry {before after : State} (ready : remaining before ≤ 6)
    (expires : expiry before = some after) : remaining after < remaining before := by
  cases before with
  | connecting | done => cases expires
  | undefined => exact absurd ready (by decide)
  | ready | createOrder | waitingCreate | working | cancelOrder | waitingCancel =>
      cases expires
      decide

/-- What a step does on a connection that is ready and stays up. -/
private inductive Progress (s t : Session) : Event → Prop
  | stays {e} (stays : Stays s t)
      (early : ∀ now clock failure, e = .refresh now clock failure →
        now < s.strategy.nextUpdate ∨ s.strategy.state = .done) : Progress s t e
  | expires {now clock failure} (due : s.strategy.nextUpdate ≤ now)
      (fewer : remaining t.strategy.state < remaining s.strategy.state)
      (nextUpdate : t.strategy.nextUpdate = clock + waitThisLongBeforeNextStateChange) :
      Progress s t (.refresh now clock failure)
  | answered {orderAck clock}
      (fewer : remaining t.strategy.state < remaining s.strategy.state)
      (nextUpdate : t.strategy.nextUpdate = clock + waitThisLongBeforeNextStateChange) :
      Progress s t (.orderAck orderAck clock)

private theorem ack_progress [Utils] {s t : Session} {orderAck : OrderAck} {clock : Nat}
    (awaited : Awaited maybeCompleted s (.orderAck orderAck clock))
    (taken : s.next maybeCompleted (.orderAck orderAck clock) = some t) :
    Progress s t (.orderAck orderAck clock) := by
  rcases ack_moves taken with ⟨confirmed, enters⟩ | ⟨_, stays | ⟨completed, ends, enters⟩⟩
  · simp only [Session.confirms, Bool.and_eq_true, Bool.not_eq_true',
      decide_eq_true_eq] at confirmed
    obtain ⟨⟨completed, succeeded⟩, type⟩ := confirmed
    have waiting := awaited completed
    simp only [Lifecycle.awaits, succeeded, type, Bool.false_eq_true, if_false,
      decide_eq_true_eq] at waiting
    refine .answered ?_ enters.nextUpdate
    rw [enters.state, waiting]
    decide
  · exact .stays stays (by rintro _ _ _ ⟨⟩)
  · have waiting := awaited completed
    refine .answered ?_ enters.nextUpdate
    rw [enters.state]
    have either : s.strategy.state = .waitingCreate ∨ s.strategy.state = .waitingCancel := by
      unfold Lifecycle.awaits at waiting
      by_cases failed : Utils.hasRequestFailed orderAck.requestStatus = true
      · simpa [failed] using waiting
      · have type := ends.resolve_left failed
        simpa [failed, type] using waiting
    rcases either with state | state
    · rw [state]
      decide
    · rw [state]
      decide

private theorem progress_step [Utils] {s t : Session} {e : Event} (ready : Ready s)
    (single : SingleConnection e) (awaited : Awaited maybeCompleted s e)
    (taken : s.next maybeCompleted e = some t) :
    t.connection = .ready ∧ Progress s t e := by
  obtain ⟨_, connection, connects, same⟩ := Session.next_eq_some taken
  cases e with
  | refresh now clock failure =>
      have here : t.connection = .ready := by
        rw [same]
        exact (Option.some.inj connects).symm.trans ready.connection
      refine ⟨here, ?_⟩
      rcases refresh_moves taken with ⟨late, stays⟩ | ⟨due, state, expires, enters⟩
      · refine .stays stays ?_
        rintro _ _ _ ⟨⟩
        rcases late with early | final
        · exact .inl early
        · right
          cases state : s.strategy.state with
          | done => rfl
          | connecting => exact absurd ready.state (by rw [state]; decide)
          | undefined | ready | createOrder | waitingCreate | working | cancelOrder
          | waitingCancel =>
              rw [state] at final
              cases final
      · refine .expires due ?_ enters.nextUpdate
        rw [enters.state]
        exact remaining_expiry ready.state expires
  | orderAck orderAck clock =>
      refine ⟨?_, ack_progress awaited taken⟩
      rw [same]
      exact (Option.some.inj connects).symm.trans ready.connection
  | disconnected clock => exact (single clock rfl).elim
  | connected | ready =>
      rw [Session.connect, ready.connection] at connects
      cases connects
  | downloadBegin | downloadEnd =>
      rw [Session.connect, ready.connection] at connects
      subst same
      exact ⟨(Option.some.inj connects).symm, .stays ⟨rfl, rfl⟩ (by rintro _ _ _ ⟨⟩)⟩

private theorem ready_step {s t : Session} {e : Event} (ready : Ready s)
    (connection : t.connection = .ready) (progress : Progress s t e) : Ready t := by
  refine ⟨connection, ?_⟩
  cases progress with
  | stays stays _ =>
      rw [stays.state]
      exact ready.state
  | expires _ fewer _ => exact fewer.le.trans ready.state
  | answered fewer _ => exact fewer.le.trans ready.state

/-- A state that is left in time leaves enough time for those ahead. -/
private theorem underway_entered {start delay last now clock : Nat} {s t : Session}
    (underway : Underway start delay last s) (prompt : clock ≤ last + delay) (past : now ≤ clock)
    (fewer : remaining t.strategy.state < remaining s.strategy.state)
    (nextUpdate : t.strategy.nextUpdate = clock + waitThisLongBeforeNextStateChange) :
    Underway start delay now t := by
  have wait : 0 < waitThisLongBeforeNextStateChange := by decide
  obtain ⟨early, enough⟩ := underway
  refine ⟨by omega, ?_⟩
  have stages : (remaining t.strategy.state + 1) * (waitThisLongBeforeNextStateChange + delay) ≤
      remaining s.strategy.state * (waitThisLongBeforeNextStateChange + delay) :=
    Nat.mul_le_mul_right _ fewer
  rw [Nat.add_one_mul] at stages
  omega

/-- A refresh that finds DONE and its time over stops the dispatcher. -/
private theorem stop_of_done [Utils] {s : Session} {now clock : Nat} {failure : Option SendError}
    (done : s.strategy.state = .done) (due : s.strategy.nextUpdate ≤ now) :
    .stop ∈ s.effects maybeCompleted (.refresh now clock failure) := by
  simp [Session.effects, Session.handle, Strategy.refresh, done, not_lt.mpr due]

/-- A step stops the dispatcher, or the strategy is underway after it. -/
private theorem underway_step [Utils] {start delay last : Nat} {s t : Session} {e : Event}
    (underway : Underway start delay last s) (prompt : Prompt delay last e)
    (progress : Progress s t e) :
    t.strategy.state = .done ∧ .stop ∈ s.effects maybeCompleted e ∨
      Underway start delay (lastRefresh last e) t := by
  cases progress with
  | expires due fewer nextUpdate =>
      exact .inr (underway_entered underway prompt.2.2 prompt.2.1 fewer nextUpdate)
  | answered fewer nextUpdate =>
      exact .inr (underway_entered underway prompt.2 prompt.1 fewer nextUpdate)
  | stays stays early =>
      obtain ⟨before, enough⟩ := underway
      rw [← stays.nextUpdate] at before enough
      rw [← stays.state] at enough
      cases e with
      | refresh now clock failure =>
          by_cases due : now < s.strategy.nextUpdate
          · exact .inr ⟨by rw [stays.nextUpdate]; exact due, enough⟩
          · have done := (early now clock failure rfl).resolve_left due
            exact .inl ⟨stays.state.trans done, stop_of_done done (not_lt.mp due)⟩
      | connected | disconnected | downloadBegin | downloadEnd | ready | orderAck =>
          exact .inr ⟨before, enough⟩

private theorem done_step {s t : Session} {e : Event} (done : s.strategy.state = .done)
    (progress : Progress s t e) : t.strategy.state = .done := by
  cases progress with
  | stays stays _ => exact stays.state.trans done
  | expires _ fewer _ | answered fewer _ =>
      rw [done] at fewer
      exact absurd fewer (Nat.not_lt_zero _)

private theorem onTime_append {delay last : Nat} {es : List Event} {e : Event}
    (onTime : OnTime delay last (es ++ [e])) :
    OnTime delay last es ∧ Prompt delay (es.foldl lastRefresh last) e := by
  induction es generalizing last with
  | nil => exact ⟨trivial, onTime.1⟩
  | cons first es ih =>
      obtain ⟨now, later⟩ := onTime
      obtain ⟨earlier, here⟩ := ih later
      exact ⟨⟨now, earlier⟩, here⟩

/-- Bounded response. When Ready has been received, the connection stays up and acks that complete
a request are awaited, then the strategy is DONE and has stopped the dispatcher at the latest
seventy seconds later, plus six times the longest delay between two refresh calls; whatever the
gateway answers, and also when it does not answer. -/
theorem stops_in_time [Utils] (settings : Settings) (before : List Event) (clock : Nat)
    (opened : Session)
    (up : run (next maybeCompleted) (initial settings) (before ++ [.ready clock]) = some opened)
    (es : List Event) (single : ∀ e ∈ es, SingleConnection e)
    (awaited : AllSteps (next maybeCompleted) (Awaited maybeCompleted) opened es) (delay : Nat)
    (onTime : OnTime delay clock es) (s : Session)
    (reached : run (next maybeCompleted) opened es = some s)
    (late : clock + 7 * waitThisLongBeforeNextStateChange + 6 * delay ≤
      es.foldl lastRefresh clock) :
    s.strategy.state = .done ∧
      .stop ∈ trace (next maybeCompleted) (effects maybeCompleted) opened es := by
  have start : Ready opened ∧ Underway clock delay clock opened := by
    rw [run_append] at up
    obtain ⟨m, _, last⟩ := Option.bind_eq_some_iff.mp up
    obtain ⟨t, taken, rest⟩ := run_cons_eq_some.mp last
    cases rest
    have enters := ready_moves taken
    obtain ⟨_, connection, connects, rfl⟩ := Session.next_eq_some taken
    have wait : 0 < waitThisLongBeforeNextStateChange := by decide
    refine ⟨⟨?_, ?_⟩, ?_, ?_⟩
    · rw [Session.connect] at connects
      split at connects
      · exact (Option.some.inj connects).symm
      · cases connects
    · rw [enters.state]
      decide
    · rw [enters.nextUpdate]
      omega
    · rw [enters.nextUpdate, enters.state]
      exact le_refl _
  let Stopped (es : List Event) (s : Session) : Prop := s.strategy.state = .done ∧
    .stop ∈ trace (next maybeCompleted) (effects maybeCompleted) opened es
  have outcome : Ready s ∧
      (Stopped es s ∨ Underway clock delay (es.foldl lastRefresh clock) s) := by
    refine run_history (I := fun es s => (∀ e ∈ es, SingleConnection e) →
      AllSteps (next maybeCompleted) (Awaited maybeCompleted) opened es → OnTime delay clock es →
      Ready s ∧ (Stopped es s ∨ Underway clock delay (es.foldl lastRefresh clock) s))
      (fun _ _ _ => ⟨start.1, .inr start.2⟩) ?_ reached single awaited onTime
    intro es e m t reached ih taken single awaited onTime
    obtain ⟨earlier, prompt⟩ := onTime_append onTime
    obtain ⟨steps, now⟩ := allSteps_append.mp awaited
    obtain ⟨ready, so_far⟩ :=
      ih (fun e mem => single e (List.mem_append_left _ mem)) steps earlier
    obtain ⟨connection, progress⟩ := progress_step ready
      (single e (List.mem_append_right _ (List.mem_singleton_self e)))
      ((allSteps_cons taken []).mp (now m reached)).1 taken
    refine ⟨ready_step ready connection progress, ?_⟩
    have longer : trace (next maybeCompleted) (effects maybeCompleted) opened (es ++ [e]) =
        trace (next maybeCompleted) (effects maybeCompleted) opened es ++
          m.effects maybeCompleted e := by
      rw [trace_append reached, trace_singleton taken]
    rw [List.foldl_append]
    rcases so_far with ⟨done, stopped⟩ | underway
    · refine .inl ⟨done_step done progress, ?_⟩
      rw [longer]
      exact List.mem_append_left _ stopped
    · rcases underway_step underway prompt progress with ⟨done, stops⟩ | still
      · refine .inl ⟨done, ?_⟩
        rw [longer]
        exact List.mem_append_right _ stops
      · exact .inr still
  obtain ⟨_, stopped | ⟨early, enough⟩⟩ := outcome
  · exact stopped
  · exfalso
    have bound : s.strategy.nextUpdate ≤ clock + waitThisLongBeforeNextStateChange +
        6 * (waitThisLongBeforeNextStateChange + delay) := by omega
    omega

section Examples

open scoped RoqSamples.Client.Documented

private def second : Nat := 10 ^ 9

private def refreshes (times : List Nat) : List Event :=
  times.map fun time => .refresh (time * second) (time * second) none

private def opening : List Event := [.refresh 0 0 none, .connected, .downloadEnd 1000]

private def accepted : OrderAck where
  orderId := 1001
  side := .buy
  requestType := .createOrder
  requestStatus := .accepted
  error := .undefined
  price := 1000

/-- An order that is created, acknowledged and canceled; the cancel is not answered. -/
private def life : List Event :=
  refreshes [11, 21] ++ [.orderAck accepted (22 * second)] ++
    refreshes [31, 41, 51, 61, 71, 81, 91, 101, 111, 121, 131]

private def orderLife : List Event := opening ++ .ready second :: life.take 5

/-- The cancel of the order comes twenty seconds after its ack. -/
theorem requests_wait_for_cancel : ∃ s,
    run (next Utils.hasRequestCompleted) (initial { price := 1000 }) orderLife = some s ∧
      ∀ effect ∈ s.effects Utils.hasRequestCompleted
          (.refresh (51 * second) (51 * second) none),
        IsRequest effect → ∃ now clock failure,
          Event.refresh (51 * second) (51 * second) none = .refresh now clock failure ∧
            Timely Utils.hasRequestCompleted orderLife now effect := by
  obtain ⟨s, reached⟩ := Option.isSome_iff_exists.mp
    (show (run (next Utils.hasRequestCompleted) (initial { price := 1000 })
      orderLife).isSome = true by decide +kernel)
  exact ⟨s, reached, requests_wait { price := 1000 } orderLife (by decide) s reached _⟩

/-- Refreshed every ten seconds, with a cancel that is never answered. -/
theorem stops_in_time_unanswered : ∃ opened s,
    run (next Utils.hasRequestCompleted) (initial { price := 1000 })
        (opening ++ [.ready second]) = some opened ∧
      run (next Utils.hasRequestCompleted) opened life = some s ∧
      s.strategy.state = .done ∧
      .stop ∈ trace (next Utils.hasRequestCompleted)
        (effects Utils.hasRequestCompleted) opened life := by
  obtain ⟨opened, up, awaited, completes⟩ : ∃ opened,
      run (next Utils.hasRequestCompleted) (initial { price := 1000 })
          (opening ++ [.ready second]) = some opened ∧
        AllSteps (next Utils.hasRequestCompleted)
            (Awaited Utils.hasRequestCompleted) opened life ∧
          (run (next Utils.hasRequestCompleted) opened life).isSome = true :=
    reaches_of_any (by decide +kernel)
  obtain ⟨s, reached⟩ := Option.isSome_iff_exists.mp completes
  refine ⟨opened, s, up, reached, ?_⟩
  refine stops_in_time { price := 1000 } opening second opened up life ?_ awaited (10 * second) ?_ s
    reached ?_
  · simp [life, refreshes, SingleConnection]
  · decide +kernel
  · decide +kernel

end Examples

end RoqSamples.Polling.Timing
