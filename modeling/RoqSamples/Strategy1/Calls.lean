/- Strategy1/Calls
   digest: The calls of the two legs that the handlers of the strategy make, and what each of them
     preserves. -/
import RoqSamples.Execution.Components
import RoqSamples.Strategy1.LegSteps
import RoqSamples.Strategy1.Strategy

set_option autoImplicit false
set_option relaxedAutoImplicit false

namespace RoqSamples.Strategy1.Calls

open RoqSamples.Arith (Double)
open RoqSamples.Client
open RoqSamples.Execution.Components
open RoqSamples.Execution.Runs
open RoqSamples.Strategy1.LegDiscipline (exactly successes modifyPrice)
open RoqSamples.Strategy1.LegSteps
open RoqSamples.Strategy1.LegTokens (Held Step next_step next_held initial_held)
open Session (requestOf NotRateLimited)

variable (settings : StrategySettings)

/-- What the strategy is promised: a request is answered, and a create is retried, before the
COMPLETED OrderUpdate of its order, no request is answered by REQUEST_RATE_LIMIT_REACHED, and only
an order that was submitted is completed. -/
def Orderly (s : Strategy) : StrategyEvent → Prop
  | .response name index response link =>
      LegCompletion.AnsweredFirst (s.leg name) (.response index response link) ∧
        NotRateLimited (.response index response link)
  | .timer name index link => LegCompletion.AnsweredFirst (s.leg name) (.timer index link)
  | .orderUpdate (some name) orderStatus _ _ =>
      orderStatus = .completed → (s.leg name).leg.state ≠ .undefined
  | .orderUpdate none _ _ _ | .market _ _ _ _ => True

instance (s : Session) (e : Event) : Decidable (LegCompletion.AnsweredFirst s e) :=
  match e with
  | .response _ _ _ => inferInstanceAs (Decidable (s.completed = true → False))
  | .timer index _ =>
      inferInstanceAs (Decidable
        (s.completed = true → ∀ timer ∈ s.timers[index]?, timer.helper = .modify))
  | .market _ _ _ | .modifyOrder _ _ | .orderUpdate _ =>
      inferInstanceAs (Decidable (s.completed = true → True))

instance (s : Strategy) (e : StrategyEvent) : Decidable (Orderly s e) :=
  match e with
  | .response name index response link =>
      inferInstanceAs (Decidable
        (LegCompletion.AnsweredFirst (s.leg name) (.response index response link) ∧
          NotRateLimited (.response index response link)))
  | .timer name index link =>
      inferInstanceAs (Decidable (LegCompletion.AnsweredFirst (s.leg name) (.timer index link)))
  | .orderUpdate (some name) orderStatus _ _ =>
      inferInstanceAs (Decidable
        (orderStatus = .completed → (s.leg name).leg.state ≠ .undefined))
  | .orderUpdate none _ _ _ | .market _ _ _ _ => inferInstanceAs (Decidable True)

/-- A call of a handler of one leg. -/
def calls (s : Strategy) (call : LegName × Event) : Option Strategy :=
  s.call settings call.1 call.2

/-- What the handlers of the strategy add to that when they call a leg. -/
def Called (s : Strategy) (call : LegName × Event) : Prop :=
  match call.2 with
  | .response index response link =>
      LegCompletion.AnsweredFirst (s.leg call.1) (.response index response link) ∧
        NotRateLimited (.response index response link)
  | .timer index link => LegCompletion.AnsweredFirst (s.leg call.1) (.timer index link)
  | .orderUpdate orderStatus =>
      orderStatus = .completed → (s.leg call.1).leg.state ≠ .undefined
  | .modifyOrder price _ =>
      price = settings.pullBack call.1 ∧ (s.leg call.1.other).leg.state = .finished ∧
        (s.leg call.1).leg.state ≠ .finished ∧ (s.leg call.1).leg.state ≠ .undefined
  | .market _ _ _ => True

/-- What is recorded of one leg. -/
def entriesOf (name : LegName) (record : List (LegName × Entry)) : List Entry :=
  record.filterMap fun (name', entry) => if name' = name then some entry else none

def acknowledgedPrice : Entry → Option Double
  | .acknowledged price => some price
  | .did _ => none

def sentPrice : Entry → Option Double
  | .did effect => (requestOf effect).map fun request => request.price
  | .acknowledged _ => none

def assertion : Entry → Option Check
  | .did (.check check) => some check
  | _ => none

/-- The prices acknowledged for one leg, in order. -/
def acknowledgedOf (s : Strategy) (name : LegName) : List Double :=
  (entriesOf name s.record).filterMap acknowledgedPrice

/-- The prices of the requests sent for one leg, in order. -/
def sentOf (s : Strategy) (name : LegName) : List Double :=
  (entriesOf name s.record).filterMap sentPrice

/-- The assertions evaluated for one leg, in order. -/
def assertionsOf (s : Strategy) (name : LegName) : List Check :=
  (entriesOf name s.record).filterMap assertion

/-- The prices when the leg named, if any, has been pulled back. -/
structure Priced (pulled : Option LegName) (s : Strategy) : Prop where
  price : ∀ name, (s.leg name).leg.price =
    if pulled = some name then settings.pullBack name else settings.price name
  finished : ∀ name, pulled = some name → (s.leg name.other).leg.state = .finished
  moved : ∀ name, pulled = some name → settings.pullBack name ≠ settings.price name
  sent : ∀ name, ∀ price ∈ sentOf s name, price = settings.price name ∨
    pulled = some name ∧ price = settings.pullBack name

/-- What every call preserves in addition. -/
structure Kept (s : Strategy) : Prop where
  held : ∀ name, Held (s.leg name)
  tracked : ∀ name, LegCompletion.Tracked (s.leg name)
  checks : ∀ name, ∀ check ∈ assertionsOf s name, Holds check
  acknowledged : ∀ name, (s.leg name).leg.state = .waiting →
    (acknowledgedOf s name).getLast? = some (s.leg name).leg.price

/-- The legs start together. -/
def Together (s : Strategy) : Prop :=
  s.stopped = false → (s.high.leg.state = .undefined ↔ s.low.leg.state = .undefined)

section Calls

variable {settings}

private theorem entriesOf_append (name name' : LegName) (record : List (LegName × Entry))
    (entries : List Entry) :
    entriesOf name' (record ++ entries.map fun entry => (name, entry)) =
      entriesOf name' record ++ if name = name' then entries else [] := by
  unfold entriesOf
  rw [List.filterMap_append, List.filterMap_map]
  congr 1
  split
  · rename_i same
    simp [same]
  · rename_i other
    simp [other]

private theorem entries_acknowledged (session : Session) (e : Event) :
    (Strategy.entries settings session e).filterMap acknowledgedPrice =
      (successes session e).map Prod.snd := by
  have none_done (effects : List Effect) :
      (effects.map Entry.did).filterMap acknowledgedPrice = [] := by
    simp [List.filterMap_map, Function.comp_def, acknowledgedPrice]
  unfold Strategy.entries
  rw [List.filterMap_append, none_done, List.append_nil, List.filterMap_map]
  simp [Function.comp_def, acknowledgedPrice]

theorem entries_sent (session : Session) (e : Event) :
    (Strategy.entries settings session e).filterMap sentPrice =
      ((session.effects exactly settings.toSettings e).filterMap requestOf).map
        fun request => request.price := by
  have none_answered (answers : List (Helper × Double)) :
      (answers.map fun success => Entry.acknowledged success.2).filterMap sentPrice = [] := by
    simp [List.filterMap_map, Function.comp_def, sentPrice]
  unfold Strategy.entries
  rw [List.filterMap_append, none_answered, List.nil_append, List.filterMap_map,
    List.map_filterMap]
  rfl

private theorem entries_assertion {session : Session} {e : Event} {check : Check}
    (mem : check ∈ (Strategy.entries settings session e).filterMap assertion) :
    .check check ∈ session.effects exactly settings.toSettings e := by
  obtain ⟨entry, recorded, asserted⟩ := List.mem_filterMap.mp mem
  rcases List.mem_append.mp recorded with answered | done
  · obtain ⟨success, _, rfl⟩ := List.mem_map.mp answered
    cases asserted
  · obtain ⟨effect, here, rfl⟩ := List.mem_map.mp done
    cases effect with
    | check c =>
        cases asserted
        exact here
    | createOrder | modifyOrder | addTimer | fatal | danglingCall => cases asserted

/-- What a call that is not skipped does: one step of its leg, which is recorded. -/
structure Steps (settings : StrategySettings) (name : LegName) (e : Event)
    (s t : Strategy) : Prop where
  running : s.stopped = false
  taken : (s.leg name).next exactly settings.toSettings e = some (t.leg name)
  frame : ∀ name', name' ≠ name → t.leg name' = s.leg name'
  entries : entriesOf name t.record =
    entriesOf name s.record ++ Strategy.entries settings (s.leg name) e
  silent : ∀ name', name' ≠ name → entriesOf name' t.record = entriesOf name' s.record

theorem call_steps {s t : Strategy} {name : LegName} {e : Event}
    (called : s.call settings name e = some t) :
    t = s ∧ s.stopped = true ∨ Steps settings name e s t := by
  unfold Strategy.call at called
  split at called
  · rename_i stopped
    cases called
    exact .inl ⟨rfl, stopped⟩
  · rename_i running
    obtain ⟨session, taken, rfl⟩ := Option.map_eq_some_iff.mp called
    refine .inr ⟨by simpa using running, ?_, ?_, ?_, ?_⟩
    · rw [taken]
      cases name <;> rfl
    · intro name' other
      cases name <;> cases name' <;> first | rfl | exact (other rfl).elim
    · exact (entriesOf_append name name _ _).trans (by rw [if_pos rfl])
    · intro name' other
      refine (entriesOf_append name name' _ _).trans ?_
      rw [if_neg (Ne.symm other), List.append_nil]

theorem answered_of_called {s : Strategy} {name : LegName} {e : Event}
    (called : Called settings s (name, e)) : LegCompletion.AnsweredFirst (s.leg name) e := by
  cases e with
  | response index response link => exact called.1
  | timer index link => exact called
  | market | modifyOrder | orderUpdate => exact fun _ => trivial

private theorem unlimited_of_called {s : Strategy} {name : LegName} {e : Event}
    (called : Called settings s (name, e)) : NotRateLimited e := by
  cases e with
  | response index response link => exact called.2
  | timer | market | modifyOrder | orderUpdate => trivial

theorem kept_call {s t : Strategy} {name : LegName} {e : Event}
    (numbers : ∀ name, settings.pullBack name ≠ .nan) (kept : Kept s)
    (called : Called settings s (name, e)) (taken : s.call settings name e = some t) : Kept t := by
  rcases call_steps taken with ⟨rfl, _⟩ | steps
  · exact kept
  obtain ⟨tracked, good⟩ := LegCompletion.step_sound exactly settings.toSettings
    (kept.tracked name) (answered_of_called called) (unlimited_of_called called) steps.taken
  have only {P : LegName → Prop} (here : P name)
      (elsewhere : ∀ name', name' ≠ name → P name') : ∀ name', P name' := by
    intro name'
    by_cases same : name' = name
    · rwa [same]
    · exact elsewhere name' same
  refine ⟨only ?_ ?_, only ?_ ?_, only ?_ ?_, only ?_ ?_⟩
  · exact next_held (kept.held name) steps.taken
  · intro name' other
    rw [steps.frame name' other]
    exact kept.held name'
  · exact tracked
  · intro name' other
    rw [steps.frame name' other]
    exact kept.tracked name'
  · intro check mem
    rw [assertionsOf, steps.entries, List.filterMap_append] at mem
    rcases List.mem_append.mp mem with before | now
    · exact kept.checks name check before
    · have evaluated := entries_assertion now
      obtain ⟨m, o, found, does, _⟩ := Session.next_eq_some exactly settings.toSettings steps.taken
      have foreseen : Foreseen o := by
        refine outcome_foreseen (kept.held name) ?_ found
        rintro price link rfl
        obtain ⟨same, _, _, started⟩ := called
        rw [same]
        exact ⟨numbers name, started⟩
      rcases foreseen check (by rwa [← does]) with ⟨expected, actual, rfl⟩ | holds
      · exact good.assertions expected actual evaluated
      · exact holds
  · intro name' other
    rw [assertionsOf, steps.silent name' other]
    exact kept.checks name'
  · intro rests
    obtain ⟨m, o, step, _, same⟩ := next_step steps.taken
    rw [same] at rests
    have last := LegDiscipline.step_acknowledged (kept.acknowledged name) step rests
    rw [acknowledgedOf, steps.entries, List.filterMap_append, entries_acknowledged,
      List.getLast?_append, List.getLast?_map, same]
    exact last
  · intro name' other
    rw [steps.frame name' other, acknowledgedOf, steps.silent name' other]
    exact kept.acknowledged name'

/-- The same leg is pulled back after a call, or the one that is called now. -/
private theorem priced_step {s t : Strategy} {name : LegName} {e : Event}
    {pulled pulled' : Option LegName} (kept : Kept s) (priced : Priced settings pulled s)
    (called : Called settings s (name, e)) (steps : Steps settings name e s t)
    (grows : pulled' = pulled ∨ pulled = none ∧ pulled' = some name)
    (price : (t.leg name).leg.price =
      if pulled' = some name then settings.pullBack name else settings.price name)
    (finished : pulled' = some name → (s.leg name.other).leg.state = .finished)
    (moved : pulled' = some name → settings.pullBack name ≠ settings.price name) :
    Priced settings pulled' t := by
  obtain ⟨m, o, step, does, same⟩ := next_step steps.taken
  have stays (name' : LegName) (before : (s.leg name').leg.state = .finished) :
      (t.leg name').leg.state = .finished := by
    by_cases here : name' = name
    · rw [here] at before ⊢
      rw [same]
      exact (finished_step (kept.tracked name) (answered_of_called called) step before).1
    · rw [steps.frame name' here]
      exact before
  have elsewhere {name' : LegName} (other : name' ≠ name) :
      pulled' = some name' ↔ pulled = some name' := by
    rcases grows with unchanged | ⟨fresh, now⟩
    · rw [unchanged]
    · rw [fresh, now]
      exact iff_of_false (fun here => other (Option.some.inj here).symm) nofun
  refine ⟨?_, ?_, ?_, ?_⟩
  · intro name'
    by_cases here : name' = name
    · rw [here]
      exact price
    · rw [steps.frame name' here, priced.price name']
      simp only [elsewhere here]
  · intro name' now
    by_cases here : name' = name
    · rw [here] at now ⊢
      exact stays name.other (finished now)
    · exact stays name'.other (priced.finished name' ((elsewhere here).mp now))
  · intro name' now
    by_cases here : name' = name
    · rw [here] at now ⊢
      exact moved now
    · exact priced.moved name' ((elsewhere here).mp now)
  · intro name' p mem
    have kept_sent (before : p ∈ sentOf s name') : p = settings.price name' ∨
        pulled' = some name' ∧ p = settings.pullBack name' := by
      rcases priced.sent name' p before with first | ⟨was, later⟩
      · exact .inl first
      · refine .inr ⟨?_, later⟩
        rcases grows with unchanged | ⟨fresh, _⟩
        · rw [unchanged, was]
        · cases fresh.symm.trans was
    by_cases here : name' = name
    · rw [here] at mem kept_sent ⊢
      rw [sentOf, steps.entries, List.filterMap_append, entries_sent] at mem
      rcases List.mem_append.mp mem with before | now
      · exact kept_sent before
      · obtain ⟨request, sent, rfl⟩ := List.mem_map.mp now
        rw [does] at sent
        have carries : request.price = (t.leg name).leg.price := by
          rw [same]
          exact sent_price step sent
        rw [carries, price]
        by_cases back : pulled' = some name
        · exact .inr ⟨back, if_pos back⟩
        · exact .inl (if_neg back)
    · rw [sentOf, steps.silent name' here] at mem
      exact kept_sent mem

/-- What the strategy asks for is the pull-back of a leg whose other leg has finished; it has been
asked for before when that leg is the one that was pulled back. -/
theorem priced_call {s t : Strategy} {name : LegName} {e : Event}
    {pulled : Option LegName} (kept : Kept s) (priced : Priced settings pulled s)
    (called : Called settings s (name, e)) (taken : s.call settings name e = some t) :
    ∃ pulled', Priced settings pulled' t ∧ (pulled' = pulled ∨ pulled = none) := by
  rcases call_steps taken with ⟨rfl, _⟩ | steps
  · exact ⟨pulled, priced, .inl rfl⟩
  obtain ⟨m, o, step, _, same⟩ := next_step steps.taken
  have price : (t.leg name).leg.price = (modifyPrice e).getD (s.leg name).leg.price := by
    rw [same]
    exact LegDiscipline.step_price step
  cases asked : modifyPrice e with
  | none =>
      rw [asked] at price
      exact ⟨pulled, priced_step kept priced called steps (.inl rfl)
        (price.trans (priced.price name)) (priced.finished name) (priced.moved name), .inl rfl⟩
  | some p =>
      rw [asked] at price
      obtain ⟨rfl, finished, unfinished, _⟩ : p = settings.pullBack name ∧
          (s.leg name.other).leg.state = .finished ∧ (s.leg name).leg.state ≠ .finished ∧
          (s.leg name).leg.state ≠ .undefined := by
        cases e with
        | modifyOrder price link =>
            cases asked
            exact called
        | market | response | timer | orderUpdate => cases asked
      by_cases back : pulled = some name
      · refine ⟨pulled, priced_step kept priced called steps (.inl rfl) ?_ (fun _ => finished)
          (priced.moved name), .inl rfl⟩
        rw [if_pos back]
        exact price
      · have fresh : pulled = none := by
          cases which : pulled with
          | none => rfl
          | some other =>
              have there := priced.finished other which
              cases name <;> cases other <;>
                first | exact (back which).elim | exact (unfinished there).elim
        by_cases still : settings.pullBack name = settings.price name
        · refine ⟨pulled, priced_step kept priced called steps (.inl rfl) ?_
            (priced.finished name) (priced.moved name), .inl rfl⟩
          rw [if_neg back]
          exact price.trans still
        · refine ⟨some name, priced_step kept priced called steps (.inr ⟨fresh, rfl⟩) ?_
            (fun _ => finished) (fun _ => still), .inr fresh⟩
          rw [if_pos rfl]
          exact price

theorem expands_call {s t : Strategy} {name : LegName} {e : Event}
    (called : Called settings s (name, e)) (taken : s.call settings name e = some t) :
    Expands (calls settings) (Called settings) s t := by
  have step : calls settings s (name, e) = some t := taken
  exact Expands.single step called

/-- Neither leg has started meanwhile. -/
def SameStart (s t : Strategy) : Prop :=
  ∀ name, (t.leg name).leg.state = .undefined ↔ (s.leg name).leg.state = .undefined

private theorem sameStart_call {s t : Strategy} {name : LegName} {e : Event} (kept : Kept s)
    (called : Called settings s (name, e)) (closed : ¬ Opens e)
    (taken : s.call settings name e = some t) : SameStart s t := by
  rcases call_steps taken with ⟨rfl, _⟩ | steps
  · exact fun _ => Iff.rfl
  intro name'
  by_cases here : name' = name
  · obtain ⟨m, o, step, _, same⟩ := next_step steps.taken
    have submitted : e = .orderUpdate .completed → (s.leg name).leg.state ≠ .undefined := by
      rintro rfl
      exact called rfl
    rw [here, same]
    refine (undefined_step (kept.held name) submitted step).trans ?_
    exact ⟨fun both => both.1, fun state => ⟨state, closed⟩⟩
  · rw [steps.frame name' here]

theorem Together.sameStart {s t : Strategy} (together : Together s)
    (running : s.stopped = false) (same : SameStart s t) : Together t := by
  intro _
  exact (same .high).trans ((together running).trans (same .low).symm)

/-- The market opens for both legs in the same event. -/
private theorem together_market {s m t : Strategy} {ready : Bool} {tradingStatus : TradingStatus}
    {high low : Link} (kept : Kept s) (kept' : Kept m) (together : Together s)
    (running : s.stopped = false)
    (first : s.call settings .high (.market ready tradingStatus high) = some m)
    (second : m.call settings .low (.market ready tradingStatus low) = some t) : Together t := by
  rcases call_steps first with ⟨_, stopped⟩ | steps
  · cases running.symm.trans stopped
  rcases call_steps second with ⟨rfl, stopped⟩ | steps'
  · intro running'
    cases stopped.symm.trans running'
  intro _
  have high_started : t.high.leg.state = .undefined ↔
      s.high.leg.state = .undefined ∧ ¬ Opens (.market ready tradingStatus high) := by
    obtain ⟨_, o, step, _, same⟩ := next_step steps.taken
    have frame : t.high = m.high := steps'.frame .high nofun
    rw [frame, show m.high = _ from same]
    exact undefined_step (kept.held .high) nofun step
  have low_started : t.low.leg.state = .undefined ↔
      s.low.leg.state = .undefined ∧ ¬ Opens (.market ready tradingStatus low) := by
    obtain ⟨_, o, step, _, same⟩ := next_step steps'.taken
    have frame : m.low = s.low := steps.frame .low nofun
    rw [← frame, show t.low = _ from same]
    exact undefined_step (kept'.held .low) nofun step
  rw [high_started, low_started, together running]
  rfl

/-- The handler of the strategy asks one leg for its pull-back, if anything. -/
theorem onOrderUpdate_cases {s t : Strategy} {link : Link}
    (taken : s.onOrderUpdate settings link = some t) :
    t = s ∧ ((s.leg .high).leg.state = .finished ↔ (s.leg .low).leg.state = .finished) ∨
      ∃ name, (s.leg name.other).leg.state = .finished ∧ (s.leg name).leg.state ≠ .finished ∧
        s.call settings name (.modifyOrder (settings.pullBack name) link) = some t := by
  have decided (session : Session) : session.leg.isFinished = true ↔
      session.leg.state = .finished := decide_eq_true_iff
  unfold Strategy.onOrderUpdate at taken
  cases high : s.high.leg.isFinished with
  | true =>
      have high_finished : (s.leg .high).leg.state = .finished := (decided _).mp high
      cases low : s.low.leg.isFinished with
      | true =>
          have low_finished : (s.leg .low).leg.state = .finished := (decided _).mp low
          simp only [high, low, Bool.and_self, if_true, Option.some.injEq] at taken
          exact .inl ⟨taken.symm, iff_of_true high_finished low_finished⟩
      | false =>
          simp only [high, low] at taken
          refine .inr ⟨.low, high_finished, fun finished => ?_, taken⟩
          cases low.symm.trans ((decided _).mpr finished)
  | false =>
      have high_open : (s.leg .high).leg.state ≠ .finished := by
        intro finished
        cases high.symm.trans ((decided _).mpr finished)
      cases low : s.low.leg.isFinished with
      | true =>
          simp only [high, low] at taken
          exact .inr ⟨.high, (decided _).mp low, high_open, taken⟩
      | false =>
          simp only [high, low] at taken
          refine .inl ⟨(Option.some.inj taken).symm, iff_of_false high_open fun finished => ?_⟩
          cases low.symm.trans ((decided _).mpr finished)

private theorem onOrderUpdate_expands {s t : Strategy} {link : Link} (kept : Kept s)
    (together : Together s) (taken : s.onOrderUpdate settings link = some t) :
    Expands (calls settings) (Called settings) s t ∧ SameStart s t := by
  rcases onOrderUpdate_cases taken with ⟨rfl, _⟩ | ⟨name, finished, unfinished, called⟩
  · exact ⟨Expands.refl _ t, fun _ => Iff.rfl⟩
  rcases call_steps called with ⟨rfl, _⟩ | steps
  · exact ⟨Expands.refl _ t, fun _ => Iff.rfl⟩
  have started : (s.leg name).leg.state ≠ .undefined := by
    have both := together steps.running
    intro undefined
    cases name with
    | high => cases finished.symm.trans (both.mp undefined)
    | low => cases finished.symm.trans (both.mpr undefined)
  have asked : Called settings s (name, .modifyOrder (settings.pullBack name) link) :=
    ⟨rfl, finished, unfinished, started⟩
  exact ⟨expands_call asked called, sameStart_call kept asked id called⟩

theorem onLegOrderUpdate_expands {s t : Strategy} {order : Option LegName}
    {orderStatus : OrderStatus} (kept : Kept s)
    (submitted : ∀ name, order = some name → orderStatus = .completed →
      (s.leg name).leg.state ≠ .undefined)
    (taken : s.onLegOrderUpdate settings order orderStatus = some t) :
    Expands (calls settings) (Called settings) s t ∧ SameStart s t := by
  cases order with
  | none =>
      cases taken
      exact ⟨Expands.refl _ s, fun _ => Iff.rfl⟩
  | some name =>
      have asked : Called settings s (name, .orderUpdate orderStatus) := submitted name rfl
      exact ⟨expands_call asked taken, sameStart_call kept asked id taken⟩

/-- Every event is handled by calls that keep what is promised, and starts both legs or none. -/
theorem next_expands {s t : Strategy} {e : StrategyEvent}
    (numbers : ∀ name, settings.pullBack name ≠ .nan) (kept : Kept s) (together : Together s)
    (orderly : Orderly s e) (taken : s.next settings e = some t) :
    Expands (calls settings) (Called settings) s t ∧ Together t := by
  have keeps {s t : Strategy} (kept : Kept s)
      (expands : Expands (calls settings) (Called settings) s t) : Kept t :=
    expands.preserves (fun _ _ _ kept called taken => kept_call numbers kept called taken) kept
  unfold Strategy.next at taken
  split at taken
  · cases taken
  rename_i up
  have running : s.stopped = false := by simpa using up
  cases e with
  | market ready tradingStatus high low =>
      obtain ⟨m, first, second⟩ := Option.bind_eq_some_iff.mp taken
      have asked_high : Called settings s (.high, .market ready tradingStatus high) := trivial
      have asked_low : Called settings m (.low, .market ready tradingStatus low) := trivial
      have here := expands_call asked_high first
      refine ⟨here.trans (expands_call asked_low second), ?_⟩
      exact together_market kept (keeps kept here) together running first second
  | response name index response link =>
      have asked : Called settings s (name, .response index response link) := orderly
      exact ⟨expands_call asked taken,
        together.sameStart running (sameStart_call kept asked id taken)⟩
  | timer name index link =>
      have asked : Called settings s (name, .timer index link) := orderly
      exact ⟨expands_call asked taken,
        together.sameStart running (sameStart_call kept asked id taken)⟩
  | orderUpdate order orderStatus legFirst link =>
      have submitted (name : LegName) (which : order = some name) :
          orderStatus = .completed → (s.leg name).leg.state ≠ .undefined := by
        rw [which] at orderly
        exact orderly
      cases legFirst with
      | true =>
          obtain ⟨m, first, second⟩ := Option.bind_eq_some_iff.mp taken
          obtain ⟨here, same⟩ := onLegOrderUpdate_expands kept submitted first
          have together' := together.sameStart running same
          obtain ⟨there, same'⟩ := onOrderUpdate_expands (keeps kept here) together' second
          refine ⟨here.trans there, together.sameStart running ?_⟩
          exact fun name => (same' name).trans (same name)
      | false =>
          obtain ⟨m, first, second⟩ := Option.bind_eq_some_iff.mp taken
          obtain ⟨here, same⟩ := onOrderUpdate_expands kept together first
          have submitted' (name : LegName) (which : order = some name)
              (completed : orderStatus = .completed) : (m.leg name).leg.state ≠ .undefined :=
            fun undefined => submitted name which completed ((same name).mp undefined)
          obtain ⟨there, same'⟩ := onLegOrderUpdate_expands (keeps kept here) submitted' second
          refine ⟨here.trans there, together.sameStart running ?_⟩
          exact fun name => (same' name).trans (same name)

end Calls

end RoqSamples.Strategy1.Calls
