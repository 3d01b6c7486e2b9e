/- Example7/PublishedWindow
   digest: A published matrix holds the last mid prices of its instrument exactly when no other
     instrument had one of the last three events. -/
import RoqSamples.Example7.Strategy
import RoqSamples.Execution.Runs
import Mathlib.Data.Fin.Tuple.Basic

set_option autoImplicit false
set_option relaxedAutoImplicit false

namespace RoqSamples.Example7.PublishedWindow

open RoqSamples.Arith (Double)
open RoqSamples.Execution.Runs

/-- Whether the last download has not ended, and the TopOfBook events outside of downloads, the last
one first. -/
def outside (past : List Event) : Bool × List TopOfBook :=
  past.foldl (fun (download, events) e =>
    match e with
    | .downloadBegin => (true, events)
    | .downloadEnd => (false, events)
    | .topOfBook topOfBook _ _ => (download, if download then events else topOfBook :: events))
    (false, [])

/-- The strategy and the events it has handled. -/
structure Session where
  strategy : Strategy
  past : List Event := []

def start (settings : Settings) (garbage : Vector Double 3) : Session where
  strategy := Strategy.new settings garbage

def next (s : Session) (e : Event) : Option Session :=
  some { strategy := (s.strategy.handle e).1, past := s.past ++ [e] }

/-- The data of a matrix against the events of its instrument, the last one first. -/
structure OwnWindow (own : List TopOfBook) (matrix : CustomMatrix) : Prop where
  rows : ∀ (k : Fin 3) (topOfBook : TopOfBook), own[k.val]? = some topOfBook →
    matrix.data[k].value = topOfBook.mid
  others : ∀ (k : Fin 3) (key : Key), matrix.data[k].origin = some key →
    key = (matrix.exchange, matrix.symbol)

/-- A matrix that is published shows its own instrument, and no other. -/
def PublishesOwn (s : Session) (e : Event) : Prop :=
  ∀ matrix, Effect.customMatrix matrix ∈ (s.strategy.handle e).2 →
    OwnWindow ((outside (s.past ++ [e])).2.filter fun topOfBook =>
      decide (topOfBook.key = (matrix.exchange, matrix.symbol))) matrix

/-- The event leads to a matrix. -/
def Publishes (s : Session) (topOfBook : TopOfBook) (e : Event) : Prop :=
  e = .topOfBook topOfBook true true ∧ s.strategy.settings.subscriber = false ∧
    (outside s.past).1 = false

/-- The two events before one that is published are of the same instrument. -/
def Undisturbed (s : Session) (e : Event) : Prop :=
  ∀ topOfBook, Publishes s topOfBook e →
    ∀ other ∈ (outside s.past).2.take 2, other.key = topOfBook.key

/-- The cell that an event leaves. -/
private def cell (topOfBook : TopOfBook) : Cell where
  value := topOfBook.mid
  origin := some topOfBook.key

/-- What the array holds after the events, the last one first. -/
private def window (garbage : Vector Double 3) (events : List TopOfBook) : List Cell :=
  (events.map cell ++ (Strategy.initialData garbage).toList).take 3

/-- The data of a publisher are the last events of all instruments. -/
private structure Mixed (garbage : Vector Double 3) (s : Session) : Prop where
  downloading : s.strategy.downloading = (outside s.past).1
  data : s.strategy.settings.subscriber = false →
    s.strategy.data.toList = window garbage (outside s.past).2

private theorem outside_append (past : List Event) (e : Event) :
    outside (past ++ [e]) =
      match e with
      | .downloadBegin => (true, (outside past).2)
      | .downloadEnd => (false, (outside past).2)
      | .topOfBook topOfBook _ _ =>
          ((outside past).1,
            if (outside past).1 then (outside past).2 else topOfBook :: (outside past).2) := by
  unfold outside
  rw [List.foldl_append]
  cases e with
  | downloadBegin | downloadEnd => rfl
  | topOfBook topOfBook _ _ => rfl

private theorem window_cons (garbage : Vector Double 3) (topOfBook : TopOfBook)
    (events : List TopOfBook) :
    window garbage (topOfBook :: events) = cell topOfBook :: (window garbage events).take 2 := by
  unfold window
  rw [List.map_cons, List.cons_append, List.take_succ_cons, List.take_take]
  rfl

private theorem start_mixed (settings : Settings) (garbage : Vector Double 3) :
    Mixed garbage (start settings garbage) := by
  refine ⟨rfl, fun _ => ?_⟩
  show (Strategy.initialData garbage).toList = ((Strategy.initialData garbage).toList).take 3
  rw [List.take_of_length_le (by simp)]

private theorem mixed_step {garbage : Vector Double 3} {s t : Session} {e : Event}
    (mixed : Mixed garbage s) (taken : next s e = some t) : Mixed garbage t := by
  cases taken
  have grown := outside_append s.past e
  cases e with
  | downloadBegin | downloadEnd =>
      refine ⟨?_, fun publisher => ?_⟩
      · rw [grown]
        rfl
      · rw [grown]
        exact mixed.data publisher
  | topOfBook topOfBook metricsConnected matrixConnected =>
      dsimp only [Strategy.handle, Strategy.onTopOfBook]
      rw [mixed.downloading]
      cases subscriber : s.strategy.settings.subscriber with
      | true =>
          refine ⟨?_, fun publisher => ?_⟩
          · rw [grown]
            exact mixed.downloading
          · exact absurd (subscriber.symm.trans publisher) (by simp)
      | false =>
          cases download : (outside s.past).1 with
          | true =>
              rw [download] at grown
              refine ⟨?_, fun publisher => ?_⟩
              · rw [grown]
                exact mixed.downloading.trans download
              · rw [grown]
                exact mixed.data publisher
          | false =>
              rw [download] at grown
              refine ⟨?_, fun publisher => ?_⟩
              · rw [grown]
                exact mixed.downloading.trans download
              · rw [grown]
                show (Strategy.shiftRight (cell topOfBook) s.strategy.data).toList = _
                rw [Strategy.toList_shiftRight, mixed.data subscriber]
                exact (window_cons garbage topOfBook _).symm

/-- The matrix of an event that leads to one. -/
private theorem sent_iff {s : Session} {e : Event} (downloading :
    s.strategy.downloading = (outside s.past).1) (matrix : CustomMatrix) :
    Effect.customMatrix matrix ∈ (s.strategy.handle e).2 ↔
      ∃ topOfBook, Publishes s topOfBook e ∧
        matrix = (s.strategy.measure topOfBook).customMatrix topOfBook := by
  unfold Publishes
  rw [← downloading]
  cases e with
  | downloadBegin | downloadEnd => simp [Strategy.handle]
  | topOfBook topOfBook metricsConnected matrixConnected =>
      unfold Strategy.handle Strategy.onTopOfBook
      cases s.strategy.settings.subscriber <;> cases s.strategy.downloading <;>
        cases metricsConnected <;> cases matrixConnected <;> simp

private theorem take_entry {α : Type} {l : List α} {n k : Nat} {x : α}
    (found : (l.take n)[k]? = some x) : k < n ∧ l[k]? = some x := by
  rw [List.getElem?_take] at found
  split at found
  · rename_i inside
    exact ⟨inside, found⟩
  · cases found

/-- Filtering leaves alone what comes before the first entry it drops. -/
private theorem getElem_of_filter {α : Type} {p : α → Bool} {l : List α} {k : Nat} {x : α}
    (kept : ∀ y ∈ l.take (k + 1), p y = true) (found : (l.filter p)[k]? = some x) :
    l[k]? = some x := by
  induction l generalizing k with
  | nil => exact found
  | cons a l ih =>
      rw [List.filter_cons_of_pos (kept a (by simp))] at found
      cases k with
      | zero => exact found
      | succ k =>
          refine ih (fun y mem => kept y ?_) found
          rw [List.take_succ_cons]
          exact List.mem_cons_of_mem a mem

private theorem window_event {garbage : Vector Double 3} {events : List TopOfBook} {k : Nat}
    (inside : k < 3) {other : TopOfBook} (found : events[k]? = some other) :
    (window garbage events)[k]? = some (cell other) := by
  have bound := (List.getElem?_eq_some_iff.mp found).1
  unfold window
  rw [List.getElem?_take_of_lt inside, List.getElem?_append_left (by simpa using bound),
    List.getElem?_map, found]
  rfl

/-- What has an instrument comes from an event. -/
private theorem window_origin {garbage : Vector Double 3} {events : List TopOfBook} {k : Nat}
    {c : Cell} {key : Key} (found : (window garbage events)[k]? = some c)
    (origin : c.origin = some key) : ∃ other, events[k]? = some other ∧ other.key = key := by
  have found := (take_entry found).2
  rcases Nat.lt_or_ge k events.length with event | before
  · rw [List.getElem?_append_left (by simpa using event), List.getElem?_map] at found
    obtain ⟨other, there, same⟩ := Option.map_eq_some_iff.mp found
    refine ⟨other, there, ?_⟩
    rw [← same] at origin
    exact Option.some.inj origin
  · rw [List.getElem?_append_right (by simpa using before)] at found
    have mem := List.mem_of_getElem? found
    simp only [Strategy.initialData, Vector.toList_map, List.mem_map] at mem
    obtain ⟨value, _, rfl⟩ := mem
    cases origin

private theorem ownWindow_iff {garbage : Vector Double 3} {topOfBook : TopOfBook}
    {events : List TopOfBook} {matrix : CustomMatrix}
    (key : (matrix.exchange, matrix.symbol) = topOfBook.key)
    (data : matrix.data.toList = window garbage (topOfBook :: events)) :
    OwnWindow ((topOfBook :: events).filter fun other =>
        decide (other.key = (matrix.exchange, matrix.symbol))) matrix ↔
      ∀ other ∈ events.take 2, other.key = topOfBook.key := by
  have entry (k : Fin 3) :
      (window garbage (topOfBook :: events))[k.val]? = some matrix.data[k] := by
    rw [← data]
    simp
  rw [key]
  constructor
  · intro own other mem
    obtain ⟨i, found⟩ := List.mem_iff_getElem?.mp mem
    obtain ⟨inside, found⟩ := take_entry found
    have shown := entry ⟨i + 1, by omega⟩
    have row : (window garbage (topOfBook :: events))[i + 1]? = some (cell other) :=
      window_event (by omega) found
    have origin : matrix.data[(⟨i + 1, by omega⟩ : Fin 3)].origin = some other.key := by
      rw [← Option.some.inj (row.symm.trans shown)]
      rfl
    exact (own.others _ _ origin).trans key
  · intro undisturbed
    have recent : ∀ other ∈ (topOfBook :: events).take 3, other.key = topOfBook.key := by
      intro other mem
      rcases List.mem_cons.mp mem with rfl | earlier
      · rfl
      · exact undisturbed other earlier
    refine ⟨fun k other own => ?_, fun k origin shown => ?_⟩
    · have found := getElem_of_filter (fun y mem => ?_) own
      · have shown := entry k
        rw [window_event k.isLt found] at shown
        rw [← Option.some.inj shown]
        rfl
      · refine decide_eq_true (recent y ?_)
        exact List.take_subset_take_left _ (by omega) mem
    · obtain ⟨other, found, rfl⟩ := window_origin (entry k) shown
      rw [key]
      refine recent other (List.mem_of_getElem? (i := k) ?_)
      rw [List.getElem?_take_of_lt k.isLt]
      exact found

private theorem publishesOwn_iff {garbage : Vector Double 3} {s : Session}
    (mixed : Mixed garbage s) (e : Event) : PublishesOwn s e ↔ Undisturbed s e := by
  have step (topOfBook : TopOfBook) (publishes : Publishes s topOfBook e) :
      OwnWindow ((outside (s.past ++ [e])).2.filter fun other =>
          decide (other.key = topOfBook.key))
          ((s.strategy.measure topOfBook).customMatrix topOfBook) ↔
        ∀ other ∈ (outside s.past).2.take 2, other.key = topOfBook.key := by
    obtain ⟨rfl, publisher, live⟩ := publishes
    have data : ((s.strategy.measure topOfBook).customMatrix topOfBook).data.toList =
        window garbage (topOfBook :: (outside s.past).2) := by
      rw [window_cons, ← mixed.data publisher]
      exact Strategy.toList_shiftRight _ _
    rw [outside_append, live]
    exact ownWindow_iff rfl data
  constructor
  · intro own topOfBook publishes
    refine (step topOfBook publishes).mp ?_
    exact own _ ((sent_iff mixed.downloading _).mpr ⟨topOfBook, publishes, rfl⟩)
  · intro undisturbed matrix sent
    obtain ⟨topOfBook, publishes, rfl⟩ := (sent_iff mixed.downloading _).mp sent
    exact (step topOfBook publishes).mpr (undisturbed topOfBook publishes)

/-- In every run each matrix shows the last events of its own instrument alone, exactly when the two
events before each one that leads to a matrix are of the same instrument. -/
theorem publishesOwn_iff_undisturbed (settings : Settings) (garbage : Vector Double 3)
    (es : List Event) :
    AllSteps next PublishesOwn (start settings garbage) es ↔
      AllSteps next Undisturbed (start settings garbage) es :=
  allSteps_congr (fun _ _ _ mixed _ taken => mixed_step mixed taken)
    (fun _ e _ mixed _ => publishesOwn_iff mixed e) (start_mixed settings garbage)

section Examples

/-- A TopOfBook that is published. -/
private def quote (symbol : String) (bidPrice askPrice : Double) : Event :=
  .topOfBook ⟨"deribit", symbol, bidPrice, askPrice⟩ true true

private def twoSymbols : List Event :=
  [quote "BTC-PERPETUAL" 100 102, quote "ETH-PERPETUAL" 10 12]

/-- The mid price of one symbol is in the matrix of the other. -/
theorem other_symbol_published :
    ((run next (start {} #v[0, 0, 0]) twoSymbols).map fun s =>
        s.strategy.data.map Cell.value) = some #v[11, 101, 0] ∧
      ¬ AllSteps next PublishesOwn (start {} #v[0, 0, 0]) twoSymbols := by
  refine ⟨by decide +kernel, fun steps => ?_⟩
  have later := ((allSteps_cons rfl _).mp steps).2
  have publishes := ((allSteps_cons rfl _).mp later).1
  have window := publishes _ (List.mem_cons_of_mem _ List.mem_cons_self)
  exact absurd (window.others 1 ("deribit", "BTC-PERPETUAL") rfl) (by decide)

end Examples

end RoqSamples.Example7.PublishedWindow
