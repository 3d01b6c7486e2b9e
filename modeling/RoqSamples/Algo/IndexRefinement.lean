/- Algo/IndexRefinement
   digest: With parallel vectors, a strategy that accesses them by index does what the strategy
     over lists does. -/
import RoqSamples.Algo.Indexed
import RoqSamples.Algo.StrategyRules

set_option autoImplicit false
set_option relaxedAutoImplicit false

namespace RoqSamples.Algo.Indexed

open RoqSamples.Arith (Double)
open RoqSamples.Client (Utils)

variable {C : Caches}

private theorem stateReady_eq [Utils] {s : Indexed C} (parallel : s.Parallel) (view : View C)
    (source : Nat) {index : Nat} {instrument : Instrument}
    (found : s.instruments[index]? = some instrument) (result : Bool) :
    s.stateReady view source index result =
      some (view.ready instrument source s.account result) := by
  have market : s.markets[index]? = some instrument.key := by
    rw [parallel.markets, List.getElem?_map, found]
    rfl
  unfold stateReady View.ready
  simp only [market, found]
  by_cases known : (view.market instrument.key).source = some source
  · simp [known]
  · simp [known]

/-- The flags after the loop of `Base::update`. -/
private def flags [Utils] (view : View C) (source : Nat) (s : Indexed C) : List Bool :=
  List.zipWith (fun instrument result => view.ready instrument source s.account result)
    s.instruments s.readyByInstrument

private theorem flags_length [Utils] {s : Indexed C} (parallel : s.Parallel) (view : View C)
    (source : Nat) : (s.flags view source).length = s.instruments.length := by
  rw [flags, List.length_zipWith, parallel.readyByInstrument, Nat.min_self]

private theorem update_flags [Utils] (view : View C) (source : Nat) (s : Indexed C) :
    s.toBase.update view source =
      if Utils.updated s.ready ((s.flags view source).all id) then
        ({ s.toBase with
            readyByInstrument := s.flags view source
            ready := (s.flags view source).all id
            callbacks := s.callbacks ++ [(s.flags view source).all id] },
          some ((s.flags view source).all id))
      else ({ s.toBase with readyByInstrument := s.flags view source }, none) := rfl

/-- The first turns of the loop have written as many flags. -/
private theorem turns [Utils] {s : Indexed C} (parallel : s.Parallel) (view : View C) (source : Nat)
    {k : Nat} (inside : k ≤ s.instruments.length) :
    (List.range k).foldlM (s.refresh view source) (s.readyByInstrument, true) =
      some ((s.flags view source).take k ++ s.readyByInstrument.drop k,
        ((s.flags view source).take k).all id) := by
  have size := flags_length parallel view source
  induction k with
  | zero => simp
  | succ k ih =>
      have before : k < s.readyByInstrument.length := by
        rw [parallel.readyByInstrument]
        omega
      have shown : k < (s.flags view source).length := by omega
      have length : ((s.flags view source).take k).length = k := by
        rw [List.length_take]
        omega
      have slot : ((s.flags view source).take k ++ s.readyByInstrument.drop k)[k]? =
          some s.readyByInstrument[k] := by
        rw [List.getElem?_append_right (Nat.le_of_eq length), length, Nat.sub_self,
          List.getElem?_drop, Nat.add_zero, List.getElem?_eq_getElem before]
      have ready := stateReady_eq parallel view source
        (List.getElem?_eq_getElem (show k < s.instruments.length by omega)) s.readyByInstrument[k]
      have flag : view.ready s.instruments[k] source s.account s.readyByInstrument[k] =
          (s.flags view source)[k] := by
        simp only [flags, List.getElem_zipWith]
      rw [List.range_succ, List.foldlM_append, ih (by omega)]
      simp only [List.foldlM_cons, List.foldlM_nil, bind, Option.bind, pure]
      unfold refresh
      simp only [slot, ready, flag]
      rw [List.set_append_right _ _ (Nat.le_of_eq length), length, Nat.sub_self,
        List.drop_eq_getElem_cons before, List.set_cons_zero,
        List.take_succ_eq_append_getElem shown, List.append_assoc, List.all_append]
      simp only [List.singleton_append, List.all_cons, List.all_nil, Bool.and_true, id]

/-- The loop over the indices computes the flags of the strategy over lists. -/
theorem updateBase_eq [Utils] {s : Indexed C} (parallel : s.Parallel) (view : View C)
    (source : Nat) : s.updateBase view source =
      some (s.withSpread (s.toSpread.withBase (s.toBase.update view source).1),
        (s.toBase.update view source).2) := by
  have size := flags_length parallel view source
  have loop := turns parallel view source (Nat.le_refl s.instruments.length)
  rw [List.take_of_length_le (Nat.le_of_eq size),
    List.drop_of_length_le (Nat.le_of_eq parallel.readyByInstrument), List.append_nil] at loop
  rw [updateBase, loop, update_flags]
  dsimp only
  cases Utils.updated s.ready ((s.flags view source).all id) <;> rfl

theorem extract_eq {s : Indexed C} (parallel : s.Parallel) (context : Context C) (index : Nat) :
    s.extract context index =
      (s.instruments[index]?).map fun instrument =>
        C.extract (context.market instrument.key).market := by
  unfold extract
  rw [parallel.markets, List.getElem?_map]
  cases s.instruments[index]? <;> rfl

/-- What a handler of the strategy over lists does to the strategy with indices. -/
def lift (s : Indexed C) (result : (Spread C × Dispatcher) × Option Stop) :
    (Indexed C × Dispatcher) × Option Stop :=
  ((s.withSpread result.1.1, result.1.2), result.2)

variable [Utils]

private theorem update_eq {s : Indexed C} (parallel : s.Parallel) (context : Context C)
    (d : Dispatcher) : s.update context d = s.lift (s.toSpread.update context d) := by
  unfold update Spread.update
  rw [extract_eq parallel, extract_eq parallel]
  cases s.ready with
  | false => rfl
  | true =>
      cases s.instruments[0]? with
      | none => rfl
      | some first =>
          cases s.instruments[1]? with
          | none => rfl
          | some second =>
              simp only [Option.map_some]
              cases C.extract (context.market first.key).market with
              | none => rfl
              | some _ =>
                  cases C.extract (context.market second.key).market with
                  | none => rfl
                  | some best =>
                      dsimp only
                      cases (s.limit best).isNaN <;> rfl

private theorem parallel_withBase {s : Indexed C} (parallel : s.Parallel) (view : View C)
    (source : Nat) :
    (s.withSpread (s.toSpread.withBase (s.toBase.update view source).1)).Parallel := by
  have same := (Base.sameOrders_update view source s.toBase).instruments
  refine ⟨?_, ?_⟩
  · show s.markets = ((s.toBase.update view source).1.instruments).map Instrument.key
    rw [same, parallel.markets]
  · show (s.toBase.update view source).1.readyByInstrument.length =
      (s.toBase.update view source).1.instruments.length
    rw [same, ← flags_length parallel view source, update_flags]
    split <;> rfl

private theorem notify_eq {s : Indexed C} (parallel : s.Parallel) (context : Context C)
    (source : Nat) (d : Dispatcher) :
    s.notify context source d = s.lift (s.toSpread.notify context source d) := by
  have kept := parallel_withBase parallel context.toView source
  unfold notify Spread.notify
  rw [updateBase_eq parallel]
  generalize s.toBase.update context.toView source = updated at kept ⊢
  obtain ⟨b, callback⟩ := updated
  cases callback with
  | none => rfl
  | some ready =>
      cases ready with
      | false => rfl
      | true => exact update_eq kept context d

/-- No handler tells the two strategies apart. -/
theorem handle_eq {s : Indexed C} (parallel : s.Parallel) (context : Context C) (source : Nat)
    (message : Message C) (d : Dispatcher) :
    s.handle context source message d =
      s.lift (s.toSpread.handle context source message d) := by
  cases message with
  | timer => rfl
  | gateway message => exact notify_eq parallel context source d
  | orderAck | orderUpdate => rfl
  | market key message =>
      cases message with
      | referenceData | marketStatus => exact notify_eq parallel context source d
      | topOfBook => rfl
      | marketByPriceUpdate => exact update_eq parallel context d

/-- The vectors stay parallel. -/
theorem handle_parallel {s : Indexed C} (parallel : s.Parallel) (context : Context C)
    (source : Nat) (message : Message C) (d : Dispatcher) :
    (s.handle context source message d).1.1.Parallel := by
  have kept : (s.toSpread.handle context source message d).1.1.instruments = s.instruments ∧
      (s.toSpread.handle context source message d).1.1.readyByInstrument.length =
        s.instruments.length := by
    refine Spread.handle_keeps (I := fun t _ => t.instruments = s.instruments ∧
      t.readyByInstrument.length = s.instruments.length) ?_ (fun _ _ _ => id) ?_ ?_ message
      ⟨rfl, parallel.readyByInstrument⟩
    · rintro t _ ⟨instruments, length⟩
      have same := (Base.sameOrders_update context.toView source t.toBase).instruments
      refine ⟨same.trans instruments, ?_⟩
      show (t.toBase.update context.toView source).1.readyByInstrument.length = _
      unfold Base.update
      dsimp only
      split
      all_goals
        simp only [List.length_zipWith, instruments, length, Nat.min_self]
    · rintro t d price ⟨instruments, length⟩ _
      have steady := (Base.setTarget_targeted context 0 t.quantity price t.toBase d).steady
      have flags := congrArg List.length steady.readyByInstrument
      exact ⟨steady.instruments.trans instruments, flags.trans length⟩
    · rintro t _ orderId note _ ⟨instruments, length⟩
      have steady := Base.steady_dispatch orderId note t.toBase
      have flags := congrArg List.length steady.readyByInstrument
      exact ⟨steady.instruments.trans instruments, flags.trans length⟩
  rw [handle_eq parallel]
  exact ⟨parallel.markets.trans (by rw [← kept.1]; rfl), kept.2.trans (by rw [← kept.1]; rfl)⟩

end RoqSamples.Algo.Indexed
