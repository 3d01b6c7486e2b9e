/- Example3/Signals
   digest: Why the model of example-3 signals: the flag that was set, the move that reverts, the
     warmup; the model sells into a move that goes on. -/
import RoqSamples.Example3.Model
import RoqSamples.Execution.Runs

set_option autoImplicit false
set_option relaxedAutoImplicit false

namespace RoqSamples.Example3.Signals

open RoqSamples.Arith (Double)
open RoqSamples.Client
open RoqSamples.Execution.Runs

inductive Call
  | update (depth : Depth)
  | reset
  deriving DecidableEq

def call [Utils] (model : Model) : Call → Model × Side
  | .update depth => model.update depth
  | .reset => (model.reset, .undefined)

def next [Utils] (model : Model) (c : Call) : Option Model := some (call model c).1

/-- What `update` compares once it has moved the averages with a valid depth. -/
structure Averages where
  bidFast : Double
  bidSlow : Double
  askFast : Double
  askSlow : Double
  ready : Bool

def averages (model : Model) (depth : Depth) : Averages :=
  let bidEma := model.bidEma.update (Model.weightedBid depth)
  let askEma := model.askEma.update (Model.weightedAsk depth)
  { bidFast := Model.weightedBid depth
    bidSlow := bidEma.value
    askFast := Model.weightedAsk depth
    askSlow := askEma.value
    ready := bidEma.isReady && askEma.isReady }

namespace Averages

def falls (a : Averages) : Bool := a.askFast.lt a.bidSlow && a.askFast.lt a.askSlow

def rises (a : Averages) : Bool := a.askSlow.lt a.bidFast && a.bidSlow.lt a.bidFast

/-- The fall reverts: the ask moves above its slow average. -/
def askReverts (a : Averages) : Bool := a.askSlow.lt a.askFast

/-- The rise reverts: the mirror image of `askReverts`. -/
def bidReverts (a : Averages) : Bool := a.bidFast.lt a.bidSlow

/-- What the code compares before it sells. -/
def bidContinues (a : Averages) : Bool := a.bidSlow.lt a.bidFast

end Averages

section Turns

variable [Utils]

/-- The call assigns true to `selling_`. -/
def SetsSelling (model : Model) (depth : Depth) : Prop :=
  Model.validate depth = true ∧ model.selling = false ∧ (averages model depth).falls = true

/-- The call assigns true to `buying_`, which its first half may just have cleared. -/
def SetsBuying (model : Model) (depth : Depth) : Prop :=
  Model.validate depth = true ∧ (model.buying = false ∨ SetsSelling model depth) ∧
    (averages model depth).rises = true

/-- The flag that has to be set before the model signals the side. -/
def flag : Side → Model → Bool
  | .undefined, _ => false
  | .buy, model => model.selling
  | .sell, model => model.buying

def Sets : Side → Model → Depth → Prop
  | .undefined, _, _ => False
  | .buy, model, depth => SetsSelling model depth
  | .sell, model, depth => SetsBuying model depth

/-- The call leaves the flag of the side set: the second half of `update` may switch from
`selling_` to `buying_`. -/
def Turns (side : Side) (model : Model) (depth : Depth) : Prop :=
  Sets side model depth ∧ (side = .buy → ¬ SetsBuying model depth)

def opposite : Side → Side
  | .undefined => .undefined
  | .buy => .sell
  | .sell => .buy

/-- Neither a reset, nor a signal of the side, nor a switch to the other flag. -/
def Quiet (side : Side) (model : Model) : Call → Prop
  | .reset => False
  | .update depth => (model.update depth).2 ≠ side ∧ ¬ Sets (opposite side) model depth

/-- The valid depths since the last reset, in order. -/
def processed (calls : List Call) : List Depth :=
  calls.foldl (fun depths c =>
    match c with
    | .update depth => if Model.validate depth then depths ++ [depth] else depths
    | .reset => []) []

/-- Why the flag of a side is set: a call has set it, and nothing has interfered since. -/
def Flagged (side : Side) (settings : Settings) (past : List Call) : Prop :=
  ∃ before start turn between, past = before ++ .update turn :: between ∧
    run next (Model.new settings) before = some start ∧ Turns side start turn ∧
    AllSteps next (Quiet side) (start.update turn).1 between

/-- Why a model that has taken the calls `past` may signal the side for a depth: the flag is set
and the averages are warm. -/
structure Earned (side : Side) (settings : Settings) (past : List Call) (depth : Depth) : Prop where
  flagged : Flagged side settings past
  warm : settings.warmup ≤ (processed (past ++ [.update depth])).length

/-- The signal of the first half of `update`. -/
def firstSignal (model : Model) (depth : Depth) : Side :=
  let a := averages model depth
  if Model.validate depth then
    (model.updateSelling a.ready a.askFast a.bidSlow a.askSlow).2
  else .undefined

/-- The discipline of one call after the calls `past`; `sells` is the comparison that a SELL
needs. -/
structure Disciplined (sells : Averages → Bool) (settings : Settings) (past : List Call)
    (model : Model) (c : Call) : Prop where
  never_both : ¬ ((call model c).1.selling = true ∧ (call model c).1.buying = true)
  buy : ∀ depth, c = .update depth → (model.update depth).2 = .buy →
    Earned .buy settings past depth ∧ (averages model depth).askReverts = true
  sell : ∀ depth, c = .update depth → (model.update depth).2 = .sell →
    Earned .sell settings past depth ∧ sells (averages model depth) = true
  first_kept : ∀ depth, c = .update depth → firstSignal model depth ≠ .undefined →
    (model.update depth).2 = firstSignal model depth
  invalid : ∀ depth, c = .update depth → Model.validate depth = false →
    model.update depth = (model, .undefined)

/-- The branch that sells: the rise that set `buying_` goes on. -/
def SellsIntoRise (model : Model) : Call → Prop
  | .reset => False
  | .update depth => Model.validate depth = true ∧ model.buying = true ∧
      ¬ SetsSelling model depth ∧ (averages model depth).ready = true ∧
      (averages model depth).bidContinues = true

end Turns

def NeverBoth (model : Model) : Prop := ¬ (model.selling = true ∧ model.buying = true)

theorem NeverBoth.not_buying {model : Model} (never : NeverBoth model)
    (selling : model.selling = true) : model.buying = false :=
  Bool.eq_false_iff.mpr fun buying => never ⟨selling, buying⟩

theorem NeverBoth.not_selling {model : Model} (never : NeverBoth model)
    (buying : model.buying = true) : model.selling = false :=
  Bool.eq_false_iff.mpr fun selling => never ⟨selling, buying⟩

/-- What `update` makes of the flags and returns at a valid depth. -/
inductive Outcome (a : Averages) (selling buying : Bool) : Bool → Bool → Side → Prop
  | keeps (low : selling = false → a.falls = false) (high : buying = false → a.rises = false)
      (unbought : selling = true → (a.ready && a.askReverts) = false)
      (unsold : buying = true → (a.ready && a.bidContinues) = false) :
      Outcome a selling buying selling buying .undefined
  | falls (idle : selling = false) (fallen : a.falls = true) (high : a.rises = false) :
      Outcome a selling buying true false .undefined
  | rises (fresh : buying = false ∨ selling = false ∧ a.falls = true) (risen : a.rises = true) :
      Outcome a selling buying false true .undefined
  | buys (set : selling = true) (ready : a.ready = true) (reverts : a.askReverts = true) :
      Outcome a selling buying false a.rises .buy
  | sells (set : buying = true) (calm : a.falls = false) (ready : a.ready = true)
      (continues : a.bidContinues = true) : Outcome a selling buying false false .sell

/-- The first half of `update`, with its comparisons by name. -/
private theorem updateSelling_eq (model : Model) (a : Averages) :
    model.updateSelling a.ready a.askFast a.bidSlow a.askSlow =
      if model.selling then
        if a.ready && a.askReverts then ({ model with selling := false }, .buy)
        else (model, .undefined)
      else if a.falls then ({ model with selling := true, buying := false }, .undefined)
      else (model, .undefined) := rfl

private theorem updateBuying_eq (model : Model) (result : Side) (a : Averages) :
    model.updateBuying result a.ready a.bidFast a.bidSlow a.askSlow =
      if model.buying then
        if a.ready && a.bidContinues then ({ model with buying := false }, .sell)
        else (model, result)
      else if a.rises then ({ model with buying := true, selling := false }, result)
      else (model, result) := rfl

/-- Both halves of `update`, on flags that are not both set. -/
private theorem halves_outcome {model : Model} {a : Averages} (never : NeverBoth model) :
    let first := model.updateSelling a.ready a.askFast a.bidSlow a.askSlow
    let second := first.1.updateBuying first.2 a.ready a.bidFast a.bidSlow a.askSlow
    Outcome a model.selling model.buying second.1.selling second.1.buying second.2 := by
  simp only [updateSelling_eq, updateBuying_eq]
  cases selling : model.selling with
  | true =>
      have idle := never.not_buying selling
      cases bought : a.ready && a.askReverts with
      | true =>
          have ⟨ready, reverts⟩ := Bool.and_eq_true_iff.mp bought
          have outcome : Outcome a true false false a.rises .buy := .buys rfl ready reverts
          cases risen : a.rises <;> simpa [idle, risen] using outcome
      | false =>
          cases risen : a.rises with
          | true => simpa [idle] using Outcome.rises (.inl rfl) risen
          | false =>
              have outcome : Outcome a true false true false .undefined :=
                .keeps nofun (fun _ => risen) (fun _ => bought) nofun
              simpa [idle, selling] using outcome
  | false =>
      cases fallen : a.falls with
      | true =>
          cases risen : a.rises with
          | true => simpa using Outcome.rises (.inr ⟨rfl, fallen⟩) risen
          | false => simpa using Outcome.falls rfl fallen risen
      | false =>
          cases buying : model.buying with
          | true =>
              cases sold : a.ready && a.bidContinues with
              | true =>
                  have ⟨ready, continues⟩ := Bool.and_eq_true_iff.mp sold
                  simpa [buying, selling] using Outcome.sells rfl fallen ready continues
              | false =>
                  have outcome : Outcome a false true false true .undefined :=
                    .keeps (fun _ => fallen) nofun nofun fun _ => sold
                  simpa [buying, selling] using outcome
          | false =>
              cases risen : a.rises with
              | true => simpa [buying, selling] using Outcome.rises (.inl rfl) risen
              | false =>
                  have outcome : Outcome a false false false false .undefined :=
                    .keeps (fun _ => fallen) (fun _ => risen) nofun nofun
                  simpa [buying, selling] using outcome

section Updates

variable [Utils]

theorem update_invalid {model : Model} {depth : Depth}
    (invalid : Model.validate depth = false) : model.update depth = (model, .undefined) := by
  simp [Model.update, invalid]

/-- The model with its averages moved and its flags as they are. -/
private def moved (model : Model) (depth : Depth) : Model :=
  { model with
    bidEma := model.bidEma.update (Model.weightedBid depth)
    askEma := model.askEma.update (Model.weightedAsk depth) }

private theorem update_valid {model : Model} {depth : Depth}
    (valid : Model.validate depth = true) :
    model.update depth =
      let a := averages model depth
      let first := (moved model depth).updateSelling a.ready a.askFast a.bidSlow a.askSlow
      first.1.updateBuying first.2 a.ready a.bidFast a.bidSlow a.askSlow := by
  rw [Model.update, if_pos valid]
  rfl

theorem update_outcome {model : Model} {depth : Depth} (never : NeverBoth model)
    (valid : Model.validate depth = true) :
    Outcome (averages model depth) model.selling model.buying (model.update depth).1.selling
      (model.update depth).1.buying (model.update depth).2 := by
  rw [update_valid valid]
  exact halves_outcome (show NeverBoth (moved model depth) from never)

private theorem call_never_both {model : Model} (c : Call) (never : NeverBoth model) :
    NeverBoth (call model c).1 := by
  cases c with
  | reset => simp [NeverBoth, call, Model.reset]
  | update depth =>
      show NeverBoth (model.update depth).1
      cases valid : Model.validate depth with
      | false =>
          rw [update_invalid valid]
          exact never
      | true =>
          have outcome := update_outcome never valid
          unfold NeverBoth at never ⊢
          generalize (model.update depth).1.selling = selling at outcome ⊢
          generalize (model.update depth).1.buying = buying at outcome ⊢
          generalize (model.update depth).2 = result at outcome
          cases outcome with
          | keeps => exact never
          | falls => simp
          | rises => simp
          | buys => simp
          | sells => simp

private theorem quiet_invalid {side : Side} {model : Model} {depth : Depth}
    (signals : side ≠ .undefined) (invalid : Model.validate depth = false) :
    Quiet side model (.update depth) := by
  refine ⟨?_, ?_⟩
  · rw [update_invalid invalid]
    exact signals.symm
  · intro sets
    cases side with
    | undefined => exact sets
    | buy => cases invalid.symm.trans sets.1
    | sell => cases invalid.symm.trans sets.1

/-- `selling_` that is true after a call was set by it, or before it and left alone. -/
private theorem selling_after {model : Model} {depth : Depth} (never : NeverBoth model)
    (set : (model.update depth).1.selling = true) :
    Turns .buy model depth ∨ model.selling = true ∧ Quiet .buy model (.update depth) := by
  cases valid : Model.validate depth with
  | false =>
      rw [update_invalid valid] at set
      exact .inr ⟨set, quiet_invalid (by decide) valid⟩
  | true =>
      have outcome := update_outcome never valid
      show _ ∨ _ ∧ (model.update depth).2 ≠ .buy ∧ ¬ SetsBuying model depth
      generalize (model.update depth).1.selling = selling at outcome set
      generalize (model.update depth).1.buying = buying at outcome
      generalize (model.update depth).2 = result at outcome ⊢
      cases outcome with
      | keeps low high =>
          refine .inr ⟨set, by decide, fun ⟨_, fresh, risen⟩ => ?_⟩
          have idle := never.not_buying set
          simp [high idle] at risen
      | falls idle fallen high =>
          refine .inl ⟨⟨valid, idle, fallen⟩, fun _ ⟨_, _, risen⟩ => ?_⟩
          simp [high] at risen
      | rises => cases set
      | buys => cases set
      | sells => cases set

private theorem buying_after {model : Model} {depth : Depth} (never : NeverBoth model)
    (set : (model.update depth).1.buying = true) :
    Turns .sell model depth ∨ model.buying = true ∧ Quiet .sell model (.update depth) := by
  cases valid : Model.validate depth with
  | false =>
      rw [update_invalid valid] at set
      exact .inr ⟨set, quiet_invalid (by decide) valid⟩
  | true =>
      have outcome := update_outcome never valid
      show _ ∨ _ ∧ (model.update depth).2 ≠ .sell ∧ ¬ SetsSelling model depth
      generalize (model.update depth).1.selling = selling at outcome
      generalize (model.update depth).1.buying = buying at outcome set
      generalize (model.update depth).2 = result at outcome ⊢
      cases outcome with
      | keeps low high =>
          refine .inr ⟨set, by decide, fun ⟨_, idle, fallen⟩ => ?_⟩
          simp [low idle] at fallen
      | falls => cases set
      | rises fresh risen =>
          have sets : SetsBuying model depth :=
            ⟨valid, fresh.imp_right fun ⟨idle, fallen⟩ => ⟨valid, idle, fallen⟩, risen⟩
          exact .inl ⟨sets, fun other => by cases other⟩
      | buys selling ready reverts =>
          have idle := never.not_buying selling
          exact .inl ⟨⟨valid, .inl idle, set⟩, fun other => by cases other⟩
      | sells => cases set

private theorem flag_after {side : Side} {model : Model} {depth : Depth} (never : NeverBoth model)
    (set : flag side (model.update depth).1 = true) :
    Turns side model depth ∨ flag side model = true ∧ Quiet side model (.update depth) := by
  cases side with
  | undefined => cases set
  | buy => exact selling_after never set
  | sell => exact buying_after never set

private theorem update_buy {model : Model} {depth : Depth} (never : NeverBoth model)
    (bought : (model.update depth).2 = .buy) :
    Model.validate depth = true ∧ model.selling = true ∧ (averages model depth).ready = true ∧
      (averages model depth).askReverts = true := by
  cases valid : Model.validate depth with
  | false =>
      rw [update_invalid valid] at bought
      cases bought
  | true =>
      have outcome := update_outcome never valid
      rw [bought] at outcome
      generalize (model.update depth).1.selling = selling at outcome
      generalize (model.update depth).1.buying = buying at outcome
      cases outcome with
      | buys selling ready reverts => exact ⟨rfl, selling, ready, reverts⟩

/-- A SELL is the branch that sells into the rise, and nothing else. -/
private theorem update_sell_iff {model : Model} {depth : Depth} (never : NeverBoth model) :
    (model.update depth).2 = .sell ↔ SellsIntoRise model (.update depth) := by
  cases valid : Model.validate depth with
  | false =>
      rw [update_invalid valid]
      simp [SellsIntoRise, valid]
  | true =>
      have outcome := update_outcome never valid
      simp only [SellsIntoRise, SetsSelling, valid, true_and, not_and]
      generalize (model.update depth).1.selling = selling at outcome
      generalize (model.update depth).1.buying = buying at outcome
      generalize (model.update depth).2 = result at outcome ⊢
      cases outcome with
      | keeps low high unbought unsold =>
          refine iff_of_false (by decide) fun ⟨set, _, ready, continues⟩ => ?_
          simp [ready, continues] at unsold
          simp [unsold] at set
      | falls idle fallen =>
          refine iff_of_false (by decide) fun ⟨_, calm, _⟩ => calm idle fallen
      | rises fresh =>
          refine iff_of_false (by decide) fun ⟨set, calm, _⟩ => ?_
          rcases fresh with unset | ⟨idle, fallen⟩
          · simp [unset] at set
          · exact calm idle fallen
      | buys selling =>
          refine iff_of_false (by decide) fun ⟨set, _⟩ => ?_
          simp [never.not_selling set] at selling
      | sells set calm ready continues =>
          exact iff_of_true rfl ⟨set, fun _ => by simp [calm], ready, continues⟩

end Updates

private theorem new_never_both (settings : Settings) : NeverBoth (Model.new settings) := by
  simp [NeverBoth, Model.new]

section Counts

variable [Utils]

theorem run_never_both {settings : Settings} {past : List Call} {model : Model}
    (reached : run next (Model.new settings) past = some model) : NeverBoth model := by
  refine run_invariant (fun model c after never taken => ?_) (new_never_both settings) reached
  cases taken
  exact call_never_both c never

private theorem Flagged.extend {side : Side} {settings : Settings} {past : List Call}
    {model : Model} {c : Call} (flagged : Flagged side settings past)
    (reached : run next (Model.new settings) past = some model) (quiet : Quiet side model c) :
    Flagged side settings (past ++ [c]) := by
  obtain ⟨before, start, turn, between, rfl, started, sets, calm⟩ := flagged
  refine ⟨before, start, turn, between ++ [c], by simp, started, sets, ?_⟩
  refine allSteps_append.mpr ⟨calm, fun last there => ?_⟩
  have same : last = model := by
    rw [run_append, started] at reached
    exact Option.some.inj (there.symm.trans reached)
  subst same
  exact (allSteps_cons rfl []).mpr ⟨quiet, trivial⟩

/-- A set flag has been set by an earlier call. -/
private theorem run_flagged {side : Side} {settings : Settings} {past : List Call} {model : Model}
    (reached : run next (Model.new settings) past = some model)
    (set : flag side model = true) : Flagged side settings past := by
  revert set
  refine run_history
    (I := fun past model => flag side model = true → Flagged side settings past) ?_ ?_ reached
  · intro set
    cases side <;> cases set
  · intro past c before after there since taken set
    cases taken
    cases c with
    | reset => cases side <;> cases set
    | update depth =>
        rcases flag_after (run_never_both there) set with sets | ⟨earlier, quiet⟩
        · exact ⟨past, before, depth, [], rfl, there, sets, trivial⟩
        · exact (since earlier).extend there quiet

/-- How far the countdown of an average has come. -/
def Counted (settings : Settings) (past : List Call) (ema : EMA) : Prop :=
  ema.warmup = settings.warmup ∧ ema.countdown = settings.warmup - (processed past).length

theorem processed_append (past : List Call) (c : Call) :
    processed (past ++ [c]) =
      match c with
      | .update depth =>
          if Model.validate depth then processed past ++ [depth] else processed past
      | .reset => [] := by
  unfold processed
  rw [List.foldl_append]
  rfl

private theorem Counted.update {settings : Settings} {past : List Call} {ema : EMA} {depth : Depth}
    (counted : Counted settings past ema) (valid : Model.validate depth = true) (x : Double) :
    Counted settings (past ++ [.update depth]) (ema.update x) := by
  obtain ⟨warmup, countdown⟩ := counted
  refine ⟨warmup, ?_⟩
  rw [processed_append]
  simp only [EMA.update, valid, if_true, countdown, List.length_append, List.length_singleton]
  omega

private theorem Counted.reset {settings : Settings} {past : List Call} {ema : EMA}
    (counted : Counted settings past ema) : Counted settings (past ++ [.reset]) ema.reset := by
  refine ⟨counted.1, ?_⟩
  rw [processed_append]
  exact counted.1

private theorem Counted.ready {settings : Settings} {past : List Call} {ema : EMA}
    (counted : Counted settings past ema) (ready : ema.isReady = true) :
    settings.warmup ≤ (processed past).length := by
  have done : ema.countdown = 0 := of_decide_eq_true ready
  rw [counted.2] at done
  omega

end Counts

private theorem updateSelling_emas (model : Model) (ready : Bool)
    (askFast bidSlow askSlow : Double) :
    (model.updateSelling ready askFast bidSlow askSlow).1.bidEma = model.bidEma ∧
      (model.updateSelling ready askFast bidSlow askSlow).1.askEma = model.askEma := by
  unfold Model.updateSelling
  split_ifs <;> exact ⟨rfl, rfl⟩

private theorem updateBuying_emas (model : Model) (result : Side) (ready : Bool)
    (bidFast bidSlow askSlow : Double) :
    (model.updateBuying result ready bidFast bidSlow askSlow).1.bidEma = model.bidEma ∧
      (model.updateBuying result ready bidFast bidSlow askSlow).1.askEma = model.askEma := by
  unfold Model.updateBuying
  split_ifs <;> exact ⟨rfl, rfl⟩

/-- The flags do not disturb the averages. -/
theorem update_emas [Utils] {model : Model} {depth : Depth} (valid : Model.validate depth = true) :
    (model.update depth).1.bidEma = model.bidEma.update (Model.weightedBid depth) ∧
      (model.update depth).1.askEma = model.askEma.update (Model.weightedAsk depth) := by
  rw [update_valid valid]
  constructor
  · rw [(updateBuying_emas _ _ _ _ _ _).1, (updateSelling_emas _ _ _ _ _).1]
    rfl
  · rw [(updateBuying_emas _ _ _ _ _ _).2, (updateSelling_emas _ _ _ _ _).2]
    rfl

private theorem run_counted [Utils] {settings : Settings} {past : List Call} {model : Model}
    (reached : run next (Model.new settings) past = some model) :
    Counted settings past model.bidEma ∧ Counted settings past model.askEma := by
  refine run_history
    (I := fun past model =>
      Counted settings past model.bidEma ∧ Counted settings past model.askEma) ?_ ?_ reached
  · exact ⟨⟨rfl, rfl⟩, ⟨rfl, rfl⟩⟩
  · intro past c before after there counted taken
    cases taken
    cases c with
    | reset => exact ⟨counted.1.reset, counted.2.reset⟩
    | update depth =>
        show Counted _ _ (before.update depth).1.bidEma ∧ Counted _ _ (before.update depth).1.askEma
        cases valid : Model.validate depth with
        | false =>
            rw [update_invalid valid]
            unfold Counted at counted ⊢
            rw [processed_append]
            simpa [valid] using counted
        | true =>
            rw [(update_emas valid).1, (update_emas valid).2]
            exact ⟨counted.1.update valid _, counted.2.update valid _⟩

/-- A signal is earned once its flag is set and the averages are ready. -/
private theorem earned_of_flag [Utils] {side : Side} {settings : Settings} {past : List Call}
    {model : Model} {depth : Depth} (reached : run next (Model.new settings) past = some model)
    (valid : Model.validate depth = true) (set : flag side model = true)
    (ready : (averages model depth).ready = true) : Earned side settings past depth := by
  have bidReady := (Bool.and_eq_true_iff.mp ready).1
  exact ⟨run_flagged reached set, ((run_counted reached).1.update valid _).ready bidReady⟩

/-- The second half returns the result of the first as long as it has nothing to sell. -/
private theorem updateBuying_kept {model : Model} (idle : model.buying = false) (result : Side)
    (ready : Bool) (bidFast bidSlow askSlow : Double) :
    (model.updateBuying result ready bidFast bidSlow askSlow).2 = result := by
  simp only [Model.updateBuying, idle, Bool.false_eq_true, if_false]
  split_ifs <;> rfl

private theorem first_signal_kept [Utils] {model : Model} {depth : Depth} (never : NeverBoth model)
    (signals : firstSignal model depth ≠ .undefined) :
    (model.update depth).2 = firstSignal model depth := by
  cases valid : Model.validate depth with
  | false => simp [firstSignal, valid] at signals
  | true =>
      cases selling : model.selling with
      | false =>
          -- the first half may set the flag, but does not signal
          simp only [firstSignal, valid, if_true, Model.updateSelling, selling, Bool.false_eq_true,
            if_false] at signals
          split_ifs at signals <;> exact (signals rfl).elim
      | true =>
          have idle : (moved model depth).buying = false := never.not_buying selling
          have set : (moved model depth).selling = true := selling
          simp only [update_valid valid, firstSignal, valid, if_true]
          rw [updateBuying_kept]
          · simp only [Model.updateSelling, selling, set, if_true]
            split_ifs <;> rfl
          · simp only [Model.updateSelling, set, if_true]
            split_ifs <;> exact idle

/-- The discipline but for the comparison that a SELL needs, with the one that the code makes. -/
private theorem call_disciplined [Utils] {settings : Settings} {past : List Call} {model : Model}
    (reached : run next (Model.new settings) past = some model) (c : Call) :
    Disciplined Averages.bidContinues settings past model c := by
  have never := run_never_both reached
  refine ⟨call_never_both c never, ?_, ?_, ?_, ?_⟩
  · rintro depth rfl bought
    obtain ⟨valid, selling, ready, reverts⟩ := update_buy never bought
    exact ⟨earned_of_flag reached valid selling ready, reverts⟩
  · rintro depth rfl sold
    obtain ⟨valid, buying, _, ready, continues⟩ := (update_sell_iff never).mp sold
    exact ⟨earned_of_flag reached valid buying ready, continues⟩
  · rintro depth rfl signals
    exact first_signal_kept never signals
  · rintro depth rfl invalid
    exact update_invalid invalid

/-- Every call of the list is disciplined, in the model that the calls before it leave. -/
def AllDisciplined [Utils] (sells : Averages → Bool) (settings : Settings) (calls : List Call) :
    Prop :=
  ∀ past c model, past ++ [c] <+: calls → run next (Model.new settings) past = some model →
    Disciplined sells settings past model c

private theorem reverts_of_continues {a : Averages} (continues : a.bidContinues = true) :
    a.bidReverts = false := by
  unfold Averages.bidContinues Averages.bidReverts at *
  cases slow : a.bidSlow with
  | nan => cases a.bidFast <;> rfl
  | num x =>
      cases fast : a.bidFast with
      | nan => rfl
      | num y =>
          rw [slow, fast, Double.lt_num] at continues
          exact decide_eq_false (not_lt.mpr continues.le)

/-- Every call is disciplined but for a SELL, which the code takes while the bid is still above its
slow average; with the mirror image of the comparison for BUY, every call is disciplined exactly
when none takes that branch. -/
theorem signals_disciplined_iff [Utils] (settings : Settings) (calls : List Call) :
    AllDisciplined Averages.bidContinues settings calls ∧
      (AllDisciplined Averages.bidReverts settings calls ↔
        AllSteps next (fun model c => ¬ SellsIntoRise model c) (Model.new settings) calls) := by
  refine ⟨fun past c model _ reached => call_disciplined reached c, ?_, ?_⟩
  · intro disciplined
    apply allSteps_of_prefix
    intro past c model after front reached taken sells
    cases c with
    | reset => exact sells
    | update depth =>
        have sold := (update_sell_iff (run_never_both reached)).mpr sells
        have reverts := ((disciplined past _ model front reached).sell depth rfl sold).2
        rw [reverts_of_continues sells.2.2.2.2] at reverts
        cases reverts
  · rintro steps past c model ⟨rest, rfl⟩ reached
    rw [List.append_assoc] at steps
    have calm : ¬ SellsIntoRise model c := steps.after reached rfl
    refine { call_disciplined reached c with sell := ?_ }
    rintro depth rfl sold
    exact (calm ((update_sell_iff (run_never_both reached)).mp sold)).elim

section Examples

open scoped RoqSamples.Client.Documented

private def level (bid ask : Nat) : Layer where
  bidPrice := .num bid
  bidQuantity := 1
  askPrice := .num ask
  askQuantity := 1

private def full (bid ask : Nat) : Depth := ⟨level bid ask, level bid ask, level bid ask⟩

/-- Three depths of a market that only rises. -/
private def risingCalls : List Call :=
  [.update (full 99 100), .update (full 200 201), .update (full 300 301)]

/-- In a market that only rises the model sells. -/
theorem sells_into_rise : ¬ ∀ (settings : Settings) (calls : List Call),
    AllDisciplined Averages.bidReverts settings calls := by
  intro disciplined
  obtain ⟨model, reached, sold, rising⟩ :
      ∃ model, run next (Model.new { warmup := 2 }) (risingCalls.take 2) = some model ∧
        (model.update (full 300 301)).2 = .sell ∧
        (averages model (full 300 301)).bidReverts = false := reaches_of_any (by decide +kernel)
  have last := disciplined { warmup := 2 } risingCalls _ _ model List.prefix_rfl reached
  cases rising.symm.trans (last.sell (full 300 301) rfl sold).2

end Examples

end RoqSamples.Example3.Signals
