/- IoContext/SessionLife
   digest: Every session is connected, disconnected and collected once, in this order, and collected
     within a second of clock time. -/
import Mathlib.Algebra.Order.Group.Int
import RoqSamples.Execution.Throttle
import RoqSamples.IoContext.Server

set_option autoImplicit false
set_option relaxedAutoImplicit false

namespace RoqSamples.IoContext.SessionLife

open RoqSamples.Execution.Runs
open RoqSamples.Execution.Throttle
open Controller (initial next oneSecond)

/-- The life of the session with some id. -/
inductive Life
  | unborn | connected | zombie | collected
  deriving DecidableEq

/-- What an event makes of the session `sessionId`: only the connection after `issued` others
creates it, only its own disconnect ends it, and only a timer event that is due collects it. -/
def Life.next (sessionId issued : Nat) (due : Bool) : Event → Life → Life
  | .connection, .unborn => if issued + 1 = sessionId then .connected else .unborn
  | .session sessionId' .disconnected, .connected =>
      if sessionId' = sessionId then .zombie else .connected
  | .timer _, .zombie => if due then .collected else .zombie
  | _, life => life

/-- The life of a session, read off the controller. -/
def lifeOf (c : Controller) (sessionId : Nat) : Life :=
  if sessionId ∈ c.sessions then
    if sessionId ∈ c.shared.sessionsToRemove then .zombie else .connected
  else if 1 ≤ sessionId ∧ sessionId ≤ c.nextSessionId then .collected
  else .unborn

/-- Whether a timer event removes the zombies. -/
def collects (c : Controller) : Event → Bool
  | .timer now => decide (c.nextGarbageCollection ≤ now)
  | .topOfBook _ | .connection | .session _ _ => false

/-- Every session moves as its life does. -/
def Lives (platform : Platform) (c : Controller) (e : Event) : Prop :=
  ∀ d, next platform c e = some d → ∀ sessionId,
    lifeOf d sessionId =
      (lifeOf c sessionId).next sessionId c.nextSessionId (collects c e) e

def isConnection : Event → Bool
  | .connection => true
  | .timer _ | .topOfBook _ | .session _ _ => false

/-- The number of connections, which the code counts in a uint64_t. -/
def connections (es : List Event) : Nat := es.countP isConnection

/-- The ids that have been issued, those of the sessions, and those to remove. -/
structure Counted (issued : Nat) (c : Controller) : Prop where
  next : c.nextSessionId = issued
  sessions : ∀ sessionId ∈ c.sessions, 1 ≤ sessionId ∧ sessionId ≤ issued
  zombies : c.shared.sessionsToRemove ⊆ c.sessions

variable {platform : Platform}

/-- Only a disconnect makes a zombie. -/
private theorem handle_zombies (sessionId : Nat) (shared : Shared) {incoming : Incoming}
    (stays : incoming ≠ .disconnected) :
    (Session.handle platform sessionId shared incoming).2.sessionsToRemove =
      shared.sessionsToRemove := by
  cases incoming with
  | disconnected => exact (stays rfl).elim
  | binary => rfl
  | text payload =>
      unfold Session.handle
      dsimp only
      split <;> rfl
  | request upgrade keepAlive body =>
      cases upgrade with
      | true => rfl
      | false =>
          unfold Session.handle
          dsimp only
          split <;> rfl

private def withZombie (c : Controller) (sessionId : Nat) : Controller :=
  { c with
    shared := { c.shared with
      sessionsToRemove := insert sessionId c.shared.sessionsToRemove } }

/-- The kinds of steps, as far as the sessions are concerned. -/
private inductive Step (c : Controller) : Event → Controller → Prop
  | idle {e : Event} {d : Controller} : collects c e = false → isConnection e = false →
      (∀ sessionId, e ≠ .session sessionId .disconnected) → d.sessions = c.sessions →
      d.shared.sessionsToRemove = c.shared.sessionsToRemove →
      d.nextGarbageCollection = c.nextGarbageCollection → d.nextSessionId = c.nextSessionId →
      Step c e d
  | collected (now : Int) : c.nextGarbageCollection ≤ now →
      Step c (.timer now) (c.removeZombies now)
  | connected : Step c .connection c.onConnection
  | disconnected (sessionId : Nat) : sessionId ∈ c.sessions →
      Step c (.session sessionId .disconnected) (withZombie c sessionId)

private theorem removeZombies_of_due {c : Controller} {now : Int}
    (late : c.nextGarbageCollection ≤ now) :
    c.removeZombies now =
      { c with
        nextGarbageCollection := now + oneSecond
        sessions := c.sessions \ c.shared.sessionsToRemove
        shared := { c.shared with sessionsToRemove := ∅ } } := by
  rw [Controller.removeZombies, if_neg (by omega)]

private theorem next_step {c d : Controller} {e : Event} (taken : next platform c e = some d) :
    Step c e d := by
  cases e with
  | timer now =>
      cases taken
      by_cases early : now < c.nextGarbageCollection
      · have same : c.removeZombies now = c := if_pos early
        rw [same]
        exact .idle (decide_eq_false (by omega)) rfl nofun rfl rfl rfl rfl
      · exact .collected now (by omega)
  | topOfBook symbol =>
      cases taken
      exact .idle rfl rfl nofun rfl rfl rfl rfl
  | connection =>
      cases taken
      exact .connected
  | session sessionId incoming =>
      simp only [next] at taken
      split at taken
      · rename_i present
        cases taken
        by_cases leaves : incoming = .disconnected
        · subst leaves
          exact .disconnected sessionId present
        · refine .idle rfl rfl ?_ rfl (handle_zombies sessionId c.shared leaves) rfl rfl
          intro sessionId' same
          cases same
          exact leaves rfl
      · cases taken

private theorem counted_next {c d : Controller} {e : Event} {issued : Nat}
    (counted : Counted issued c) (step : Step c e d)
    (few : issued + [e].countP isConnection < 2 ^ 64) :
    Counted (issued + [e].countP isConnection) d := by
  obtain ⟨same, sessions, zombies⟩ := counted
  cases step with
  | idle _ quiet _ kept remove _ number =>
      rw [List.countP_singleton, quiet]
      exact ⟨number.trans same, by rwa [kept], by rwa [kept, remove]⟩
  | collected now late =>
      rw [removeZombies_of_due late]
      refine ⟨same, ?_, Finset.empty_subset _⟩
      intro sessionId mem
      exact sessions sessionId (Finset.mem_sdiff.mp mem).1
  | connected =>
      have one : [Event.connection].countP isConnection = 1 := rfl
      rw [one] at few ⊢
      have number : Client.uint64 (c.nextSessionId + 1) = issued + 1 := by
        rw [same]
        exact Nat.mod_eq_of_lt few
      refine ⟨number, ?_, ?_⟩
      · intro sessionId mem
        rcases Finset.mem_insert.mp mem with here | there
        · rw [number] at here
          omega
        · obtain ⟨low, high⟩ := sessions sessionId there
          omega
      · exact zombies.trans (Finset.subset_insert _ _)
  | disconnected sessionId present =>
      refine ⟨same, sessions, ?_⟩
      exact Finset.insert_subset present zombies

private theorem run_counted {c : Controller} {es : List Event} (few : connections es < 2 ^ 64)
    (reached : run (next platform) initial es = some c) : Counted (connections es) c := by
  have start : Counted 0 initial :=
    ⟨rfl, fun _ mem => (Finset.notMem_empty _ mem).elim, Finset.empty_subset _⟩
  refine run_history (I := fun es c => connections es < 2 ^ 64 → Counted (connections es) c)
    (fun _ => start) ?_ reached few
  intro es e m t _ counted taken few
  have total : connections (es ++ [e]) = connections es + [e].countP isConnection :=
    List.countP_append
  rw [total] at few ⊢
  exact counted_next (counted (by omega)) (next_step taken) few

private theorem lifeOf_zombie {c : Controller} {sessionId : Nat}
    (present : sessionId ∈ c.sessions) (remove : sessionId ∈ c.shared.sessionsToRemove) :
    lifeOf c sessionId = .zombie := by
  rw [lifeOf, if_pos present, if_pos remove]

private theorem lifeOf_connected {c : Controller} {sessionId : Nat}
    (present : sessionId ∈ c.sessions) (stays : sessionId ∉ c.shared.sessionsToRemove) :
    lifeOf c sessionId = .connected := by
  rw [lifeOf, if_pos present, if_neg stays]

private theorem lifeOf_absent {c : Controller} {sessionId : Nat} (absent : sessionId ∉ c.sessions) :
    lifeOf c sessionId =
      if 1 ≤ sessionId ∧ sessionId ≤ c.nextSessionId then .collected else .unborn := by
  rw [lifeOf, if_neg absent]

private theorem collected_lives {c : Controller} {now : Int} {issued : Nat}
    (counted : Counted issued c) (late : c.nextGarbageCollection ≤ now) (sessionId : Nat) :
    lifeOf (c.removeZombies now) sessionId =
      (lifeOf c sessionId).next sessionId c.nextSessionId true (.timer now) := by
  rw [removeZombies_of_due late]
  by_cases remove : sessionId ∈ c.shared.sessionsToRemove
  · have present := counted.zombies remove
    have issued_before := counted.sessions sessionId present
    rw [← counted.next] at issued_before
    have gone : sessionId ∉ c.sessions \ c.shared.sessionsToRemove :=
      fun mem => (Finset.mem_sdiff.mp mem).2 remove
    rw [lifeOf_zombie present remove, lifeOf_absent gone, if_pos issued_before]
    rfl
  · by_cases present : sessionId ∈ c.sessions
    · have kept : sessionId ∈ c.sessions \ c.shared.sessionsToRemove :=
        Finset.mem_sdiff.mpr ⟨present, remove⟩
      rw [lifeOf_connected present remove, lifeOf_connected kept (Finset.notMem_empty _)]
      rfl
    · have absent : sessionId ∉ c.sessions \ c.shared.sessionsToRemove :=
        fun mem => present (Finset.mem_sdiff.mp mem).1
      rw [lifeOf_absent present, lifeOf_absent absent]
      split <;> rfl

private theorem connected_lives {c : Controller} {issued : Nat} (counted : Counted issued c)
    (few : issued + 1 < 2 ^ 64) (sessionId : Nat) :
    lifeOf c.onConnection sessionId =
      (lifeOf c sessionId).next sessionId c.nextSessionId false .connection := by
  have number : Client.uint64 (c.nextSessionId + 1) = issued + 1 := by
    rw [counted.next]
    exact Nat.mod_eq_of_lt few
  have sessions : c.onConnection.sessions = insert (issued + 1) c.sessions := by
    rw [← number]
    rfl
  have issued_now : c.onConnection.nextSessionId = issued + 1 := number
  have before (mem : sessionId ∈ c.sessions) : sessionId ≤ issued :=
    (counted.sessions sessionId mem).2
  by_cases new : sessionId = issued + 1
  · have absent : sessionId ∉ c.sessions := by
      intro mem
      have old := before mem
      omega
    have present : sessionId ∈ c.onConnection.sessions := by
      rw [sessions, new]
      exact Finset.mem_insert_self _ _
    have stays : sessionId ∉ c.onConnection.shared.sessionsToRemove :=
      fun remove => absent (counted.zombies remove)
    have not_issued : ¬ (1 ≤ sessionId ∧ sessionId ≤ c.nextSessionId) := by
      rw [counted.next]
      omega
    rw [lifeOf_connected present stays, lifeOf_absent absent, if_neg not_issued, counted.next]
    exact (if_pos new.symm).symm
  · have other : ¬ issued + 1 = sessionId := Ne.symm new
    have same_sessions : sessionId ∈ c.onConnection.sessions ↔ sessionId ∈ c.sessions := by
      rw [sessions, Finset.mem_insert]
      exact ⟨fun mem => mem.resolve_left new, .inr⟩
    have same_range : (1 ≤ sessionId ∧ sessionId ≤ issued + 1) ↔
        (1 ≤ sessionId ∧ sessionId ≤ issued) := by omega
    have unchanged : lifeOf c.onConnection sessionId = lifeOf c sessionId := by
      unfold lifeOf
      rw [issued_now, counted.next]
      simp only [same_sessions, same_range]
      rfl
    rw [unchanged, counted.next]
    cases lifeOf c sessionId with
    | unborn => exact (if_neg other).symm
    | connected | zombie | collected => rfl

private theorem disconnected_lives {c : Controller} {sessionId' : Nat}
    (present : sessionId' ∈ c.sessions) (sessionId : Nat) :
    lifeOf (withZombie c sessionId') sessionId =
      (lifeOf c sessionId).next sessionId c.nextSessionId false
        (.session sessionId' .disconnected) := by
  by_cases same : sessionId' = sessionId
  · subst same
    have removes : sessionId' ∈ (withZombie c sessionId').shared.sessionsToRemove :=
      Finset.mem_insert_self _ _
    have still_present : sessionId' ∈ (withZombie c sessionId').sessions := present
    rw [lifeOf_zombie still_present removes]
    by_cases remove : sessionId' ∈ c.shared.sessionsToRemove
    · rw [lifeOf_zombie present remove]
      rfl
    · rw [lifeOf_connected present remove]
      exact (if_pos rfl).symm
  · have unchanged : sessionId ∈ (withZombie c sessionId').shared.sessionsToRemove ↔
        sessionId ∈ c.shared.sessionsToRemove :=
      Finset.mem_insert.trans ⟨fun mem => mem.resolve_left (Ne.symm same), .inr⟩
    have here : lifeOf (withZombie c sessionId') sessionId = lifeOf c sessionId := by
      unfold lifeOf
      simp only [unchanged]
      rfl
    rw [here]
    cases lifeOf c sessionId with
    | connected => exact (if_neg same).symm
    | unborn | zombie | collected => rfl

private theorem lives_next {c d : Controller} {e : Event} {issued : Nat}
    (counted : Counted issued c) (few : issued + [e].countP isConnection < 2 ^ 64)
    (taken : next platform c e = some d) (sessionId : Nat) :
    lifeOf d sessionId =
      (lifeOf c sessionId).next sessionId c.nextSessionId (collects c e) e := by
  cases next_step taken with
  | idle early quiet stays kept remove _ number =>
      have unchanged : lifeOf d sessionId = lifeOf c sessionId := by
        rw [lifeOf, lifeOf, kept, remove, number]
      rw [unchanged, early]
      cases e with
      | timer now => cases lifeOf c sessionId <;> rfl
      | topOfBook symbol => cases lifeOf c sessionId <;> rfl
      | connection => cases quiet
      | session sessionId' incoming =>
          cases incoming with
          | disconnected => exact (stays sessionId' rfl).elim
          | request | text | binary => cases lifeOf c sessionId <;> rfl
  | collected now late =>
      have due : collects c (.timer now) = true := decide_eq_true late
      rw [due]
      exact collected_lives counted late sessionId
  | connected => exact connected_lives counted few sessionId
  | disconnected sessionId' present => exact disconnected_lives present sessionId

private theorem lives_run (es : List Event) (few : connections es < 2 ^ 64) :
    AllSteps (next platform) (Lives platform) initial es := by
  refine allSteps_of_prefix ?_
  intro p e c d front reached taken d' taken' sessionId
  cases taken.symm.trans taken'
  have total : connections (p ++ [e]) = connections p + [e].countP isConnection :=
    List.countP_append
  have within : connections (p ++ [e]) ≤ connections es := front.sublist.countP_le
  have counted := run_counted (by omega) reached
  exact lives_next counted (by omega) taken sessionId

/-- For every interleaving, with fewer than 2^64 connections: every session is unborn, connected,
disconnected and collected, in this order and each at most once, no matter what the other sessions
do. Only a connection creates a session, with an id of its own; only its own disconnect ends it; and
it is erased by the next timer event that is due, and never while it is connected. -/
theorem sessions_live_once (es : List Event) (few : connections es < 2 ^ 64) :
    AllSteps (next platform) (Lives platform) initial es :=
  lives_run es few

/-- The time at which a step removes the zombies. -/
def collections (c : Controller) (e : Event) : List Int :=
  match e with
  | .timer now => if collects c (.timer now) then [now] else []
  | .topOfBook _ | .connection | .session _ _ => []

private def timerNow : Event → Option Int
  | .timer now => some now
  | .topOfBook _ | .connection | .session _ _ => none

/-- `remove_zombies` compares with `now < next_garbage_collection_`. -/
private def due (next now : Int) : Bool := decide (next ≤ now)

private theorem due_lawful : Due due :=
  ⟨fun _ _ reached => of_decide_eq_true reached, fun _ _ passed => decide_eq_true passed.le⟩

/-- Only a timer event that is due moves the time of the next collection. -/
private theorem next_collection {c d : Controller} {e : Event}
    (taken : next platform c e = some d) :
    d.nextGarbageCollection =
        ticked due oneSecond c.nextGarbageCollection (timerNow e).toList ∧
      collections c e = firings due oneSecond c.nextGarbageCollection (timerNow e).toList := by
  cases next_step taken with
  | idle early _ _ _ _ same _ =>
      cases e with
      | timer now =>
          have not_due : due c.nextGarbageCollection now = false := early
          simp [collections, early, timerNow, ticked, tick, firings, not_due, same]
      | topOfBook | connection | session => exact ⟨same, rfl⟩
  | collected now late =>
      have here : due c.nextGarbageCollection now = true := decide_eq_true late
      have there : collects c (.timer now) = true := here
      rw [removeZombies_of_due late]
      simp [collections, there, timerNow, ticked, tick, firings, here]
  | connected => exact ⟨rfl, rfl⟩
  | disconnected sessionId _ => exact ⟨rfl, rfl⟩

/-- For every interleaving and whatever times the timer events tell, also a clock that runs
backwards: the zombies are removed at most once a second. -/
theorem collections_are_paced (es : List Event) (c : Controller)
    (reached : run (next platform) initial es = some c) :
    (trace (next platform) collections initial es).Pairwise fun a b => a + oneSecond ≤ b := by
  have throttled : c.nextGarbageCollection = ticked due oneSecond 0 (es.filterMap timerNow) ∧
      trace (next platform) collections initial es =
        firings due oneSecond 0 (es.filterMap timerNow) := by
    refine run_history (I := fun es c =>
      c.nextGarbageCollection = ticked due oneSecond 0 (es.filterMap timerNow) ∧
        trace (next platform) collections initial es =
          firings due oneSecond 0 (es.filterMap timerNow)) ⟨rfl, rfl⟩ ?_ reached
    rintro es e m t before ⟨scheduled, fired⟩ taken
    obtain ⟨scheduled', fired'⟩ := next_collection taken
    have ticks : (es ++ [e]).filterMap timerNow =
        es.filterMap timerNow ++ (timerNow e).toList := by
      rw [List.filterMap_append]
      cases now : timerNow e <;> simp [now]
    rw [ticks, firings_append, trace_append before, trace_singleton taken, fired, fired',
      scheduled', scheduled, ticked, ticked, ticked, List.foldl_append]
    exact ⟨rfl, rfl⟩
  rw [throttled.2]
  exact firings_paced due_lawful (by decide) 0 _

private theorem collects_timer {c : Controller} {e : Event} (due : collects c e = true) :
    ∃ now, e = .timer now := by
  cases e with
  | timer now => exact ⟨now, rfl⟩
  | topOfBook | connection | session => cases due

private theorem collected_stays (sessionId issued : Nat) (due : Bool) (e : Event) :
    Life.collected.next sessionId issued due e = .collected := by
  cases e with
  | session sessionId' incoming => cases incoming <;> rfl
  | timer | topOfBook | connection => rfl

private theorem zombie_stays (sessionId issued : Nat) (e : Event) :
    Life.zombie.next sessionId issued false e = .zombie := by
  cases e with
  | session sessionId' incoming => cases incoming <;> rfl
  | timer | topOfBook | connection => rfl

private theorem run_scheduled {es : List Event} {c : Controller} {t : Int} (positive : 0 ≤ t)
    (reached : run (next platform) initial es = some c)
    (earlier : ∀ now, Event.timer now ∈ es → now ≤ t) :
    c.nextGarbageCollection ≤ t + oneSecond := by
  have second : oneSecond = 1000000000 := rfl
  refine run_history (I := fun es c => (∀ now, Event.timer now ∈ es → now ≤ t) →
    c.nextGarbageCollection ≤ t + oneSecond) (fun _ => ?_) ?_ reached earlier
  · change (0 : Int) ≤ t + oneSecond
    omega
  · intro es e m d _ bounded taken earlier
    have before := bounded fun now mem => earlier now (List.mem_append_left _ mem)
    cases next_step taken with
    | idle _ _ _ _ _ same _ => rwa [same]
    | collected now late =>
        have now_le := earlier now (List.mem_append_right _ (List.mem_singleton_self _))
        rw [removeZombies_of_due late]
        change now + oneSecond ≤ t + oneSecond
        omega
    | connected => exact before
    | disconnected sessionId _ => exact before

/-- A disconnected session does not stay long: with two timer events a second or more apart after
its disconnect it has been erased, whatever happens in between, provided that no timer event before
told a later time than the first of the two. -/
theorem zombies_are_collected (es fs : List Event) (first second : Int) (c d : Controller)
    (sessionId : Nat) (few : connections (es ++ fs) < 2 ^ 64) (positive : 0 ≤ first)
    (earlier : ∀ now, Event.timer now ∈ es → now ≤ first) (apart : first + oneSecond ≤ second)
    (reached : run (next platform) initial es = some c)
    (zombie : sessionId ∈ c.sessions ∧ sessionId ∈ c.shared.sessionsToRemove)
    (continued : run (next platform) c (.timer first :: fs ++ [.timer second]) = some d) :
    sessionId ∉ d.sessions := by
  have same_count : connections (es ++ (.timer first :: fs ++ [.timer second])) =
      connections (es ++ fs) := by
    simp [connections, isConnection]
  have lives : AllSteps (next platform) (Lives platform) initial
      (es ++ (.timer first :: fs ++ [.timer second])) := lives_run _ (by omega)
  have scheduled := run_scheduled positive reached earlier
  obtain ⟨m, middle, last⟩ : ∃ m, run (next platform) c (.timer first :: fs) = some m ∧
      run (next platform) m [.timer second] = some d := by
    rw [run_append] at continued
    exact Option.bind_eq_some_iff.mp continued
  have later := (allSteps_append.mp lives).2 c reached
  obtain ⟨here, finally_lives⟩ := allSteps_append.mp later
  have waits : lifeOf m sessionId = .collected ∨ lifeOf m sessionId = .zombie ∧
      m.nextGarbageCollection ≤ first + oneSecond := by
    refine (AllSteps.invariant (I := fun c => lifeOf c sessionId = .collected ∨
      lifeOf c sessionId = .zombie ∧ c.nextGarbageCollection ≤ first + oneSecond) ?_ ?_ here).last
      middle
    · intro c e d waits lives taken
      have life := lives d taken sessionId
      rcases waits with done | ⟨zombie, bounded⟩
      · rw [life, done]
        exact .inl (collected_stays _ _ _ e)
      · cases due_now : collects c e with
        | true =>
            obtain ⟨now, rfl⟩ := collects_timer due_now
            rw [life, zombie, due_now]
            exact .inl rfl
        | false =>
            rw [zombie, due_now, zombie_stays] at life
            refine .inr ⟨life, ?_⟩
            cases next_step taken with
            | idle _ _ _ _ _ same _ => rwa [same]
            | collected now late => cases due_now.symm.trans (decide_eq_true late)
            | connected => exact bounded
            | disconnected sessionId' _ => exact bounded
    · exact .inr ⟨lifeOf_zombie zombie.1 zombie.2, scheduled⟩
  have collected : lifeOf d sessionId = .collected := by
    obtain ⟨d', taken, rest⟩ := run_cons_eq_some.mp last
    cases rest
    have life := ((allSteps_cons taken []).mp (finally_lives m middle)).1 d taken sessionId
    rcases waits with done | ⟨zombie, bounded⟩
    · rw [life, done]
      exact collected_stays _ _ _ _
    · have due_now : collects m (.timer second) = true := decide_eq_true (by omega)
      rw [life, zombie, due_now]
      rfl
  intro present
  unfold lifeOf at collected
  rw [if_pos present] at collected
  split at collected <;> cases collected

section Examples

/-- No message is understood. -/
def mute : Platform where
  Json := Empty
  parse := fun _ => .error .parseError
  value := nofun
  sizeofString := 32

/-- Two sessions, of which the first one disconnects right after the zombies have been removed. -/
def firstLeaves : List Event :=
  [.connection, .connection, .timer 5, .session 1 .disconnected]

theorem sessions_live_once_of_two :
    AllSteps (next mute) (Lives mute) initial (firstLeaves ++ [.timer 7, .timer 1000000007]) :=
  sessions_live_once _ (by decide)

theorem collections_are_paced_of_two : ∃ c,
    run (next mute) initial (firstLeaves ++ [.timer 7, .timer 1000000007]) = some c ∧
      trace (next mute) collections initial (firstLeaves ++ [.timer 7, .timer 1000000007]) =
        [5, 1000000007] ∧
      (trace (next mute) collections initial
        (firstLeaves ++ [.timer 7, .timer 1000000007])).Pairwise fun a b => a + oneSecond ≤ b := by
  obtain ⟨c, reached⟩ := Option.isSome_iff_exists.mp
    (show (run (next mute) initial (firstLeaves ++ [.timer 7, .timer 1000000007])).isSome = true by
      decide +kernel)
  exact ⟨c, reached, by decide +kernel, collections_are_paced _ c reached⟩

theorem zombies_are_collected_of_two : ∃ c d,
    run (next mute) initial firstLeaves = some c ∧ 1 ∈ c.sessions ∧
      run (next mute) c (.timer 7 :: [.connection] ++ [.timer 1000000007]) = some d ∧
      1 ∉ d.sessions := by
  obtain ⟨c, reached, zombie, goes_on⟩ : ∃ c, run (next mute) initial firstLeaves = some c ∧
      (1 ∈ c.sessions ∧ 1 ∈ c.shared.sessionsToRemove) ∧
      (run (next mute) c (.timer 7 :: [.connection] ++ [.timer 1000000007])).isSome = true :=
    reaches_of_any (by decide +kernel)
  obtain ⟨d, continued⟩ := Option.isSome_iff_exists.mp goes_on
  refine ⟨c, d, reached, zombie.1, continued, ?_⟩
  refine zombies_are_collected firstLeaves [.connection] 7 1000000007 c d 1 (by decide) (by decide)
    ?_ (by decide) reached zombie continued
  intro now mem
  simp [firstLeaves] at mem
  omega

end Examples

end RoqSamples.IoContext.SessionLife
