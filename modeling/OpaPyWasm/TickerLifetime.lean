import OpaPyWasm.CloseProtocol
import OpaPyWasm.Policy

/-!
# The lifetime of the epoch ticker

An evaluation's deadline only fires while the ticker runs. `close` and the exit
of an evaluation decide to stop the ticker under the lifecycle lock, and carry
the decision out after they have released it. By then the pool's closed flag is
set and no evaluation is between its enter and its exit, so whoever enters
afterwards is refused at the first test of `borrow` and never reaches the guest.
-/

namespace OpaPyWasm.InstancePool

/-- A thread is inside the pool's `close`. -/
def Point.inClose {α : Type} : Point α → Bool
  | .close => true
  | .testing => true
  | .marking => true
  | .draining => true
  | .drainClosing _ => true
  | .posting => true
  | .unlocking => true
  | _ => false

end OpaPyWasm.InstancePool

namespace OpaPyWasm.Policy

open Machines Threads

variable {Thread Arg Doc : Type}

/-- An `evaluate_raw` call is between its enter and its exit. -/
def Control.counted : Control Arg Doc → Bool
  | .entered => true
  | .borrowing => true
  | .building _ _ => true
  | .ensuring _ _ _ => true
  | .built _ _ => true
  | .loaned => true
  | .guest => true
  | .leaving => true
  | .exiting => true
  | _ => false

/-- One for an evaluation between its enter and its exit. -/
def Local.active (here : Local Arg Doc) : Nat := if here.control.counted = true then 1 else 0

/-- An evaluation has passed the first test of `borrow` and has not left it. -/
def Local.admitted (here : Local Arg Doc) : Bool :=
  match here.control, here.pool with
  | .borrowing, .borrow => false
  | .borrowing, _ => true
  | .building _ _, _ => true
  | .ensuring _ _ _, _ => true
  | .built _ _, _ => true
  | .loaned, _ => true
  | .guest, _ => true
  | .leaving, _ => true
  | _, _ => false

/-- An evaluation is executing guest code: it loads the document of a new
instance, reloads an instance, evaluates, or resets the heap of an instance whose
input was rejected. -/
def Local.inGuest (here : Local Arg Doc) : Bool :=
  match here.control, here.pool with
  | .building _ _, _ => true
  | .borrowing, .reloading _ _ _ => true
  | .loaned, _ => true
  | .guest, _ => true
  | _, _ => false

/-- The ticker threads that have not been told to stop. They all watch the same
event. -/
def Ticker.unstopped (ticker : Ticker) : Nat := if ticker.stop then 0 else ticker.started

/-- A thread has left its evaluation and has the factory still to close. -/
def Control.closesFactory : Control Arg Doc → Bool
  | .stopping byClose => !byClose
  | .clearing byClose => !byClose
  | _ => false

/-- A thread that has decided to stop the ticker and has not set the event. -/
def Control.decided : Control Arg Doc → Bool
  | .stopping _ => true
  | _ => false

/-- A thread inside `borrow` is counted as an active evaluation. -/
@[simp] theorem afterBorrow_counted (point : InstancePool.Point (Option Doc)) :
    (afterBorrow point : Control Arg Doc).counted = true := by
  cases point <;> rfl

/-- A thread that closes the pool is not. -/
@[simp] theorem afterPoolClose_counted (point : InstancePool.Point (Option Doc)) :
    (afterPoolClose point : Control Arg Doc).counted = false := by
  cases point <;> rfl

/-- Who is admitted is counted. -/
theorem Local.counted_of_admitted {here : Local Arg Doc} (admitted : here.admitted = true) :
    here.control.counted = true := by
  obtain ⟨control, point⟩ := here
  cases control <;> simp_all [Local.admitted, Control.counted]

/-- Who executes guest code is admitted. -/
theorem Local.admitted_of_inGuest {here : Local Arg Doc} (inGuest : here.inGuest = true) :
    here.admitted = true := by
  obtain ⟨control, point⟩ := here
  cases control with
  | borrowing => cases point <;> simp_all [Local.admitted, Local.inGuest]
  | _ => simp_all [Local.admitted, Local.inGuest]

section Moves

variable {config : Config} {encode : Arg → Option Doc} {thread : Thread}
  {shared shared' : Shared Thread Doc} {point : InstancePool.Point (Option Doc)}
  {control : Control Arg Doc} {action : Action Arg Doc} {here' : Local Arg Doc}

/-- Entering adds one to the counter and exiting takes it off again; the counter
never falls below zero. -/
theorem Move.keeps_active
    (move : Move config encode thread shared point control action shared' here')
    (entered : control.counted = true → 1 ≤ shared.activeEvals) :
    shared'.activeEvals + 0 + Local.active (⟨control, point⟩ : Local Arg Doc) =
      shared.activeEvals + 0 + here'.active := by
  cases move with
  | exitedLast | exited =>
    have positive : 1 ≤ shared.activeEvals := entered rfl
    simp [Local.active, Control.counted]
    omega
  | _ =>
    simp only [Local.active, afterBorrow_counted, afterPoolClose_counted]
    simp [Control.counted]

/-- A thread whose control follows the pool's `close` is not admitted. -/
theorem Local.unadmitted_afterPoolClose (point at_ : InstancePool.Point (Option Doc)) :
    (⟨afterPoolClose point, at_⟩ : Local Arg Doc).admitted = false := by
  cases point <;> cases at_ <;> rfl

/-- Once the pool's flag is set, nobody passes the first test of `borrow`. -/
theorem Move.stays_unadmitted
    (move : Move config encode thread shared point control action shared' here')
    (flag : shared.pool.closedEvent = true)
    (unadmitted : (⟨control, point⟩ : Local Arg Doc).admitted = false) :
    here'.admitted = false := by
  cases move with
  | borrowCalled acted =>
    cases InstancePool.next_move acted
    rfl
  | borrowStepped acted =>
    cases InstancePool.next_move acted with
    | borrowRefused => rfl
    | borrowAdmitted unset => simp [flag] at unset
    | _ => simp [Local.admitted] at unadmitted
  | borrowTimedOut acted =>
    cases InstancePool.next_move acted
    simp [Local.admitted] at unadmitted
  | snapshotRead _ reading | reloaded _ _ _ reading | reloadFailed _ _ _ _ _ reading =>
    subst reading
    simp [Local.admitted] at unadmitted
  | buildStarted creating =>
    subst creating
    simp [Local.admitted] at unadmitted
  | closeCalled | poolCloseStepped => exact Local.unadmitted_afterPoolClose _ _
  | _ => first | rfl | simp [Local.admitted] at unadmitted

/-- What a thread's point in `close` or at the end of an evaluation says about
the shared flags. -/
def Local.Placed (shared : Shared Thread Doc) (here : Local Arg Doc) : Prop :=
  match here.control with
  | .poolClosing => here.pool.inClose = true
  | .marking => shared.pool.closedEvent = true
  | .stopping _ => shared.closed = true
  | .clearing _ => shared.ticker.stop = true
  | _ => True

/-- Nothing is asked of a thread inside `borrow` or just out of it. -/
theorem Local.placed_afterBorrow (shared : Shared Thread Doc)
    (point at_ : InstancePool.Point (Option Doc)) :
    (⟨afterBorrow point, at_⟩ : Local Arg Doc).Placed shared := by
  cases point <;> trivial

/-- No flag is ever cleared. -/
theorem Move.flags_stay
    (move : Move config encode thread shared point control action shared' here') :
    (shared.pool.closedEvent = true → shared'.pool.closedEvent = true) ∧
      (shared.closed = true → shared'.closed = true) ∧
      (shared.ticker.stop = true → shared'.ticker.stop = true) := by
  refine ⟨fun flag => ?_, ?_, ?_⟩
  · rcases move.pooled with ⟨same, _⟩ | ⟨taken, acted⟩
    · rwa [same]
    · exact (InstancePool.next_move acted).flag_stays flag
  · cases move <;> simp
  · cases move <;> simp

/-- Another thread's point stays right as flags are only set. -/
theorem Local.Placed.mono
    (move : Move config encode thread shared point control action shared' here')
    {other : Local Arg Doc} (placed : other.Placed shared) : other.Placed shared' := by
  obtain ⟨flag, closed, stop⟩ := move.flags_stay
  unfold Local.Placed at placed ⊢
  split at placed <;> simp_all

/-- What a step inside the pool's `close` leads to: it stays inside, or the close
returns and the flag is set. -/
theorem close_steps {pool' : InstancePool.Shared} {point' : InstancePool.Point (Option Doc)}
    (inClose : point.inClose = true)
    (order : shared.pool.InOrder) (agreed : point.agrees shared.pool.stage)
    (acted : InstancePool.next config.pool shared.pool point .go = some (pool', point')) :
    (⟨afterPoolClose point', point'⟩ : Local Arg Doc).Placed { shared with pool := pool' } := by
  cases InstancePool.next_move acted with
  | closeUnlocked =>
    have posted : shared.pool.stage = .posted := agreed
    exact order.flag.mpr (by simp [posted])
  | closeLocked | closeRepeated | closeFirst | flagSet | drainEnded | instanceDrained
  | emptyDrained | drainedClosed | sentinelPosted => rfl
  | _ => simp [InstancePool.Point.inClose] at inClose

/-- The acting thread's new point is right too. -/
theorem Move.keeps_placed
    (move : Move config encode thread shared point control action shared' here')
    (order : shared.pool.InOrder) (agreed : point.agrees shared.pool.stage)
    (placed : (⟨control, point⟩ : Local Arg Doc).Placed shared) : here'.Placed shared' := by
  cases move with
  | closeCalled last acted =>
    cases InstancePool.next_move acted
    rfl
  | poolCloseStepped acted => exact close_steps placed order agreed acted
  | exitedLast closed => exact closed
  | closedIdle | stopSet => rfl
  | borrowCalled | snapshotRead | reloaded | borrowStepped | borrowTimedOut | reloadFailed
  | buildFailed | buildReturned | bodyLeft => exact Local.placed_afterBorrow _ _ _
  | _ => trivial

/-- Closing the policy follows closing the pool, and the stop event follows
closing the policy. -/
theorem Move.keeps_flag_order
    (move : Move config encode thread shared point control action shared' here')
    (placed : (⟨control, point⟩ : Local Arg Doc).Placed shared)
    (shut : shared.closed = true → shared.pool.closedEvent = true)
    (stopped : shared.ticker.stop = true → shared.closed = true) :
    (shared'.closed = true → shared'.pool.closedEvent = true) ∧
      (shared'.ticker.stop = true → shared'.closed = true) := by
  obtain ⟨flag, closed, _⟩ := move.flags_stay
  constructor
  · intro now
    apply flag
    cases move with
    | closedIdle | closedBusy => exact placed
    | _ => exact shut now
  · intro now
    apply closed
    cases move with
    | stopSet => exact placed
    | _ => exact stopped now

/-- A stop is decided only when the counter shows no active evaluation, and set
only after it was decided. -/
theorem Move.stop_from
    (move : Move config encode thread shared point control action shared' here')
    (stops : shared'.ticker.stop = true ∨ here'.control.decided = true) :
    (shared.ticker.stop = true ∨ control.decided = true) ∨ shared'.activeEvals = 0 := by
  cases move with
  | exitedLast closed last => exact Or.inr last
  | closedIdle quiet => exact Or.inr quiet
  | stopSet => exact Or.inl (Or.inr rfl)
  | closeCalled | poolCloseStepped =>
    rcases stops with stop | decided
    · exact Or.inl (Or.inl stop)
    · unfold afterPoolClose at decided
      split at decided <;> simp [Control.decided] at decided
  | borrowCalled | snapshotRead | reloaded | borrowStepped | borrowTimedOut | reloadFailed
  | buildFailed | buildReturned | bodyLeft =>
    rcases stops with stop | decided
    · exact Or.inl (Or.inl stop)
    · unfold afterBorrow at decided
      split at decided <;> simp [Control.decided] at decided
  | _ => exact Or.inl (Or.inl (by simpa [Control.decided] using stops))

/-- A ticker that was started once is never started again: its thread stays set
until the stop event is. -/
theorem Move.keeps_started
    (move : Move config encode thread shared point control action shared' here')
    (placed : (⟨control, point⟩ : Local Arg Doc).Placed shared)
    (settled : shared.ticker.settled = true)
    (waiting : ∀ data version, control ≠ .ensuring .starting data version) :
    shared'.ticker.settled = true ∧ shared'.ticker.started = shared.ticker.started ∧
      ∀ data version, here'.control ≠ .ensuring .starting data version := by
  cases move with
  | tickerMissing _ _ missing => simp [settled] at missing
  | tickerStarted data version => exact absurd rfl (waiting data version)
  | stopSet => exact ⟨by simp [Ticker.settled], rfl, by simp⟩
  | threadCleared =>
    have stop : shared.ticker.stop = true := placed
    exact ⟨by simp [Ticker.settled, stop], rfl, by simp⟩
  | closeCalled | poolCloseStepped =>
    refine ⟨settled, rfl, fun data version => ?_⟩
    unfold afterPoolClose
    split <;> simp
  | borrowCalled | snapshotRead | reloaded | borrowStepped | borrowTimedOut | reloadFailed
  | buildFailed | buildReturned | bodyLeft =>
    refine ⟨settled, rfl, fun data version => ?_⟩
    unfold afterBorrow
    split <;> simp
  | tickerLocked | tickerUnlocked => exact ⟨settled, rfl, by simp⟩
  | _ => exact ⟨settled, rfl, by simp⟩

/-- A close returns only after it has marked the policy closed. -/
theorem Move.returned_closed
    (move : Move config encode thread shared point control action shared' here')
    (placed : (⟨control, point⟩ : Local Arg Doc).Placed shared)
    (stopped : shared.ticker.stop = true → shared.closed = true)
    (returned : shared.closeReturned = true → shared.closed = true) :
    shared'.closeReturned = true → shared'.closed = true := by
  intro now
  cases move with
  | closedIdle | closedBusy => rfl
  | threadCleared => exact stopped placed
  | _ => exact returned now

/-- After a close has returned, the stop event is set, or some evaluation is
active, or one that was the last has the factory still to close. The last
alternative stands for what the other threads are doing. -/
theorem Move.keeps_awaited
    (move : Move config encode thread shared point control action shared' here')
    (placed : (⟨control, point⟩ : Local Arg Doc).Placed shared)
    (returned : shared.closeReturned = true → shared.closed = true) (others : Prop)
    (awaited : shared.closeReturned = true →
      shared.ticker.stop = true ∨ 0 < shared.activeEvals ∨ control = .stopping false ∨ others)
    (now : shared'.closeReturned = true) :
    shared'.ticker.stop = true ∨ 0 < shared'.activeEvals ∨
      here'.control = .stopping false ∨ others := by
  cases move with
  | closedBusy busy => exact Or.inr (Or.inl (Nat.pos_of_ne_zero busy))
  | closedIdle => simpa using awaited now
  | stopSet => exact Or.inl rfl
  | threadCleared => exact Or.inl placed
  | evalEntered => exact Or.inr (Or.inl (Nat.succ_pos _))
  | exitedLast => exact Or.inr (Or.inr (Or.inl rfl))
  | exited more =>
    have closed : shared.closed = true := returned now
    simp only [closed, Bool.true_eq_false, false_or] at more
    exact Or.inr (Or.inl (Nat.pos_of_ne_zero more))
  | _ =>
    rcases awaited now with stop | active | stopping | other
    · exact Or.inl stop
    · exact Or.inr (Or.inl active)
    · simp at stopping
    · exact Or.inr (Or.inr (Or.inr other))

end Moves

section Lifetime

variable [Fintype Thread] [DecidableEq Thread] {config : Config} {encode : Arg → Option Doc}
  {state : State Thread (Shared Thread Doc) (Local Arg Doc)}

/-- The counter of active evaluations counts the threads between their enter and
their exit. -/
theorem active_ledger (reached : Reachable (policy config encode) state) :
    state.shared.activeEvals = total Local.active state.threads := by
  have counted : Balances Shared.activeEvals (fun _ => 0) Local.active state := by
    refine invariant (Balances Shared.activeEvals (fun _ => 0) Local.active) ?_ ?_ reached
    · simp [Balances, policy, machine, start, total, Local.active, Control.counted]
    · intro before label after _ balanced stepped
      refine balanced.step (fun shared' here' acted => ?_) stepped
      have own : (before.threads label.1).active ≤ total Local.active before.threads :=
        weight_le_total Local.active before.threads label.1
      refine (next_move acted).keeps_active (fun entered => ?_)
      simp only [Balances] at balanced
      simp only [Local.active, entered, if_true] at own
      omega
  simpa [Balances] using counted

/-- With the counter at zero nobody is admitted. -/
theorem unadmitted_of_quiet (reached : Reachable (policy config encode) state)
    (quiet : state.shared.activeEvals = 0) (thread : Thread) :
    (state.threads thread).admitted = false := by
  have own : (state.threads thread).active ≤ total Local.active state.threads :=
    weight_le_total Local.active state.threads thread
  rw [← active_ledger reached, quiet] at own
  by_contra admitted
  have counted := Local.counted_of_admitted (by simpa using admitted)
  simp [Local.active, counted] at own

/-- The flags are set in order, every thread's point agrees with them, and once a
stop is decided nobody is admitted. -/
structure Orderly (state : State Thread (Shared Thread Doc) (Local Arg Doc)) : Prop where
  placed : ∀ thread, (state.threads thread).Placed state.shared
  shut : state.shared.closed = true → state.shared.pool.closedEvent = true
  stopped : state.shared.ticker.stop = true → state.shared.closed = true
  quiet : (state.shared.ticker.stop = true ∨ ∃ thread, (state.threads thread).control.decided) →
    ∀ thread, (state.threads thread).admitted = false

/-- A stop that was decided before finds the pool's flag set, so nobody is
admitted afterwards; a new decision is made with the counter at zero.

Proof: a stop that was decided before is kept quiet by every step, as a closed pool admits
nobody. A new decision is taken by a step that has read the counter at zero. -/
theorem quiet_step {before after : State Thread (Shared Thread Doc) (Local Arg Doc)}
    {label : Thread × Action Arg Doc} (earlier : Reachable (policy config encode) before)
    (orderly : Orderly before) (stepped : (policy config encode).step before label = some after)
    (stops : after.shared.ticker.stop = true ∨
      ∃ thread, (after.threads thread).control.decided = true) (thread : Thread) :
    (after.threads thread).admitted = false := by
  have now : Reachable (policy config encode) after := reachable_step earlier stepped
  obtain ⟨shared', here', move, rfl⟩ := step_move stepped
  by_cases earlierStop : before.shared.ticker.stop = true ∨
      ∃ thread, (before.threads thread).control.decided = true
  · have closed : before.shared.closed = true := by
      rcases earlierStop with stop | ⟨decider, decided⟩
      · exact orderly.stopped stop
      · have placed := orderly.placed decider
        unfold Control.decided at decided
        unfold Local.Placed at placed
        split at decided <;> simp_all
    by_cases acting : thread = label.1
    · subst acting
      simpa only [Function.update_self] using
        move.stays_unadmitted (orderly.shut closed) (orderly.quiet earlierStop label.1)
    · simpa only [Function.update_of_ne acting] using orderly.quiet earlierStop thread
  · refine unadmitted_of_quiet now ?_ thread
    have decides : shared'.ticker.stop = true ∨ here'.control.decided = true := by
      rcases stops with stop | ⟨decider, decided⟩
      · exact Or.inl stop
      · by_cases acting : decider = label.1
        · subst acting
          exact Or.inr (by simpa only [Function.update_self] using decided)
        · simp only [Function.update_of_ne acting] at decided
          exact absurd (Or.inr ⟨decider, decided⟩) earlierStop
    rcases move.stop_from decides with (stop | decided) | quiet
    · exact absurd (Or.inl stop) earlierStop
    · exact absurd (Or.inr ⟨label.1, decided⟩) earlierStop
    · exact quiet

/-- The flags and the points of all threads are orderly in every reachable state. -/
theorem orderly_reachable (reached : Reachable (policy config encode) state) : Orderly state := by
  refine invariant Orderly ⟨?_, ?_, ?_, ?_⟩ ?_ reached
  · intro thread
    trivial
  · simp [policy, machine, start]
  · cases timed : config.evalTimeout <;>
      simp [policy, machine, start, Ticker.probed, Ticker.fresh, Ticker.ensureRunning,
        Ticker.settled, timed]
  · intro _ thread
    rfl
  · intro before label after earlier orderly stepped
    obtain ⟨order, agreed⟩ := InstancePool.closes_in_order (inner_reachable earlier)
    have placed : ∀ thread, (after.threads thread).Placed after.shared := by
      refine step_locals (fun _ shared here => Local.Placed shared here) ?_ ?_ stepped
      · intro shared' here' acted
        exact (next_move acted).keeps_placed order (agreed label.1) (orderly.placed label.1)
      · intro shared' here' acted other _
        exact (orderly.placed other).mono (next_move acted)
    have quiet := quiet_step earlier orderly stepped
    obtain ⟨shared', here', move, rfl⟩ := step_move stepped
    obtain ⟨shut, stopped⟩ :=
      move.keeps_flag_order (orderly.placed label.1) orderly.shut orderly.stopped
    exact ⟨placed, shut, stopped, quiet⟩

/-- With a timeout the ticker's thread was started exactly once, before anybody
could call the policy, and nobody is about to start another. -/
theorem started_once (timed : config.evalTimeout = true)
    (reached : Reachable (policy config encode) state) :
    state.shared.ticker.settled = true ∧ state.shared.ticker.started = 1 ∧
      ∀ thread data version, (state.threads thread).control ≠ .ensuring .starting data version := by
  refine invariant (fun state : State Thread (Shared Thread Doc) (Local Arg Doc) =>
    state.shared.ticker.settled = true ∧ state.shared.ticker.started = 1 ∧
      ∀ thread data version, (state.threads thread).control ≠ .ensuring .starting data version)
    ?_ ?_ reached
  · simp [policy, machine, start, Ticker.probed, Ticker.fresh, Ticker.ensureRunning,
      Ticker.settled, timed]
  · intro before label after earlier holds stepped
    obtain ⟨settled, once, waiting⟩ := holds
    obtain ⟨shared', here', move, rfl⟩ := step_move stepped
    obtain ⟨settled', started, waiting'⟩ :=
      move.keeps_started ((orderly_reachable earlier).placed label.1) settled (waiting label.1)
    refine ⟨settled', started.trans once, fun thread => ?_⟩
    by_cases acting : thread = label.1
    · subst acting
      simpa only [Function.update_self] using waiting'
    · simpa only [Function.update_of_ne acting] using waiting thread

/-- Once a close has returned, the policy is closed and the stop of the ticker is
done or still awaited. -/
theorem stop_awaited (reached : Reachable (policy config encode) state)
    (returned : state.shared.closeReturned = true) :
    state.shared.closed = true ∧
      (state.shared.ticker.stop = true ∨ 0 < state.shared.activeEvals ∨
        ∃ thread, (state.threads thread).control = .stopping false) := by
  revert returned
  refine invariant (fun state : State Thread (Shared Thread Doc) (Local Arg Doc) =>
    state.shared.closeReturned = true → state.shared.closed = true ∧
      (state.shared.ticker.stop = true ∨ 0 < state.shared.activeEvals ∨
        ∃ thread, (state.threads thread).control = .stopping false)) ?_ ?_ reached
  · simp [policy, machine, start]
  · intro before label after earlier awaited stepped returned
    obtain ⟨placed, _, stopped, _⟩ := orderly_reachable earlier
    obtain ⟨shared', here', move, rfl⟩ := step_move stepped
    refine ⟨move.returned_closed (placed label.1) stopped (fun was => (awaited was).1) returned, ?_⟩
    have outcome := move.keeps_awaited (placed label.1) (fun was => (awaited was).1)
      (∃ other, other ≠ label.1 ∧ (before.threads other).control = .stopping false) ?_ returned
    · refine outcome.imp_right (Or.imp_right ?_)
      rintro (own | ⟨other, different, stopping⟩)
      · exact ⟨label.1, by simpa only [Function.update_self] using own⟩
      · exact ⟨other, by simpa only [Function.update_of_ne different] using stopping⟩
    · intro was
      refine (awaited was).2.imp_right (Or.imp_right ?_)
      rintro ⟨thread, stopping⟩
      by_cases acting : thread = label.1
      · subst acting
        exact Or.inl stopping
      · exact Or.inr ⟨thread, acting, stopping⟩

/-- The ticker's lifetime, where a timeout is configured. No evaluation executes
guest code after the stop event is set or before the ticker's thread is started.
At most one ticker thread has not been told to stop. Once a close has returned,
no evaluation is between its enter and its exit, and every exiting thread has
closed the factory, the stop event is set, and in every later state it still is
and no further thread has been started.

A stopped ticker leaves nobody admitted, and who executes guest code is admitted.
With nobody active and nobody about to stop the ticker, the stop has been done. -/
theorem ticker_lifetime (timed : config.evalTimeout = true)
    (reached : Reachable (policy config encode) state) :
    (∀ thread, (state.threads thread).inGuest = true →
        state.shared.ticker.stop = false ∧ 0 < state.shared.ticker.started) ∧
      state.shared.ticker.unstopped ≤ 1 ∧
      (state.shared.closeReturned = true →
        (∀ thread, (state.threads thread).control.counted = false) →
        (∀ thread, (state.threads thread).control.closesFactory = false) →
        state.shared.ticker.stop = true ∧
          ∀ later, Reaches (policy config encode) anything state later →
            later.shared.ticker.stop = true ∧
              later.shared.ticker.started = state.shared.ticker.started) := by
  obtain ⟨_, once, _⟩ := started_once timed reached
  refine ⟨fun thread inGuest => ⟨?_, by omega⟩, ?_, fun returned quiet exited => ?_⟩
  · by_contra stop
    have unadmitted : (state.threads thread).admitted = false :=
      (orderly_reachable reached).quiet (Or.inl (by simpa using stop)) thread
    simp [Local.admitted_of_inGuest inGuest] at unadmitted
  · unfold Ticker.unstopped
    split <;> omega
  · have inactive : state.shared.activeEvals = 0 := by
      rw [active_ledger reached]
      exact total_eq_zero (fun thread => by simp [Local.active, quiet thread])
    have stop : state.shared.ticker.stop = true := by
      rcases (stop_awaited reached returned).2 with stop | active | ⟨thread, stopping⟩
      · exact stop
      · omega
      · have pending := exited thread
        simp [stopping, Control.closesFactory] at pending
    refine ⟨stop, fun later run => ?_⟩
    have kept : later.shared.ticker.stop = true :=
      reaches_keeps (fun state : State Thread (Shared Thread Doc) (Local Arg Doc) =>
        state.shared.ticker.stop = true)
        (fun _ _ _ holds _ stepped => by
          obtain ⟨shared', here', move, rfl⟩ := step_move stepped
          exact move.flags_stay.2.2 holds) run stop
    have reachedLater : Reachable (policy config encode) later := Relation.ReflTransGen.trans reached run
    exact ⟨kept, (started_once timed reachedLater).2.1.trans once.symm⟩

end Lifetime

/-- A policy with one instance and a timeout. -/
def singleTimed : Config := ⟨InstancePool.singleSlot, true⟩

/-- The first thread builds the instance and is inside the guest. The second
calls `close`, which returns while the evaluation is active. -/
def closeDuringEval : List (InstancePool.Caller × Action Nat Nat) :=
  InstancePool.Caller.first.does (.callEvaluate :: List.replicate 16 .go) ++
    InstancePool.Caller.second.does (.callClose :: List.replicate 7 .go)

/-- The evaluation still runs after the close has returned. -/
def runningAfterClose :
    State InstancePool.Caller (Shared InstancePool.Caller Nat) (Local Nat Nat) :=
  (run (policy singleTimed some) anything (start singleTimed) closeDuringEval).getD
    (start singleTimed)

/-- The evaluation leaves, frees its instance and stops the ticker. -/
def exitedAfterClose :
    State InstancePool.Caller (Shared InstancePool.Caller Nat) (Local Nat Nat) :=
  (run (policy singleTimed some) anything (start singleTimed)
    (closeDuringEval ++ InstancePool.Caller.first.does (List.replicate 8 .go))).getD
    (start singleTimed)

/-- That state is reached. -/
theorem runningAfterClose_reachable :
    Reachable (policy singleTimed some) runningAfterClose :=
  executed_reaches (policy singleTimed some) anything _ (start singleTimed) (by decide)

/-- That state is reached. -/
theorem exitedAfterClose_reachable :
    Reachable (policy singleTimed some) exitedAfterClose :=
  executed_reaches (policy singleTimed some) anything _ (start singleTimed) (by decide)

/-- The ticker outlives the close for the running evaluation, and is stopped for
good once that evaluation has left. -/
theorem ticker_lifetime_close :
    (runningAfterClose.shared.closeReturned = true ∧
      runningAfterClose.shared.ticker.stop = false ∧
      0 < runningAfterClose.shared.ticker.started) ∧
      exitedAfterClose.shared.ticker.stop = true ∧
      exitedAfterClose.shared.ticker.unstopped ≤ 1 :=
  ⟨⟨by decide, (ticker_lifetime rfl runningAfterClose_reachable).1 .first (by decide)⟩,
    ((ticker_lifetime rfl exitedAfterClose_reachable).2.2 (by decide) (by decide)
      (by decide)).1, (ticker_lifetime rfl exitedAfterClose_reachable).2.1⟩

end OpaPyWasm.Policy
