import OpaPyWasm.Library.Quiescence
import OpaPyWasm.PoolSlots
import OpaPyWasm.PoolWakeup
import OpaPyWasm.ThreadPlaces

/-!
# Every call returns

The calls of a policy block at four points: at an empty queue, at the close lock of
the pool, and twice at the lock of the ticker. None of them can keep all threads from
going on. Who holds a lock is between its acquisition and its release and never
blocks there. While the pool is open an empty queue means that all slots are held by
threads that have their puts to perform, and once it is closed the wake-up chain leads
on.

No call goes on for ever either: each step takes something off what its thread has
left to do, or it draws an entry of the queue.
-/

namespace OpaPyWasm.InstancePool

variable {α : Type}

/-- The steps that a borrower has left before its with-block, or behind it, up to the
exit of its evaluation. A put counts two more, for the entry that it adds. -/
def Point.borrowWork : Point α → Nat
  | .borrow => 27
  | .waiting => 26
  | .drawn _ => 25
  | .creating => 24
  | .counting _ => 17
  | .refreshing _ => 16
  | .comparing _ _ _ => 15
  | .reloading _ _ _ => 14
  | .releasing _ _ _ => 10
  | .recreating _ _ => 9
  | .restoring _ _ => 8
  | .dropping _ => 8
  | .reposting => 7
  | .returning _ _ => 7
  | .closingInstance _ _ => 4
  | _ => 3

/-- The steps that a thread has left in `close`. A get counts two less. -/
def Point.closeWork : Point α → Nat
  | .close => 12
  | .testing => 11
  | .marking => 10
  | .draining => 9
  | .drainClosing _ => 10
  | .posting => 8
  | .unlocking => 5
  | _ => 4

/-- No move makes the queue longer than the pool. -/
theorem Move.keeps_bounded {config : Config} {shared shared' : Shared} {point point' : Point α}
    {action : Action α} (move : Move config shared point action shared' point')
    (bounded : shared.idle.length ≤ config.maxSize) : shared'.idle.length ≤ config.maxSize := by
  have put (slot : Slot) : (putNowait config shared.idle slot).length ≤ config.maxSize := by
    unfold putNowait
    split
    · simpa using ‹_›
    · exact bounded
  cases move with
  | slotDrawn slot rest front | emptyDrained slot rest front | instanceDrained id rest front =>
    simp only [front, List.length_cons] at bounded
    exact Nat.le_of_succ_le bounded
  | sentinelReposted | sentinelPosted => exact put .sentinel
  | slotRestored | slotRecycled => exact put .placeholder
  | instanceReturned id =>
    unfold Shared.putInstance
    split
    · simpa using ‹_›
    · exact bounded
  | _ => exact bounded

end OpaPyWasm.InstancePool

namespace OpaPyWasm.Policy

open Machines Threads InstancePool

variable {Thread Arg Doc : Type}

/-- The steps that a thread has left in its call. -/
def Local.work (here : Local Arg Doc) : Nat :=
  match here.control with
  | .idle _ => 0
  | .checking _ => 4
  | .serialising _ => 3
  | .committing _ => 2
  | .settled _ => 1
  | .resolving => 30
  | .entering => 29
  | .entered => 28
  | .borrowing => here.pool.borrowWork
  | .building _ _ => 23
  | .ensuring .acquiring _ _ => 22
  | .ensuring .testing _ _ => 21
  | .ensuring .starting _ _ => 20
  | .ensuring .releasing _ _ => 19
  | .built _ _ => 18
  | .loaned => 13
  | .guest => 12
  | .leaving => 11
  | .exiting => 3
  | .poolClosing => here.pool.closeWork
  | .marking => 4
  | .stopping _ => 2
  | .clearing _ => 1

/-- A thread begins a new call. -/
def Action.begins : Action Arg Doc → Bool
  | .callSetData _ => true
  | .callEvaluate => true
  | .callClose => true
  | _ => false

/-- Steps that begin no new call. -/
def uncalled (_ : State Thread (Shared Thread Doc) (Local Arg Doc))
    (label : Thread × Action Arg Doc) : Prop :=
  label.2.begins = false

/-- No thread is inside a call. -/
def AllIdle (state : State Thread (Shared Thread Doc) (Local Arg Doc)) : Prop :=
  ∀ thread, ∃ last, (state.threads thread).control = .idle last

/-- The steps that all threads have left, with two for each entry of the queue. -/
def remaining [Fintype Thread] (state : State Thread (Shared Thread Doc) (Local Arg Doc)) : Nat :=
  2 * state.shared.pool.idle.length + total Local.work state.threads

/-- Behind a step inside `borrow` a thread has left what its point in the pool says. -/
theorem work_afterBorrow (point : Point (Option Doc)) :
    (⟨afterBorrow point, point⟩ : Local Arg Doc).work =
      match point with
      | .yielded _ _ => 13
      | point => point.borrowWork := by
  cases point <;> rfl

/-- Behind a step inside the pool's `close` a thread has left what its point says. -/
theorem work_afterPoolClose (point : Point (Option Doc)) :
    (⟨afterPoolClose point, point⟩ : Local Arg Doc).work = point.closeWork := by
  cases point <;> rfl

section Moves

variable {config : Config} {encode : Arg → Option Doc} {thread : Thread}
  {shared shared' : Shared Thread Doc} {point point' : Point (Option Doc)} {control : Control Arg Doc}
  {action : Action Arg Doc} {here' : Local Arg Doc} {pool pool' : InstancePool.Shared}
  {taken : InstancePool.Action (Option Doc)}

/-- Each step of a borrower that is not on a loan takes something off. -/
theorem borrowWork_falls (move : InstancePool.Move config.pool pool point taken pool' point')
    (inside : point.inBorrow = true)
    (unlent : ∀ id mark, point ≠ .yielded id mark) :
    2 * pool'.idle.length + (⟨afterBorrow point', point'⟩ : Local Arg Doc).work <
      2 * pool.idle.length + point.borrowWork := by
  rw [work_afterBorrow]
  cases move with
  | slotDrawn slot rest front =>
    simp only [Point.borrowWork, front, List.length_cons]
    omega
  | sentinelReposted =>
    have put : (pool.putWakeSentinel config.pool).idle.length ≤ pool.idle.length + 1 :=
      length_putNowait_le config.pool pool.idle .sentinel
    simp only [Point.borrowWork]
    omega
  | slotRestored | slotRecycled =>
    have put : (pool.putPlaceholder config.pool).idle.length ≤ pool.idle.length + 1 :=
      length_putNowait_le config.pool pool.idle .placeholder
    simp only [Point.borrowWork]
    omega
  | instanceReturned id =>
    have put := length_putInstance_le config.pool pool id
    simp only [Point.borrowWork]
    omega
  | poisoned | discarded | exited => exact absurd rfl (unlent _ _)
  | borrowCalled | closeCalled | closeLocked | closeRepeated | closeFirst | flagSet | drainEnded
  | instanceDrained | emptyDrained | drainedClosed | sentinelPosted | closeUnlocked =>
    simp [Point.inBorrow] at inside
  | _ => simp [Point.borrowWork]

/-- Each step of a closing thread takes something off. -/
theorem closeWork_falls (move : InstancePool.Move config.pool pool point taken pool' point')
    (inside : point.inClose = true) :
    2 * pool'.idle.length + (⟨afterPoolClose point', point'⟩ : Local Arg Doc).work <
      2 * pool.idle.length + point.closeWork := by
  rw [work_afterPoolClose]
  cases move with
  | instanceDrained id rest front =>
    simp only [Point.closeWork, front, List.length_cons]
    omega
  | emptyDrained slot rest front => simp [Point.closeWork, front]
  | sentinelPosted =>
    have put : (pool.putWakeSentinel config.pool).idle.length ≤ pool.idle.length + 1 :=
      length_putNowait_le config.pool pool.idle .sentinel
    simp only [Point.closeWork]
    omega
  | closeLocked | closeRepeated | closeFirst | flagSet | drainEnded | drainedClosed
  | closeUnlocked => simp [Point.closeWork]
  | _ => simp [Point.inClose] at inside

/-- Each step that begins no new call takes something off.

Proof: one case for each action. The work of a point is no less than the steps that are left
in its call, and an entry of the queue counts two, which pays for draining it. -/
theorem Move.work_falls
    (move : Move config encode thread shared point control action shared' here')
    (aligned : (⟨control, point⟩ : Local Arg Doc).Aligned) (same : action.begins = false) :
    2 * shared'.pool.idle.length + here'.work <
      2 * shared.pool.idle.length + (⟨control, point⟩ : Local Arg Doc).work := by
  cases move with
  | dataCalled | evaluateCalled | closeCalled => simp [Action.begins] at same
  | borrowCalled acted =>
    obtain ⟨last, rfl⟩ := aligned
    cases InstancePool.next_move acted
    simp [afterBorrow, Local.work, Point.borrowWork]
  | snapshotRead _ _ acted | borrowStepped acted | borrowTimedOut acted =>
    exact borrowWork_falls (InstancePool.next_move acted) aligned.1 aligned.2
  | reloaded _ _ _ _ acted =>
    exact borrowWork_falls (InstancePool.next_move acted) aligned.1 aligned.2
  | reloadFailed _ _ _ _ _ _ acted =>
    exact borrowWork_falls (InstancePool.next_move acted) aligned.1 aligned.2
  | buildStarted creating =>
    subst creating
    simp [Local.work, Point.borrowWork]
  | buildFailed _ _ acted | buildReturned _ _ acted =>
    obtain rfl : point = .creating := aligned
    cases InstancePool.next_move acted
    simp [afterBorrow, Local.work, Point.borrowWork]
  | guestFailed acted | bodyLeft acted =>
    obtain ⟨id, mark, rfl⟩ := aligned
    cases InstancePool.next_move acted
    simp [afterBorrow, Local.work, Point.borrowWork]
  | poolCloseStepped acted => exact closeWork_falls (InstancePool.next_move acted) aligned
  | _ => simp [Local.work]

/-- One for a thread inside the critical section of `ensure_running`. -/
def Local.ticks (here : Local Arg Doc) : Nat :=
  match here.control with
  | .ensuring .testing _ _ => 1
  | .ensuring .starting _ _ => 1
  | .ensuring .releasing _ _ => 1
  | _ => 0

/-- One while the ticker's lock is held. -/
def Shared.ticking (shared : Shared Thread Doc) : Nat := if shared.ticker.lock then 1 else 0

/-- Behind a step inside `borrow` the ticker's lock is not held. -/
@[simp] theorem ticks_afterBorrow (point at_ : Point (Option Doc)) :
    (⟨afterBorrow point, at_⟩ : Local Arg Doc).ticks = 0 := by
  cases point <;> rfl

/-- Neither is it behind a step of the pool's close. -/
@[simp] theorem ticks_afterPoolClose (point at_ : Point (Option Doc)) :
    (⟨afterPoolClose point, at_⟩ : Local Arg Doc).ticks = 0 := by
  cases point <;> rfl

/-- Acquiring and releasing keep the ticker's lock in step with its owner. -/
theorem Move.keeps_ticking
    (move : Move config encode thread shared point control action shared' here')
    (owned : (⟨control, point⟩ : Local Arg Doc).ticks = 1 → shared.ticker.lock = true) :
    shared'.ticking + 0 + (⟨control, point⟩ : Local Arg Doc).ticks =
      shared.ticking + 0 + here'.ticks := by
  cases move with
  | tickerLocked _ _ free => simp [Shared.ticking, Local.ticks, free]
  | tickerUnlocked => simp [Shared.ticking, Local.ticks, owned rfl]
  | tickerStarted => simp [Shared.ticking, Local.ticks]
  | borrowCalled | snapshotRead | reloaded | borrowStepped | borrowTimedOut | reloadFailed
  | buildFailed | buildReturned | bodyLeft | closeCalled | poolCloseStepped =>
    simp only [Shared.ticking, ticks_afterBorrow, ticks_afterPoolClose]
    rfl
  | _ => rfl

/-- Where a thread that is inside a call cannot go on. -/
inductive Blocked (shared : Shared Thread Doc) : Local Arg Doc → Prop
  | drawing (empty : shared.pool.idle = []) : Blocked shared ⟨.borrowing, .waiting⟩
  | locking (held : shared.pool.closeLock = true) : Blocked shared ⟨.poolClosing, .close⟩
  | ensuring (data : Option Doc) (version : Nat) (point : Point (Option Doc))
      (held : shared.ticker.lock = true) : Blocked shared ⟨.ensuring .acquiring data version, point⟩
  | clearing (byClose : Bool) (point : Point (Option Doc)) (held : shared.ticker.lock = true) :
      Blocked shared ⟨.clearing byClose, point⟩

/-- A borrower that is not on a loan can go on unless it waits at the empty queue. -/
theorem borrow_goes (inside : point.inBorrow = true) (unlent : ∀ id mark, point ≠ .yielded id mark)
    (stopped : borrowStep config shared point = (none : Option (Shared Thread Doc × Local Arg Doc))) :
    point = .waiting ∧ shared.pool.idle = [] := by
  cases point with
  | yielded id mark => exact absurd rfl (unlent id mark)
  | waiting =>
    cases idle : shared.pool.idle with
    | nil => exact ⟨rfl, rfl⟩
    | cons => simp [borrowStep, inPool, InstancePool.next, idle] at stopped
  | drawn slot => cases slot <;> simp [borrowStep, inPool, InstancePool.next] at stopped <;> grind
  | restoring back => cases back <;> simp [borrowStep, inPool, InstancePool.next] at stopped
  | borrow | releasing => simp [borrowStep, inPool, InstancePool.next] at stopped; grind
  | comparing => simp [borrowStep, inPool, InstancePool.next] at stopped; grind
  | dropping | reposting | creating | counting | refreshing | reloading | recreating
  | closingInstance | returning => simp [borrowStep, inPool, InstancePool.next] at stopped
  | outside | close | testing | marking | draining | drainClosing | posting | unlocking =>
    simp [Point.inBorrow] at inside

/-- A closing thread can go on unless another one holds the close lock. -/
theorem close_goes (inside : point.inClose = true)
    (stopped : inPool config shared point .go afterPoolClose =
      (none : Option (Shared Thread Doc × Local Arg Doc))) :
    point = .close ∧ shared.pool.closeLock = true := by
  cases point with
  | close =>
    cases held : shared.pool.closeLock with
    | true => exact ⟨rfl, rfl⟩
    | false => simp [inPool, InstancePool.next, held] at stopped
  | testing => simp [inPool, InstancePool.next] at stopped; grind
  | draining => simp [inPool, InstancePool.next] at stopped; grind
  | marking | drainClosing | posting | unlocking => simp [inPool, InstancePool.next] at stopped
  | _ => simp [Point.inClose] at inside

/-- A thread inside a call can go on unless it is blocked.

Proof: one case for each point of a call. All but four of them have a step of their own: the
draw from an empty queue, the lock of the pool's close and the lock of the ticker, twice, may
have none. -/
theorem blocked_of_stopped {here : Local Arg Doc} (aligned : here.Aligned)
    (stopped : next config encode thread shared here .go = none) :
    (∃ last, here.control = .idle last) ∨ Blocked shared here := by
  obtain ⟨control, point⟩ := here
  cases control with
  | idle last => exact .inl ⟨last, rfl⟩
  | borrowing =>
    obtain ⟨rfl, empty⟩ := borrow_goes aligned.1 aligned.2 stopped
    exact .inr (.drawing empty)
  | poolClosing =>
    obtain ⟨rfl, held⟩ := close_goes aligned stopped
    exact .inr (.locking held)
  | ensuring ensure data version =>
    cases ensure with
    | acquiring =>
      cases held : shared.ticker.lock with
      | true => exact .inr (.ensuring data version point held)
      | false => simp [next, held] at stopped
    | testing =>
      cases settled : shared.ticker.settled <;> simp [next, settled] at stopped
    | starting | releasing => simp [next] at stopped
  | clearing byClose =>
    cases held : shared.ticker.lock with
    | true => exact .inr (.clearing byClose point held)
    | false => simp [next, held] at stopped
  | checking => cases closed : shared.closed <;> simp [next, closed] at stopped
  | serialising argument =>
    cases text : serialiseData encode argument <;> simp [next, text] at stopped
  | building =>
    cases timed : config.evalTimeout <;> simp [next, timed] at stopped
  | entered =>
    obtain ⟨last, rfl⟩ := aligned
    simp [next, inPool, InstancePool.next] at stopped
  | built =>
    obtain rfl : point = .creating := aligned
    simp [next, inPool, InstancePool.next] at stopped
  | loaned | leaving =>
    obtain ⟨id, mark, rfl⟩ := aligned
    simp [next, inPool, InstancePool.next] at stopped
  | exiting =>
    simp only [next] at stopped
    split at stopped <;> cases stopped
  | marking =>
    simp only [next] at stopped
    split at stopped <;> cases stopped
  | committing | settled | resolving | entering | guest | stopping => simp [next] at stopped

end Moves

section Progress

variable [DecidableEq Thread] {config : Config} {encode : Arg → Option Doc}
  {state : State Thread (Shared Thread Doc) (Local Arg Doc)}

/-- Where no thread can go on, each is idle or blocked. -/
theorem idle_or_blocked (reached : Reachable (policy config encode) state)
    (stopped : ∀ thread, (policy config encode).step state (thread, .go) = none) (thread : Thread) :
    (∃ last, (state.threads thread).control = .idle last) ∨
      Blocked state.shared (state.threads thread) := by
  have stands : next config encode thread state.shared (state.threads thread) .go = none := by
    simpa [policy, machine] using stopped thread
  exact blocked_of_stopped (aligned_reachable reached thread) stands

/-- The queue never holds more entries than the pool has slots. -/
theorem idle_bounded (reached : Reachable (policy config encode) state) :
    state.shared.pool.idle.length ≤ config.pool.maxSize := by
  refine invariant (fun state : State Thread (Shared Thread Doc) (Local Arg Doc) =>
    state.shared.pool.idle.length ≤ config.pool.maxSize) ?_ ?_ reached
  · simp [policy, machine, start, opened]
  · intro before label after _ bounded stepped
    obtain ⟨shared', here', move, rfl⟩ := step_move stepped
    rcases move.pooled with ⟨same, -⟩ | ⟨taken, acted⟩
    · rwa [same]
    · exact (InstancePool.next_move acted).keeps_bounded bounded

/-- No thread has more than thirty steps left. -/
theorem work_le (here : Local Arg Doc) : here.work ≤ 30 := by
  have borrows : here.pool.borrowWork ≤ 30 := by
    unfold Point.borrowWork
    split <;> omega
  have closes : here.pool.closeWork ≤ 30 := by
    unfold Point.closeWork
    split <;> omega
  unfold Local.work
  split <;> omega

section Counted

variable [Fintype Thread]

/-- The ticker's lock has exactly one owner while it is held and none otherwise. -/
theorem ticking_ledger (reached : Reachable (policy config encode) state) :
    state.shared.ticking = total Local.ticks state.threads := by
  have owned : Balances Shared.ticking (fun _ => 0) Local.ticks state := by
    refine invariant (Balances Shared.ticking (fun _ => 0) Local.ticks) ?_ ?_ reached
    · have free : (Ticker.probed config).lock = false := by
        unfold Ticker.probed Ticker.ensureRunning
        split <;> rfl
      simp [Balances, policy, machine, start, Shared.ticking, total, Local.ticks, free]
    · intro before label after _ balanced stepped
      refine balanced.step (fun shared' here' acted => ?_) stepped
      have carried : (before.threads label.1).ticks ≤ total Local.ticks before.threads :=
        weight_le_total Local.ticks before.threads label.1
      refine (next_move acted).keeps_ticking (fun inside => ?_)
      by_contra unlocked
      simp only [Balances, Shared.ticking, unlocked] at balanced
      simp only [Local.ticks] at inside carried
      simp at balanced
      omega
  simpa [Balances] using owned

section Stopped

variable (reached : Reachable (policy config encode) state)
  (stopped : ∀ thread, (policy config encode).step state (thread, .go) = none)
include reached stopped

/-- No thread is inside the critical section of `ensure_running`. -/
theorem ticker_free : state.shared.ticker.lock = false := by
  by_contra held
  have ticking : total Local.ticks state.threads ≠ 0 := by
    rw [← ticking_ledger reached]
    simp [Shared.ticking, held]
  obtain ⟨thread, inside⟩ := exists_weight ticking
  rcases idle_or_blocked reached stopped thread with ⟨last, idle⟩ | blocked
  · simp [Local.ticks, idle] at inside
  · generalize state.threads thread = here at inside blocked
    cases blocked <;> simp [Local.ticks] at inside

/-- Each thread is outside the pool, waits at the empty queue, or waits for the close
lock. -/
theorem stopped_point (thread : Thread) :
    ((∃ last, (state.threads thread).control = .idle last) ∧
        ∃ last, (state.threads thread).pool = .outside last) ∨
      ((state.threads thread).pool = .waiting ∧ state.shared.pool.idle = []) ∨
      ((state.threads thread).pool = .close ∧ state.shared.pool.closeLock = true) := by
  have aligned := aligned_reachable reached thread
  have free := ticker_free reached stopped
  rcases idle_or_blocked reached stopped thread with ⟨last, idle⟩ | blocked
  · unfold Local.Aligned at aligned
    rw [idle] at aligned
    exact .inl ⟨⟨last, idle⟩, aligned⟩
  · generalize state.threads thread = here at blocked
    cases blocked with
    | drawing empty => exact .inr (.inl ⟨rfl, empty⟩)
    | locking held => exact .inr (.inr ⟨rfl, held⟩)
    | ensuring _ _ _ held | clearing _ _ held => simp [free] at held

/-- No thread is inside the close lock. -/
theorem close_unlocked (thread : Thread) : Point.locks ((inner state).threads thread) = 0 := by
  change Point.locks (state.threads thread).pool = 0
  rcases stopped_point reached stopped thread with ⟨-, last, point⟩ | ⟨point, -⟩ | ⟨point, -⟩ <;>
    simp [point, Point.locks]

/-- The close lock is free. -/
theorem close_free : state.shared.pool.closeLock = false := by
  by_contra held
  have locked : total Point.locks (inner state).threads ≠ 0 := by
    rw [← lock_ledger (inner_reachable reached)]
    have held : (inner state).shared.closeLock = true := Bool.eq_true_of_not_eq_false held
    simp [InstancePool.Shared.locked, held]
  obtain ⟨thread, inside⟩ := exists_weight locked
  exact inside (close_unlocked reached stopped thread)

/-- No thread waits at the empty queue: while the pool is open its slots would all be
held, and once it is closed a wake-up would be under way. -/
theorem none_waits (thread : Thread) : (state.threads thread).pool ≠ .waiting := by
  intro waiting
  have empty : (inner state).shared.idle = [] := by
    rcases stopped_point reached stopped thread with ⟨-, last, point⟩ | ⟨-, empty⟩ | ⟨point, -⟩
    · simp [point] at waiting
    · exact empty
    · simp [point] at waiting
  refine slot_found (inner_reachable reached) (fun other => ?_) (close_unlocked reached stopped) empty
  change Point.holdsSlot (state.threads other).pool = false
  rcases stopped_point reached stopped other with ⟨-, last, point⟩ | ⟨point, -⟩ | ⟨point, -⟩ <;>
    simp [point, Point.holdsSlot]

/-- Where no thread can go on, no call is under way. -/
theorem stopped_idle : AllIdle state := by
  intro thread
  rcases stopped_point reached stopped thread with ⟨idle, -⟩ | ⟨waiting, -⟩ | ⟨-, held⟩
  · exact idle
  · exact absurd waiting (none_waits reached stopped thread)
  · simp [close_free reached stopped] at held

end Stopped

/-- A step that begins no new call takes something off what remains. -/
theorem remaining_falls :
    Falls (policy config encode) uncalled
      (remaining : State Thread (Shared Thread Doc) (Local Arg Doc) → Nat) := by
  intro before label after reached same stepped
  obtain ⟨shared', here', acted, rfl, carried⟩ := step_total Local.work stepped
  have fell : 2 * after.shared.pool.idle.length + here'.work <
      2 * before.shared.pool.idle.length + (before.threads label.1).work :=
    (next_move acted).work_falls (aligned_reachable reached label.1) same
  simp only [remaining]
  omega

/-- Where some call is under way, some thread can go on. -/
theorem some_goes : Advances (policy config encode)
    (fun _ (label : Thread × Action Arg Doc) => label.2 = .go) AllIdle := by
  intro state reached busy
  by_contra stuck
  refine busy (stopped_idle reached (fun thread => ?_))
  by_contra stepped
  obtain ⟨after, stepped⟩ := Option.ne_none_iff_exists'.mp stepped
  exact stuck ⟨(thread, .go), after, rfl, stepped⟩

/-- Every call returns, whatever the others do, unless new calls keep coming. From a
reachable state no run without new calls takes more steps than thirty for each thread
and two for each slot of the pool. Such a run can go on, without a timeout and without
an error of the environment, while any call is under way.

Proof: each step takes something off the work that is left, of which every thread has at most
thirty. A state without a step has all threads idle, since a blocked thread waits for one that
is not. -/
theorem calls_return (reached : Reachable (policy config encode) state) :
    (∀ labels last, Takes (policy config encode) uncalled state labels last →
      labels.length ≤ 30 * Fintype.card Thread + 2 * config.pool.maxSize) ∧
    ((∀ thread, (policy config encode).step state (thread, .go) = none) → AllIdle state) ∧
    ∃ labels last, Takes (policy config encode) (fun _ label => label.2 = .go) state labels last ∧
      AllIdle last := by
  have goes : Falls (policy config encode)
      (fun _ (label : Thread × Action Arg Doc) => label.2 = .go) remaining := by
    intro before label after reached going stepped
    refine remaining_falls before label after reached ?_ stepped
    rw [uncalled, going]
    rfl
  refine ⟨fun labels last taken => ?_, stopped_idle reached, some_goes.settles goes reached⟩
  have bounded := remaining_falls.bounds reached taken
  have entries := idle_bounded reached
  have work : total Local.work state.threads ≤ Fintype.card Thread * 30 :=
    Finset.sum_le_card_nsmul _ _ _ (fun thread _ => work_le (state.threads thread))
  simp only [remaining] at bounded
  omega

end Counted

end Progress

/-- An evaluation in the guest, and with it the rest of the run, comes to its end after
`close` has returned. -/
theorem calls_return_running :
    (runningAfterClose.threads .first).control = .guest ∧
      runningAfterClose.shared.closeReturned = true ∧
      ∃ labels last, Takes (policy singleTimed some) (fun _ label => label.2 = .go)
        runningAfterClose labels last ∧ AllIdle last :=
  ⟨by decide, by decide, (calls_return runningAfterClose_reachable).2.2⟩

end OpaPyWasm.Policy
