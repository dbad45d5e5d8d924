import OpaPyWasm.PoolSlots

/-!
# The wake-up chain of a closed pool

A closing thread posts one sentinel. A borrower that draws an entry of a closed
pool posts the sentinel again before it raises, so the wake-up passes from one
blocked borrower to the next. The posts do not block and are dropped on a full
queue, where every waiter has an entry to draw.

After `close` has returned, the queue holds an entry or some thread that has
drawn one still has its post to perform. A borrower that draws an entry once the
flag is set ends with the closed error and never reaches the factory.
-/

namespace OpaPyWasm.InstancePool

open Machines Threads

variable {α : Type} {Thread : Type}

/-- A thread inside `_take_slot` that has drawn an entry. On a closed pool each
of these points leads to the post of the sentinel. -/
def Point.awaitsRepost : Point α → Bool
  | .drawn _ => true
  | .dropping _ => true
  | .reposting => true
  | _ => false

/-- It holds the slot that it drew. -/
theorem Point.holdsSlot_of_awaitsRepost {point : Point α} (awaits : point.awaitsRepost = true) :
    point.holdsSlot = true := by
  cases point <;> first | rfl | cases awaits

/-- A post leaves an entry in the queue. -/
theorem putNowait_ne_nil (config : Config) (idle : List Slot) (slot : Slot) :
    putNowait config idle slot ≠ [] := by
  have positive : 1 ≤ config.maxSize := config.positive
  unfold putNowait
  split
  · simp
  · rintro rfl
    simp only [List.length_nil, Nat.not_lt] at *
    omega

/-- One link of the chain: a move of a posted pool keeps an entry in the queue
or a post to perform, where other threads' posts are a given. -/
theorem Move.keeps_wake {config : Config} {shared shared' : Shared} {point point' : Point α}
    {action : Action α} (move : Move config shared point action shared' point')
    (order : shared.InOrder) (agreed : point.agrees shared.stage)
    (posted : shared'.stage = .posted) (elsewhere : Prop)
    (woken : shared.stage = .posted →
      shared.idle ≠ [] ∨ point.awaitsRepost = true ∨ elsewhere) :
    shared'.idle ≠ [] ∨ point'.awaitsRepost = true ∨ elsewhere := by
  have setBy : shared.stage = .posted → shared.closedEvent = true :=
    fun now => order.flag.mpr (by simp [now])
  cases move with
  | slotDrawn | sentinelDrawn | placeholderRefused | instanceRefused | drawnClosed =>
    exact Or.inr (Or.inl rfl)
  | placeholderTaken flag | instanceTaken id flag => simp [setBy posted] at flag
  | sentinelReposted => exact Or.inl (putNowait_ne_nil config shared.idle .sentinel)
  | sentinelPosted => exact Or.inl (putNowait_ne_nil config shared.idle .sentinel)
  | slotRestored | slotRecycled =>
    exact Or.inl (putNowait_ne_nil config shared.idle .placeholder)
  | instanceReturned id =>
    unfold Shared.putInstance at posted ⊢
    split
    · simp
    · simpa [Point.awaitsRepost] using woken (by split at posted <;> exact posted)
  | instanceDrained | emptyDrained =>
    have draining : shared.stage = .draining := agreed
    simp [draining] at posted
  | flagSet => simp at posted
  | drainEnded => simp at posted
  | _ => simpa [Point.awaitsRepost] using woken posted

/-- Where a draw from a closed pool leads until its call ends, and the error it
ends with. -/
def Point.refused : Point α → Bool
  | .drawn _ => true
  | .dropping _ => true
  | .reposting => true
  | .outside (some .policyClosed) => true
  | _ => false

/-- The points a thread that drew from a closed pool can be at in this call or
any later one: a new `borrow` is refused by its first read of the flag. -/
def Point.barred : Point α → Bool
  | .outside _ => true
  | .borrow => true
  | .drawn _ => true
  | .dropping _ => true
  | .reposting => true
  | .close => true
  | .testing => true
  | .marking => true
  | .draining => true
  | .drainClosing _ => true
  | .posting => true
  | .unlocking => true
  | _ => false

/-- The actions that begin a new call. -/
def Action.begins : Action α → Bool
  | .callBorrow => true
  | .callClose => true
  | _ => false

/-- Steps in which this thread begins no new call. -/
def withoutCallsOf (thread : Thread) (_ : State Thread Shared (Point α))
    (label : Thread × Action α) : Prop :=
  label.1 = thread → label.2.begins = false

/-- On a closed pool a refused call stays refused until it ends. -/
theorem Move.stays_refused {config : Config} {shared shared' : Shared} {point point' : Point α}
    {action : Action α} (move : Move config shared point action shared' point')
    (flag : shared.closedEvent = true) (refused : point.refused = true)
    (same : action.begins = false) : point'.refused = true := by
  cases move with
  | placeholderTaken unset | instanceTaken _ unset => simp [flag] at unset
  | borrowCalled | closeCalled => simp [Action.begins] at same
  | sentinelDrawn | placeholderRefused | instanceRefused | drawnClosed | sentinelReposted => rfl
  | _ => simp [Point.refused] at refused

/-- On a closed pool a barred thread stays barred. -/
theorem Move.stays_barred {config : Config} {shared shared' : Shared} {point point' : Point α}
    {action : Action α} (move : Move config shared point action shared' point')
    (flag : shared.closedEvent = true) (barred : point.barred = true) : point'.barred = true := by
  cases move with
  | placeholderTaken unset | instanceTaken _ unset => simp [flag] at unset
  | borrowAdmitted unset => simp [flag] at unset
  | _ => first | rfl | simp [Point.barred] at barred

/-- A refused call that has not ended can always take its next step. -/
theorem refused_enabled (config : Config) (shared : Shared) {point : Point α}
    (refused : point.refused = true) (running : point ≠ .outside (some .policyClosed)) :
    (next config shared point .go).isSome = true := by
  cases point with
  | drawn slot => cases slot <;> simp only [next] <;> (try split) <;> rfl
  | dropping | reposting => rfl
  | outside last => cases last with
    | none => simp [Point.refused] at refused
    | some result => cases result <;> simp_all [Point.refused]
  | _ => simp [Point.refused] at refused

/-- What a closed pool keeps for one thread through any step: the flag stays set,
and the thread's own moves keep the law of its program point. -/
theorem kept_closed [DecidableEq Thread] {config : Config} (law : Point α → Prop)
    {thread : Thread} {before after : State Thread Shared (Point α)} {label : Thread × Action α}
    (own : ∀ {shared' point'}, label.1 = thread →
      Move config before.shared (before.threads thread) label.2 shared' point' → law point')
    (flag : before.shared.closedEvent = true) (holds : law (before.threads thread))
    (stepped : (pool config).step before label = some after) :
    after.shared.closedEvent = true ∧ law (after.threads thread) := by
  obtain ⟨shared', point', move, rfl⟩ := step_move stepped
  refine ⟨move.flag_stays flag, ?_⟩
  by_cases acting : thread = label.1
  · subst acting
    simpa only [Function.update_self] using own rfl move
  · simpa only [Function.update_of_ne acting] using holds

section Wakeup

variable [Fintype Thread] [DecidableEq Thread] {config : Config}
  {state : State Thread Shared (Point α)}

/-- A posted pool holds an entry, or some thread has a post to perform. -/
def Woken (state : State Thread Shared (Point α)) : Prop :=
  state.shared.stage = .posted →
    state.shared.idle ≠ [] ∨ ∃ thread, (state.threads thread).awaitsRepost = true

/-- The chain is unbroken in every reachable state. -/
theorem woken_reachable (reached : Reachable (pool config) state) : Woken state := by
  have opening : Woken (start config : State Thread Shared (Point α)) := by
    simp [Woken, start, opened]
  refine invariant Woken opening ?_ reached
  intro before label after earlier woken stepped posted
  obtain ⟨order, agreed⟩ := closes_in_order earlier
  obtain ⟨shared', point', move, rfl⟩ := step_move stepped
  have link := move.keeps_wake order (agreed label.1) posted
    (∃ other, other ≠ label.1 ∧ (before.threads other).awaitsRepost = true)
    (fun wasPosted => by
      rcases woken wasPosted with idle | ⟨thread, awaits⟩
      · exact Or.inl idle
      · by_cases acting : thread = label.1
        · exact Or.inr (Or.inl (acting ▸ awaits))
        · exact Or.inr (Or.inr ⟨thread, acting, awaits⟩))
  rcases link with idle | own | ⟨other, different, awaits⟩
  · exact Or.inl idle
  · exact Or.inr ⟨label.1, by simpa only [Function.update_self] using own⟩
  · exact Or.inr ⟨other, by simpa only [Function.update_of_ne different] using awaits⟩

/-- Where no borrower holds a slot and no thread is inside `close`, the queue has an entry
to draw: all slots of an open pool, or the sentinel of a closed one.

Proof: nobody owns the close lock, so the pool is open or its sentinel is posted. In the
first case the slots that nobody holds are in the queue. In the second a post that is still
to be performed would be that of a borrower with a slot. -/
theorem slot_found (reached : Reachable (pool config) state)
    (unheld : ∀ thread, (state.threads thread).holdsSlot = false)
    (unlocked : ∀ thread, (state.threads thread).locks = 0) : state.shared.idle ≠ [] := by
  have free : state.shared.closeLock = false := by
    by_contra held
    have locked : total Point.locks state.threads ≠ 0 := by
      rw [← lock_ledger reached]
      simp [Shared.locked, held]
    obtain ⟨thread, inside⟩ := exists_weight locked
    exact inside (unlocked thread)
  rcases (closes_in_order reached).1.free free with isOpen | posted
  · intro empty
    have slots := (slots_kept reached).opened isOpen
    have positive := config.positive
    have held : total Point.slots state.threads ≠ 0 := by
      rw [empty, List.length_nil] at slots
      omega
    obtain ⟨thread, holds⟩ := exists_weight held
    simp [Point.slots, unheld thread] at holds
  · rcases woken_reachable reached posted with idle | ⟨thread, awaits⟩
    · exact idle
    · have holds := Point.holdsSlot_of_awaitsRepost awaits
      rw [unheld thread] at holds
      cases holds

/-- No waiter is stranded by `close`. Once a `close` call has returned, a borrower
still waiting finds an entry in the queue, or some other thread inside
`_take_slot` has drawn one and has its post of the sentinel to perform. And a
slot drawn after the flag is set never leads to the factory: until the call ends
it goes through the points that close a drawn instance and post the sentinel,
none of which blocks, and it ends with the closed error.

Proof: once the sentinel is posted, the queue holds it or a thread that drew it is on its way
to post it again. A slot that is drawn behind the flag leads to points that are kept, step by
step, until the call has ended, and each of them has a step. -/
theorem close_wakes_waiters (reached : Reachable (pool config) state) :
    (state.shared.closeReturned = true → ∀ thread, state.threads thread = .waiting →
      state.shared.idle ≠ [] ∨
        ∃ other, other ≠ thread ∧ (state.threads other).awaitsRepost = true) ∧
    (state.shared.closedEvent = true → ∀ thread after, state.threads thread = .waiting →
      (pool config).step state (thread, .go) = some after →
      (∀ last, Reaches (pool config) (withoutCallsOf thread) after last →
        (last.threads thread).refused = true ∧
        (last.threads thread ≠ .outside (some .policyClosed) →
          ((pool config).step last (thread, .go)).isSome = true)) ∧
      ∀ last, Reaches (pool config) anything after last → last.threads thread ≠ .creating) := by
  constructor
  · intro returned thread waiting
    have posted : state.shared.stage = .posted := (closes_in_order reached).1.returned returned
    rcases woken_reachable reached posted with idle | ⟨other, awaits⟩
    · exact Or.inl idle
    · refine Or.inr ⟨other, ?_, awaits⟩
      rintro rfl
      simp [waiting, Point.awaitsRepost] at awaits
  · intro flag thread after waiting stepped
    have drawn : after.shared.closedEvent = true ∧ (after.threads thread).refused = true ∧
        (after.threads thread).barred = true := by
      obtain ⟨shared', point', move, rfl⟩ := step_move stepped
      simp only [waiting] at move
      refine ⟨move.flag_stays flag, ?_⟩
      cases move with
      | slotDrawn => simp [Point.refused, Point.barred]
    constructor
    · intro last run
      have refused : last.shared.closedEvent = true ∧ (last.threads thread).refused = true := by
        refine reaches_keeps (fun state : State Thread Shared (Point α) =>
          state.shared.closedEvent = true ∧ (state.threads thread).refused = true) ?_ run
          ⟨drawn.1, drawn.2.1⟩
        intro before label _ holds uncalled stepped
        exact kept_closed (fun point => point.refused = true)
          (fun acting move => move.stays_refused holds.1 holds.2 (uncalled acting))
          holds.1 holds.2 stepped
      refine ⟨refused.2, fun running => ?_⟩
      have enabled := refused_enabled config last.shared refused.2 running
      simpa [pool, machine] using enabled
    · intro last run creating
      have barred : last.shared.closedEvent = true ∧ (last.threads thread).barred = true := by
        refine reaches_keeps (fun state : State Thread Shared (Point α) =>
          state.shared.closedEvent = true ∧ (state.threads thread).barred = true) ?_ run
          ⟨drawn.1, drawn.2.2⟩
        intro before label _ holds _ stepped
        exact kept_closed (fun point => point.barred = true)
          (fun _ move => move.stays_barred holds.1 holds.2) holds.1 holds.2 stepped
      simp [creating, Point.barred] at barred

/-- The first thread has the only slot, the second waits for it, and the third
has closed the pool. -/
def closedWhileWaiting : State Caller Shared (Point Unit) :=
  (run (pool singleSlot) anything (start singleSlot)
    (Caller.first.does [.callBorrow, .go] ++ Caller.second.does [.callBorrow, .go] ++
      Caller.first.does [.go, .go] ++
      Caller.third.does [.callClose, .go, .go, .go, .go, .go, .go])).getD (start singleSlot)

/-- That state is reached. -/
theorem closedWhileWaiting_reachable : Reachable (pool singleSlot) closedWhileWaiting :=
  executed_reaches (pool singleSlot) anything _ (start singleSlot) (by decide)

/-- The waiter draws the sentinel. -/
def wokenWaiter : State Caller Shared (Point Unit) :=
  ((pool singleSlot).step closedWhileWaiting (.second, .go)).getD closedWhileWaiting

/-- The waiter has an entry to draw although the loan is still out, and its draw
is refused. -/
theorem close_wakes_waiters_waiting :
    closedWhileWaiting.threads .second = .waiting ∧
      (closedWhileWaiting.shared.idle ≠ [] ∨
        ∃ other, other ≠ .second ∧ (closedWhileWaiting.threads other).awaitsRepost = true) ∧
      (wokenWaiter.threads .second).refused = true :=
  ⟨by decide, (close_wakes_waiters closedWhileWaiting_reachable).1 (by decide) .second (by decide),
    (((close_wakes_waiters closedWhileWaiting_reachable).2 (by decide) .second wokenWaiter
      (by decide) rfl).1 wokenWaiter Relation.ReflTransGen.refl).1⟩

end Wakeup

end OpaPyWasm.InstancePool
