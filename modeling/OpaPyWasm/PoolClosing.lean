import OpaPyWasm.InstanceOwnership
import OpaPyWasm.PoolSlots

/-!
# What a close leaves behind

`close` frees the idle instances it drains, `_take_slot` frees an instance drawn
on a closed pool, and `_release` frees an instance when it reads the flag as
set. One window remains: a release that has read the flag as unset and puts its
instance back after the drain. That put leaves the instance in the queue, or
drops it when the sentinel has filled the queue. In runs without such a late
return every instance is closed exactly once.

The wake-up of blocked borrowers is a chain. Once the sentinel is posted, either
the queue holds an entry or some thread that has drawn one still has to post the
sentinel again.
-/

namespace OpaPyWasm.InstancePool

open Machines Threads

variable {α : Type} {Thread : Type}

/-- A thread is inside `borrow` from its first read of the flag to the last step
of `_release`. -/
def Point.inBorrow : Point α → Bool
  | .outside _ => false
  | .close => false
  | .testing => false
  | .marking => false
  | .draining => false
  | .drainClosing _ => false
  | .posting => false
  | .unlocking => false
  | _ => true

/-- A step that does not put an instance back once the drain has found the queue
empty. -/
def returnsBeforeDrained (state : State Thread Shared (Point α))
    (label : Thread × Action α) : Prop :=
  (state.threads label.1).isReturning = true →
    state.shared.stage = .opened ∨ state.shared.stage = .draining

/-- The condition looks at the point of the thread and the stage of the pool. -/
instance (state : State Thread Shared (Point α)) (label : Thread × Action α) :
    Decidable (returnsBeforeDrained state label) :=
  inferInstanceAs (Decidable (_ = true → _ = Stage.opened ∨ _ = Stage.draining))

section Draining

variable [Fintype Thread] [DecidableEq Thread] {config : Config}
  {state : State Thread Shared (Point α)}

/-- After the drain no instance is idle, and none is ever dropped. -/
structure Drained (state : State Thread Shared (Point α)) : Prop where
  idle : state.shared.stage = .drained ∨ state.shared.stage = .posted →
    ∀ id, .pooled id ∉ state.shared.idle
  dropped : state.shared.dropped = []

/-- Once the queue has been found empty, only a returned instance would enter
it again. -/
theorem Move.drained_stays {config : Config} {shared shared' : Shared} {point point' : Point α}
    {action : Action α} (move : Move config shared point action shared' point')
    (agreed : point.agrees shared.stage)
    (drained : shared'.stage = .drained ∨ shared'.stage = .posted) :
    (shared.stage = .drained ∨ shared.stage = .posted) ∨ shared'.idle = [] := by
  cases move with
  | flagSet => simp at drained
  | drainEnded empty => exact Or.inr empty
  | sentinelPosted =>
    have wasDrained : shared.stage = .drained := agreed
    exact Or.inl (Or.inl wasDrained)
  | instanceReturned =>
    unfold Shared.putInstance at drained
    split at drained <;> exact Or.inl drained
  | _ => exact Or.inl drained

/-- Without late returns the drain is final. -/
theorem drained_reachable
    (reached : ReachableUnder (pool config) returnsBeforeDrained state) : Drained state := by
  have opening : Drained (start config : State Thread Shared (Point α)) :=
    ⟨by simp [start, opened], rfl⟩
  refine under_invariant Drained opening ?_ reached
  intro before label after earlier drained prompt stepped
  have reachable : Reachable (pool config) before := reachable_of_under earlier
  have agreed : (before.threads label.1).agrees before.shared.stage :=
    (closes_in_order reachable).2 label.1
  obtain ⟨shared', point', move, rfl⟩ := step_move stepped
  constructor
  · intro now id idle
    rcases move.drained_stays agreed now with was | empty
    · rcases move.idle_from idle with wasIdle | ⟨⟨result, returning⟩, _⟩
      · exact drained.idle was id wasIdle
      · have early := prompt (by rw [returning]; rfl)
        rcases was with was | was <;> simp [was] at early
    · simp only [empty, List.not_mem_nil] at idle
  · refine (move.drops_full (fun returning => ?_)).trans drained.dropped
    have unposted : before.shared.stage ≠ .posted := by
      rcases prompt returning with early | early <;> simp [early]
    exact return_room reachable unposted returning

/-- A thread that is neither inside `borrow` nor draining has nothing in hand. -/
theorem Point.idle_hands {point : Point α} (outside : point.inBorrow = false)
    (agreed : point.agrees .posted) (id : Nat) : point.owns id = 0 := by
  cases point <;> simp_all [Point.inBorrow, Point.agrees, Point.owns, Point.held]

/-- Close frees everything, in runs without a late return: in a state in which a
`close` call has returned and no thread is inside `borrow`, every instance the
factory returned has been closed exactly once, none is idle and none was
dropped.

The ledger of an instance leaves only the closed ones as its place: nobody has
it in hand, the queue has been drained for good, and nothing was dropped. -/
theorem close_frees_all (reached : ReachableUnder (pool config) returnsBeforeDrained state)
    (returned : state.shared.closeReturned = true)
    (quiet : ∀ thread, (state.threads thread).inBorrow = false) :
    (∀ id, id < state.shared.built → state.shared.closed.count id = 1) ∧
      (∀ id, .pooled id ∉ state.shared.idle) ∧ state.shared.dropped = [] := by
  have reachable : Reachable (pool config) state := reachable_of_under reached
  have order : ClosesInOrder state := closes_in_order reachable
  have posted : state.shared.stage = .posted := order.1.returned returned
  have drained : Drained state := drained_reachable reached
  have noneIdle : ∀ id, .pooled id ∉ state.shared.idle := drained.idle (Or.inr posted)
  refine ⟨fun id built => ?_, noneIdle, drained.dropped⟩
  have ledger : state.shared.returned id =
      state.shared.placesOf id + total (Point.owns id) state.threads := owner_ledger reachable id
  have noneHeld : total (Point.owns id) state.threads = 0 :=
    total_eq_zero (fun thread => Point.idle_hands (quiet thread) (posted ▸ order.2 thread) id)
  have notIdle : state.shared.idle.count (.pooled id) = 0 := List.count_eq_zero.mpr (noneIdle id)
  have notDropped : state.shared.dropped.count id = 0 := by simp [drained.dropped]
  simp only [Shared.returned, built, if_true, Shared.placesOf] at ledger
  omega

end Draining

/-- A pool of two slots. -/
def doubleSlot : Config := ⟨2, by decide, false⟩

/-- The first thread's loan up to the put of the healthy instance: its release
has read the flag as unset. -/
def loanToReturn : List (Caller × Action Unit) :=
  Caller.first.does [.callBorrow, .go, .go, .go, .factoryReturns 0, .go, .snapshotReturns () 0,
    .go, .exit, .go]

/-- The second thread's whole `close` call, with this many steps of its drain
before the queue is empty. -/
def wholeClose (drains : Nat) : List (Caller × Action Unit) :=
  Caller.second.does (.callClose :: List.replicate (drains + 6) .go)

/-- A `close` call comes between the flag's read and the put. -/
def lateReturn (config : Config) (drains : Nat) : State Caller Shared (Point Unit) :=
  (run (pool config) anything (start config)
    (loanToReturn ++ wholeClose drains ++ Caller.first.does [.go])).getD (start config)

/-- Without the restriction an instance leaks. In a pool of one slot the put
finds the sentinel in the queue and drops the instance; in a pool of two slots
the instance stays in the queue. In both states `close` has returned, no thread
is inside `borrow`, and the instance was never closed. -/
theorem late_return_leaks :
    (Reachable (pool singleSlot) (lateReturn singleSlot 0) ∧
      (lateReturn singleSlot 0).shared.closeReturned = true ∧
      (∀ thread, ((lateReturn singleSlot 0).threads thread).inBorrow = false) ∧
      0 < (lateReturn singleSlot 0).shared.built ∧
      (lateReturn singleSlot 0).shared.closed = [] ∧
      (lateReturn singleSlot 0).shared.dropped = [0]) ∧
    Reachable (pool doubleSlot) (lateReturn doubleSlot 1) ∧
      (lateReturn doubleSlot 1).shared.closeReturned = true ∧
      (∀ thread, ((lateReturn doubleSlot 1).threads thread).inBorrow = false) ∧
      0 < (lateReturn doubleSlot 1).shared.built ∧
      (lateReturn doubleSlot 1).shared.closed = [] ∧
      (lateReturn doubleSlot 1).shared.idle = [.sentinel, .pooled 0] :=
  ⟨⟨executed_reaches _ anything _ _ (by decide), by decide, by decide, by decide, by decide,
      by decide⟩,
    executed_reaches _ anything _ _ (by decide), by decide, by decide, by decide, by decide,
    by decide⟩

/-- The same loan and `close` with the put before the drain: the instance is
drained and closed. -/
def promptReturn : State Caller Shared (Point Unit) :=
  (run (pool singleSlot) returnsBeforeDrained (start singleSlot)
    (loanToReturn ++ Caller.first.does [.go] ++ wholeClose 2)).getD (start singleSlot)

/-- That state is reached, and its puts came before the drain had ended. -/
theorem promptReturn_reachable :
    ReachableUnder (pool singleSlot) returnsBeforeDrained promptReturn :=
  executed_reaches (pool singleSlot) returnsBeforeDrained _ (start singleSlot) (by decide)

/-- One loan, then one `close`: the instance is closed exactly once. -/
theorem close_frees_all_prompt :
    promptReturn.shared.built = 1 ∧ promptReturn.shared.closed.count 0 = 1 :=
  ⟨by decide,
    (close_frees_all promptReturn_reachable (by decide) (by decide)).1 0 (by decide)⟩

end OpaPyWasm.InstancePool
