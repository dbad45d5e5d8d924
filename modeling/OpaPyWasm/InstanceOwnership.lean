import OpaPyWasm.InstancePool

/-!
# Who owns an instance

An instance the factory returned is in exactly one place: in the idle queue, in
the hands of one thread, among the closed ones, or among those a full queue
dropped. The ledger of one instance says this as an equation between counts; a
single action moves the instance from one place to another.

Exclusive hand-out and the absence of a second close are read off the ledger.
Health needs one more invariant: an instance in the queue, and one a thread has
drawn and not yet yielded, is not poisoned. Only the thread that holds an
instance writes to it, so the invariant survives every other thread's step.
-/

namespace OpaPyWasm.InstancePool

open Machines Threads

variable {α : Type} {Thread : Type}

/-- The instance a thread has in hand at a program point. -/
def Point.held : Point α → Option Nat
  | .drawn (.pooled id) => some id
  | .dropping id => some id
  | .counting id => some id
  | .refreshing id => some id
  | .comparing id _ _ => some id
  | .reloading id _ _ => some id
  | .yielded id _ => some id
  | .releasing id _ _ => some id
  | .recreating id _ => some id
  | .restoring (some id) _ => some id
  | .closingInstance id _ => some id
  | .returning id _ => some id
  | .drainClosing id => some id
  | _ => none

/-- One for a thread that has this instance in hand. -/
def Point.owns (id : Nat) (point : Point α) : Nat := if point.held = some id then 1 else 0

/-- Places of an instance outside the threads. -/
def Shared.placesOf (id : Nat) (shared : Shared) : Nat :=
  shared.idle.count (.pooled id) + shared.closed.count id + shared.dropped.count id

/-- One for an instance that the factory has returned. -/
def Shared.returned (id : Nat) (shared : Shared) : Nat := if id < shared.built then 1 else 0

/-- Posting an entry that is not this instance leaves its count. -/
theorem count_putNowait (config : Config) (idle : List Slot) (id : Nat) (slot : Slot)
    (other : slot ≠ .pooled id) :
    (putNowait config idle slot).count (.pooled id) = idle.count (.pooled id) := by
  unfold putNowait
  split
  · simp [other]
  · rfl

/-- Returning an instance puts it in the queue or among the dropped ones. -/
theorem placesOf_putInstance (config : Config) (shared : Shared) (returned id : Nat) :
    (shared.putInstance config returned).placesOf id =
      shared.placesOf id + if returned = id then 1 else 0 := by
  unfold Shared.putInstance Shared.placesOf
  split <;> by_cases same : returned = id <;> simp [same] <;> omega

/-- One action moves an instance between places without copying or losing it.

Proof: one case for each action, which takes an instance from one place and puts it in
another. -/
theorem Move.keeps_owner {config : Config} {shared shared' : Shared} {point point' : Point α}
    {action : Action α} (move : Move config shared point action shared' point') (id : Nat) :
    shared'.returned id + shared.placesOf id + point.owns id =
      shared.returned id + shared'.placesOf id + point'.owns id := by
  cases move with
  | instanceReturned returned result =>
    rw [placesOf_putInstance]
    unfold Shared.putInstance
    split <;> simp [Shared.returned, Point.owns, Point.held] <;> omega
  | instanceBuilt version =>
    -- The new instance is the next number, which nobody had before.
    simp only [Shared.returned, Shared.placesOf, Point.owns, Point.held, Shared.setInstance_idle,
      Shared.setInstance_closed, Shared.setInstance_dropped]
    by_cases same : shared.built = id
    · simp [same, Nat.add_comm]
    · simp only [Option.some.injEq, same, if_false, reduceCtorEq]
      repeat' split
      all_goals omega
  | slotDrawn slot rest front =>
    cases slot with
    | pooled drawn =>
      simp [Shared.returned, Shared.placesOf, Point.owns, Point.held, front, List.count_cons]
      omega
    | placeholder | sentinel =>
      simp [Shared.returned, Shared.placesOf, Point.owns, Point.held, front]
  | emptyDrained slot rest front bare =>
    simp [Shared.returned, Shared.placesOf, Point.owns, Point.held, front, bare]
  | instanceDrained drained rest front =>
    simp [Shared.returned, Shared.placesOf, Point.owns, Point.held, front, List.count_cons]
    omega
  | drawnClosed | replacedClosed | drainedClosed =>
    simp [Shared.returned, Shared.placesOf, Point.owns, Point.held, List.count_cons]
    omega
  | sentinelReposted | slotRestored | slotRecycled | sentinelPosted =>
    simp [Shared.returned, Shared.placesOf, Point.owns, Point.held, count_putNowait]
  | _ => simp [Shared.returned, Shared.placesOf, Point.owns, Point.held]

section Ledger

variable [Fintype Thread] [DecidableEq Thread] {config : Config}
  {state : State Thread Shared (Point α)}

/-- In every reachable state an instance has exactly one place, from the moment
the factory returned it. -/
theorem owner_ledger (reached : Reachable (pool config) state) (id : Nat) :
    state.shared.returned id =
      state.shared.placesOf id + total (Point.owns id) state.threads := by
  have opening : Balances (Shared.returned id) (Shared.placesOf id) (Point.owns id)
      (start config : State Thread Shared (Point α)) := by
    simp [Balances, start, opened, Shared.returned, Shared.placesOf, total, Point.owns,
      Point.held, List.count_replicate]
  exact balanced_reachable
    (fun _ _ _ _ _ _ acted => (next_move acted).keeps_owner id) opening reached

/-- All places of an instance together hold it at most once. -/
theorem placed_once (reached : Reachable (pool config) state) (id : Nat) :
    state.shared.placesOf id + total (Point.owns id) state.threads ≤ 1 := by
  rw [← owner_ledger reached id, Shared.returned]
  split <;> omega

/-- An instance is closed at most once. -/
theorem closed_once (reached : Reachable (pool config) state) (id : Nat) :
    state.shared.closed.count id ≤ 1 := by
  have once : state.shared.placesOf id + total (Point.owns id) state.threads ≤ 1 :=
    placed_once reached id
  unfold Shared.placesOf at once
  omega

/-- A thread that has an instance in hand is its only place: the instance was
built, it is neither idle nor closed nor dropped, and no other thread has it. -/
theorem held_sole (reached : Reachable (pool config) state) {thread : Thread} {id : Nat}
    (held : (state.threads thread).held = some id) :
    id < state.shared.built ∧ .pooled id ∉ state.shared.idle ∧ id ∉ state.shared.closed ∧
      ∀ other, other ≠ thread → (state.threads other).held ≠ some id := by
  have ledger : state.shared.returned id =
      state.shared.placesOf id + total (Point.owns id) state.threads := owner_ledger reached id
  have once : state.shared.placesOf id + total (Point.owns id) state.threads ≤ 1 :=
    placed_once reached id
  have mine : (state.threads thread).owns id = 1 := by simp [Point.owns, held]
  have counted : (state.threads thread).owns id ≤ total (Point.owns id) state.threads :=
    weight_le_total (Point.owns id) state.threads thread
  have places : state.shared.placesOf id = 0 := by omega
  unfold Shared.placesOf at places
  refine ⟨?_, List.count_eq_zero.mp (by omega), List.count_eq_zero.mp (by omega), ?_⟩
  · by_contra unbuilt
    simp only [Shared.returned, unbuilt, if_false] at ledger
    omega
  · intro other different alsoHeld
    have theirs : (state.threads other).owns id = 1 := by simp [Point.owns, alsoHeld]
    have both : (state.threads other).owns id + (state.threads thread).owns id ≤
        total (Point.owns id) state.threads :=
      weights_le_total (Point.owns id) state.threads different
    omega

/-- An idle instance was built and is in no thread's hands. -/
theorem idle_sole (reached : Reachable (pool config) state) {id : Nat}
    (idle : .pooled id ∈ state.shared.idle) :
    id < state.shared.built ∧ ∀ thread, (state.threads thread).held ≠ some id := by
  have ledger : state.shared.returned id =
      state.shared.placesOf id + total (Point.owns id) state.threads := owner_ledger reached id
  have present : 0 < state.shared.idle.count (.pooled id) := List.count_pos_iff.mpr idle
  have placed : 0 < state.shared.placesOf id := by unfold Shared.placesOf; omega
  refine ⟨?_, fun thread held => (held_sole reached held).2.1 idle⟩
  by_contra unbuilt
  simp only [Shared.returned, unbuilt, if_false] at ledger
  omega

end Ledger

/-- The instance that a thread is bound to yield or to return to the queue. -/
def Point.promised : Point α → Option Nat
  | .drawn (.pooled id) => some id
  | .counting id => some id
  | .refreshing id => some id
  | .comparing id _ _ => some id
  | .reloading id _ _ => some id
  | .returning id _ => some id
  | _ => none

/-- A promised instance is in hand. -/
theorem Point.held_of_promised {point : Point α} {id : Nat}
    (promised : point.promised = some id) : point.held = some id := by
  cases point <;> simp_all [Point.promised, Point.held]
  split at promised <;> simp_all

/-- The fields of an instance change only in the hands of the acting thread. -/
theorem Move.writes_own {config : Config} {shared shared' : Shared} {point point' : Point α}
    {action : Action α} (move : Move config shared point action shared' point') {id : Nat}
    (built : id < shared.built) (free : point.held ≠ some id) :
    shared'.instances id = shared.instances id := by
  cases move with
  | instanceBuilt version => simp [Function.update_of_ne (Nat.ne_of_lt built)]
  | refreshed | refreshFailed | poisoned =>
    have other : id ≠ _ := fun same => free (congrArg some same.symm)
    simp [Function.update_of_ne other]
  | instanceReturned => unfold Shared.putInstance; split <;> rfl
  | _ => rfl

/-- What the acting thread is bound to yield or return is healthy after its move. -/
theorem Move.promises_healthy {config : Config} {shared shared' : Shared} {point point' : Point α}
    {action : Action α} (move : Move config shared point action shared' point')
    (idleHealthy : ∀ id, .pooled id ∈ shared.idle → (shared.instances id).poisoned = false)
    (promiseHealthy : ∀ id, point.promised = some id → (shared.instances id).poisoned = false)
    (id : Nat) (promised : point'.promised = some id) :
    (shared'.instances id).poisoned = false := by
  cases move with
  | slotDrawn slot rest front =>
    cases slot with
    | pooled drawn =>
      obtain rfl : drawn = id := Option.some.inj promised
      exact idleHealthy drawn (by simp [front])
    | placeholder | sentinel => simp [Point.promised] at promised
  | instanceBuilt version =>
    obtain rfl : shared.built = id := Option.some.inj promised
    simp
  | releaseHealthy released discarded result flag kept healthy =>
    obtain rfl : released = id := Option.some.inj promised
    exact healthy
  | instanceTaken | creationCounted | snapshotRead | foundStale =>
    exact promiseHealthy id promised
  | _ => simp [Point.promised] at promised

/-- What a move leaves in the queue was there or is being returned, and returning
it writes no field. -/
theorem Move.idle_from {config : Config} {shared shared' : Shared} {point point' : Point α}
    {action : Action α} (move : Move config shared point action shared' point') {id : Nat}
    (idle : .pooled id ∈ shared'.idle) :
    .pooled id ∈ shared.idle ∨
      (∃ result, point = .returning id result) ∧ shared'.instances = shared.instances := by
  cases move with
  | instanceReturned returned result =>
    unfold Shared.putInstance at idle ⊢
    split at idle
    · simp only [List.mem_append, List.mem_singleton, Slot.pooled.injEq] at idle
      refine idle.imp_right (fun same => ⟨⟨result, by rw [same]⟩, ?_⟩)
      split <;> rfl
    · exact Or.inl idle
  | slotDrawn slot rest front => exact Or.inl (by simp [front, idle])
  | instanceDrained drained rest front => exact Or.inl (by simp [front, idle])
  | emptyDrained slot rest front bare => exact Or.inl (by simp [front, idle])
  | sentinelReposted | slotRestored | slotRecycled | sentinelPosted =>
    refine Or.inl ?_
    simp only [Shared.putWakeSentinel_idle, Shared.putPlaceholder_idle, putNowait] at idle
    split at idle <;> simpa using idle
  | _ => exact Or.inl idle

/-- The instance whose `close` a thread is about to call. -/
def Point.closes : Point α → Option Nat
  | .dropping id => some id
  | .closingInstance id _ => some id
  | .drainClosing id => some id
  | _ => none

/-- A thread about to close an instance has it in hand. -/
theorem Point.held_of_closes {point : Point α} {id : Nat} (closing : point.closes = some id) :
    point.held = some id := by
  cases point <;> simp_all [Point.closes, Point.held]

/-- Only a thread about to close an instance closes it. -/
theorem Move.closed_from {config : Config} {shared shared' : Shared} {point point' : Point α}
    {action : Action α} (move : Move config shared point action shared' point') {id : Nat}
    (newly : shared'.closed.count id ≠ shared.closed.count id) : point.closes = some id := by
  cases move with
  | drawnClosed | replacedClosed | drainedClosed =>
    simp only [Shared.closeInstance_closed, List.count_cons] at newly
    simp only [Point.closes, Option.some.injEq]
    by_contra other
    simp [other] at newly
  | instanceReturned => unfold Shared.putInstance at newly; split at newly <;> simp at newly
  | _ => simp at newly

/-- A thread enters the with-block only with an instance it was promised. -/
theorem Move.yield_from {config : Config} {shared shared' : Shared} {point : Point α}
    {action : Action α} {id : Nat} {discarded : Bool}
    (move : Move config shared point action shared' (.yielded id discarded))
    (entering : ∀ mark, point ≠ .yielded id mark) :
    point.promised = some id ∧
      (shared'.instances id).poisoned = (shared.instances id).poisoned := by
  cases move with
  | foundCurrent => exact ⟨rfl, rfl⟩
  | refreshed => exact ⟨rfl, by simp⟩
  | poisoned | discarded => exact absurd rfl (entering _)

section Handout

variable [Fintype Thread] [DecidableEq Thread] {config : Config}
  {state before after : State Thread Shared (Point α)}

/-- Idle instances and promised ones are not poisoned. -/
def Healthy (state : State Thread Shared (Point α)) : Prop :=
  (∀ id, .pooled id ∈ state.shared.idle → (state.shared.instances id).poisoned = false) ∧
  ∀ thread id, (state.threads thread).promised = some id →
    (state.shared.instances id).poisoned = false

/-- Only the holder of an instance writes to it, so one thread's move keeps what
the queue and all other threads hold healthy. -/
theorem healthy_step {label : Thread × Action α} (reached : Reachable (pool config) before)
    (healthy : Healthy before) (stepped : (pool config).step before label = some after) :
    Healthy after := by
  obtain ⟨shared', point', move, rfl⟩ := step_move stepped
  obtain ⟨idleHealthy, promiseHealthy⟩ := healthy
  have ownHealthy : ∀ id, point'.promised = some id → (shared'.instances id).poisoned = false :=
    move.promises_healthy idleHealthy (promiseHealthy label.1)
  constructor
  · intro id idle
    rcases move.idle_from idle with wasIdle | ⟨⟨result, returning⟩, unchanged⟩
    · have sole := idle_sole reached wasIdle
      rw [move.writes_own sole.1 (sole.2 label.1)]
      exact idleHealthy id wasIdle
    · have fields : shared'.instances id = before.shared.instances id := congrFun unchanged id
      rw [fields]
      exact promiseHealthy label.1 id (by rw [returning]; rfl)
  · intro thread id promised
    by_cases acting : thread = label.1
    · subst acting
      simp only [Function.update_self] at promised
      exact ownHealthy id promised
    · simp only [Function.update_of_ne acting] at promised
      have held : (before.threads thread).held = some id := Point.held_of_promised promised
      have sole := held_sole reached held
      rw [move.writes_own sole.1 (sole.2.2.2 label.1 (Ne.symm acting))]
      exact promiseHealthy thread id promised

/-- No reachable state has a poisoned instance idle or promised. -/
theorem healthy_reachable (reached : Reachable (pool config) state) : Healthy state := by
  have opening : Healthy (start config : State Thread Shared (Point α)) :=
    ⟨fun _ _ => rfl, fun _ _ _ => rfl⟩
  exact invariant Healthy opening
    (fun _ _ _ earlier healthy stepped => healthy_step earlier healthy stepped) reached

/-- Exclusive, healthy hand-out. In every reachable state an instance is in at
most one queue entry or one thread's hands. An instance inside a with-block has
never been closed, was not poisoned when it was yielded, and no step of any
thread closes it while its borrower is still inside.

The first part counts the places on the instance's ledger. A step that yields
starts from a promised instance, which is healthy; a step that closes starts
from a thread that has the instance in hand, so nobody else has it. -/
theorem exclusive_handout (reached : Reachable (pool config) state) :
    (∀ id, state.shared.idle.count (.pooled id) +
        (Finset.univ.filter (fun thread => (state.threads thread).held = some id)).card ≤ 1) ∧
    (∀ thread id discarded, state.threads thread = .yielded id discarded →
        id ∉ state.shared.closed) ∧
    (∀ label after, (pool config).step state label = some after →
        ∀ thread id discarded, after.threads thread = .yielded id discarded →
          (∀ mark, state.threads thread ≠ .yielded id mark) →
          (after.shared.instances id).poisoned = false) ∧
    (∀ label after, (pool config).step state label = some after →
        ∀ id, after.shared.closed.count id ≠ state.shared.closed.count id →
          ∀ thread mark, state.threads thread ≠ .yielded id mark) := by
  refine ⟨fun id => ?_, fun thread id discarded yielded => ?_, ?_, ?_⟩
  · have once : state.shared.placesOf id + total (Point.owns id) state.threads ≤ 1 :=
      placed_once reached id
    have counted : total (Point.owns id) state.threads =
        (Finset.univ.filter (fun thread => (state.threads thread).held = some id)).card :=
      total_indicator (fun point : Point α => point.held = some id) state.threads
    unfold Shared.placesOf at once
    omega
  · have held : (state.threads thread).held = some id := by rw [yielded]; rfl
    exact (held_sole reached held).2.2.1
  · intro label after stepped thread id discarded yielded entering
    obtain ⟨shared', point', move, rfl⟩ := step_move stepped
    by_cases acting : thread = label.1
    · subst acting
      simp only [Function.update_self] at yielded
      subst yielded
      obtain ⟨promised, unchanged⟩ := move.yield_from entering
      exact unchanged.trans ((healthy_reachable reached).2 label.1 id promised)
    · simp only [Function.update_of_ne acting] at yielded
      exact absurd yielded (entering discarded)
  · intro label after stepped id newly thread mark yielded
    obtain ⟨shared', point', move, rfl⟩ := step_move stepped
    have closing : (state.threads label.1).closes = some id := move.closed_from newly
    have held : (state.threads thread).held = some id := by rw [yielded]; rfl
    by_cases acting : thread = label.1
    · subst acting
      simp [yielded, Point.closes] at closing
    · exact (held_sole reached held).2.2.2 label.1 (Ne.symm acting)
        (Point.held_of_closes closing)

/-- The first thread borrows, builds the only instance and is inside its
with-block; the second waits for the slot. -/
def loaned : State Caller Shared (Point Unit) :=
  (run (pool singleSlot) anything (start singleSlot)
    (Caller.first.does [.callBorrow, .go] ++ Caller.second.does [.callBorrow, .go] ++
      Caller.first.does [.go, .go, .factoryReturns 0, .go, .snapshotReturns () 0, .go])).getD
    (start singleSlot)

/-- That state is reached. -/
theorem loaned_reachable : Reachable (pool singleSlot) loaned :=
  executed_reaches (pool singleSlot) anything _ (start singleSlot) (by decide)

/-- The hand-out laws hold of a loan that is open while another thread waits. -/
theorem exclusive_handout_loaned :
    loaned.threads .first = .yielded 0 false ∧ loaned.threads .second = .waiting ∧
      (0 : Nat) ∉ loaned.shared.closed ∧
      loaned.shared.idle.count (.pooled 0) +
        (Finset.univ.filter (fun thread => (loaned.threads thread).held = some 0)).card ≤ 1 :=
  ⟨by decide, by decide, (exclusive_handout loaned_reachable).2.1 .first 0 false (by decide),
    (exclusive_handout loaned_reachable).1 0⟩

end Handout

end OpaPyWasm.InstancePool
