import OpaPyWasm.InstancePool

/-!
# The order of the close steps

The close lock admits one `close` call at a time, and the stage records how far
the call that set the closed flag has come. At each program point of a closing
thread the stage is the one the source's order of statements gives, whatever
the other threads do: only the lock's owner moves the stage.
-/

namespace OpaPyWasm.InstancePool

open Machines Threads

variable {α : Type} {Thread : Type}

/-- One for a thread inside the `with self._close_lock` block. -/
def Point.locks : Point α → Nat
  | .testing => 1
  | .marking => 1
  | .draining => 1
  | .drainClosing _ => 1
  | .posting => 1
  | .unlocking => 1
  | _ => 0

/-- One while the close lock is held. -/
def Shared.locked (shared : Shared) : Nat := if shared.closeLock then 1 else 0

/-- The stage that a program point of `close` stands for. -/
def Point.agrees (stage : Stage) : Point α → Prop
  | .testing => stage = .opened ∨ stage = .posted
  | .marking => stage = .opened
  | .draining => stage = .draining
  | .drainClosing _ => stage = .draining
  | .posting => stage = .drained
  | .unlocking => stage = .posted
  | _ => True

/-- A point outside the lock agrees with every stage. -/
theorem Point.agrees_outside {point : Point α} (outside : point.locks = 0) (stage : Stage) :
    point.agrees stage := by
  cases point <;> simp_all [Point.locks, Point.agrees]

/-- Acquiring and releasing keep the lock in step with its owner. -/
theorem Move.keeps_lock {config : Config} {shared shared' : Shared} {point point' : Point α}
    {action : Action α} (move : Move config shared point action shared' point')
    (owned : point.locks = 1 → shared.closeLock = true) :
    shared'.locked + point.locks = shared.locked + point'.locks := by
  cases move with
  | closeLocked free => simp [Shared.locked, Point.locks, free]
  | closeUnlocked => simp [Shared.locked, Point.locks, owned rfl]
  | instanceReturned => unfold Shared.putInstance; split <;> rfl
  | _ => simp [Shared.locked, Point.locks]

/-- Outside the lock nobody sets the flag or moves the stage. -/
theorem Move.stage_outside {config : Config} {shared shared' : Shared} {point point' : Point α}
    {action : Action α} (move : Move config shared point action shared' point')
    (outside : point.locks = 0) :
    shared'.stage = shared.stage ∧ shared'.closedEvent = shared.closedEvent ∧
      shared'.closeReturned = shared.closeReturned := by
  cases move with
  | flagSet | drainEnded | sentinelPosted | closeUnlocked => simp [Point.locks] at outside
  | instanceReturned => unfold Shared.putInstance; split <;> exact ⟨rfl, rfl, rfl⟩
  | _ => exact ⟨rfl, rfl, rfl⟩

/-- The closed flag is never cleared. -/
theorem Move.flag_stays {config : Config} {shared shared' : Shared} {point point' : Point α}
    {action : Action α} (move : Move config shared point action shared' point')
    (flag : shared.closedEvent = true) : shared'.closedEvent = true := by
  cases move with
  | flagSet => rfl
  | instanceReturned => unfold Shared.putInstance; split <;> exact flag
  | _ => exact flag

/-- What the shared state says about the order of the close steps. -/
structure Shared.InOrder (shared : Shared) : Prop where
  flag : shared.closedEvent = true ↔ shared.stage ≠ .opened
  free : shared.closeLock = false → shared.stage = .opened ∨ shared.stage = .posted
  returned : shared.closeReturned = true → shared.stage = .posted

/-- The acting thread keeps the order and agrees with the stage it leaves.

Proof: only the holder of the close lock moves the stage, one after another, and it is inside
until the sentinel is posted. -/
theorem Move.keeps_order {config : Config} {shared shared' : Shared} {point point' : Point α}
    {action : Action α} (move : Move config shared point action shared' point')
    (owned : point.locks = 1 → shared.closeLock = true)
    (order : shared.InOrder) (agreed : point.agrees shared.stage) :
    shared'.InOrder ∧ point'.agrees shared'.stage := by
  obtain ⟨flag, free, returned⟩ := order
  cases move with
  | closeLocked unlocked => exact ⟨⟨flag, by simp, returned⟩, free unlocked⟩
  | closeRepeated set => exact ⟨⟨flag, free, returned⟩, agreed.resolve_left (flag.mp set)⟩
  | closeFirst unset =>
    refine ⟨⟨flag, free, returned⟩, ?_⟩
    by_contra moved
    simp [flag.mpr moved] at unset
  | flagSet =>
    have fresh : shared.stage = .opened := agreed
    have locked : shared.closeLock = true := owned rfl
    exact ⟨⟨by simp, by simp [locked], fun done => by simp [returned done] at fresh⟩, rfl⟩
  | drainEnded =>
    have draining : shared.stage = .draining := agreed
    have locked : shared.closeLock = true := owned rfl
    exact ⟨⟨by simp [flag, draining], by simp [locked],
      fun done => by simp [returned done] at draining⟩, rfl⟩
  | sentinelPosted =>
    have drained : shared.stage = .drained := agreed
    exact ⟨⟨by simp [flag, drained], fun _ => Or.inr rfl, fun _ => rfl⟩, rfl⟩
  | closeUnlocked =>
    have posted : shared.stage = .posted := agreed
    exact ⟨⟨flag, fun _ => Or.inr posted, fun _ => posted⟩, trivial⟩
  | instanceDrained | drainedClosed | emptyDrained => exact ⟨⟨flag, free, returned⟩, agreed⟩
  | instanceReturned =>
    unfold Shared.putInstance
    split <;> exact ⟨⟨flag, free, returned⟩, trivial⟩
  | _ => exact ⟨⟨flag, free, returned⟩, trivial⟩

/-- The stage never leaves `posted` and never returns to `opened`. -/
theorem Move.stage_forward {config : Config} {shared shared' : Shared} {point point' : Point α}
    {action : Action α} (move : Move config shared point action shared' point')
    (agreed : point.agrees shared.stage) :
    (shared'.stage = .opened → shared.stage = .opened) ∧
      (shared'.stage ≠ .posted → shared.stage ≠ .posted) := by
  cases move with
  | flagSet =>
    have fresh : shared.stage = .opened := agreed
    simp [fresh]
  | drainEnded =>
    have draining : shared.stage = .draining := agreed
    simp [draining]
  | sentinelPosted => simp
  | instanceReturned => unfold Shared.putInstance; split <;> exact ⟨id, id⟩
  | _ => exact ⟨id, id⟩

section Order

variable [Fintype Thread] [DecidableEq Thread] {config : Config}
  {state : State Thread Shared (Point α)}

/-- The lock has exactly one owner while it is held and none otherwise. -/
theorem lock_ledger (reached : Reachable (pool config) state) :
    state.shared.locked = total Point.locks state.threads := by
  have owned : Balances Shared.locked (fun _ => 0) Point.locks state := by
    refine invariant (Balances Shared.locked (fun _ => 0) Point.locks) ?_ ?_ reached
    · simp [Balances, pool, machine, start, opened, Shared.locked, total, Point.locks]
    · intro before label after _ balanced stepped
      refine balanced.step (fun shared' point' acted => ?_) stepped
      have carried : (before.threads label.1).locks ≤ total Point.locks before.threads :=
        weight_le_total Point.locks before.threads label.1
      have kept := (next_move acted).keeps_lock (fun inside => by
        by_contra unlocked
        simp only [Balances, Shared.locked, unlocked] at balanced
        simp at balanced
        omega)
      omega
  simpa [Balances] using owned

/-- A thread inside the lock holds it. -/
theorem lock_owned (reached : Reachable (pool config) state) {thread : Thread}
    (inside : (state.threads thread).locks = 1) : state.shared.closeLock = true := by
  have ledger : state.shared.locked = total Point.locks state.threads := lock_ledger reached
  have carried : (state.threads thread).locks ≤ total Point.locks state.threads :=
    weight_le_total Point.locks state.threads thread
  by_contra unlocked
  simp only [Shared.locked, unlocked] at ledger
  simp at ledger
  omega

/-- While one thread is inside the lock, every other is outside it. -/
theorem lock_sole (reached : Reachable (pool config) state) {thread other : Thread}
    (inside : (state.threads thread).locks = 1) (different : other ≠ thread) :
    (state.threads other).locks = 0 := by
  have ledger : state.shared.locked = total Point.locks state.threads := lock_ledger reached
  have both : (state.threads other).locks + (state.threads thread).locks ≤
      total Point.locks state.threads := weights_le_total Point.locks state.threads different
  have single : state.shared.locked ≤ 1 := by unfold Shared.locked; split <;> omega
  omega

/-- The close steps are in the source's order in every reachable state. -/
def ClosesInOrder (state : State Thread Shared (Point α)) : Prop :=
  state.shared.InOrder ∧ ∀ thread, (state.threads thread).agrees state.shared.stage

/-- A thread outside the lock does not move the stage, and while one is inside
the others are outside, where every stage is agreeable. -/
theorem closes_in_order (reached : Reachable (pool config) state) : ClosesInOrder state := by
  have opening : ClosesInOrder (start config : State Thread Shared (Point α)) :=
    ⟨⟨by simp [start, opened], fun _ => Or.inl rfl, by simp [start, opened]⟩, fun _ => trivial⟩
  refine invariant ClosesInOrder opening ?_ reached
  intro before label after earlier ordered stepped
  obtain ⟨shared', point', move, rfl⟩ := step_move stepped
  obtain ⟨order, agreed⟩ := ordered
  have own := move.keeps_order (lock_owned earlier) order (agreed label.1)
  refine ⟨own.1, fun thread => ?_⟩
  by_cases acting : thread = label.1
  · subst acting
    simpa only [Function.update_self] using own.2
  · simp only [Function.update_of_ne acting]
    by_cases inside : (before.threads label.1).locks = 0
    · rw [(move.stage_outside inside).1]
      exact agreed thread
    · have owner : (before.threads label.1).locks = 1 := by
        generalize before.threads label.1 = point at inside
        cases point <;> simp_all [Point.locks]
      exact Point.agrees_outside (lock_sole earlier owner acting) shared'.stage

end Order

end OpaPyWasm.InstancePool
