import OpaPyWasm.PoolClosing
import OpaPyWasm.TickerLifetime

/-!
# Where a thread is in the pool

Each point of the policy's own code goes with certain points of the pool. A thread
that borrows is inside `borrow` and not yet at its with-block, a thread that builds
has drawn a placeholder, a thread on a loan is in the with-block, a thread that
closes the pool is inside `close`, and every other thread is outside the pool.
-/

namespace OpaPyWasm.Policy

open Machines Threads InstancePool

variable {Thread Arg Doc : Type}

/-- Where in the pool a thread may be at a point of the policy. -/
def Local.Aligned (here : Local Arg Doc) : Prop :=
  match here.control with
  | .borrowing => here.pool.inBorrow = true ∧ ∀ id mark, here.pool ≠ .yielded id mark
  | .building _ _ => here.pool = .creating
  | .ensuring _ _ _ => here.pool = .creating
  | .built _ _ => here.pool = .creating
  | .loaned => ∃ id mark, here.pool = .yielded id mark
  | .guest => ∃ id mark, here.pool = .yielded id mark
  | .leaving => ∃ id mark, here.pool = .yielded id mark
  | .poolClosing => here.pool.inClose = true
  | _ => ∃ last, here.pool = .outside last

/-- A step inside `borrow` ends at a point that goes with its own. -/
theorem aligned_afterBorrow {point : Point (Option Doc)}
    (inside : point.inBorrow = true ∨ ∃ last, point = .outside last) :
    (⟨afterBorrow point, point⟩ : Local Arg Doc).Aligned := by
  rcases inside with inside | ⟨last, rfl⟩
  · cases point with
    | yielded id mark => exact ⟨id, mark, rfl⟩
    | outside => simp [Point.inBorrow] at inside
    | _ => exact ⟨inside, by simp⟩
  · exact ⟨last, rfl⟩

/-- A step inside the pool's `close` ends at a point that goes with its own. -/
theorem aligned_afterPoolClose {point : Point (Option Doc)}
    (inside : point.inClose = true ∨ ∃ last, point = .outside last) :
    (⟨afterPoolClose point, point⟩ : Local Arg Doc).Aligned := by
  rcases inside with inside | ⟨last, rfl⟩
  · cases point with
    | outside => simp [Point.inClose] at inside
    | _ => exact inside
  · exact ⟨last, rfl⟩

section Pool

variable {α : Type} {config : InstancePool.Config} {shared shared' : InstancePool.Shared}
  {point point' : Point α} {action : InstancePool.Action α}

/-- A thread inside `borrow` stays inside or leaves the pool. -/
theorem stays_inBorrow (acted : InstancePool.next config shared point action = some (shared', point'))
    (inside : point.inBorrow = true) : point'.inBorrow = true ∨ ∃ last, point' = .outside last := by
  cases InstancePool.next_move acted with
  | sentinelReposted | timedOut | borrowRefused => exact .inr ⟨_, rfl⟩
  | slotRestored | replacedClosed | instanceReturned => exact .inr ⟨_, rfl⟩
  | _ => first | exact .inl rfl | simp [Point.inBorrow] at inside

/-- A thread inside the pool's `close` stays inside or leaves the pool. -/
theorem stays_inClose (acted : InstancePool.next config shared point action = some (shared', point'))
    (inside : point.inClose = true) : point'.inClose = true ∨ ∃ last, point' = .outside last := by
  cases InstancePool.next_move acted with
  | closeUnlocked => exact .inr ⟨_, rfl⟩
  | _ => first | exact .inl rfl | simp [Point.inClose] at inside

end Pool

section Moves

variable {config : Config} {encode : Arg → Option Doc} {thread : Thread}
  {shared shared' : Shared Thread Doc} {point : Point (Option Doc)} {control : Control Arg Doc}
  {action : Action Arg Doc} {here' : Local Arg Doc}

/-- A move leads from a point that goes with the pool's to another one. -/
theorem Move.keeps_aligned
    (move : Move config encode thread shared point control action shared' here')
    (aligned : (⟨control, point⟩ : Local Arg Doc).Aligned) : here'.Aligned := by
  cases move with
  | borrowCalled acted =>
    obtain ⟨last, rfl⟩ := aligned
    cases InstancePool.next_move acted
    exact aligned_afterBorrow (.inl rfl)
  | snapshotRead _ _ acted | borrowStepped acted | borrowTimedOut acted =>
    exact aligned_afterBorrow (stays_inBorrow acted aligned.1)
  | reloaded _ _ _ _ acted => exact aligned_afterBorrow (stays_inBorrow acted aligned.1)
  | reloadFailed _ _ _ _ _ _ acted => exact aligned_afterBorrow (stays_inBorrow acted aligned.1)
  | buildStarted creating => exact creating
  | buildFailed _ _ acted | buildReturned _ _ acted =>
    have creating : point = .creating := aligned
    exact aligned_afterBorrow (stays_inBorrow acted (by rw [creating]; rfl))
  | guestFailed acted =>
    obtain ⟨id, mark, rfl⟩ := aligned
    cases InstancePool.next_move acted
    exact ⟨id, mark, rfl⟩
  | bodyLeft acted =>
    obtain ⟨id, mark, rfl⟩ := aligned
    cases InstancePool.next_move acted
    exact aligned_afterBorrow (.inl rfl)
  | closeCalled last acted =>
    obtain ⟨last, rfl⟩ := aligned
    cases InstancePool.next_move acted
    exact aligned_afterPoolClose (.inl rfl)
  | poolCloseStepped acted => exact aligned_afterPoolClose (stays_inClose acted aligned)
  | _ => exact aligned

end Moves

/-- In every reachable state every thread is where its point of the policy says. -/
theorem aligned_reachable [DecidableEq Thread] {config : Config} {encode : Arg → Option Doc}
    {state : State Thread (Shared Thread Doc) (Local Arg Doc)}
    (reached : Reachable (policy config encode) state) (thread : Thread) :
    (state.threads thread).Aligned := by
  refine invariant (fun state : State Thread (Shared Thread Doc) (Local Arg Doc) =>
    ∀ thread, (state.threads thread).Aligned) ?_ ?_ reached thread
  · exact fun _ => ⟨none, rfl⟩
  · intro before label after _ aligned stepped
    exact step_locals (fun _ _ here => here.Aligned)
      (fun _ _ acted => (next_move acted).keeps_aligned (aligned label.1))
      (fun _ _ _ other _ => aligned other) stepped

end OpaPyWasm.Policy
