import OpaPyWasm.ThreadPlaces

/-!
# What may still happen after a close

The pool's flag is set inside `close`, and the policy's own flag behind it. From the
first on, an evaluation only enters the guest, or builds an instance, that had drawn
its slot before: a borrower that waits is refused, whatever it draws. From the second
on, an update is only stored that had passed the test of `set_data` before. Each of
these happens at most once for each such call.
-/

namespace OpaPyWasm.InstancePool

variable {α : Type} {config : Config} {shared shared' : Shared} {point point' : Point α}
  {action : Action α}

/-- One for a borrower that has drawn a slot of an open pool and has not left its
with-block. -/
def Point.underway : Point α → Nat
  | .creating => 1
  | .counting _ => 1
  | .refreshing _ => 1
  | .comparing _ _ _ => 1
  | .reloading _ _ _ => 1
  | .yielded _ _ => 1
  | _ => 0

/-- One for a borrower that has drawn a placeholder of an open pool and has not built
its instance. -/
def Point.founding : Point α → Nat
  | .creating => 1
  | _ => 0

/-- On a closed pool no draw leads to a loan. -/
theorem Move.underway_le (move : Move config shared point action shared' point')
    (flag : shared.closedEvent = true) : point'.underway ≤ point.underway := by
  cases move with
  | placeholderTaken unset | instanceTaken _ unset => simp [flag] at unset
  | _ => simp [Point.underway]

/-- On a closed pool an instance is only built by a borrower that was to build one. -/
theorem Move.pays_build (move : Move config shared point action shared' point')
    (flag : shared.closedEvent = true) :
    shared'.built + point'.founding ≤ shared.built + point.founding := by
  cases move with
  | placeholderTaken unset => simp [flag] at unset
  | instanceReturned =>
    unfold Shared.putInstance
    split <;> exact Nat.le_refl _
  | _ => simp [Point.founding]

end OpaPyWasm.InstancePool

namespace OpaPyWasm.Policy

open Machines Threads InstancePool

variable {Thread Arg Doc : Type}

/-- An evaluation that entered the guest. -/
def Event.isRun : Event Thread Doc → Bool
  | .guestRan _ _ _ => true
  | _ => false

/-- How many evaluations have entered the guest. -/
def Shared.runs (shared : Shared Thread Doc) : Nat := shared.history.countP Event.isRun

/-- One for an evaluation whose slot is drawn and that has not entered the guest. -/
def Local.mayRun (here : Local Arg Doc) : Nat :=
  match here.control with
  | .borrowing => here.pool.underway
  | .building _ _ => 1
  | .ensuring _ _ _ => 1
  | .built _ _ => 1
  | .loaned => 1
  | _ => 0

/-- One for an update that has passed the test of `set_data` and is not stored. -/
def Local.mayCommit (here : Local Arg Doc) : Nat :=
  match here.control with
  | .serialising _ => 1
  | .committing _ => 1
  | _ => 0

/-- Behind a step inside `borrow` an evaluation may run if its point in the pool says
so. -/
@[simp] theorem mayRun_afterBorrow (point : Point (Option Doc)) :
    (⟨afterBorrow point, point⟩ : Local Arg Doc).mayRun = point.underway := by
  cases point <;> rfl

/-- Closing the pool leads to no evaluation. -/
@[simp] theorem mayRun_afterPoolClose (point at_ : Point (Option Doc)) :
    (⟨afterPoolClose point, at_⟩ : Local Arg Doc).mayRun = 0 := by
  cases point <;> rfl

/-- A borrow leads to no update. -/
@[simp] theorem mayCommit_afterBorrow (point at_ : Point (Option Doc)) :
    (⟨afterBorrow point, at_⟩ : Local Arg Doc).mayCommit = 0 := by
  cases point <;> rfl

/-- Neither does closing the pool. -/
@[simp] theorem mayCommit_afterPoolClose (point at_ : Point (Option Doc)) :
    (⟨afterPoolClose point, at_⟩ : Local Arg Doc).mayCommit = 0 := by
  cases point <;> rfl

section Moves

variable {config : Config} {encode : Arg → Option Doc} {thread : Thread}
  {shared shared' : Shared Thread Doc} {point : Point (Option Doc)} {control : Control Arg Doc}
  {action : Action Arg Doc} {here' : Local Arg Doc}

/-- On a closed policy a commit is paid for by the call that performs it. -/
theorem Move.pays_commit
    (move : Move config encode thread shared point control action shared' here')
    (closed : shared.closed = true) :
    shared'.dataVersion + here'.mayCommit ≤
      shared.dataVersion + (⟨control, point⟩ : Local Arg Doc).mayCommit := by
  cases move with
  | dataOpen _ isOpen => simp [closed] at isOpen
  | dataCommitted => simp [Local.mayCommit]
  | borrowCalled | snapshotRead | reloaded | borrowStepped | borrowTimedOut | reloadFailed
  | buildFailed | buildReturned | bodyLeft | closeCalled | poolCloseStepped =>
    simp only [mayCommit_afterBorrow, mayCommit_afterPoolClose]
    exact Nat.le_add_right _ _
  | _ => simp [Local.mayCommit]

/-- On a closed pool a run of the guest is paid for by the evaluation that enters it.

Proof: one case for each action. On a closed pool no slot is handed out, so an evaluation runs
the guest only if its slot was drawn before. -/
theorem Move.pays_run
    (move : Move config encode thread shared point control action shared' here')
    (aligned : (⟨control, point⟩ : Local Arg Doc).Aligned)
    (flag : shared.pool.closedEvent = true) :
    shared'.runs + here'.mayRun ≤ shared.runs + (⟨control, point⟩ : Local Arg Doc).mayRun := by
  cases move with
  | dataCommitted => simp [Shared.runs, Shared.commit, Local.mayRun, Event.isRun]
  | dataSet | evaluateCalled | guestEntered =>
    simp [Shared.runs, Local.mayRun, List.countP_cons, Event.isRun]
  | borrowCalled acted =>
    obtain ⟨last, rfl⟩ := aligned
    cases InstancePool.next_move acted
    exact Nat.le_refl _
  | snapshotRead _ _ acted | borrowStepped acted | borrowTimedOut acted =>
    rw [mayRun_afterBorrow]
    exact Nat.add_le_add_left ((InstancePool.next_move acted).underway_le flag) _
  | reloaded _ _ _ _ acted =>
    rw [mayRun_afterBorrow]
    exact Nat.add_le_add_left ((InstancePool.next_move acted).underway_le flag) _
  | reloadFailed _ _ _ _ _ _ acted =>
    rw [mayRun_afterBorrow]
    exact Nat.add_le_add_left ((InstancePool.next_move acted).underway_le flag) _
  | buildStarted creating =>
    subst creating
    exact Nat.le_refl _
  | buildFailed _ _ acted | buildReturned _ _ acted =>
    obtain rfl : point = .creating := aligned
    rw [mayRun_afterBorrow]
    exact Nat.add_le_add_left ((InstancePool.next_move acted).underway_le flag) _
  | bodyLeft acted =>
    obtain ⟨id, mark, rfl⟩ := aligned
    cases InstancePool.next_move acted
    exact Nat.le_refl _
  | closeCalled | poolCloseStepped =>
    rw [mayRun_afterPoolClose]
    exact Nat.le_add_right _ _
  | _ => simp [Shared.runs, Local.mayRun]

/-- On a closed pool an instance is paid for by the borrower that builds it. -/
theorem Move.pays_build
    (move : Move config encode thread shared point control action shared' here')
    (flag : shared.pool.closedEvent = true) :
    shared'.pool.built + here'.pool.founding ≤ shared.pool.built + point.founding := by
  rcases move.pooled with ⟨same, stays⟩ | ⟨taken, acted⟩
  · rw [same, stays]
  · exact (InstancePool.next_move acted).pays_build flag

end Moves

section Finality

variable [Fintype Thread] [DecidableEq Thread] {config : Config} {encode : Arg → Option Doc}
  {state later : State Thread (Shared Thread Doc) (Local Arg Doc)}

/-- What a close leaves to happen. From the moment the pool's flag is set, no more
evaluations enter the guest than had drawn a slot by then and were on their way to it,
and no more instances are built than borrowers had drawn a placeholder and were building
theirs. From the moment the policy's flag is set, no more updates are stored than had
passed the test of `set_data` by then. Whoever waits or calls later adds nothing.

Proof: what a flag leaves to happen is a potential. Once the flag is set no step raises it,
and each run, build or commit takes off its share. -/
theorem close_is_final (reached : Reachable (policy config encode) state)
    (run : Reaches (policy config encode) anything state later) :
    (state.shared.pool.closedEvent = true →
      later.shared.runs + total Local.mayRun later.threads ≤
          state.shared.runs + total Local.mayRun state.threads ∧
        later.shared.pool.built + total (fun here => here.pool.founding) later.threads ≤
          state.shared.pool.built + total (fun here => here.pool.founding) state.threads) ∧
      (state.shared.closed = true →
        later.shared.dataVersion + total Local.mayCommit later.threads ≤
          state.shared.dataVersion + total Local.mayCommit state.threads) := by
  refine ⟨fun flag => ⟨?_, ?_⟩, fun closed => ?_⟩
  · exact spent_later Shared.runs (fun shared => shared.pool.closedEvent = true)
      (fun before thread _ _ _ earlier flag acted => ⟨(next_move acted).flags_stay.1 flag,
        (next_move acted).pays_run
          (aligned_reachable (Relation.ReflTransGen.trans reached earlier) thread) flag⟩) run flag
  · exact spent_later (fun shared => shared.pool.built) (fun shared => shared.pool.closedEvent = true)
      (fun _ _ _ _ _ _ flag acted => ⟨(next_move acted).flags_stay.1 flag,
        (next_move acted).pays_build flag⟩) run flag
  · exact spent_later Shared.dataVersion (fun shared => shared.closed = true)
      (fun _ _ _ _ _ _ closed acted => ⟨(next_move acted).flags_stay.2.1 closed,
        (next_move acted).pays_commit closed⟩) run closed

end Finality

/-- The first thread has its instance on loan, and the second has closed the policy. -/
def loanedAtClose : State InstancePool.Caller (Shared InstancePool.Caller Nat) (Local Nat Nat) :=
  (Machines.run (policy singleTimed some) anything (start singleTimed)
    (InstancePool.Caller.first.does (.callEvaluate :: List.replicate 15 .go) ++
      InstancePool.Caller.second.does (.callClose :: List.replicate 7 .go))).getD (start singleTimed)

/-- The first thread enters the guest after all, and the third calls `evaluate`. -/
def enteredAfterClose : State InstancePool.Caller (Shared InstancePool.Caller Nat) (Local Nat Nat) :=
  (Machines.run (policy singleTimed some) anything loanedAtClose
    (InstancePool.Caller.third.does (.callEvaluate :: List.replicate 4 .go) ++
      InstancePool.Caller.first.does [.go])).getD loanedAtClose

/-- The one evaluation on loan still enters the guest, and no other does. -/
theorem close_is_final_loaned :
    loanedAtClose.shared.runs = 0 ∧ enteredAfterClose.shared.runs = 1 ∧
      enteredAfterClose.shared.runs + total Local.mayRun enteredAfterClose.threads ≤
        loanedAtClose.shared.runs + total Local.mayRun loanedAtClose.threads :=
  ⟨by decide, by decide, ((close_is_final
    (executed_reaches (policy singleTimed some) anything _ (start singleTimed) (by decide))
    (executed_reaches (policy singleTimed some) anything _ loanedAtClose (by decide))).1
      (by decide)).1⟩

end OpaPyWasm.Policy
