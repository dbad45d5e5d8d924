import OpaPyWasm.CloseProtocol

/-!
# Counting the creations

An instance is created for a placeholder. The pool opens with one placeholder for each
slot, and puts back another one where a creation failed or where an instance is replaced.
A replacement is counted as a recreation first, unless the flag is found set; a placeholder
put back then is not taken any more.

Two bounds follow. While the flag is unset, the placeholders and the creations under way
are covered by the pool size and the recreations. From then on only the creations under
way can still be counted.
-/

namespace OpaPyWasm.InstancePool

open Machines Threads

variable {α : Type} {Thread : Type}

/-- The placeholders of the idle queue. -/
def placeholders (idle : List Slot) : Nat := idle.count .placeholder

/-- One for a creation that is under way: a thread took a placeholder and has not counted an
instance for it. -/
def Point.creations : Point α → Nat
  | .creating => 1
  | .counting _ => 1
  | _ => 0

/-- One for a placeholder that a thread drew or is about to put, or for a creation under
way. -/
def Point.claims : Point α → Nat
  | .drawn .placeholder => 1
  | .creating => 1
  | .counting _ => 1
  | .restoring _ _ => 1
  | _ => 0

/-- Whoever builds an instance has claimed a slot for it. -/
theorem Point.creations_le_claims (point : Point α) : point.creations ≤ point.claims := by
  cases point <;> first | exact Nat.le_refl _ | exact Nat.zero_le _

/-- A placeholder that is put adds at most one. -/
theorem placeholders_put_le (config : Config) (idle : List Slot) :
    placeholders (putNowait config idle .placeholder) ≤ placeholders idle + 1 := by
  unfold putNowait placeholders
  split
  · simp
  · exact Nat.le_succ _

/-- A sentinel adds none. -/
theorem placeholders_post_le (config : Config) (idle : List Slot) :
    placeholders (putNowait config idle .sentinel) ≤ placeholders idle := by
  unfold putNowait placeholders
  split
  · simp
  · exact Nat.le_refl _

/-- An instance that is returned adds none. -/
theorem placeholders_return (config : Config) (shared : Shared) (id : Nat) :
    placeholders (shared.putInstance config id).idle = placeholders shared.idle := by
  unfold Shared.putInstance placeholders
  split <;> simp

/-- Drawing an entry takes its placeholder along. -/
theorem placeholders_cons (slot : Slot) (rest : List Slot) :
    placeholders (slot :: rest) = placeholders rest + (Point.drawn slot : Point α).claims := by
  unfold placeholders
  cases slot <;> simp [Point.claims]

section Moves

variable {config : Config} {shared shared' : Shared} {point point' : Point α} {action : Action α}

/-- While the flag is unset no move adds to the creations, the placeholders and the claims
more than to the recreations.

Proof: one case for each action. A draw of a placeholder makes a claim of it, and a
placeholder that is put gives up a claim or comes with a recreation. -/
theorem Move.keeps_claims (move : Move config shared point action shared' point')
    (unset : shared'.closedEvent = false) :
    shared'.created + placeholders shared'.idle + point'.claims + shared.recreated ≤
      shared.created + placeholders shared.idle + point.claims + shared'.recreated := by
  cases move with
  | slotDrawn slot rest front =>
    rw [front, placeholders_cons (α := α)]
    simp only [Point.claims]
    omega
  | instanceDrained id rest front =>
    rw [front, placeholders_cons (α := α)]
    simp only [Point.claims]
    omega
  | emptyDrained slot rest front bare =>
    rw [front, placeholders_cons (α := α)]
    simp only [Point.claims]
    omega
  | sentinelReposted | sentinelPosted =>
    have posted := placeholders_post_le config shared.idle
    simp only [Shared.putWakeSentinel, Point.claims]
    omega
  | slotRestored | slotRecycled =>
    have put := placeholders_put_le config shared.idle
    simp only [Shared.putPlaceholder, Point.claims]
    omega
  | instanceReturned id =>
    rw [placeholders_return]
    unfold Shared.putInstance
    split <;> simp [Point.claims]
  | releaseClosed id discarded result flag =>
    rw [flag] at unset
    cases unset
  | _ => simp [Point.claims, Shared.setInstance, Shared.closeInstance] <;> omega

/-- Once the flag is set no creation gets under way. -/
theorem Move.keeps_creations (move : Move config shared point action shared' point')
    (set : shared'.closedEvent = true) :
    shared'.created + point'.creations + shared.recreated ≤
      shared.created + point.creations + shared'.recreated := by
  cases move with
  | placeholderTaken flag =>
    rw [set] at flag
    cases flag
  | instanceReturned id =>
    unfold Shared.putInstance
    split <;> simp [Point.creations]
  | _ => simp [Point.creations, Shared.setInstance, Shared.closeInstance]

end Moves

section Counts

variable [Fintype Thread] [DecidableEq Thread] {config : Config}
  {state : State Thread Shared (Point α)}

/-- The creations that were counted and those that may still be. -/
structure CreationsCovered (config : Config) (state : State Thread Shared (Point α)) : Prop where
  unset : state.shared.closedEvent = false →
    state.shared.created + placeholders state.shared.idle + total Point.claims state.threads ≤
      config.maxSize + state.shared.recreated
  always : state.shared.created + total Point.creations state.threads ≤
    config.maxSize + state.shared.recreated

omit [DecidableEq Thread] in
/-- Creations under way are claims. -/
theorem total_creations_le (threads : Thread → Point α) :
    total Point.creations threads ≤ total Point.claims threads :=
  Finset.sum_le_sum (fun thread _ => (threads thread).creations_le_claims)

/-- The creations are covered in every reachable state.

Proof: while the pool is open, created instances, placeholders and claims together are covered
by the slots and the recreations. Once the flag is set no claim is made, and what is being
built is still covered. -/
theorem creations_covered (reached : Reachable (pool config) state) :
    CreationsCovered config state := by
  refine invariant (CreationsCovered config) ?_ ?_ reached
  · have idle : total Point.claims (fun _ : Thread => (Point.outside none : Point α)) = 0 :=
      total_eq_zero (fun _ => rfl)
    have resting : total Point.creations (fun _ : Thread => (Point.outside none : Point α)) = 0 :=
      total_eq_zero (fun _ => rfl)
    constructor
    · simp [pool, machine, start, opened, placeholders, idle]
    · simp [pool, machine, start, opened, resting]
  · intro before label after earlier covered stepped
    obtain ⟨shared', point', move, rfl⟩ := step_move stepped
    have claims := total_update Point.claims before.threads label.1 point'
    have creations := total_update Point.creations before.threads label.1 point'
    have claimed : shared'.closedEvent = false → shared'.created + placeholders shared'.idle +
        total Point.claims (Function.update before.threads label.1 point') ≤
          config.maxSize + shared'.recreated := by
      intro unset
      have wasUnset : before.shared.closedEvent = false := by
        refine Bool.eq_false_iff.mpr (fun set => ?_)
        rw [move.flag_stays set] at unset
        cases unset
      have bound := covered.unset wasUnset
      have kept := move.keeps_claims unset
      omega
    constructor
    · exact claimed
    · by_cases set : shared'.closedEvent = true
      · have bound := covered.always
        have kept := move.keeps_creations set
        simp only
        omega
      · have bound := claimed (Bool.eq_false_iff.mpr set)
        have fewer := total_creations_le (Function.update before.threads label.1 point')
        simp only
        omega

/-- In every reachable state no more instances were created than the pool has slots and
instances were recreated. -/
theorem created_le (reached : Reachable (pool config) state) :
    state.shared.created ≤ config.maxSize + state.shared.recreated :=
  Nat.le_trans (Nat.le_add_right _ _) (creations_covered reached).always

/-- A thread poisons its instance, returns it, and creates another one for the placeholder. -/
def replaced : State Caller Shared (Point Unit) :=
  (run (pool singleSlot) anything (start singleSlot)
    (Caller.first.does [.callBorrow, .go, .go, .go, .factoryReturns 0, .go, .snapshotReturns () 0, .go,
      .poison, .exit, .go, .go, .go, .go, .callBorrow, .go, .go, .go, .factoryReturns 0, .go])).getD
    (start singleSlot)

/-- That state is reached by the run that discards and rebuilds. -/
theorem replaced_reachable : Reachable (pool singleSlot) replaced :=
  executed_reaches (pool singleSlot) anything _ (start singleSlot) (by decide)

/-- The bound is met. -/
theorem created_le_replaced :
    replaced.shared.created = 2 ∧ replaced.shared.recreated = 1 ∧
      replaced.shared.created ≤ singleSlot.maxSize + replaced.shared.recreated :=
  ⟨by decide, by decide, created_le replaced_reachable⟩

end Counts

end OpaPyWasm.InstancePool
