import Mathlib.Algebra.BigOperators.Group.Finset.Piecewise
import Mathlib.Algebra.Order.BigOperators.Group.Finset
import OpaPyWasm.Library.Machines

/-!
# Threads over a shared state

Any finite number of threads run one program over a shared state. Each thread
has a local state, its program point with its local variables, and one step of
the machine is one atomic action of one thread. The scheduler is the choice of
labels, so a law of the machine holds at every interleaving.

Two rules carry most laws. A ledger balances a count kept in the shared state
against the sum of a weight over all threads: it suffices that each single
action keeps the balance. A law about each thread's local state is kept when
the acting thread establishes it for itself and does not disturb the others.
-/

namespace Threads

open Machines

universe u v w x
variable {Thread : Type u} {Shared : Type v} {Local : Type w} {Action : Type x}

/-- The shared state and the local state of every thread. -/
structure State (Thread : Type u) (Shared : Type v) (Local : Type w) where
  shared : Shared
  threads : Thread → Local

/-- What one action of one thread does to the shared state and to its own local
state; nothing when the action is not enabled at its program point. -/
abbrev Program (Thread : Type u) (Shared : Type v) (Local : Type w) (Action : Type x) :=
  Thread → Shared → Local → Action → Option (Shared × Local)

/-- The interleavings of a program's threads. -/
def machine [DecidableEq Thread] (program : Program Thread Shared Local Action)
    (start : State Thread Shared Local) :
    Machine (State Thread Shared Local) (Thread × Action) where
  initial := start
  step state label :=
    (program label.1 state.shared (state.threads label.1) label.2).map (fun next =>
      { shared := next.1, threads := Function.update state.threads label.1 next.2 })

section Steps

variable [DecidableEq Thread] {program : Program Thread Shared Local Action}
  {start before after : State Thread Shared Local} {label : Thread × Action}

/-- A step is one action of the labelled thread; only its local state changes. -/
theorem step_cases (stepped : (machine program start).step before label = some after) :
    ∃ shared' local',
      program label.1 before.shared (before.threads label.1) label.2 = some (shared', local') ∧
      after = ⟨shared', Function.update before.threads label.1 local'⟩ := by
  obtain ⟨⟨shared', local'⟩, acted, same⟩ := Option.map_eq_some_iff.mp stepped
  exact ⟨shared', local', acted, same.symm⟩

/-- The law of each thread after a step: the acting thread establishes its own,
and every other thread keeps the local state it had. -/
theorem step_locals (law : Thread → Shared → Local → Prop)
    (own : ∀ shared' local',
      program label.1 before.shared (before.threads label.1) label.2 = some (shared', local') →
      law label.1 shared' local')
    (others : ∀ shared' local',
      program label.1 before.shared (before.threads label.1) label.2 = some (shared', local') →
      ∀ other, other ≠ label.1 → law other shared' (before.threads other))
    (stepped : (machine program start).step before label = some after) :
    ∀ thread, law thread after.shared (after.threads thread) := by
  obtain ⟨shared', local', acted, rfl⟩ := step_cases stepped
  intro thread
  by_cases same : thread = label.1
  · subst same
    simpa only [Function.update_self] using own shared' local' acted
  · simpa only [Function.update_of_ne same] using others shared' local' acted thread same

end Steps

section Alone

variable {program : Program Thread Shared Local Action} {thread : Thread}
  {reply : Local → Option Action}

/-- One action of a thread, the one that `reply` names at its local state. -/
def Replies (program : Program Thread Shared Local Action) (thread : Thread)
    (reply : Local → Option Action) (before after : Shared × Local) : Prop :=
  ∃ action, reply before.2 = some action ∧
    program thread before.1 before.2 action = some after

/-- A thread goes on alone, with the actions that `reply` names. -/
def Alone (program : Program Thread Shared Local Action) (thread : Thread)
    (reply : Local → Option Action) : Shared × Local → Shared × Local → Prop :=
  Relation.ReflTransGen (Replies program thread reply)

/-- A first action, and what the thread does after it. -/
theorem Alone.head {first middle last : Shared × Local} {action : Action}
    (named : reply first.2 = some action)
    (acted : program thread first.1 first.2 action = some middle)
    (later : Alone program thread reply middle last) : Alone program thread reply first last :=
  Relation.ReflTransGen.head ⟨action, named, acted⟩ later

/-- A thread that goes alone has no choice: where it comes to rest is determined.

Proof: each local state names one action, and each action has one result. Of two runs one
continues the other, and behind a state of rest nothing continues. -/
theorem Alone.rests_once {first last other : Shared × Local}
    (ends : Alone program thread reply first last) (rests : reply last.2 = none)
    (ends' : Alone program thread reply first other) (rests' : reply other.2 = none) :
    last = other := by
  have determined : Relator.RightUnique (Replies program thread reply) := by
    rintro before one two ⟨action, named, acted⟩ ⟨action', named', acted'⟩
    cases named.symm.trans named'
    exact Option.some.inj (acted.symm.trans acted')
  have stops {before after : Shared × Local} (still : reply before.2 = none)
      (run : Alone program thread reply before after) : before = after := by
    rcases Relation.ReflTransGen.cases_head run with same | ⟨middle, ⟨action, named, -⟩, -⟩
    · exact same
    · cases still.symm.trans named
  rcases Relation.ReflTransGen.total_of_right_unique determined ends ends' with onward | onward
  · exact stops rests onward
  · exact (stops rests' onward).symm

/-- The steps of a machine in which one thread does what `reply` names and no other thread
acts. -/
def onlyOne (thread : Thread) (reply : Local → Option Action) (state : State Thread Shared Local)
    (label : Thread × Action) : Prop :=
  label.1 = thread ∧ reply (state.threads thread) = some label.2

/-- What a thread does alone is a run of the machine in which no other thread acts. -/
theorem Alone.reaches [DecidableEq Thread] {start state : State Thread Shared Local}
    {last : Shared × Local}
    (alone : Alone program thread reply (state.shared, state.threads thread) last) :
    Reaches (machine program start) (onlyOne thread reply) state
      ⟨last.1, Function.update state.threads thread last.2⟩ := by
  induction alone with
  | refl =>
    rw [Function.update_eq_self]
    exact Relation.ReflTransGen.refl
  | @tail middle last _ replied inductionHypothesis =>
    obtain ⟨action, named, acted⟩ := replied
    refine inductionHypothesis.tail ⟨(thread, action), ⟨rfl, ?_⟩, ?_⟩
    · simpa only [Function.update_self] using named
    · simp only [machine, Function.update_self, acted, Option.map_some, Function.update_idem]

/-- A run in which no other thread acts is what the thread does alone; the others stay where
they are. -/
theorem alone_of_reaches [DecidableEq Thread] {start first last : State Thread Shared Local}
    (run : Reaches (machine program start) (onlyOne thread reply) first last) :
    Alone program thread reply (first.shared, first.threads thread)
        (last.shared, last.threads thread) ∧
      last.threads = Function.update first.threads thread (last.threads thread) := by
  induction run with
  | refl => exact ⟨.refl, (Function.update_eq_self thread _).symm⟩
  | tail _ stepped inductionHypothesis =>
    obtain ⟨alone, still⟩ := inductionHypothesis
    obtain ⟨⟨acting, action⟩, ⟨rfl, named⟩, stepped⟩ := stepped
    obtain ⟨shared', local', acted, rfl⟩ := step_cases stepped
    constructor
    · refine alone.tail ⟨action, named, ?_⟩
      simpa only [Function.update_self] using acted
    · simp only [Function.update_self]
      rw [still, Function.update_idem]

/-- Where a thread that goes alone comes to rest, the machine comes to rest in which no other
thread acts, and nowhere else. -/
theorem Alone.settles [DecidableEq Thread] {start state : State Thread Shared Local}
    {last : Shared × Local}
    (alone : Alone program thread reply (state.shared, state.threads thread) last)
    (rests : reply last.2 = none) :
    Reaches (machine program start) (onlyOne thread reply) state
        ⟨last.1, Function.update state.threads thread last.2⟩ ∧
      ∀ after, Reaches (machine program start) (onlyOne thread reply) state after →
        reply (after.threads thread) = none →
          after = ⟨last.1, Function.update state.threads thread last.2⟩ := by
  refine ⟨alone.reaches, ?_⟩
  rintro ⟨shared', threads⟩ run rests'
  obtain ⟨alone', still⟩ := alone_of_reaches run
  obtain rfl : last = (shared', threads thread) := alone.rests_once rests alone' rests'
  exact congrArg (State.mk shared') still

end Alone

section Projections

universe a b c
variable {Shared' : Type a} {Local' : Type b} {Action' : Type c} [DecidableEq Thread]
  {program : Program Thread Shared Local Action} {start : State Thread Shared Local}
  {inner : Program Thread Shared' Local' Action'} {innerStart : State Thread Shared' Local'}

/-- Keep one component of the shared state and of every local state. -/
def State.project (shared : Shared → Shared') (point : Local → Local')
    (state : State Thread Shared Local) : State Thread Shared' Local' where
  shared := shared state.shared
  threads thread := point (state.threads thread)

/-- A program runs an inner program in one component when each of its actions
either leaves the component or is one action of the inner program on it. -/
theorem projects_of_actions (shared : Shared → Shared') (point : Local → Local')
    (initial : start.project shared point = innerStart)
    (matched : ∀ thread before here action after there,
      program thread before here action = some (after, there) →
      (shared after = shared before ∧ point there = point here) ∨
        ∃ mark, inner thread (shared before) (point here) mark =
          some (shared after, point there)) :
    Projects (machine program start) (machine inner innerStart)
      (State.project shared point) where
  initial := initial
  step before label after stepped := by
    obtain ⟨shared', local', acted, rfl⟩ := step_cases stepped
    have moved : (fun thread => point (Function.update before.threads label.1 local' thread)) =
        Function.update (fun thread => point (before.threads thread)) label.1 (point local') := by
      funext thread
      by_cases same : thread = label.1
      · subst same
        simp only [Function.update_self]
      · simp only [Function.update_of_ne same]
    rcases matched _ _ _ _ _ _ acted with ⟨sameShared, samePoint⟩ | ⟨mark, taken⟩
    · left
      simp only [State.project, moved, sameShared, samePoint, Function.update_eq_self]
    · right
      refine ⟨(label.1, mark), ?_⟩
      simp only [machine, State.project, taken, moved, Option.map_some]

end Projections

section Totals

variable [Fintype Thread]

/-- The sum of a weight over all threads. -/
def total (weight : Local → Nat) (threads : Thread → Local) : Nat :=
  ∑ thread, weight (threads thread)

/-- Replacing one thread's local state exchanges exactly its own weight. -/
theorem total_update [DecidableEq Thread] (weight : Local → Nat) (threads : Thread → Local)
    (thread : Thread) (next : Local) :
    total weight (Function.update threads thread next) + weight (threads thread) =
      total weight threads + weight next := by
  have moved : (fun other => weight (Function.update threads thread next other)) =
      Function.update (fun other => weight (threads other)) thread (weight next) := by
    funext other
    by_cases same : other = thread
    · subst same
      simp
    · simp [same]
  have split : total weight threads =
      weight (threads thread) + ∑ other ∈ Finset.univ \ {thread}, weight (threads other) :=
    Finset.sum_eq_add_sum_sdiff_singleton_of_mem (Finset.mem_univ thread)
      (fun other => weight (threads other))
  have replaced : total weight (Function.update threads thread next) =
      weight next + ∑ other ∈ Finset.univ \ {thread}, weight (threads other) := by
    rw [total, moved, Finset.sum_update_of_mem (Finset.mem_univ thread)]
  omega

/-- No thread weighs more than all of them. -/
theorem weight_le_total (weight : Local → Nat) (threads : Thread → Local) (thread : Thread) :
    weight (threads thread) ≤ total weight threads :=
  Finset.single_le_sum (f := fun other => weight (threads other))
    (fun _ _ => Nat.zero_le _) (Finset.mem_univ thread)

/-- Two different threads together weigh no more than all of them. -/
theorem weights_le_total (weight : Local → Nat) (threads : Thread → Local)
    {first second : Thread} (different : first ≠ second) :
    weight (threads first) + weight (threads second) ≤ total weight threads := by
  classical
  have pair : ∑ thread ∈ {first, second}, weight (threads thread) =
      weight (threads first) + weight (threads second) := Finset.sum_pair different
  rw [← pair]
  exact Finset.sum_le_sum_of_subset (Finset.subset_univ _)

/-- Threads that all weigh nothing weigh nothing together. -/
theorem total_eq_zero {weight : Local → Nat} {threads : Thread → Local}
    (light : ∀ thread, weight (threads thread) = 0) : total weight threads = 0 :=
  Finset.sum_eq_zero (fun thread _ => light thread)

/-- Where all threads together weigh something, one of them does. -/
theorem exists_weight {weight : Local → Nat} {threads : Thread → Local}
    (heavy : total weight threads ≠ 0) : ∃ thread, weight (threads thread) ≠ 0 := by
  by_contra light
  refine heavy (total_eq_zero (fun thread => ?_))
  by_contra weighs
  exact light ⟨thread, weighs⟩

/-- A weight of one on some threads counts them. -/
theorem total_indicator (counted : Local → Prop) [DecidablePred counted]
    (threads : Thread → Local) :
    total (fun point => if counted point then 1 else 0) threads =
      (Finset.univ.filter (fun thread => counted (threads thread))).card := by
  rw [total, Finset.card_filter]

/-- The ledger of a state: the entry on the left is the entry on the right
together with what all threads carry. -/
def Balances (left right : Shared → Nat) (weight : Local → Nat)
    (state : State Thread Shared Local) : Prop :=
  left state.shared = right state.shared + total weight state.threads

variable [DecidableEq Thread] {program : Program Thread Shared Local Action}
  {start before after : State Thread Shared Local} {label : Thread × Action}
  {left right : Shared → Nat} {weight : Local → Nat}

/-- What all threads carry after a step, in terms of the acting thread alone. -/
theorem step_total (weight : Local → Nat)
    (stepped : (machine program start).step before label = some after) :
    ∃ shared' local',
      program label.1 before.shared (before.threads label.1) label.2 = some (shared', local') ∧
      after.shared = shared' ∧
      total weight after.threads + weight (before.threads label.1) =
        total weight before.threads + weight local' := by
  obtain ⟨shared', local', acted, rfl⟩ := step_cases stepped
  exact ⟨shared', local', acted, rfl, total_update weight before.threads label.1 local'⟩

/-- The ledger rule for one step. -/
theorem Balances.step
    (kept : ∀ shared' local',
      program label.1 before.shared (before.threads label.1) label.2 = some (shared', local') →
      left shared' + right before.shared + weight (before.threads label.1) =
        left before.shared + right shared' + weight local')
    (balanced : Balances left right weight before)
    (stepped : (machine program start).step before label = some after) :
    Balances left right weight after := by
  obtain ⟨shared', local', acted, rfl, carried⟩ := step_total weight stepped
  have exchange := kept _ local' acted
  unfold Balances at balanced ⊢
  omega

/-- The ledger rule for runs: an entry every single action keeps in balance is
in balance in every reachable state. -/
theorem balanced_reachable
    (kept : ∀ thread shared point action shared' point',
      program thread shared point action = some (shared', point') →
      left shared' + right shared + weight point = left shared + right shared' + weight point')
    (balanced : Balances left right weight start) {state : State Thread Shared Local}
    (reached : Reachable (machine program start) state) : Balances left right weight state :=
  invariant (Balances left right weight) balanced
    (fun _ _ _ _ holds stepped => holds.step (fun _ _ acted => kept _ _ _ _ _ _ acted) stepped)
    reached

/-- The spending rule. Where each step of a run keeps a law of the shared state and takes
from what its thread carries what it adds to an entry, the run adds no more than all
threads carried. -/
theorem spent_later {admits : State Thread Shared Local → Thread × Action → Prop}
    (entry : Shared → Nat) (law : Shared → Prop) {first last : State Thread Shared Local}
    (kept : ∀ state thread action shared' local', Reaches (machine program start) admits first state →
      law state.shared →
      program thread state.shared (state.threads thread) action = some (shared', local') →
      law shared' ∧
        entry shared' + weight local' ≤ entry state.shared + weight (state.threads thread))
    (run : Reaches (machine program start) admits first last) (holds : law first.shared) :
    entry last.shared + total weight last.threads ≤
      entry first.shared + total weight first.threads := by
  suffices both : law last.shared ∧ entry last.shared + total weight last.threads ≤
      entry first.shared + total weight first.threads from both.2
  induction run with
  | refl => exact ⟨holds, Nat.le_refl _⟩
  | tail earlier taken inductionHypothesis =>
    obtain ⟨holds, spent⟩ := inductionHypothesis
    obtain ⟨label, _, stepped⟩ := taken
    obtain ⟨shared', local', acted, rfl, carried⟩ := step_total weight stepped
    obtain ⟨holds', exchange⟩ := kept _ _ _ _ local' earlier holds acted
    exact ⟨holds', by omega⟩

end Totals

end Threads
