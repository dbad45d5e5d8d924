import Mathlib.Logic.Relation

/-!
# Machines with executable steps

A machine has one initial state and a partial step for each label. A run may be
restricted by a guard that says in which states which labels are admitted, so a
law can speak of all runs or of the runs whose every step meets a condition.

An invariant is proved once from the initial state and one step, and then holds
in every state reached. A projection maps each step of one machine to a step of
another or to no step, and carries reachability along. Executing a list of
labels gives concrete reachable states.
-/

namespace Machines

universe u v w x
variable {State : Type u} {Label : Type v} {Other : Type w} {Mark : Type x}

/-- A label that is not enabled in a state has no successor there. -/
structure Machine (State : Type u) (Label : Type v) where
  initial : State
  step : State → Label → Option State

/-- The guard that admits every label in every state. -/
def anything : State → Label → Prop := fun _ _ => True

/-- The condition that holds always. -/
instance (state : State) (label : Label) : Decidable (anything state label) := isTrue trivial

/-- One step with some label that the guard admits in the state before it. -/
def Step (machine : Machine State Label) (admits : State → Label → Prop)
    (before after : State) : Prop :=
  ∃ label, admits before label ∧ machine.step before label = some after

/-- A run of any length whose every step is admitted where it is taken. -/
def Reaches (machine : Machine State Label) (admits : State → Label → Prop) :
    State → State → Prop :=
  Relation.ReflTransGen (Step machine admits)

/-- Reached from the initial state by admitted steps only. -/
def ReachableUnder (machine : Machine State Label) (admits : State → Label → Prop)
    (state : State) : Prop :=
  Reaches machine admits machine.initial state

/-- Reached from the initial state by any steps. -/
def Reachable (machine : Machine State Label) (state : State) : Prop :=
  ReachableUnder machine anything state

/-- Dropping the guard keeps a run. -/
theorem reaches_anything {machine : Machine State Label} {admits : State → Label → Prop}
    {first last : State} (run : Reaches machine admits first last) :
    Reaches machine anything first last := by
  have weaker : Step machine admits ≤ Step machine anything :=
    fun _ _ ⟨label, _, stepped⟩ => ⟨label, trivial, stepped⟩
  exact Relation.ReflTransGen.mono weaker first last run

/-- A state reached under a guard is reachable. -/
theorem reachable_of_under {machine : Machine State Label} {admits : State → Label → Prop}
    {state : State} (reached : ReachableUnder machine admits state) : Reachable machine state :=
  reaches_anything reached

/-- The initial state is reached under every guard. -/
theorem under_initial (machine : Machine State Label) (admits : State → Label → Prop) :
    ReachableUnder machine admits machine.initial :=
  Relation.ReflTransGen.refl

/-- An admitted step extends a guarded run. -/
theorem under_step {machine : Machine State Label} {admits : State → Label → Prop}
    {before after : State} {label : Label} (reached : ReachableUnder machine admits before)
    (admitted : admits before label) (stepped : machine.step before label = some after) :
    ReachableUnder machine admits after :=
  Relation.ReflTransGen.tail reached ⟨label, admitted, stepped⟩

/-- Any step extends a run. -/
theorem reachable_step {machine : Machine State Label} {before after : State} {label : Label}
    (reached : Reachable machine before) (stepped : machine.step before label = some after) :
    Reachable machine after :=
  under_step reached trivial stepped

/-- What one admitted step keeps, a run keeps. -/
theorem reaches_keeps {machine : Machine State Label} {admits : State → Label → Prop}
    (law : State → Prop)
    (kept : ∀ before label after, law before → admits before label →
      machine.step before label = some after → law after)
    {first last : State} (run : Reaches machine admits first last) (start : law first) :
    law last := by
  induction run with
  | refl => exact start
  | tail _ taken inductionHypothesis =>
    obtain ⟨label, admitted, stepped⟩ := taken
    exact kept _ label _ inductionHypothesis admitted stepped

/-- The invariant rule. The step may use that the state before it is reached
under the guard, so laws already established for such states are available. -/
theorem under_invariant {machine : Machine State Label} {admits : State → Label → Prop}
    (law : State → Prop) (start : law machine.initial)
    (kept : ∀ before label after, ReachableUnder machine admits before → law before →
      admits before label → machine.step before label = some after → law after)
    {state : State} (reached : ReachableUnder machine admits state) : law state := by
  induction reached with
  | refl => exact start
  | tail earlier taken inductionHypothesis =>
    obtain ⟨label, admitted, stepped⟩ := taken
    exact kept _ label _ earlier inductionHypothesis admitted stepped

/-- The invariant rule for unrestricted runs. -/
theorem invariant {machine : Machine State Label} (law : State → Prop)
    (start : law machine.initial)
    (kept : ∀ before label after, Reachable machine before → law before →
      machine.step before label = some after → law after)
    {state : State} (reached : Reachable machine state) : law state :=
  under_invariant law start
    (fun before label after earlier holds _ stepped => kept before label after earlier holds stepped)
    reached

/-- Each step of the concrete machine is matched by at most one step of the
abstract one, on projected states. -/
structure Projects (concrete : Machine State Label) (abstract : Machine Other Mark)
    (project : State → Other) : Prop where
  initial : project concrete.initial = abstract.initial
  step : ∀ before label after, concrete.step before label = some after →
    project after = project before ∨
      ∃ mark, abstract.step (project before) mark = some (project after)

/-- Every reachable concrete state projects to a reachable abstract one. -/
theorem Projects.reachable {concrete : Machine State Label} {abstract : Machine Other Mark}
    {project : State → Other} (projects : Projects concrete abstract project) {state : State}
    (reached : Reachable concrete state) : Reachable abstract (project state) := by
  refine invariant (fun state => Reachable abstract (project state)) ?_ ?_ reached
  · rw [projects.initial]
    exact under_initial abstract anything
  · intro before label after _ holds stepped
    rcases projects.step before label after stepped with same | ⟨mark, matched⟩
    · rwa [same]
    · exact reachable_step holds matched

/-- Execute a list of labels, stopping at the first that is not admitted or not
enabled. -/
def run (machine : Machine State Label) (admits : State → Label → Prop)
    [∀ state label, Decidable (admits state label)] : State → List Label → Option State
  | state, [] => some state
  | state, label :: rest =>
    if admits state label then (machine.step state label).bind (run machine admits · rest)
    else none

/-- An execution that ends is a run under its guard. -/
theorem run_reaches (machine : Machine State Label) (admits : State → Label → Prop)
    [∀ state label, Decidable (admits state label)] (labels : List Label)
    (first last : State) (executed : run machine admits first labels = some last) :
    Reaches machine admits first last := by
  induction labels generalizing first with
  | nil =>
    have same : first = last := Option.some.inj executed
    exact same ▸ Relation.ReflTransGen.refl
  | cons label rest inductionHypothesis =>
    by_cases admitted : admits first label
    · simp only [run, admitted, if_true, Option.bind_eq_some_iff] at executed
      obtain ⟨middle, stepped, continued⟩ := executed
      exact Relation.ReflTransGen.head ⟨label, admitted, stepped⟩
        (inductionHypothesis middle continued)
    · simp [run, admitted] at executed

/-- The state at which an execution ends is reached by it. -/
theorem executed_reaches (machine : Machine State Label) (admits : State → Label → Prop)
    [∀ state label, Decidable (admits state label)] (labels : List Label) (first : State)
    (ends : (run machine admits first labels).isSome = true) :
    Reaches machine admits first ((run machine admits first labels).getD first) := by
  obtain ⟨last, executed⟩ := Option.isSome_iff_exists.mp ends
  rw [executed, Option.getD_some]
  exact run_reaches machine admits labels first last executed

end Machines
