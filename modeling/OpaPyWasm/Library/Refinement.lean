import OpaPyWasm.Library.Threads

/-!
# What a run shows, and refinement

An observer sees some events of each step of a machine, possibly none. A run
shows the events of its steps in their order.

A machine refines another one when every step it takes from a reachable state is
matched, on projected states, by a run of the other that shows the same events.
The matching run may be empty, for a step inside a call, or longer, for a step
that does at once what the other does in several. Then the observer never sees
anything that the other machine does not show too.

For threads it suffices to match each action by actions of the same thread, from
one component of the shared state and of its own local state.
-/

namespace Refinement

open Machines

universe u v w x y
variable {State : Type u} {Label : Type v} {Other : Type w} {Mark : Type x} {Event : Type y}

/-- What an observer sees of a step, from the states around it and its label. -/
abbrev View (State : Type u) (Label : Type v) (Event : Type y) := State → Label → State → List Event

/-- A run of admitted steps with the events it shows. -/
inductive Shows (machine : Machine State Label) (admits : State → Label → Prop)
    (view : View State Label Event) : State → List Event → State → Prop
  | stays (state : State) : Shows machine admits view state [] state
  | steps {first middle last : State} {events : List Event} {label : Label}
      (earlier : Shows machine admits view first events middle) (admitted : admits middle label)
      (stepped : machine.step middle label = some last) :
      Shows machine admits view first (events ++ view middle label last) last

section Runs

variable {machine : Machine State Label} {admits : State → Label → Prop}
  {view : View State Label Event} {first middle last : State} {events later : List Event}

/-- A run that shows something is a run. -/
theorem Shows.reaches (shown : Shows machine admits view first events last) :
    Reaches machine admits first last := by
  induction shown with
  | stays => exact Relation.ReflTransGen.refl
  | steps _ admitted stepped inductionHypothesis =>
    exact Relation.ReflTransGen.tail inductionHypothesis ⟨_, admitted, stepped⟩

/-- One run after another shows the events of both. -/
theorem Shows.append (earlier : Shows machine admits view first events middle)
    (after : Shows machine admits view middle later last) :
    Shows machine admits view first (events ++ later) last := by
  induction after with
  | stays => rwa [List.append_nil]
  | steps _ admitted stepped inductionHypothesis =>
    rw [← List.append_assoc]
    exact .steps inductionHypothesis admitted stepped

/-- A single step shows its own events. -/
theorem shows_step {label : Label} (admitted : admits first label)
    (stepped : machine.step first label = some last) :
    Shows machine admits view first (view first label last) last :=
  .steps (.stays first) admitted stepped

/-- What holds at the start and is kept by each step together with the events
seen so far, holds after a run and of all that it shows. -/
theorem Shows.keeps (law : State → List Event → Prop)
    (kept : ∀ before label after seen, Reaches machine admits first before → law before seen →
      admits before label → machine.step before label = some after →
      law after (seen ++ view before label after))
    (shown : Shows machine admits view first events last) (start : law first []) :
    law last events := by
  induction shown with
  | stays => exact start
  | steps earlier admitted stepped inductionHypothesis =>
    exact kept _ _ _ _ earlier.reaches inductionHypothesis admitted stepped

/-- A run carries over to a machine that takes the same steps. A step may use the run of
the other machine up to it, and that what is seen with it begins what is seen in the
end. -/
theorem Shows.transfer {other : Machine State Label} {admits' : State → Label → Prop}
    (shown : Shows machine admits view first events last)
    (carried : ∀ before label after seen, Shows other admits' view first seen before →
      Reaches machine admits first before → admits before label →
      machine.step before label = some after → seen ++ view before label after <+: events →
      admits' before label ∧ other.step before label = some after) :
    Shows other admits' view first events last := by
  induction shown with
  | stays => exact .stays _
  | steps earlier admitted stepped inductionHypothesis =>
    have onward := inductionHypothesis
      (fun before label after seen carriedOver reached admitted stepped shows =>
        carried before label after seen carriedOver reached admitted stepped
          (shows.trans (List.prefix_append _ _)))
    obtain ⟨admitted', stepped'⟩ :=
      carried _ _ _ _ onward earlier.reaches admitted stepped (List.prefix_refl _)
    exact .steps onward admitted' stepped'

/-- Execute a list of labels and collect what is seen, stopping at the first label
that is not admitted or not enabled. -/
def watch (machine : Machine State Label) (admits : State → Label → Prop)
    [∀ state label, Decidable (admits state label)] (view : View State Label Event) :
    State → List Label → Option (List Event × State)
  | state, [] => some ([], state)
  | state, label :: rest =>
    if admits state label then
      (machine.step state label).bind (fun after =>
        (watch machine admits view after rest).map (fun seen =>
          (view state label after ++ seen.1, seen.2)))
    else none

/-- An execution shows what was collected. -/
theorem watch_shows [∀ state label, Decidable (admits state label)] (labels : List Label)
    (first last : State) (events : List Event)
    (executed : watch machine admits view first labels = some (events, last)) :
    Shows machine admits view first events last := by
  induction labels generalizing first events with
  | nil =>
    obtain ⟨rfl, rfl⟩ := Prod.mk.inj (Option.some.inj executed)
    exact .stays first
  | cons label rest inductionHypothesis =>
    by_cases admitted : admits first label
    · simp only [watch, admitted, if_true, Option.bind_eq_some_iff, Option.map_eq_some_iff,
        Prod.mk.injEq] at executed
      obtain ⟨middle, stepped, ⟨seen, ended⟩, continued, rfl, rfl⟩ := executed
      exact (shows_step admitted stepped).append (inductionHypothesis middle seen continued)
    · simp [watch, admitted] at executed

end Runs

/-- Every admitted step from a reachable state is matched on projected states by a
run that shows the same. -/
structure Refines (concrete : Machine State Label) (admits : State → Label → Prop)
    (view : View State Label Event) (abstract : Machine Other Mark)
    (abstractView : View Other Mark Event) (project : State → Other) : Prop where
  initial : project concrete.initial = abstract.initial
  step : ∀ before label after, ReachableUnder concrete admits before → admits before label →
    concrete.step before label = some after →
    Shows abstract anything abstractView (project before) (view before label after) (project after)

/-- What a run of the concrete machine shows, a run of the abstract machine shows,
and it ends in the projected state. -/
theorem Refines.shows {concrete : Machine State Label} {admits : State → Label → Prop}
    {view : View State Label Event} {abstract : Machine Other Mark}
    {abstractView : View Other Mark Event} {project : State → Other}
    (refines : Refines concrete admits view abstract abstractView project) {last : State}
    {events : List Event} (shown : Shows concrete admits view concrete.initial events last) :
    Shows abstract anything abstractView abstract.initial events (project last) := by
  refine shown.keeps (fun state seen => Shows abstract anything abstractView abstract.initial seen
    (project state)) ?_ ?_
  · intro before label after seen reached matched admitted stepped
    exact matched.append (refines.step before label after reached admitted stepped)
  · rw [refines.initial]
    exact .stays _

section Actions

open Threads

variable {Thread : Type u} {Shared : Type v} {Local : Type w} {Action : Type x}

/-- What an observer sees of an action, from the thread, its local states around the
action and the action. -/
abbrev Sight (Thread : Type u) (Local : Type w) (Action : Type x) (Event : Type y) :=
  Thread → Local → Action → Local → List Event

/-- The view of a machine of threads. -/
def lookAt (sight : Sight Thread Local Action Event) :
    View (Threads.State Thread Shared Local) (Thread × Action) Event :=
  fun before label after =>
    sight label.1 (before.threads label.1) label.2 (after.threads label.1)

/-- Some actions of one thread in a row, with what they show. -/
inductive Acts (program : Program Thread Shared Local Action)
    (sight : Sight Thread Local Action Event) (thread : Thread) :
    Shared → Local → List Event → Shared → Local → Prop
  | rests (shared : Shared) (here : Local) : Acts program sight thread shared here [] shared here
  | acts {shared middle shared' : Shared} {here between here' : Local} {events : List Event}
      {action : Action} (earlier : Acts program sight thread shared here events middle between)
      (acted : program thread middle between action = some (shared', here')) :
      Acts program sight thread shared here (events ++ sight thread between action here')
        shared' here'

variable {program : Program Thread Shared Local Action} {sight : Sight Thread Local Action Event}
  {thread : Thread} {shared middle shared' : Shared} {here between here' : Local}
  {events later : List Event}

/-- A single action. -/
theorem acts_once {action : Action} (acted : program thread shared here action = some (shared', here')) :
    Acts program sight thread shared here (sight thread here action here') shared' here' :=
  .acts (.rests shared here) acted

/-- Two actions in a row. -/
theorem acts_twice {first second : Action}
    (acted : program thread shared here first = some (middle, between))
    (again : program thread middle between second = some (shared', here')) :
    Acts program sight thread shared here
      (sight thread here first between ++ sight thread between second here') shared' here' :=
  .acts (acts_once acted) again

variable [DecidableEq Thread] {start : Threads.State Thread Shared Local}

/-- One action of a thread, whatever the other threads are at. -/
theorem shows_action {action : Action}
    (acted : program thread shared here action = some (shared', here')) (threads : Thread → Local) :
    Shows (machine program start) anything (lookAt sight)
      ⟨shared, Function.update threads thread here⟩ (sight thread here action here')
      ⟨shared', Function.update threads thread here'⟩ := by
  have stepped : (machine program start).step
      ⟨shared, Function.update threads thread here⟩ (thread, action) =
        some ⟨shared', Function.update threads thread here'⟩ := by
    simp only [machine, Function.update_self, acted, Option.map_some, Function.update_idem]
  have shown : Shows (machine program start) anything (lookAt sight) _ _ _ :=
    shows_step trivial stepped
  simpa only [lookAt, Function.update_self] using shown

/-- What a thread does by itself is a run of all threads. -/
theorem Acts.shows (acts : Acts program sight thread shared here events shared' here')
    (threads : Thread → Local) (stands : threads thread = here) :
    Shows (machine program start) anything (lookAt sight) ⟨shared, threads⟩ events
      ⟨shared', Function.update threads thread here'⟩ := by
  induction acts with
  | rests =>
    rw [← stands, Function.update_eq_self]
    exact .stays _
  | acts _ acted inductionHypothesis =>
    exact (inductionHypothesis stands).append (shows_action acted threads)

universe a b c
variable {Shared' : Type a} {Local' : Type b} {Action' : Type c}
  {inner : Program Thread Shared' Local' Action'} {innerStart : Threads.State Thread Shared' Local'}
  {innerSight : Sight Thread Local' Action' Event}
  {admits : Threads.State Thread Shared Local → Thread × Action → Prop}

/-- A program refines another one when each of its actions is matched by actions of
the same thread. -/
theorem refines_of_actions (project : Shared → Shared') (point : Local → Local')
    (initial : start.project project point = innerStart)
    (matched : ∀ before thread action shared' here',
      ReachableUnder (machine program start) admits before → admits before (thread, action) →
      program thread before.shared (before.threads thread) action = some (shared', here') →
      Acts inner innerSight thread (project before.shared) (point (before.threads thread))
        (sight thread (before.threads thread) action here') (project shared') (point here')) :
    Refines (machine program start) admits (lookAt sight) (machine inner innerStart)
      (lookAt innerSight) (Threads.State.project project point) where
  initial := initial
  step before label after reached admitted stepped := by
    obtain ⟨shared', here', acted, rfl⟩ := step_cases stepped
    have moved : (fun thread => point (Function.update before.threads label.1 here' thread)) =
        Function.update (fun thread => point (before.threads thread)) label.1 (point here') := by
      funext thread
      by_cases same : thread = label.1
      · subst same
        simp only [Function.update_self]
      · simp only [Function.update_of_ne same]
    have acts := matched before label.1 label.2 shared' here' reached admitted acted
    have shown : Shows (machine inner innerStart) anything (lookAt innerSight) _ _ _ :=
      acts.shows (fun thread => point (before.threads thread)) rfl
    simpa only [lookAt, Function.update_self, Threads.State.project, moved] using shown

end Actions

end Refinement
