import Mathlib.Init

/-!
# Histories of calls

Threads call an object. Each call settles at one moment between its call and its return:
there it takes effect, and its answer is decided. A history lists these events, the latest
first.

A history is orderly if each thread calls, settles and returns in this order. If moreover
the settled calls are a sequential run of the object, the history is linearized: all
answers are those of the calls one after another in the order in which they settled, and a
call that returned before another one was called settled before it.
-/

namespace Histories

universe u v w x y
variable {Thread : Type u} {Operation : Type v} {Answer : Type w} {State : Type x} {Outcome : Type y}

/-- The events of a call. -/
inductive Event (Thread : Type u) (Operation : Type v) (Answer : Type w) where
  | called (thread : Thread) (operation : Operation)
  | settled (thread : Thread) (operation : Operation) (answer : Answer)
  | returned (thread : Thread) (operation : Operation) (answer : Answer)
deriving DecidableEq

/-- Whose event it is. -/
def Event.thread : Event Thread Operation Answer → Thread
  | .called thread _ => thread
  | .settled thread _ _ => thread
  | .returned thread _ _ => thread

/-- How far a thread has come with its latest call. -/
inductive Standing (Operation : Type v) (Answer : Type w) where
  | resting
  | pending (operation : Operation)
  | settled (operation : Operation) (answer : Answer)
deriving DecidableEq

/-- The standing of a thread after its event. -/
def Event.standing : Event Thread Operation Answer → Standing Operation Answer
  | .called _ operation => .pending operation
  | .settled _ operation answer => .settled operation answer
  | .returned _ _ _ => .resting

/-- The standing that a thread has before its event. -/
def Event.requires : Event Thread Operation Answer → Standing Operation Answer
  | .called _ _ => .resting
  | .settled _ operation _ => .pending operation
  | .returned _ operation answer => .settled operation answer

section Orders

variable [DecidableEq Thread]

/-- The standing of a thread after a history. -/
def standing (thread : Thread) : List (Event Thread Operation Answer) → Standing Operation Answer
  | [] => .resting
  | event :: earlier => if event.thread = thread then event.standing else standing thread earlier

/-- Each thread calls, settles and returns in this order. -/
def Orderly : List (Event Thread Operation Answer) → Prop
  | [] => True
  | event :: earlier => standing event.thread earlier = event.requires ∧ Orderly earlier

variable {history later earlier : List (Event Thread Operation Answer)} {thread : Thread}
  {operation : Operation} {answer : Answer}

/-- What came before in an orderly history is orderly. -/
theorem Orderly.of_append (orderly : Orderly (later ++ earlier)) : Orderly earlier := by
  induction later with
  | nil => exact orderly
  | cons event later inductionHypothesis => exact inductionHypothesis orderly.2

/-- A thread's standing comes from its latest event. -/
theorem latest_of_standing (active : standing thread history ≠ .resting) :
    ∃ gap event older, history = gap ++ event :: older ∧ event.thread = thread ∧
      event.standing = standing thread history ∧ ∀ other ∈ gap, other.thread ≠ thread := by
  induction history with
  | nil => exact absurd rfl active
  | cons event earlier inductionHypothesis =>
    unfold standing at active ⊢
    by_cases own : event.thread = thread
    · rw [if_pos own]
      exact ⟨[], event, earlier, rfl, own, rfl, fun _ absent => absurd absent List.not_mem_nil⟩
    · rw [if_neg own] at active ⊢
      obtain ⟨gap, latest, older, split, same, stands, apart⟩ := inductionHypothesis active
      refine ⟨event :: gap, latest, older, by rw [split, List.cons_append], same, stands, ?_⟩
      exact List.forall_mem_cons.mpr ⟨own, apart⟩

/-- A call that returned settled before, with its answer. -/
theorem Orderly.settled_before_return
    (orderly : Orderly (later ++ .returned thread operation answer :: earlier)) :
    ∃ gap older, earlier = gap ++ .settled thread operation answer :: older ∧
      ∀ event ∈ gap, event.thread ≠ thread := by
  have stood : standing thread earlier = .settled operation answer := orderly.of_append.1
  obtain ⟨gap, event, older, split, own, stands, apart⟩ :=
    latest_of_standing (show standing thread earlier ≠ .resting by simp [stood])
  rw [stood] at stands
  cases event with
  | called other operation' => cases stands
  | settled other operation' answer' =>
    cases stands
    cases own
    exact ⟨gap, older, split, apart⟩
  | returned other operation' answer' => cases stands

end Orders

section Runs

/-- The calls that settled, the latest first. -/
def settlements : List (Event Thread Operation Answer) → List (Operation × Answer)
  | [] => []
  | .settled _ operation answer :: earlier => (operation, answer) :: settlements earlier
  | _ :: earlier => settlements earlier

/-- The settlements of two pieces of a history stand one behind the other. -/
theorem settlements_append (later earlier : List (Event Thread Operation Answer)) :
    settlements (later ++ earlier) = settlements later ++ settlements earlier := by
  induction later with
  | nil => rfl
  | cons event later inductionHypothesis =>
    cases event <;> simp [settlements, inductionHypothesis]

/-- A call that settled is an event of the history. -/
theorem mem_settlements {history : List (Event Thread Operation Answer)} {operation : Operation}
    {answer : Answer} :
    (operation, answer) ∈ settlements history ↔
      ∃ thread, .settled thread operation answer ∈ history := by
  induction history with
  | nil => simp [settlements]
  | cons event earlier inductionHypothesis =>
    cases event <;> simp [settlements, inductionHypothesis, exists_or, eq_comm]

/-- The calls of one caller after another, the latest first, with their outcomes. -/
inductive Sequential (object : State → Operation → State × Outcome) (start : State) :
    List (Operation × Outcome) → State → Prop where
  | start : Sequential object start [] start
  | next {calls : List (Operation × Outcome)} {state : State} (operation : Operation)
      (run : Sequential object start calls state) :
      Sequential object start ((operation, (object state operation).2) :: calls)
        (object state operation).1

variable {object : State → Operation → State × Outcome} {start finish : State}
  {calls later earlier : List (Operation × Outcome)}

/-- A sequential run passes through a state between any two of its calls. -/
theorem Sequential.split (run : Sequential object start (later ++ earlier) finish) :
    ∃ middle, Sequential object start earlier middle ∧ Sequential object middle later finish := by
  induction later generalizing finish with
  | nil => exact ⟨finish, run, .start⟩
  | cons call later inductionHypothesis =>
    generalize same : call :: later ++ earlier = all at run
    cases run with
    | start => cases same
    | next operation run =>
      cases same
      obtain ⟨middle, before, after⟩ := inductionHypothesis run
      exact ⟨middle, before, .next operation after⟩

/-- The latest call of a run took the object from the state before it. -/
theorem Sequential.latest {operation : Operation} {outcome : Outcome}
    (run : Sequential object start ((operation, outcome) :: calls) finish) :
    ∃ before, Sequential object start calls before ∧ object before operation = (finish, outcome) := by
  generalize same : (operation, outcome) :: calls = all at run
  cases run with
  | start => cases same
  | next operation' run =>
    cases same
    exact ⟨_, run, rfl⟩

/-- What no call of a run undoes, holds at its end. -/
theorem Sequential.keeps (law : State → Prop) (run : Sequential object start calls finish)
    (kept : ∀ state operation, (operation, (object state operation).2) ∈ calls → law state →
      law (object state operation).1) (holds : law start) : law finish := by
  induction run with
  | start => exact holds
  | next operation run inductionHypothesis =>
    refine kept _ operation List.mem_cons_self (inductionHypothesis ?_)
    exact fun state other member => kept state other (List.mem_cons_of_mem _ member)

/-- A history whose calls settle as in a sequential run of an object. -/
structure Linearized [DecidableEq Thread] (object : State → Operation → State × Outcome)
    (outcome : Answer → Outcome) (start finish : State)
    (history : List (Event Thread Operation Answer)) : Prop where
  orderly : Orderly history
  sequential : Sequential object start
    ((settlements history).map fun call => (call.1, outcome call.2)) finish

end Runs

end Histories
