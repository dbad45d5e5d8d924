import Mathlib.Data.Fintype.Option
import OpaPyWasm.Library.Chains
import OpaPyWasm.PolicyInstance

/-!
# The error that an evaluation raises again

Python's exceptions refer to each other by `__cause__` and `__context__`. The
handlers of `Evaluator.evaluate` walk along these references, and `raise … from`
sets them: the cause without a check for cycles, the context after the link that
would close a cycle of contexts is cleared.

What these handlers do to the references is what they do to the paths that the
instance's handler looks at. A failure whose chain ends is raised again with a
chain that ends only where no typed error is recovered from it, apart from a
recovered error that hung on the cleared link.
-/

namespace OpaPyWasm.ExceptionChains

open Exceptions Chains PolicyInstance Effects GuestCalls

/-- An exception with its `__cause__` and `__context__`. -/
structure ExceptionNode (Ref : Type) extends Node where
  cause : Option Ref
  context : Option Ref
deriving DecidableEq

/-- The exceptions of the interpreter. -/
abbrev Heap (Ref : Type) := Ref → ExceptionNode Ref

/-- The same exception among others. -/
def ExceptionNode.map {Ref Other : Type} (embed : Ref → Other) (node : ExceptionNode Ref) :
    ExceptionNode Other :=
  { node with cause := node.cause.map embed, context := node.context.map embed }

section Heaps

variable {Ref : Type} (heap : Heap Ref)

/-- `cur.__cause__ or cur.__context__`. -/
def Heap.next (exc : Ref) : Option Ref := (heap exc).cause <|> (heap exc).context

variable [Fintype Ref] [DecidableEq Ref]

/-- `_find_typed_in_chain(exc)`. -/
def Heap.findTypedInChain (exc : Ref) : Option Ref :=
  first heap.next (fun cur => (heap cur).kind.isOpa) exc

/-- `_is_epoch_interrupt(exc)`. -/
def Heap.isEpochInterrupt (exc : Ref) : Bool :=
  (first heap.next (fun cur => mentionsInterrupt (heap cur).text) exc).isSome

/-- The exception whose context is cleared when `typed` is raised while `exc` is handled:
the first on the chain of contexts from `exc` that has `typed` as its context. -/
def Heap.clearedLink (exc typed : Ref) : Option Ref :=
  if typed = exc then none
  else first (fun cur => (heap cur).context) (fun cur => (heap cur).context == some typed) exc

/-- The heap after that context was cleared. -/
def Heap.clearLink (exc typed : Ref) : Heap Ref := fun cur =>
  if heap.clearedLink exc typed = some cur then { heap cur with context := none } else heap cur

/-- `raise typed from exc` while `exc` is handled. -/
def Heap.raiseFrom (exc typed : Ref) : Heap Ref := fun cur =>
  if cur = typed then
    { heap cur with
      cause := some exc
      context := if typed = exc then (heap cur).context else some exc }
  else heap.clearLink exc typed cur

/-- `raise OpaEvaluationError(text) from exc` while `exc` is handled; the new error is `none`. -/
def Heap.raiseNewFrom (exc : Ref) (text : String) : Heap (Option Ref)
  | none => { kind := .opa .evaluation, text := text, cause := some exc, context := some exc }
  | some cur => (heap cur).map some

/-- What an exception handler leaves: an exception that was there before, or a new one. -/
inductive Reraised (Ref : Type) where
  | again (heap : Heap Ref) (exc : Ref)
  | fresh (heap : Heap (Option Ref))

/-- The `except` clauses of `Evaluator.evaluate`, apart from their reset of the heap. -/
def reraise (entered : Bool) (exc : Ref) : Reraised Ref :=
  if isPassthrough (heap exc).kind then .again heap exc
  else if (heap exc).kind.isException then
    match heap.findTypedInChain exc with
    | some typed => .again (heap.raiseFrom exc typed) typed
    | none =>
      if entered && heap.isEpochInterrupt exc then
        .fresh (heap.raiseNewFrom exc
          "evaluation exceeded its time limit (eval_timeout_seconds) and was interrupted")
      else .fresh (heap.raiseNewFrom exc s!"evaluation failed: {(heap exc).text}")
  else .again heap exc

/-- An exception in flight, as the handlers of the instance see it. -/
def Heap.raised (exc : Ref) : Raised :=
  ⟨(heap exc).kind, (heap exc).text, ((trail heap.next exc).tail.map fun cur => (heap cur).toNode)⟩

end Heaps

section Splits

variable {Ref : Type}

/-- The first typed error on a path is the first typed error on the trail. -/
theorem splitTyped_map (heap : Heap Ref) (before after : List Ref) (typed : Ref)
    (untyped : ∀ cur ∈ before, (heap cur).kind.isOpa = false)
    (isOpa : (heap typed).kind.isOpa = true) :
    splitTyped ((before ++ typed :: after).map fun cur => (heap cur).toNode) =
      some (before.map fun cur => (heap cur).toNode, (heap typed).toNode) := by
  rw [List.map_append, List.map_cons]
  apply splitTyped_append _ isOpa
  rintro node member
  obtain ⟨cur, earlier, rfl⟩ := List.mem_map.mp member
  exact untyped cur earlier

/-- A path without typed errors. -/
theorem splitTyped_eq_none (heap : Heap Ref) (path : List Ref)
    (untyped : ∀ cur ∈ path, (heap cur).kind.isOpa = false) :
    splitTyped (path.map fun cur => (heap cur).toNode) = none := by
  induction path with
  | nil => rfl
  | cons cur path inductionHypothesis =>
    have here := untyped cur List.mem_cons_self
    have rest := inductionHypothesis (fun other member => untyped other (List.mem_cons_of_mem _ member))
    simp only [List.map_cons, splitTyped, here, rest]
    rfl

end Splits

section NewErrors

variable {Ref : Type}

/-- A new error leads to the handled exception, and the others lead where they led. -/
theorem next_raiseNewFrom (heap : Heap Ref) (exc : Ref) (text : String) (cur : Ref) :
    (heap.raiseNewFrom exc text).next (some cur) = (heap.next cur).map some := by
  simp only [Heap.next, Heap.raiseNewFrom, ExceptionNode.map]
  cases (heap cur).cause <;> rfl

/-- A new error goes on at the handled exception. -/
theorem terminates_raiseNewFrom {heap : Heap Ref} {exc : Ref}
    (acyclic : Terminates heap.next exc) (text : String) :
    Terminates (heap.raiseNewFrom exc text).next none := by
  obtain ⟨left, ends⟩ := acyclic
  have further : EndsAfter (heap.raiseNewFrom exc text).next left (some exc) :=
    ends.map some (next_raiseNewFrom heap exc text)
  exact ⟨left + 1, .step rfl further⟩

end NewErrors

variable {Ref : Type} [Fintype Ref] [DecidableEq Ref]

/-- The exception in flight. -/
def Reraised.raised : Reraised Ref → Raised
  | .again heap exc => heap.raised exc
  | .fresh heap => heap.raised none

/-- Following causes, or else contexts, from the exception in flight comes to an end. -/
def Reraised.Terminates : Reraised Ref → Prop
  | .again heap exc => Chains.Terminates heap.next exc
  | .fresh heap => Chains.Terminates heap.next none

/-- The error that leaves `Evaluator.evaluate` for a failure, as a path. -/
def reraised (entered : Bool) (raised : Raised) : Raised :=
  if isPassthrough raised.kind then raised
  else if raised.kind.isException then evaluationFailure entered raised
  else raised

section Views

variable {heap : Heap Ref} {exc typed : Ref}

/-- The path of an exception in flight is the trail of its references. -/
theorem raised_path (heap : Heap Ref) (exc : Ref) :
    (heap.raised exc).path = (trail heap.next exc).map fun cur => (heap cur).toNode := by
  obtain ⟨rest, begins⟩ := (trail_spec heap.next exc).head
  rw [Raised.path, Heap.raised, begins]
  rfl

/-- Where the search for a typed error finds none, there is none on the path. -/
theorem typedInChain_eq_none (missing : heap.findTypedInChain exc = none) :
    (heap.raised exc).typedInChain = none := by
  rw [Heap.findTypedInChain, first_eq, List.find?_eq_none] at missing
  rw [Raised.typedInChain, raised_path,
    splitTyped_eq_none heap _ (fun cur member => by simpa using missing cur member)]
  rfl

/-- The search for the text of an interrupt looks at the texts on the path. -/
theorem isEpochInterrupt_eq (heap : Heap Ref) (exc : Ref) :
    (heap.raised exc).isEpochInterrupt = heap.isEpochInterrupt exc := by
  rw [Raised.isEpochInterrupt, raised_path, Heap.isEpochInterrupt, first_eq, List.any_map,
    Bool.eq_iff_iff, List.any_eq_true, List.find?_isSome]
  rfl

/-- The search finds the typed error that splits the trail. -/
theorem findTypedInChain_split (found : heap.findTypedInChain exc = some typed) :
    (heap typed).kind.isOpa = true ∧ ∃ before after,
      trail heap.next exc = before ++ typed :: after ∧
      ∀ cur ∈ before, (heap cur).kind.isOpa = false := by
  rw [Heap.findTypedInChain, first_eq, List.find?_eq_some_iff_append] at found
  obtain ⟨isOpa, before, after, split, untyped⟩ := found
  exact ⟨isOpa, before, after, split, fun cur member => by simpa using untyped cur member⟩

/-- What raising an error does to a reference: the error itself leads to the handled
exception, and the cleared link leads nowhere where it was the only one. -/
theorem next_raiseFrom (heap : Heap Ref) (exc typed cur : Ref) :
    (heap.raiseFrom exc typed).next cur =
      if cur = typed then some exc
      else if heap.clearedLink exc typed = some cur then (heap cur).cause
      else heap.next cur := by
  unfold Heap.next Heap.raiseFrom Heap.clearLink
  split_ifs <;> simp

/-- The cleared link led to the error that is raised. -/
theorem context_of_clearedLink {cur : Ref} (cleared : heap.clearedLink exc typed = some cur) :
    typed ≠ exc ∧ (heap cur).context = some typed := by
  unfold Heap.clearedLink at cleared
  split at cleared
  · cases cleared
  · rename_i apart
    exact ⟨apart, by simpa using (first_eq_some_iff.mp cleared).1⟩

/-- Elsewhere raising an error keeps the reference or cuts the link to the error. -/
theorem next_raiseFrom_of_ne {cur : Ref} (other : cur ≠ typed) :
    (heap.raiseFrom exc typed).next cur = heap.next cur ∨
      (heap.raiseFrom exc typed).next cur = none ∧ heap.next cur = some typed := by
  rw [next_raiseFrom, if_neg other]
  by_cases cleared : heap.clearedLink exc typed = some cur
  · have led := (context_of_clearedLink cleared).2
    rw [if_pos cleared]
    cases caused : (heap cur).cause with
    | none => exact .inr ⟨rfl, by simp [Heap.next, caused, led]⟩
    | some cause => exact .inl (by simp [Heap.next, caused])
  · exact .inl (if_neg cleared)

/-- Raising an error changes no class and no text. -/
theorem toNode_raiseFrom (heap : Heap Ref) (exc typed cur : Ref) :
    (heap.raiseFrom exc typed cur).toNode = (heap cur).toNode := by
  unfold Heap.raiseFrom Heap.clearLink
  split_ifs <;> rfl

/-- From an error that is raised again the trail goes back to the handled exception and
up to the error. -/
theorem trail_raiseFrom {before after : List Ref}
    (split : trail heap.next exc = before ++ typed :: after) (apart : typed ∉ before) :
    trail (heap.raiseFrom exc typed).next typed = typed :: before := by
  have back : (heap.raiseFrom exc typed).next typed = some exc := by
    rw [next_raiseFrom, if_pos rfl]
  have same : ∀ cur ∈ before, (heap.raiseFrom exc typed).next cur = heap.next cur ∨
      (heap.raiseFrom exc typed).next cur = none ∧ heap.next cur = some typed :=
    fun cur member => next_raiseFrom_of_ne (fun equal => apart (equal ▸ member))
  have passed : Trail heap.next [] exc (before ++ typed :: after) := split ▸ trail_spec heap.next exc
  have rest : Trail (heap.raiseFrom exc typed).next [typed] exc before :=
    passed.cut same (fun cur => by simp)
  exact (trail_spec _ typed).unique (.step List.not_mem_nil back rest)

/-- A recovered error is raised with the path that the instance's handler gives it. -/
theorem raised_raiseFrom (found : heap.findTypedInChain exc = some typed) :
    (heap.raised exc).typedInChain = some ((heap.raiseFrom exc typed).raised typed) := by
  obtain ⟨isOpa, before, after, split, untyped⟩ := findTypedInChain_split found
  have apart : typed ∉ before := by
    intro member
    rw [untyped typed member] at isOpa
    cases isOpa
  have node := toNode_raiseFrom heap exc typed
  rw [Raised.typedInChain, raised_path, split, splitTyped_map heap before after typed untyped isOpa,
    Heap.raised, trail_raiseFrom split apart]
  simp only [Option.map_some, List.tail_cons, node]

/-- From a new error the trail goes on at the handled exception. -/
theorem trail_raiseNewFrom (heap : Heap Ref) (exc : Ref) (text : String) :
    trail (heap.raiseNewFrom exc text).next none = none :: (trail heap.next exc).map some := by
  have rest : Trail (heap.raiseNewFrom exc text).next [none] (some exc) ((trail heap.next exc).map some) :=
    (trail_spec heap.next exc).map (Option.some_injective Ref)
      (fun cur _ => next_raiseNewFrom heap exc text cur) (by simp)
  exact (trail_spec _ none).unique (.step List.not_mem_nil rfl rest)

/-- A new error is raised with the path of the handled exception behind it. -/
theorem raised_raiseNewFrom (heap : Heap Ref) (exc : Ref) (text : String) :
    (heap.raiseNewFrom exc text).raised none = opaErrorFrom .evaluation text (heap.raised exc) := by
  rw [opaErrorFrom, raised_path, Heap.raised, trail_raiseNewFrom, List.tail_cons, List.map_map]
  rfl

end Views

/-- The handlers do to the references what they do to the path. -/
theorem raised_reraise (heap : Heap Ref) (entered : Bool) (exc : Ref) :
    (reraise heap entered exc).raised = reraised entered (heap.raised exc) := by
  have kind : (heap.raised exc).kind = (heap exc).kind := rfl
  have text : (heap.raised exc).text = (heap exc).text := rfl
  unfold reraise reraised
  rw [kind]
  split
  · rfl
  · split
    · unfold evaluationFailure
      cases found : heap.findTypedInChain exc with
      | none =>
        rw [typedInChain_eq_none found, isEpochInterrupt_eq]
        cases entered && heap.isEpochInterrupt exc with
        | false => exact raised_raiseNewFrom heap exc _
        | true => exact raised_raiseNewFrom heap exc _
      | some typed =>
        rw [raised_raiseFrom found]
        rfl
    · rfl

/-- The handlers of the instance reset the heap and raise what `reraise` leaves. -/
theorem handleFailure_eq {σ α : Type} (setup : Setup σ) (heap : Heap Ref) (entered : Bool) (exc : Ref) :
    (handleFailure setup entered (heap.raised exc) : Py σ α) = (do
      if (heap exc).kind.isException then resetHeapIfSafe setup entered
      throw (reraise heap entered exc).raised) := by
  rw [raised_reraise]
  have kind : (heap.raised exc).kind = (heap exc).kind := rfl
  unfold handleFailure reraised
  rw [kind]
  by_cases passes : isPassthrough (heap exc).kind = true
  · have caught := isException_of_isOpa (isOpa_of_isPassthrough passes)
    simp only [passes, caught, if_true]
  · by_cases caught : (heap exc).kind.isException = true
    · simp only [passes, caught, if_true]
      rfl
    · simp only [passes, caught]
      rfl

/-- A recovered error hangs on the link that raising it again clears. -/
def Heap.HangsOnClearedLink (heap : Heap Ref) (exc typed : Ref) : Prop :=
  ∃ cur, heap.clearedLink exc typed = some cur ∧ (heap cur).cause = none ∧
    ∃ steps, follow heap.next steps exc = some cur

section Ends

variable {heap : Heap Ref} {exc typed : Ref}

/-- The chain of a recovered error that hung on the cleared link ends where the link was.

Proof: the link that is cleared is the last one before the recovered error. The chain from the
failure up to it is as before, and behind it there is nothing, so the chain from the recovered
error leads there and ends. -/
theorem terminates_of_hangs (acyclic : Terminates heap.next exc)
    (hangs : heap.HangsOnClearedLink exc typed) :
    Terminates (heap.raiseFrom exc typed).next typed := by
  obtain ⟨cur, cleared, uncaused, steps, reached⟩ := hangs
  have led := (context_of_clearedLink cleared).2
  have toTyped : heap.next cur = some typed := by simp [Heap.next, uncaused, led]
  have reachedTyped : follow heap.next (steps + 1) exc = some typed := by
    rw [follow_add, reached]
    simpa [follow] using toTyped
  have apart : cur ≠ typed := by
    rintro rfl
    have same := follow_injective acyclic reached reachedTyped
    omega
  have same : ∀ earlier < steps, ∀ other, follow heap.next earlier exc = some other →
      (heap.raiseFrom exc typed).next other = (heap.next other).map id := by
    intro earlier less other passed
    have notTyped : other ≠ typed := by
      rintro rfl
      have same := follow_injective acyclic passed reachedTyped
      omega
    have notCur : heap.clearedLink exc typed ≠ some other := by
      rw [cleared]
      intro equal
      have same := follow_injective acyclic passed (Option.some.inj equal ▸ reached)
      omega
    rw [next_raiseFrom, if_neg notTyped, if_neg notCur, Option.map_id_fun, id]
  have stillReached : follow (heap.raiseFrom exc typed).next steps exc = some cur := by
    have passed := follow_map id same
    rwa [Option.map_id_fun, id_eq, id_eq, reached] at passed
  have ended : (heap.raiseFrom exc typed).next cur = none := by
    rw [next_raiseFrom, if_neg apart, if_pos cleared, uncaused]
  have back : (heap.raiseFrom exc typed).next typed = some exc := by
    rw [next_raiseFrom, if_pos rfl]
  obtain ⟨left, ends⟩ := terminates_of_follow stillReached ⟨0, .last ended⟩
  exact ⟨left + 1, .step back ends⟩

/-- The chain of any other recovered error comes back to it. -/
theorem not_terminates_of_found (found : heap.findTypedInChain exc = some typed)
    (free : ¬heap.HangsOnClearedLink exc typed) :
    ¬Terminates (heap.raiseFrom exc typed).next typed := by
  obtain ⟨isOpa, steps, reached, untyped⟩ := first_eq_some_iff.mp found
  have same : ∀ earlier < steps, ∀ cur, follow heap.next earlier exc = some cur →
      (heap.raiseFrom exc typed).next cur = (heap.next cur).map id := by
    intro earlier less cur passed
    have notTyped : cur ≠ typed := by
      rintro rfl
      rw [untyped earlier less cur passed] at isOpa
      cases isOpa
    rw [next_raiseFrom, if_neg notTyped, Option.map_id_fun, id]
    by_cases cleared : heap.clearedLink exc typed = some cur
    · rw [if_pos cleared]
      cases caused : (heap cur).cause with
      | none => exact absurd ⟨cur, cleared, caused, earlier, passed⟩ free
      | some cause => simp [Heap.next, caused]
    · rw [if_neg cleared]
  have passed := follow_map id same
  rw [Option.map_id_fun, id_eq, id_eq, reached] at passed
  have closes : follow (heap.raiseFrom exc typed).next (steps + 1) typed = some typed := by
    rw [follow_succ, next_raiseFrom, if_pos rfl]
    exact passed
  exact not_terminates_of_cycle closes

end Ends

/-- Where the chain of a failure ends, the chain of the error that is raised again ends
exactly if the failure passes unchanged, or no typed error is recovered from it, or the
recovered error hung on the link that raising it clears.

Proof: a failure that passes, and a new error raised from it, add nothing or one element in
front of a chain that ends. A recovered error is raised from the failure whose chain leads to
it; this closes a cycle, unless the chain led to it over the link that is cleared. -/
theorem reraise_terminates_iff (heap : Heap Ref) (entered : Bool) (exc : Ref)
    (acyclic : Chains.Terminates heap.next exc) :
    (reraise heap entered exc).Terminates ↔
      isPassthrough (heap exc).kind = true ∨ (heap exc).kind.isException = false ∨
        ∀ typed, heap.findTypedInChain exc = some typed → heap.HangsOnClearedLink exc typed := by
  unfold reraise
  by_cases passes : isPassthrough (heap exc).kind = true
  · simp only [passes, if_true, true_or, iff_true]
    exact acyclic
  · by_cases caught : (heap exc).kind.isException = true
    · simp only [passes, caught, if_true, if_false, false_or, Bool.true_eq_false, Bool.false_eq_true]
      cases found : heap.findTypedInChain exc with
      | none =>
        simp only [reduceCtorEq, false_implies, implies_true, iff_true]
        split
        · exact terminates_raiseNewFrom acyclic _
        · exact terminates_raiseNewFrom acyclic _
      | some typed =>
        simp only [Option.some.injEq, forall_eq']
        constructor
        · intro ended
          by_contra free
          exact not_terminates_of_found found free ended
        · exact terminates_of_hangs acyclic
    · have uncaught := Bool.eq_false_iff.mpr caught
      simp only [passes, uncaught, if_false, Bool.false_eq_true, true_or, or_true, iff_true]
      exact acyclic

/-- A builtin's error that reaches the handler itself. -/
def builtinError : Heap Unit := fun _ =>
  { kind := .opa .builtin, text := "builtin failed", cause := none, context := none }

/-- It becomes its own cause. -/
theorem builtinError_causes_itself :
    Chains.Terminates builtinError.next () ∧ ¬(reraise builtinError true ()).Terminates := by
  have closes : follow (builtinError.raiseFrom () ()).next (0 + 1) () = some () := rfl
  exact ⟨⟨0, .last rfl⟩, not_terminates_of_cycle closes⟩

/-- A trap that was raised while a builtin's error was handled. -/
def trapInContext : Heap Bool
  | false => { kind := .trap false, text := "wasm trap", cause := none, context := some true }
  | true => { kind := .opa .builtin, text := "builtin failed", cause := none, context := none }

/-- The builtin's error is raised again and its chain ends at the trap. -/
theorem trapInContext_ends : (reraise trapInContext true false).Terminates :=
  (reraise_terminates_iff trapInContext true false ⟨1, .step rfl (.last rfl)⟩).mpr
    (.inr (.inr fun typed found => ⟨false, by revert typed; decide, rfl, 0, rfl⟩))

end OpaPyWasm.ExceptionChains
