import Mathlib.Data.Fintype.Sum
import OpaPyWasm.ExceptionChains
import OpaPyWasm.TypedErrors

/-!
# The caller's exception

A caller may evaluate a policy while it handles an exception of its own. Python then
appends that exception at the end of the chain of contexts of whatever the evaluation
raises, where the handlers of `Evaluator.evaluate` may come to it.

What the evaluation reports is the same for all callers exactly if the handlers stop
before: they do not search at all, or find a typed error of this evaluation first, or
leave the chain of contexts for the cause of some exception and do not come back to
its end.
-/

namespace OpaPyWasm.AmbientErrors

open Exceptions Values Effects Chains GuestCalls PolicyInstance ExceptionChains

variable {Ref Other : Type} [Fintype Ref] [DecidableEq Ref]

/-- The exceptions of an evaluation that failed with `exc` and those of a caller who
handles one or none of them. -/
def underAmbient (heap : Heap Ref) (exc : Ref) (ambient : Heap Other)
    (handled : Option Other) : Heap (Ref ⊕ Other)
  | .inl cur =>
    if (heap cur).context = none ∧ cur ∈ trail (fun cur => (heap cur).context) exc then
      { (heap cur).map Sum.inl with context := handled.map Sum.inr }
    else (heap cur).map Sum.inl
  | .inr other => (ambient other).map Sum.inr

/-- The handlers walk to the end of the chain of contexts. -/
def ShowsAmbient (heap : Heap Ref) (exc : Ref) : Prop :=
  ∃ last, EndsAt (fun cur => (heap cur).context) exc last ∧ EndsAt heap.next exc last

/-- The class and the message of an exception in flight. -/
def shown (raised : Raised) : Node := ⟨raised.kind, raised.text⟩

/-- The class and the message with which `Evaluator.evaluate` ends. -/
def report {σ : Type} (setup : Setup σ) (world : World σ) (entered : Bool) (raised : Raised) :
    Option Node :=
  match outcome (handleFailure setup entered raised : Py σ Value) world with
  | .ok _ => none
  | .error error => some (shown error)

section Walks

variable {heap : Heap Ref} {exc : Ref} {ambient : Heap Other} {handled : Option Other}

/-- Each exception keeps its class and text. -/
theorem toNode_underAmbient (heap : Heap Ref) (exc cur : Ref) (ambient : Heap Other)
    (handled : Option Other) :
    (underAmbient heap exc ambient handled (.inl cur)).toNode = (heap cur).toNode := by
  simp only [underAmbient]
  split <;> rfl

/-- Only the end of the chain of contexts leads to the caller's exception. -/
theorem next_underAmbient (heap : Heap Ref) (exc cur : Ref) (ambient : Heap Other)
    (handled : Option Other) :
    (underAmbient heap exc ambient handled).next (.inl cur) =
      if heap.next cur = none ∧ cur ∈ trail (fun cur => (heap cur).context) exc then
        handled.map Sum.inr
      else (heap.next cur).map Sum.inl := by
  simp only [Heap.next, underAmbient]
  obtain caused | ⟨cause, caused⟩ := Option.eq_none_or_eq_some (heap cur).cause
  · by_cases atEnd : (heap cur).context = none ∧ cur ∈ trail (fun cur => (heap cur).context) exc
    · simp [ExceptionNode.map, caused, atEnd]
    · simp [ExceptionNode.map, caused, atEnd]
  · by_cases atEnd : (heap cur).context = none ∧ cur ∈ trail (fun cur => (heap cur).context) exc
    · simp [ExceptionNode.map, caused, atEnd]
    · simp [ExceptionNode.map, caused, atEnd]

/-- Every step of the evaluation's own chain stays. -/
theorem next_kept (cur following : Ref) (more : heap.next cur = some following) :
    (underAmbient heap exc ambient handled).next (.inl cur) = some (.inl following) := by
  rw [next_underAmbient, more, if_neg (fun ended => by cases ended.1)]
  rfl

/-- Where the handlers do not come to the end of the chain of contexts, they walk as
without the caller's exception. -/
theorem next_hidden (hidden : ¬ShowsAmbient heap exc) (steps : Nat) (cur : Ref)
    (reached : follow heap.next steps exc = some cur) :
    (underAmbient heap exc ambient handled).next (.inl cur) =
      (heap.next cur).map Sum.inl := by
  rw [next_underAmbient]
  split
  · rename_i shown
    have contextEnds : (heap cur).context = none := by
      have ended := shown.1
      unfold Heap.next at ended
      cases caused : (heap cur).cause with
      | none => simpa [caused] using ended
      | some cause => simp [caused] at ended
    exact absurd ⟨cur, ⟨contextEnds, mem_trail_iff.mp shown.2⟩, shown.1, steps, reached⟩ hidden
  · rfl

variable [Fintype Other] [DecidableEq Other]

/-- A typed error on the way of this evaluation is found whatever the caller handles. -/
theorem findTypedInChain_kept {typed : Ref} (found : heap.findTypedInChain exc = some typed) :
    (underAmbient heap exc ambient handled).findTypedInChain (.inl exc) = some (.inl typed) := by
  have same : (fun cur => ((underAmbient heap exc ambient handled) cur).kind.isOpa) ∘ Sum.inl =
      fun cur => (heap cur).kind.isOpa :=
    funext fun cur => by rw [Function.comp_apply, toNode_underAmbient]
  exact first_embed Sum.inl next_kept (by rw [same]; exact found)

/-- Hidden exceptions of the caller are not found. -/
theorem findTypedInChain_hidden (hidden : ¬ShowsAmbient heap exc) :
    (underAmbient heap exc ambient handled).findTypedInChain (.inl exc) =
      (heap.findTypedInChain exc).map .inl := by
  have same : (fun cur => ((underAmbient heap exc ambient handled) cur).kind.isOpa) ∘ Sum.inl =
      fun cur => (heap cur).kind.isOpa :=
    funext fun cur => by rw [Function.comp_apply, toNode_underAmbient]
  rw [Heap.findTypedInChain, Heap.findTypedInChain, ← same]
  exact first_map Sum.inl _ (next_hidden hidden)

/-- Hidden texts of the caller's exceptions are not read. -/
theorem isEpochInterrupt_hidden (hidden : ¬ShowsAmbient heap exc) :
    (underAmbient heap exc ambient handled).isEpochInterrupt (.inl exc) =
      heap.isEpochInterrupt exc := by
  have same : (fun cur => mentionsInterrupt ((underAmbient heap exc ambient handled) cur).text) ∘
      Sum.inl = fun cur => mentionsInterrupt (heap cur).text :=
    funext fun cur => by rw [Function.comp_apply, toNode_underAmbient]
  rw [Heap.isEpochInterrupt, Heap.isEpochInterrupt, ← same,
    first_map Sum.inl _ (next_hidden hidden), Option.isSome_map]

end Walks

section Reports

variable {heap : Heap Ref} {exc : Ref}

/-- The class and the message of the error that is raised for a failure. -/
theorem shown_reraise (heap : Heap Ref) (entered : Bool) (exc : Ref) :
    shown (reraise heap entered exc).raised =
      if isPassthrough (heap exc).kind = true ∨ (heap exc).kind.isException = false then
        (heap exc).toNode
      else match heap.findTypedInChain exc with
        | some typed => (heap typed).toNode
        | none => ⟨.opa .evaluation,
          if entered && heap.isEpochInterrupt exc then
            "evaluation exceeded its time limit (eval_timeout_seconds) and was interrupted"
          else s!"evaluation failed: {(heap exc).text}"⟩ := by
  unfold reraise
  by_cases passes : isPassthrough (heap exc).kind = true
  · rw [if_pos passes, if_pos (.inl passes)]
    rfl
  · cases caught : (heap exc).kind.isException with
    | false => simp only [passes, if_false, Bool.false_eq_true, or_true, if_true]; rfl
    | true =>
      simp only [passes, if_true, Bool.true_eq_false, or_false]
      cases found : heap.findTypedInChain exc with
      | none => cases entered && heap.isEpochInterrupt exc <;> rfl
      | some typed => exact toNode_raiseFrom heap exc typed typed

/-- The caller's exception changes no report if the handlers do not search, or find a typed
error of this evaluation, or do not come to it.

Proof: the report depends on the failure itself, on the typed error that is found and on the
text of an interrupt. Under each of the three conditions these are the same on both heaps. -/
theorem shown_underAmbient [Fintype Other] [DecidableEq Other]
    (settled : (heap exc).kind.isException = false ∨ (heap.findTypedInChain exc).isSome = true ∨
      ¬ShowsAmbient heap exc) (entered : Bool) (ambient : Heap Other) (handled : Option Other) :
    shown (reraise (underAmbient heap exc ambient handled) entered (.inl exc)).raised =
      shown (reraise heap entered exc).raised := by
  have node := toNode_underAmbient heap exc exc ambient handled
  have kind := congrArg Node.kind node
  have text := congrArg Node.text node
  rw [shown_reraise, shown_reraise, kind, text, node]
  split
  · rfl
  · rename_i searches
    have found : (underAmbient heap exc ambient handled).findTypedInChain (.inl exc) =
        (heap.findTypedInChain exc).map .inl := by
      rcases settled with uncaught | typed | hidden
      · exact absurd (.inr uncaught) searches
      · obtain ⟨typed, found⟩ := Option.isSome_iff_exists.mp typed
        rw [findTypedInChain_kept found, found]
        rfl
      · exact findTypedInChain_hidden hidden
    rw [found]
    cases first : heap.findTypedInChain exc with
    | some typed => exact toNode_underAmbient heap exc typed ambient handled
    | none =>
      rcases settled with uncaught | typed | hidden
      · exact absurd (.inr uncaught) searches
      · rw [first] at typed
        cases typed
      · rw [isEpochInterrupt_hidden hidden]
        rfl

/-- Where the handlers come to the caller's exception and find no typed error before, they
find the caller's. -/
theorem findTypedInChain_shown [Fintype Other] [DecidableEq Other] (shows : ShowsAmbient heap exc)
    (missing : heap.findTypedInChain exc = none) (ambient : Heap Other) (handled : Other)
    (typed : (ambient handled).kind.isOpa = true) :
    (underAmbient heap exc ambient (some handled)).findTypedInChain (.inl exc) =
      some (.inr handled) := by
  obtain ⟨last, ⟨-, contextSteps, lastContext⟩, ended, steps, reached⟩ := shows
  have kept : follow (underAmbient heap exc ambient (some handled)).next steps (.inl exc) =
      some (.inl last) := follow_embed Sum.inl next_kept reached
  have crossing : (underAmbient heap exc ambient (some handled)).next (.inl last) =
      some (.inr handled) := by
    rw [next_underAmbient, if_pos ⟨ended, mem_trail_iff.mpr ⟨contextSteps, lastContext⟩⟩]
    rfl
  refine first_eq_some_iff.mpr ⟨typed, steps + 1, ?_, ?_⟩
  · rw [follow_add, kept]
    simp [follow, crossing]
  · intro earlier less element passed
    obtain ⟨original, here⟩ := exists_follow_of_le reached (Nat.le_of_lt_succ less)
    have there : follow (underAmbient heap exc ambient (some handled)).next earlier (.inl exc) =
        some (.inl original) := follow_embed Sum.inl next_kept here
    cases Option.some.inj (passed.symm.trans there)
    rw [toNode_underAmbient]
    exact first_eq_none_iff.mp missing earlier original here

/-- The handlers raise the caller's error again. -/
theorem shown_reraise_shown [Fintype Other] [DecidableEq Other] (shows : ShowsAmbient heap exc)
    (missing : heap.findTypedInChain exc = none) (caught : (heap exc).kind.isException = true)
    (entered : Bool) (ambient : Heap Other) (handled : Other)
    (typed : (ambient handled).kind.isOpa = true) :
    shown (reraise (underAmbient heap exc ambient (some handled)) entered (.inl exc)).raised =
      (ambient handled).toNode := by
  have untyped : (heap exc).kind.isOpa = false := first_eq_none_iff.mp missing 0 exc rfl
  have searches : ¬(isPassthrough (heap exc).kind = true ∨ (heap exc).kind.isException = false) := by
    rintro (passes | uncaught)
    · rw [isOpa_of_isPassthrough passes] at untyped
      cases untyped
    · rw [caught] at uncaught
      cases uncaught
  rw [shown_reraise, toNode_underAmbient, if_neg searches,
    findTypedInChain_shown shows missing ambient handled typed]
  rfl

/-- Two errors of earlier calls that a caller may handle. -/
def earlierErrors : Heap Bool
  | false => { kind := .opa .data, text := "failed to load data", cause := none, context := none }
  | true => { kind := .opa .builtin, text := "builtin failed", cause := none, context := none }

variable {σ : Type} {setup : Setup σ} {world : World σ}

/-- A report depends on the class of the failure and on what is raised for it. -/
theorem report_congr {Ref' : Type} [Fintype Ref'] [DecidableEq Ref'] {heap' : Heap Ref'} {exc' : Ref'}
    {entered : Bool} (caught : (heap exc).kind.isException = (heap' exc').kind.isException)
    (same : shown (reraise heap entered exc).raised = shown (reraise heap' entered exc').raised) :
    report setup world entered (heap.raised exc) =
      report setup world entered (heap'.raised exc') := by
  unfold report
  rw [handleFailure_eq, handleFailure_eq, ← caught]
  cases (heap exc).kind.isException with
  | false => exact congrArg some same
  | true =>
    simp only [if_true, outcome_then_throw]
    cases outcome (resetHeapIfSafe setup entered) world with
    | ok => exact congrArg some same
    | error => rfl

/-- After the guest's entry the report is what is raised. -/
theorem report_entered (heap : Heap Ref) (exc : Ref) :
    report setup world true (heap.raised exc) = some (shown (reraise heap true exc).raised) := by
  unfold report
  rw [handleFailure_eq]
  cases (heap exc).kind.isException <;> rfl

end Reports

/-- A trap without a cause or a context. -/
def bareTrap : Heap Unit := fun _ =>
  { kind := .trap false, text := "wasm trap: integer overflow", cause := none, context := none }

set_option maxRecDepth 20000 in
/-- Its text does not look like that of an expired deadline. -/
theorem bareTrap_not_interrupt : mentionsInterrupt "wasm trap: integer overflow" = false := by
  have lower : "wasm trap: integer overflow".toLower = "wasm trap: integer overflow" := by decide +kernel
  simp only [mentionsInterrupt, lower]
  simp +decide [String.splitOn, String.splitOnAux]

end OpaPyWasm.AmbientErrors
