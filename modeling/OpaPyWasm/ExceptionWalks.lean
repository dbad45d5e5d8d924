import OpaPyWasm.ExceptionChains
import OpaPyWasm.Library.Loops

/-!
# The walks along an exception's chain

`_find_typed_in_chain` and `_is_epoch_interrupt` follow an exception's cause, or else its
context, and keep the identities that they have seen. The references may form cycles: `evaluate`
itself raises a typed error from an exception that leads to it. The loops return all the same,
and what they return is what stands first on the path.
-/

namespace OpaPyWasm.ExceptionChains

open Exceptions Chains Loops

variable {Ref : Type} [DecidableEq Ref]

/-- `seen = set()` and `cur = exc`. -/
def walkFrom (exc : Ref) : Visit Ref := ⟨some exc, []⟩

/-- A round of the loop of `_find_typed_in_chain`. -/
def Heap.findTypedRound (heap : Heap Ref) : Visit Ref → Option Ref ⊕ Visit Ref :=
  visit heap.next (fun cur => (heap cur).kind.isOpa) some none

/-- A round of the loop of `_is_epoch_interrupt`. -/
def Heap.isEpochInterruptRound (heap : Heap Ref) : Visit Ref → Bool ⊕ Visit Ref :=
  visit heap.next (fun cur => mentionsInterrupt (heap cur).text) (fun _ => true) false

variable [Fintype Ref]

/-- The loops return what the searches of the handlers find. -/
theorem findTypedInChain_returns (heap : Heap Ref) (exc : Ref) :
    Returns heap.findTypedRound (walkFrom exc) (heap.findTypedInChain exc) := by
  have returns : Returns heap.findTypedRound (walkFrom exc)
      ((heap.findTypedInChain exc).elim none some) :=
    visit_returns_first _ some none exc
  cases found : heap.findTypedInChain exc with
  | none => rwa [found] at returns
  | some typed => rwa [found] at returns

/-- The walk of `_is_epoch_interrupt` returns what its rounds find. -/
theorem isEpochInterrupt_returns (heap : Heap Ref) (exc : Ref) :
    Returns heap.isEpochInterruptRound (walkFrom exc) (heap.isEpochInterrupt exc) := by
  have returns : Returns heap.isEpochInterruptRound (walkFrom exc) _ :=
    visit_returns_first _ (fun _ => true) false exc
  unfold Heap.isEpochInterrupt
  cases found : first heap.next (fun cur => mentionsInterrupt (heap cur).text) exc with
  | none => rwa [found] at returns
  | some interrupted => rwa [found] at returns

/-- Every exception has one path, and both walks return: one the first typed error on the path, the
other whether the text of an interrupt is on it.

Proof: the path is the trail of the chain, which has no repetition, as the walk remembers what
it has seen. Both rounds stop at the first element that passes their test. -/
theorem chain_walks_exact (heap : Heap Ref) (exc : Ref) :
    ∃ path, (IsPath heap.next exc path ∧ ∀ other, IsPath heap.next exc other → other = path) ∧
      (∀ typed, Returns heap.findTypedRound (walkFrom exc) typed ↔
        typed = path.find? fun cur => (heap cur).kind.isOpa) ∧
      ∀ interrupted, Returns heap.isEpochInterruptRound (walkFrom exc) interrupted ↔
        (interrupted = true ↔ ∃ cur ∈ path, mentionsInterrupt (heap cur).text = true) := by
  have isPath := isPath_of_trail (trail_spec heap.next exc)
  refine ⟨trail heap.next exc, ⟨isPath, fun other again => again.unique isPath⟩, ?_, ?_⟩
  · intro typed
    refine (visit_returns_iff _ some none isPath).trans ?_
    cases (trail heap.next exc).find? fun cur => (heap cur).kind.isOpa with
    | none => rfl
    | some first => rfl
  · intro interrupted
    refine (visit_returns_iff _ (fun _ => true) false isPath).trans ?_
    rw [← List.find?_isSome]
    cases (trail heap.next exc).find? fun cur => mentionsInterrupt (heap cur).text with
    | none => simp
    | some first => simp

end OpaPyWasm.ExceptionChains
