import OpaPyWasm.Library.Machines

/-!
# Machines that come to rest

Where each admitted step takes something off a rank, no run of admitted steps is longer
than the rank of the state it starts from. Where besides some admitted step is enabled
in every state that is not settled, such runs end in settled states only, and one of
them does from every reachable state.
-/

namespace Machines

universe u v
variable {State : Type u} {Label : Type v}

/-- The labels of a run of admitted steps, in their order. -/
inductive Takes (machine : Machine State Label) (admits : State → Label → Prop) :
    State → List Label → State → Prop
  | nil (state : State) : Takes machine admits state [] state
  | cons {first middle last : State} {label : Label} {labels : List Label}
      (admitted : admits first label) (stepped : machine.step first label = some middle)
      (later : Takes machine admits middle labels last) :
      Takes machine admits first (label :: labels) last

variable {machine : Machine State Label} {admits : State → Label → Prop} {first last : State}
  {labels : List Label}

/-- The labels of a run make it a run. -/
theorem Takes.reaches (taken : Takes machine admits first labels last) :
    Reaches machine admits first last := by
  induction taken with
  | nil => exact Relation.ReflTransGen.refl
  | cons admitted stepped _ inductionHypothesis =>
    exact Relation.ReflTransGen.head ⟨_, admitted, stepped⟩ inductionHypothesis

/-- Every admitted step from a reachable state takes something off the rank. -/
def Falls (machine : Machine State Label) (admits : State → Label → Prop) (rank : State → Nat) :
    Prop :=
  ∀ before label after, Reachable machine before → admits before label →
    machine.step before label = some after → rank after < rank before

/-- In every reachable state that is not settled some admitted step is enabled. -/
def Advances (machine : Machine State Label) (admits : State → Label → Prop)
    (settled : State → Prop) : Prop :=
  ∀ state, Reachable machine state → ¬settled state →
    ∃ label after, admits state label ∧ machine.step state label = some after

/-- A run is no longer than what it takes off the rank. -/
theorem Falls.bounds {rank : State → Nat} (falls : Falls machine admits rank)
    (reached : Reachable machine first) (taken : Takes machine admits first labels last) :
    labels.length + rank last ≤ rank first := by
  induction taken with
  | nil => simp
  | cons admitted stepped _ inductionHypothesis =>
    have fell := falls _ _ _ reached admitted stepped
    have rest := inductionHypothesis (reachable_step reached stepped)
    simp only [List.length_cons]
    omega

/-- Where nothing admitted is enabled any more, the state is settled. -/
theorem Advances.settled {settled : State → Prop} (advances : Advances machine admits settled)
    (reached : Reachable machine last)
    (stuck : ∀ label, admits last label → machine.step last label = none) : settled last := by
  refine Classical.byContradiction (fun unsettled => ?_)
  obtain ⟨label, after, admitted, stepped⟩ := advances last reached unsettled
  rw [stuck label admitted] at stepped
  cases stepped

/-- From every reachable state some run leads to a settled one. -/
theorem Advances.settles {settled : State → Prop} {rank : State → Nat}
    (advances : Advances machine admits settled) (falls : Falls machine admits rank)
    (reached : Reachable machine first) :
    ∃ labels last, Takes machine admits first labels last ∧ settled last := by
  induction remaining : rank first using Nat.strongRecOn generalizing first with
  | _ bound inductionHypothesis =>
    by_cases done : settled first
    · exact ⟨[], first, .nil first, done⟩
    · obtain ⟨label, middle, admitted, stepped⟩ := advances first reached done
      have fell := falls first label middle reached admitted stepped
      obtain ⟨labels, last, taken, ends⟩ := inductionHypothesis (rank middle) (remaining ▸ fell)
        (reachable_step reached stepped) rfl
      exact ⟨label :: labels, last, .cons admitted stepped taken, ends⟩

end Machines
