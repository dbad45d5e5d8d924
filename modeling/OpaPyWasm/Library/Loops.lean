import OpaPyWasm.Library.Chains

/-!
# Loops along chains

A loop runs its body until the body ends it with a result. Nothing bounds its rounds, so that
it returns is to be proved. A loop that visits a chain and keeps what it has seen returns
wherever the chain has a trail, and finds the first element of the trail that passes its test.

The path of a chain is what lies before its end or its first repeated element. The trail from
the beginning is this path.
-/

namespace Loops

open Chains

universe u v w
variable {State : Type u} {Result : Type v} {α : Type w}

/-- A loop from a state returns a result: its body ends it or goes on with another state. -/
inductive Returns (body : State → Result ⊕ State) : State → Result → Prop
  | ended {state : State} {result : Result} (last : body state = .inl result) :
      Returns body state result
  | again {state after : State} {result : Result} (more : body state = .inr after)
      (rest : Returns body after result) : Returns body state result

/-- A loop returns one result. -/
theorem Returns.unique {body : State → Result ⊕ State} {state : State} {result other : Result}
    (first : Returns body state result) (second : Returns body state other) : result = other := by
  induction first with
  | ended last =>
    cases second with
    | ended last' => exact Sum.inl.inj (last.symm.trans last')
    | again more _ =>
      rw [last] at more
      cases more
  | again more _ inductionHypothesis =>
    cases second with
    | ended last =>
      rw [more] at last
      cases last
    | again more' rest =>
      cases Sum.inr.inj (more.symm.trans more')
      exact inductionHypothesis rest

/-- The elements of a chain up to its end or its first repeated element. -/
structure IsPath (next : α → Option α) (start : α) (path : List α) : Prop where
  places : ∀ place < path.length, path[place]? = follow next place start
  distinct : path.Nodup
  stops : ∀ following, follow next path.length start = some following → following ∈ path

section Paths

variable {next : α → Option α} {start : α} {seen path other : List α}

/-- A walk passes nothing twice. -/
theorem nodup_of_trail (trail : Trail next seen start path) : path.Nodup := by
  induction trail with
  | seen => exact List.nodup_nil
  | last => exact List.nodup_singleton _
  | step _ _ trail inductionHypothesis =>
    refine List.nodup_cons.mpr ⟨fun member => ?_, inductionHypothesis⟩
    exact trail.fresh member List.mem_cons_self

/-- Behind a trail the chain ends or comes to what was seen or passed. -/
theorem mem_of_follow_length (trail : Trail next seen start path) {following : α}
    (reached : follow next path.length start = some following) : following ∈ seen ++ path := by
  induction trail with
  | seen again =>
    rw [List.append_nil, ← Option.some.inj reached]
    exact again
  | last fresh ended =>
    rw [List.length_singleton, follow_succ, ended] at reached
    cases reached
  | step fresh more trail inductionHypothesis =>
    rw [List.length_cons, follow_succ, more] at reached
    have inside := inductionHypothesis reached
    simp only [List.cons_append, List.mem_cons, List.mem_append] at inside ⊢
    tauto

/-- The trail from the beginning is the path. -/
theorem isPath_of_trail (trail : Trail next [] start path) : IsPath next start path where
  places _ inside := trail.getElem? inside
  distinct := nodup_of_trail trail
  stops following reached := by simpa using mem_of_follow_length trail reached

/-- No path is longer than another. -/
theorem IsPath.length_le (isPath : IsPath next start path) (again : IsPath next start other) :
    path.length ≤ other.length := by
  by_contra longer
  have inside : other.length < path.length := Nat.lt_of_not_le longer
  have passed : path[other.length]? = some path[other.length] := List.getElem?_eq_getElem inside
  have reached := (isPath.places other.length inside).symm.trans passed
  obtain ⟨earlier, less, same⟩ := List.getElem_of_mem (again.stops _ reached)
  have before : earlier < path.length := less.trans inside
  have here : path[earlier]? = some path[other.length] := by
    rw [isPath.places earlier before, ← again.places earlier less, ← same]
    exact List.getElem?_eq_getElem less
  have repeated : path[earlier] = path[other.length] := by
    rw [List.getElem?_eq_getElem before] at here
    exact Option.some.inj here
  have equal := (isPath.distinct.getElem_inj_iff).mp repeated
  omega

/-- There is one path. -/
theorem IsPath.unique (isPath : IsPath next start path) (again : IsPath next start other) :
    path = other := by
  have length := Nat.le_antisymm (isPath.length_le again) (again.length_le isPath)
  refine List.ext_getElem? fun place => ?_
  by_cases inside : place < path.length
  · rw [isPath.places place inside, again.places place (length ▸ inside)]
  · rw [List.getElem?_eq_none (Nat.le_of_not_lt inside),
      List.getElem?_eq_none (Nat.le_of_not_lt (length ▸ inside))]

end Paths

section Visits

/-- What a loop along a chain keeps: where it is and what it has seen. -/
structure Visit (α : Type w) where
  cur : Option α
  seen : List α

variable [DecidableEq α] (next : α → Option α) (test : α → Bool) (found : α → Result) (missing : Result)

/-- A round of the loop: it ends behind the chain, at an element that it has seen and at one that
passes the test. -/
def visit (state : Visit α) : Result ⊕ Visit α :=
  match state.cur with
  | none => .inl missing
  | some cur =>
    if cur ∈ state.seen then .inl missing
    else if test cur then .inl (found cur)
    else .inr ⟨next cur, cur :: state.seen⟩

variable {next} {start : α} {seen path : List α}

/-- The loop returns where its chain has a trail. -/
theorem visit_returns (trail : Trail next seen start path) :
    Returns (visit next test found missing) ⟨some start, seen⟩ ((path.find? test).elim missing found) := by
  induction trail with
  | seen again => exact .ended (by simp [visit, again])
  | @last seen start fresh ended =>
    cases passes : test start with
    | true => exact .ended (by simp [visit, fresh, passes])
    | false =>
      have more : visit next test found missing ⟨some start, seen⟩ = .inr ⟨none, start :: seen⟩ := by
        simp [visit, fresh, passes, ended]
      exact .again more (.ended (by simp [visit, passes]))
  | @step seen _ start following fresh onwards _ inductionHypothesis =>
    cases passes : test start with
    | true => exact .ended (by simp [visit, fresh, passes])
    | false =>
      have more : visit next test found missing ⟨some start, seen⟩ =
          .inr ⟨some following, start :: seen⟩ := by
        simp [visit, fresh, passes, onwards]
      rw [List.find?_cons_of_neg (by simp [passes])]
      exact .again more inductionHypothesis

variable [Fintype α]

/-- On finitely many elements the loop returns what a search along the chain finds. -/
theorem visit_returns_first (start : α) :
    Returns (visit next test found missing) ⟨some start, []⟩
      ((first next test start).elim missing found) := by
  rw [first_eq]
  exact visit_returns test found missing (trail_spec next start)

/-- What the loop returns is what the path of the chain has first. -/
theorem visit_returns_iff (isPath : IsPath next start path) {result : Result} :
    Returns (visit next test found missing) ⟨some start, []⟩ result ↔
      result = (path.find? test).elim missing found := by
  have spec := trail_spec next start
  rw [← (isPath_of_trail spec).unique isPath]
  have returns := visit_returns test found missing spec
  constructor
  · intro other
    exact other.unique returns
  · rintro rfl
    exact returns

end Visits

end Loops
