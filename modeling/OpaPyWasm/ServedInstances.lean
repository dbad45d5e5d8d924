import OpaPyWasm.DataVersions
import OpaPyWasm.FreshInstances
import OpaPyWasm.ThreadPlaces

/-!
# The instances behind the policy

While no exception outside `Exception` cuts a reload or an evaluation short, every
instance that is not poisoned is the result of loads and evaluations that came to
their end, and the contents recorded for it are what it loaded last. So an instance
on loan has loaded the data that its borrower saw.
-/

namespace OpaPyWasm.InstancePool

/-- Only the factory's return adds an instance. -/
theorem Move.builds_only {α : Type} {config : Config} {shared shared' : Shared}
    {point point' : Point α} {action : Action α}
    (move : Move config shared point action shared' point') (reads : action.writes = false) :
    shared'.built = shared.built := by
  cases move with
  | instanceBuilt => simp [Action.writes] at reads
  | instanceReturned => unfold Shared.putInstance; split <;> rfl
  | _ => rfl

end OpaPyWasm.InstancePool

namespace OpaPyWasm.PolicyService

open Exceptions Values Effects GuestCalls WasmtimeRuntime PolicyInstance Machines Threads Refinement

variable {Thread σ : Type} {policy : Deployment σ}

/-- What is behind a number of an instance, unless it is poisoned. -/
def Shared.Loaded (policy : Deployment σ) (shared : Shared Thread σ) (id : Nat) : Prop :=
  (shared.policy.pool.instances id).poisoned = false →
    ∃ data, shared.policy.contents id = .document data ∧
      Used policy.setup (Deployment.document data) (shared.worlds id)

/-- An instance on loan is healthy and has loaded what its borrower saw. -/
def Local.Serves (shared : Shared Thread σ) (here : Local) : Prop :=
  match here.policy.control, here.policy.pool with
  | .loaned, .yielded id _ => (shared.policy.pool.instances id).poisoned = false ∧
      shared.policy.contents id = .document here.seen
  | .guest, .yielded id _ => (shared.policy.pool.instances id).poisoned = false ∧
      shared.policy.contents id = .document here.seen
  | _, _ => True

/-- A loan of an instance that has loaded the data. -/
theorem serves_yielded {shared : Shared Thread σ} {here : Local} {id : Nat} {mark : Bool}
    (pool : here.policy.pool = .yielded id mark)
    (healthy : (shared.policy.pool.instances id).poisoned = false)
    (contents : shared.policy.contents id = .document here.seen) : here.Serves shared := by
  unfold Local.Serves
  rw [pool]
  split
  · rename_i same
    cases same
    exact ⟨healthy, contents⟩
  · rename_i same
    cases same
    exact ⟨healthy, contents⟩
  · trivial

/-- Nothing is asked of a thread that is not on a loan. -/
theorem serves_elsewhere {shared : Shared Thread σ} {here : Local}
    (elsewhere : ∀ id mark, here.policy.pool ≠ .yielded id mark) : here.Serves shared := by
  unfold Local.Serves
  split
  · exact absurd ‹_› (elsewhere _ _)
  · exact absurd ‹_› (elsewhere _ _)
  · trivial

/-- Nothing is asked of a thread that is at no loan of the policy. -/
theorem serves_other {shared : Shared Thread σ} {here : Local}
    (loaned : here.policy.control ≠ .loaned) (guest : here.policy.control ≠ .guest) :
    here.Serves shared := by
  unfold Local.Serves
  split
  · exact absurd ‹_› loaned
  · exact absurd ‹_› guest
  · trivial

/-- The laws of the instances in a state. -/
structure Sound (policy : Deployment σ) (state : State Thread (Shared Thread σ) Local) : Prop where
  loaded : ∀ id < state.shared.policy.pool.built, state.shared.Loaded policy id
  serves : ∀ thread, (state.threads thread).Serves state.shared

section Moves

variable {shared shared' : Shared Thread σ} {thread : Thread} {here here' after : Local}
  {taken : Policy.Action Document Raw}

/-- The points from which an instance is written. -/
def writesInstance : Policy.Control Document Raw → InstancePool.Point (Option Raw) → Bool
  | .borrowing, .reloading _ _ _ => true
  | .built _ _, _ => true
  | .loaned, _ => true
  | .guest, _ => true
  | _, _ => false

/-- From every other point the instances stay as they are. -/
theorem effect_worlds {worlds : Nat → World σ}
    (took : effect policy shared here taken = some (worlds, after))
    (quiet : writesInstance here.policy.control here.policy.pool = false) :
    worlds = shared.worlds := by
  unfold effect at took
  simp only at took
  split at took <;> (try split at took) <;> simp_all [writesInstance]

/-- A call of `evaluate` is recorded, and nothing else is. -/
theorem called_evaluate {config : Policy.Config} {encode : Document → Option Raw}
    {record record' : Policy.Shared Thread Raw} {point : InstancePool.Point (Option Raw)}
    {control : Policy.Control Document Raw} {there : Policy.Local Document Raw}
    (move : Policy.Move config encode thread record point control .callEvaluate record' there) :
    record' = record.record (.evalCalled thread) ∧ there = ⟨.resolving, point⟩ ∧
      ∃ last, control = .idle last := by
  cases move with
  | evaluateCalled last => exact ⟨rfl, rfl, last, rfl⟩

/-- From every other point the policy's record of the instances stays as it is. -/
theorem quiet_record {config : Policy.Config} {encode : Document → Option Raw}
    {record record' : Policy.Shared Thread Raw} {point : InstancePool.Point (Option Raw)}
    {control : Policy.Control Document Raw} {there : Policy.Local Document Raw}
    (move : Policy.Move config encode thread record point control taken record' there)
    (quiet : writesInstance control point = false) :
    record'.pool.built = record.pool.built ∧ record'.pool.instances = record.pool.instances ∧
      record'.contents = record.contents := by
  cases move with
  | reloaded _ _ _ reloading | reloadFailed _ _ _ _ _ reloading =>
    subst reloading
    simp [writesInstance] at quiet
  | guestFailed | buildReturned => simp [writesInstance] at quiet
  | borrowCalled acted | borrowStepped acted | borrowTimedOut acted | bodyLeft acted
  | poolCloseStepped acted =>
    have stepped := InstancePool.next_move acted
    exact ⟨stepped.builds_only rfl, stepped.reads_only rfl, rfl⟩
  | snapshotRead _ _ acted | closeCalled _ acted =>
    have stepped := InstancePool.next_move acted
    exact ⟨stepped.builds_only rfl, stepped.reads_only rfl, rfl⟩
  | buildFailed _ _ acted =>
    have stepped := InstancePool.next_move acted
    exact ⟨stepped.builds_only rfl, stepped.reads_only rfl, rfl⟩
  | _ => exact ⟨rfl, rfl, rfl⟩

section Record

variable {record : Policy.Shared Thread Raw} {worlds : Nat → World σ}

/-- Where nothing is written, the instances stay as they are. -/
theorem loaded_of_same (loaded : ∀ id < shared.policy.pool.built, shared.Loaded policy id)
    (built : record.pool.built = shared.policy.pool.built)
    (instances : record.pool.instances = shared.policy.pool.instances)
    (contents : record.contents = shared.policy.contents) (same : worlds = shared.worlds) :
    ∀ id < record.pool.built, (⟨record, worlds⟩ : Shared Thread σ).Loaded policy id := by
  intro id below
  simp only [Shared.Loaded, instances, contents, same]
  exact loaded id (built ▸ below)

/-- Where one instance is written, the others stay as they are. -/
theorem loaded_of_place {number : Nat} {world : World σ}
    (loaded : ∀ id < shared.policy.pool.built, shared.Loaded policy id)
    (built : ∀ id < record.pool.built, id ≠ number → id < shared.policy.pool.built)
    (instances : ∀ id, id ≠ number → record.pool.instances id = shared.policy.pool.instances id)
    (contents : ∀ id, id ≠ number → record.contents id = shared.policy.contents id)
    (own : (record.pool.instances number).poisoned = false →
      ∃ data, record.contents number = .document data ∧
        Used policy.setup (Deployment.document data) world) :
    ∀ id < record.pool.built,
      (⟨record, place shared.worlds number world⟩ : Shared Thread σ).Loaded policy id := by
  intro id below
  by_cases same : id = number
  · subst same
    simpa only [Shared.Loaded, place, Function.update_self] using own
  · simp only [Shared.Loaded, place, Function.update_of_ne same, instances id same,
      contents id same]
    exact loaded id (built id below same)

end Record

section Move

variable {record : Policy.Shared Thread Raw} {there : Policy.Local Document Raw}
  {worlds : Nat → World σ}
  (took : effect policy shared here taken = some (worlds, after))
  (move : Policy.Move policy.config policy.encode thread shared.policy here.policy.pool
    here.policy.control taken record there)
include took move

/-- A step keeps what is behind the numbers of instances.

Proof: an action that writes no instance keeps all. The others write one instance only, and
for it they add a load, an evaluation or a rejected input to its past, or they leave it
poisoned. -/
theorem move_loaded (calmly : (Action.take taken).calm = true)
    (loaded : ∀ id < shared.policy.pool.built, shared.Loaded policy id)
    (healthy : ∀ id, here.policy.pool.promised = some id →
      (shared.policy.pool.instances id).poisoned = false)
    (held : ∀ id, here.policy.pool.held = some id → id < shared.policy.pool.built) :
    ∀ id < record.pool.built, (⟨record, worlds⟩ : Shared Thread σ).Loaded policy id := by
  by_cases quiet : writesInstance here.policy.control here.policy.pool = false
  · obtain ⟨built, instances, contents⟩ := quiet_record move quiet
    exact loaded_of_same loaded built instances contents (effect_worlds took quiet)
  · obtain ⟨⟨control, point⟩, request, plan, seen, answer⟩ := here
    simp only at move quiet healthy held
    cases move with
    | reloaded id data version reloading acted =>
      subst reloading
      cases InstancePool.next_move acted
      simp only [effect] at took
      cases ended : policy.reload data version (shared.worlds id) with
      | error => simp [ended] at took
      | ok _ world =>
        simp only [ended, Option.some.injEq, Prod.mk.injEq] at took
        obtain ⟨rfl, rfl⟩ := took
        refine loaded_of_place loaded (fun _ below _ => below) ?_ ?_ ?_
        · exact fun other different => by simp [Function.update_of_ne different]
        · exact fun other different => by simp [Function.update_of_ne different]
        · intro _
          obtain ⟨earlier, _, used⟩ := loaded id (held id rfl) (healthy id rfl)
          exact ⟨data, by simp, .reloaded used ended⟩
    | reloadFailed id data version poisons contents reloading acted =>
      subst reloading
      cases InstancePool.next_move acted
      simp only [effect] at took
      cases ended : policy.reload data version (shared.worlds id) with
      | ok => simp [ended] at took
      | error raised world =>
        simp only [ended, Option.ite_none_right_eq_some, Option.some.injEq, Prod.mk.injEq] at took
        obtain ⟨-, rfl, rfl⟩ := took
        have poisons : poisons = true := calmly
        refine loaded_of_place loaded (fun _ below _ => below) ?_ ?_ ?_
        · exact fun other different => by simp [Function.update_of_ne different]
        · exact fun other different => by simp [Function.update_of_ne different]
        · intro unpoisoned
          simp [poisons] at unpoisoned
    | buildReturned data version acted =>
      cases InstancePool.next_move acted
      simp only [effect] at took
      cases ended : policy.build data version with
      | error => simp [ended] at took
      | ok world log =>
        simp only [ended, Option.some.injEq, Prod.mk.injEq] at took
        obtain ⟨rfl, rfl⟩ := took
        refine loaded_of_place loaded ?_ ?_ ?_ ?_
        · exact fun other below different =>
            Nat.lt_of_le_of_ne (Nat.le_of_lt_succ below) different
        · exact fun other different => by simp [Function.update_of_ne different]
        · exact fun other different => by simp [Function.update_of_ne different]
        · exact fun _ => ⟨data, by simp, .built ended⟩
    | inputRefused =>
      cases point with
      | yielded id mark =>
        simp only [effect] at took
        cases ended : policy.evaluate plan (shared.worlds id) with
        | ok => simp [ended] at took
        | error raised world =>
          simp only [ended, Option.ite_none_left_eq_some, Option.some.injEq, Prod.mk.injEq] at took
          obtain ⟨unentered, rfl, rfl⟩ := took
          refine loaded_of_place loaded (fun _ below _ => below) (fun _ _ => rfl) (fun _ _ => rfl) ?_
          intro unpoisoned
          obtain ⟨data, contents, used⟩ := loaded id (held id rfl) unpoisoned
          exact ⟨data, contents, .rejected used ended (by simpa using unentered)⟩
      | _ => simp [effect] at took
    | guestEntered id mark yielded =>
      subst yielded
      have same : worlds = shared.worlds := by
        simp only [effect] at took
        split at took <;> simp_all
      exact loaded_of_same loaded rfl rfl rfl same
    | guestReturned =>
      cases point with
      | yielded id mark =>
        simp only [effect] at took
        cases ended : policy.evaluate plan (shared.worlds id) with
        | error => simp [ended] at took
        | ok value world =>
          simp only [ended, Option.some.injEq, Prod.mk.injEq] at took
          obtain ⟨rfl, rfl⟩ := took
          refine loaded_of_place loaded (fun _ below _ => below) (fun _ _ => rfl) (fun _ _ => rfl) ?_
          intro unpoisoned
          obtain ⟨data, contents, used⟩ := loaded id (held id rfl) unpoisoned
          exact ⟨data, contents, .evaluated used ended⟩
      | _ => simp [effect] at took
    | guestFailed acted =>
      cases InstancePool.next_move acted with
      | poisoned id mark =>
        simp only [effect] at took
        cases ended : policy.evaluate plan (shared.worlds id) with
        | ok => simp [ended] at took
        | error raised world =>
          simp only [ended, Option.ite_none_right_eq_some, Option.some.injEq, Prod.mk.injEq] at took
          obtain ⟨-, rfl, rfl⟩ := took
          refine loaded_of_place loaded (fun _ below _ => below) ?_ (fun _ _ => rfl) ?_
          · exact fun other different => by simp [Function.update_of_ne different]
          · intro unpoisoned
            simp at unpoisoned
    | guestInterrupted => cases calmly
    | borrowStepped acted | borrowTimedOut acted =>
      cases InstancePool.next_move acted <;> simp [writesInstance] at quiet
    | snapshotRead id refreshing =>
      subst refreshing
      simp [writesInstance] at quiet
    | buildStarted creating =>
      subst creating
      simp [writesInstance] at quiet
    | _ => simp [writesInstance] at quiet

/-- A loan begins with an instance that has loaded what its borrower saw: it carries
the tag of the snapshot already, or it was just reloaded from it.

Proof: only two steps begin a loan: the test that finds the tag current, where the laws of
versions give the contents, and the end of a reload, which wrote them. -/
theorem move_serves (serves : here.Serves shared)
    (versioned : here.policy.Versioned thread shared.policy)
    (healthy : ∀ id, here.policy.pool.promised = some id →
      (shared.policy.pool.instances id).poisoned = false) :
    ({ after with policy := there } : Local).Serves (⟨record, worlds⟩ : Shared Thread σ) := by
  obtain ⟨⟨control, point⟩, request, plan, seen, answer⟩ := here
  simp only at move healthy
  cases move with
  | borrowStepped acted =>
    cases InstancePool.next_move acted with
    | foundCurrent id data version current =>
      simp only [effect, Option.some.injEq, Prod.mk.injEq] at took
      obtain ⟨-, rfl⟩ := took
      obtain ⟨_, _, contents, _⟩ := versioned
      exact serves_yielded rfl (healthy id rfl) (contents current)
    | _ => exact serves_elsewhere (by simp)
  | reloaded id data version reloading acted =>
    subst reloading
    cases InstancePool.next_move acted
    simp only [effect] at took
    cases ended : policy.reload data version (shared.worlds id) with
    | error => simp [ended] at took
    | ok _ world =>
      simp only [ended, Option.some.injEq, Prod.mk.injEq] at took
      obtain ⟨-, rfl⟩ := took
      refine serves_yielded rfl ?_ ?_
      · simpa using healthy id rfl
      · simp
  | guestEntered id mark yielded =>
    subst yielded
    have same : after = ⟨⟨.loaned, .yielded id mark⟩, request, plan, seen, answer⟩ := by
      simp only [effect] at took
      split at took <;> simp_all
    subst same
    exact serves_yielded rfl serves.1 serves.2
  | borrowCalled acted | borrowTimedOut acted | buildFailed _ _ acted | buildReturned _ _ acted =>
    cases InstancePool.next_move acted
    exact serves_elsewhere (by simp)
  | snapshotRead _ _ acted =>
    cases InstancePool.next_move acted
    exact serves_elsewhere (by simp)
  | reloadFailed _ _ _ _ _ _ acted =>
    cases InstancePool.next_move acted
    exact serves_elsewhere (by simp)
  | bodyLeft acted =>
    cases InstancePool.next_move acted
    exact serves_elsewhere (by simp)
  | closeCalled _ acted =>
    cases InstancePool.next_move acted
    exact serves_elsewhere (by simp)
  | poolCloseStepped =>
    refine serves_other ?_ ?_
    all_goals
      simp only [Policy.afterPoolClose]
      split <;> simp
  | _ => exact serves_other (by simp) (by simp)

end Move

/-- Another thread's loan survives a step: what its borrower has in hand stays. -/
theorem Local.Serves.mono {record : Policy.Shared Thread Raw} {worlds : Nat → World σ}
    (serves : here.Serves shared)
    (kept : ∀ id, here.policy.pool.held = some id →
      record.pool.instances id = shared.policy.pool.instances id ∧
        record.contents id = shared.policy.contents id) :
    here.Serves (⟨record, worlds⟩ : Shared Thread σ) := by
  unfold Local.Serves at serves ⊢
  split
  all_goals first
    | trivial
    | (rename_i control pool
       obtain ⟨instances, contents⟩ := kept _ (by rw [pool]; rfl)
       simp only [control, pool] at serves
       rwa [instances, contents])

end Moves

section Reachable

variable [Fintype Thread] [DecidableEq Thread] {blank : World σ}
  {state : State Thread (Shared Thread σ) Local}

/-- In every state that a calm run reaches, the instances are as the policy has them.

Proof: the actor's step keeps both laws, and what another thread holds is not written, as an
instance is held by one thread at most. -/
theorem sound_reachable (reached : ReachableUnder (service policy blank) calm state) :
    Sound policy state := by
  refine under_invariant (Sound policy) ⟨?_, ?_⟩ ?_ reached
  · exact fun id below => absurd below (Nat.not_lt_zero id)
  · exact fun _ => trivial
  · intro before label after earlier sound calmly stepped
    have outside := outer_reachable earlier
    have pooled := Policy.inner_reachable outside
    have linear := Policy.linear_reachable outside
    have healthy := (InstancePool.healthy_reachable pooled).2 label.1
    have held : ∀ thread id, (before.threads thread).policy.pool.held = some id →
        id < before.shared.policy.pool.built ∧ ∀ other, other ≠ thread →
          (before.threads other).policy.pool.held ≠ some id := by
      intro thread id has
      have sole := InstancePool.held_sole pooled
        (show ((Policy.inner (outer before)).threads thread).held = some id from has)
      exact ⟨sole.1, sole.2.2.2⟩
    obtain ⟨⟨record, worlds⟩, here', acted, rfl⟩ := step_cases stepped
    have own : (∀ id < record.pool.built, (⟨record, worlds⟩ : Shared Thread σ).Loaded policy id) ∧
        here'.Serves (⟨record, worlds⟩ : Shared Thread σ) := by
      rcases next_cases acted with ⟨request, _, called, same, result⟩ | ⟨taken, after, named, _, took,
          called, result⟩
      · have move := Policy.next_move called
        obtain ⟨rfl, resolving, -⟩ := called_evaluate move
        refine ⟨loaded_of_same sound.loaded rfl rfl rfl same, serves_other ?_ ?_⟩
        all_goals simp [resolving]
      · have move := Policy.next_move called
        rw [result]
        refine ⟨move_loaded took move ?_ sound.loaded healthy (fun id has => (held _ id has).1), ?_⟩
        · rw [← named]
          exact calmly
        · exact move_serves took move (sound.serves label.1) (linear.own label.1) healthy
    refine ⟨own.1, fun thread => ?_⟩
    by_cases acting : thread = label.1
    · subst acting
      simpa only [Function.update_self] using own.2
    · simp only [Function.update_of_ne acting]
      obtain ⟨taken, called⟩ := next_policy acted
      refine (sound.serves thread).mono (fun id has => ?_)
      obtain ⟨built, alone⟩ := held thread id has
      exact (Policy.next_move called).writes_own built (alone label.1 (Ne.symm acting))

end Reachable

end OpaPyWasm.PolicyService
