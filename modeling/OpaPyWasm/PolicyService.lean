import OpaPyWasm.Library.SharedDocument
import OpaPyWasm.PolicyApi

/-!
# The policy with its instances

The policy as it runs: its threads, its lock-protected state and its pool, and
behind each number of an instance the instance itself. Where the policy on its own
leaves to the environment how a load or an evaluation ends, the code of the instance
decides it here, on the state that this instance is in.

A construction, a reload and an evaluation are single steps on an instance: the
thread that takes them has the instance in hand alone, so nobody sees it in between.
The data that an evaluation runs on is a history variable.
-/

namespace OpaPyWasm.PolicyService

open Exceptions Values Effects GuestCalls WasmtimeRuntime PolicyInstance Machines Threads Refinement

/-- The text of a data document. -/
abbrev Raw := List UInt8

/-- A constructed policy: what its instances are built with, its configuration, the
entrypoints of the module and the pool. -/
structure Deployment (σ : Type) where
  setup : Setup σ
  api : PolicyApi.PolicyConfig
  entrypoints : List (Text × Int)
  slots : InstancePool.Config
  sized : slots.maxSize = api.poolSize

/-- The arguments of `evaluate_raw`, or of `evaluate`, which simplifies the result. -/
structure Request where
  input : Document
  entrypoint : Option PolicyApi.Entrypoint
  simplified : Bool

/-- A request with the id of its entrypoint. -/
structure Plan where
  input : Document
  entrypointId : Int
  simplified : Bool

/-- What a caller of the policy gets. -/
inductive Answer where
  | done
  | value (value : Value)
  | decision (decision : PolicyApi.Decision)
  | raised (raised : Raised)

/-- What a call that only raises is answered with. -/
def Answer.ofOutcome {α : Type} : Except Raised α → Answer
  | .ok _ => .done
  | .error error => .raised error

namespace Deployment

variable {σ : Type} (policy : Deployment σ)

/-- The configuration of the policy's threads. -/
def config : Policy.Config := ⟨policy.slots, policy.setup.timeoutTicks.isSome⟩

/-- The text of an argument of `set_data`. -/
def encode (document : Document) : Option Raw :=
  (outcome (PolicyApi.serialiseDocument policy.setup.json policy.setup.limits.maxDataBytes document)
    []).toOption

/-- The answer of a call on a closed policy. -/
def refused : Answer := .ofOutcome (outcome (PolicyApi.raiseIfClosed true) [])

/-- The answer of a borrow that waited too long. -/
def timedOut : Answer :=
  .ofOutcome (outcome (PolicyApi.takeSlot policy.api (.timedOut : PolicyApi.Drawn σ)) [])

/-- The text of an argument of `set_data`, or the answer where there is none. -/
def serialise (argument : Option Document) : Except Answer (Option Raw) :=
  (outcome (PolicyApi.serialiseData policy.setup.json policy.setup.limits.maxDataBytes argument)
    []).mapError .raised

/-- The id of an entrypoint, or the answer where there is none. -/
def resolve (request : Request) : Except Answer Plan :=
  match outcome
    (PolicyApi.resolveEntrypoint policy.setup policy.api policy.entrypoints request.entrypoint) [] with
  | .error raised => .error (.raised raised)
  | .ok entrypointId => .ok ⟨request.input, entrypointId, request.simplified⟩

/-- What the caller gets for the outcome of an evaluation. -/
def finish (simplified : Bool) : Except Raised Value → Answer
  | .error raised => .raised raised
  | .ok value =>
    if simplified then
      match outcome (PolicyApi.simplifyResult policy.setup policy.api value) [] with
      | .error raised => .raised raised
      | .ok decision => .decision decision
    else .value value

/-- A snapshot as the instance loads it: the bytes are a raw document. -/
def document (data : Option Raw) : Option Document := data.map .bytes

/-- `_build_instance` on a snapshot. -/
def build (data : Option Raw) (version : Nat) : EStateM.Result Raised (List Fault) (World σ) :=
  PolicyInstance.build policy.setup (document data) version []

/-- `_refresh_instance` on a snapshot. -/
def reload (data : Option Raw) (version : Nat) (world : World σ) :
    EStateM.Result Raised (World σ) PUnit :=
  reloadData policy.setup (document data) version world

/-- `instance.evaluate` for a plan. -/
def evaluate (plan : Plan) (world : World σ) : EStateM.Result Raised (World σ) Value :=
  PolicyInstance.evaluate policy.setup plan.input plan.entrypointId world

end Deployment

/-- Where a thread is, with the local variables that the policy's own steps do not
show: the request, its plan, the data of the borrowed instance, and the answer. -/
structure Local where
  policy : Policy.Local Document Raw
  request : Request
  plan : Plan
  seen : Option Raw
  answer : Answer

/-- What all threads share: the policy, and the instance behind each number. -/
structure Shared (Thread σ : Type) where
  policy : Policy.Shared Thread Raw
  worlds : Nat → World σ

/-- A call of `evaluate` with its arguments, or another action of the policy. -/
inductive Action where
  | callEvaluate (request : Request)
  | take (action : Policy.Action Document Raw)

variable {Thread σ : Type}

/-- Replace the instance behind a number. -/
def place (worlds : Nat → World σ) (id : Nat) (world : World σ) : Nat → World σ :=
  Function.update worlds id world

/-- What an action of the policy does to the instances and to the thread's own
variables; nothing when the code of the instance ends otherwise than the action says. -/
def effect (policy : Deployment σ) (shared : Shared Thread σ) (here : Local) :
    Policy.Action Document Raw → Option ((Nat → World σ) × Local) := fun action =>
  let worlds := shared.worlds
  let answered (answer : Answer) : Local := { here with answer := answer }
  match here.policy.control, here.policy.pool, action with
  -- set_data
  | .checking _, _, .go =>
    some (worlds, if shared.policy.closed then answered Deployment.refused else here)
  | .serialising argument, _, .go =>
    match policy.serialise argument with
    | .error answer => some (worlds, answered answer)
    | .ok _ => some (worlds, here)
  | .settled _, _, .go => some (worlds, answered .done)
  -- _resolve_entrypoint
  | .resolving, _, .go =>
    match policy.resolve here.request with
    | .error _ => none
    | .ok plan => some (worlds, { here with plan := plan })
  | .resolving, _, .reject =>
    match policy.resolve here.request with
    | .error answer => some (worlds, answered answer)
    | .ok _ => none
  -- borrow
  | .borrowing, .borrow, .go =>
    some (worlds, if shared.policy.pool.closedEvent then answered Deployment.refused else here)
  | .borrowing, .reposting, .go => some (worlds, answered Deployment.refused)
  | .borrowing, .waiting, .timeout => some (worlds, answered policy.timedOut)
  | .borrowing, .comparing _ data _, .go => some (worlds, { here with seen := data })
  | .borrowing, .reloading id data version, .go =>
    match policy.reload data version (worlds id) with
    | .error _ _ => none
    | .ok _ after => some (place worlds id after, { here with seen := data })
  | .borrowing, .reloading id data version, .reloadRaises poisons _ =>
    match policy.reload data version (worlds id) with
    | .error raised after =>
      if poisons = raised.kind.isException then
        some (place worlds id after, answered (.raised raised))
      else none
    | .ok _ _ => none
  -- _build_instance
  | .building data version, _, .go =>
    match policy.build data version with
    | .error _ _ => none
    | .ok _ _ => some (worlds, here)
  | .building data version, _, .factoryRaises =>
    match policy.build data version with
    | .error raised _ => some (worlds, answered (.raised raised))
    | .ok _ _ => none
  | .built data version, _, .go =>
    match policy.build data version with
    | .error _ _ => none
    | .ok world _ => some (place worlds shared.policy.pool.built world, here)
  -- instance.evaluate
  | .loaned, .yielded id _, .reject =>
    match policy.evaluate here.plan (worlds id) with
    | .error raised after =>
      if after.enteredWasm then none
      else some (place worlds id after, answered (.raised raised))
    | .ok _ _ => none
  | .loaned, .yielded id _, .go =>
    match policy.evaluate here.plan (worlds id) with
    | .error _ after => if after.enteredWasm then some (worlds, here) else none
    | .ok _ _ => some (worlds, here)
  | .guest, .yielded id _, .go =>
    match policy.evaluate here.plan (worlds id) with
    | .error _ _ => none
    | .ok value after =>
      some (place worlds id after, answered (policy.finish here.plan.simplified (.ok value)))
  | .guest, .yielded id _, .guestFails =>
    match policy.evaluate here.plan (worlds id) with
    | .error raised after =>
      if after.enteredWasm ∧ raised.kind.isException then
        some (place worlds id after, answered (.raised raised))
      else none
    | .ok _ _ => none
  | .guest, .yielded id _, .guestInterrupted =>
    match policy.evaluate here.plan (worlds id) with
    | .error raised after =>
      if after.enteredWasm ∧ ¬raised.kind.isException then
        some (place worlds id after, answered (.raised raised))
      else none
    | .ok _ _ => none
  | .loaned, _, _ => none
  | .guest, _, _ => none
  -- close
  | .marking, _, .go => some (worlds, answered .done)
  | _, _, _ => some (worlds, here)

/-- One step of a thread: an action of the policy, with what it does to the
instances. -/
def next (policy : Deployment σ) (thread : Thread) (shared : Shared Thread σ) (here : Local) :
    Action → Option (Shared Thread σ × Local)
  | .callEvaluate request =>
    (Policy.next policy.config policy.encode thread shared.policy here.policy .callEvaluate).map
      (fun reached => (⟨reached.1, shared.worlds⟩,
        { here with policy := reached.2, request := request }))
  | .take .callEvaluate => none
  | .take action =>
    (effect policy shared here action).bind (fun done =>
      (Policy.next policy.config policy.encode thread shared.policy here.policy action).map
        (fun reached => (⟨reached.1, done.1⟩, { done.2 with policy := reached.2 })))

/-- What the callers see: their calls, and the answer when a thread is back. -/
def sight : Sight Thread Local Action
    (SharedDocument.Event Thread (Option Document) Request Answer)
  | thread, _, .callEvaluate request, _ => [.called thread (.query request)]
  | thread, _, .take (.callSetData argument), _ => [.called thread (.update argument)]
  | thread, _, .take .callClose, _ => [.called thread .close]
  | thread, _, .take _, after =>
    match after.policy.control with
    | .idle _ => [.returned thread after.answer]
    | _ => []

/-- An action that is no exception outside `Exception` in a reload or in the guest. -/
def Action.calm : Action → Bool
  | .take .guestInterrupted => false
  | .take (.reloadRaises poisons _) => poisons
  | _ => true

/-- Runs in which no such exception cuts a reload or an evaluation short. -/
def calm (_ : State Thread (Shared Thread σ) Local) (label : Thread × Action) : Prop :=
  label.2.calm = true

/-- The condition looks at the action only. -/
instance (state : State Thread (Shared Thread σ) Local) (label : Thread × Action) :
    Decidable (calm state label) :=
  inferInstanceAs (Decidable (label.2.calm = true))

/-- A constructed policy that nobody has called yet. What stands at the numbers of
instances that are not built is of no account. -/
def start (policy : Deployment σ) (blank : World σ) : State Thread (Shared Thread σ) Local where
  shared := ⟨(Policy.start policy.config :
    State Thread (Policy.Shared Thread Raw) (Policy.Local Document Raw)).shared, fun _ => blank⟩
  threads := fun _ => ⟨⟨.idle none, .outside none⟩, ⟨.bytes [], none, false⟩, ⟨.bytes [], 0, false⟩,
    none, .done⟩

/-- The policy with its instances, called by any number of threads. -/
def service [DecidableEq Thread] (policy : Deployment σ) (blank : World σ) :
    Machine (State Thread (Shared Thread σ) Local) (Thread × Action) :=
  machine (next policy) (start policy blank)

section Steps

variable {policy : Deployment σ} {thread : Thread} {shared shared' : Shared Thread σ}
  {here here' : Local} {action : Action}

/-- An action of the policy other than a call of `evaluate`, with its effect. -/
theorem next_take {taken : Policy.Action Document Raw} (other : taken ≠ .callEvaluate) :
    next policy thread shared here (.take taken) =
      (effect policy shared here taken).bind (fun done =>
        (Policy.next policy.config policy.encode thread shared.policy here.policy taken).map
          (fun reached => (⟨reached.1, done.1⟩, { done.2 with policy := reached.2 }))) := by
  cases taken <;> first | rfl | exact absurd rfl other

/-- A step is a call of `evaluate`, or an action of the policy with its effect. -/
theorem next_cases (acted : next policy thread shared here action = some (shared', here')) :
    (∃ request, action = .callEvaluate request ∧
      Policy.next policy.config policy.encode thread shared.policy here.policy .callEvaluate =
        some (shared'.policy, here'.policy) ∧
      shared'.worlds = shared.worlds ∧
      here' = { here with policy := here'.policy, request := request }) ∨
    ∃ taken after, action = .take taken ∧ taken ≠ .callEvaluate ∧
      effect policy shared here taken = some (shared'.worlds, after) ∧
      Policy.next policy.config policy.encode thread shared.policy here.policy taken =
        some (shared'.policy, here'.policy) ∧
      here' = { after with policy := here'.policy } := by
  cases action with
  | callEvaluate request =>
    obtain ⟨reached, stepped, same⟩ := Option.map_eq_some_iff.mp acted
    obtain ⟨rfl, rfl⟩ := Prod.mk.inj same
    exact .inl ⟨request, rfl, stepped, rfl, rfl⟩
  | take taken =>
    by_cases call : taken = .callEvaluate
    · subst call
      simp [next] at acted
    · rw [next_take call] at acted
      obtain ⟨⟨worlds, after⟩, took, rest⟩ := Option.bind_eq_some_iff.mp acted
      obtain ⟨reached, stepped, same⟩ := Option.map_eq_some_iff.mp rest
      obtain ⟨rfl, rfl⟩ := Prod.mk.inj same
      exact .inr ⟨taken, after, rfl, call, took, stepped, rfl⟩

/-- A step of the policy with its instances is a step of the policy. -/
theorem next_policy (acted : next policy thread shared here action = some (shared', here')) :
    ∃ taken, Policy.next policy.config policy.encode thread shared.policy here.policy taken =
      some (shared'.policy, here'.policy) := by
  rcases next_cases acted with ⟨_, _, stepped, _⟩ | ⟨taken, _, _, _, _, stepped, _⟩
  · exact ⟨_, stepped⟩
  · exact ⟨taken, stepped⟩

end Steps

/-- The policy without what is behind its instances. -/
abbrev outer (state : State Thread (Shared Thread σ) Local) :
    State Thread (Policy.Shared Thread Raw) (Policy.Local Document Raw) :=
  state.project Shared.policy Local.policy

/-- Every run of the service is a run of its policy, so the laws of the policy hold in
every reachable state of the service. -/
theorem outer_reachable [DecidableEq Thread] {policy : Deployment σ} {blank : World σ}
    {admits : State Thread (Shared Thread σ) Local → Thread × Action → Prop}
    {state : State Thread (Shared Thread σ) Local}
    (reached : ReachableUnder (service policy blank) admits state) :
    Reachable (Policy.policy policy.config policy.encode) (outer state) := by
  have projects : Projects (service policy blank) (Policy.policy policy.config policy.encode)
      (outer : State Thread (Shared Thread σ) Local → _) :=
    projects_of_actions Shared.policy Local.policy rfl (fun _ _ _ _ _ _ acted => by
      obtain ⟨taken, stepped⟩ := next_policy acted
      exact .inr ⟨taken, stepped⟩)
  exact projects.reachable (reachable_of_under reached)

end OpaPyWasm.PolicyService
