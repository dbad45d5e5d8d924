import OpaPyWasm.BuiltinRegistry

/-!
# The builtins of one evaluation

While the guest evaluates, each `opa_builtinN` calls `_dispatch_builtin`, which takes its own
snapshot of the registry and looks the name up in it. Other threads register and unregister
meanwhile, and so does a builtin itself, which may also begin another evaluation.

The calls of an evaluation resolve as at its beginning as long as no name that it calls is
registered or unregistered before the call.
-/

namespace OpaPyWasm.EvaluationBuiltins

open Machines Threads BuiltinRegistry

/-- An evaluation: how many publications came before it, and how its builtins resolved,
the latest call first. -/
structure Evaluation (Name Fn : Type) where
  started : Nat
  calls : List (Name × Option Fn)
deriving DecidableEq

/-- What runs on a thread: Python code of a caller or a builtin, the guest, or
`_dispatch_builtin` before its look-up. -/
inductive Control (Name : Type) where
  | python
  | guest
  | resolving (name : Name)
  | resolved (name : Name) (reference : Nat)
deriving DecidableEq

/-- The evaluations of a thread, the innermost first, and where it is in the registry. -/
structure Local (Name Fn : Type) where
  running : List (Evaluation Name Fn)
  control : Control Name
  point : Point Name Fn
deriving DecidableEq

/-- The registry of the policy. The evaluations that ended are a history variable. -/
structure Shared (Thread Name Fn : Type) where
  registry : BuiltinRegistry.Shared Thread Name Fn
  ended : List (Evaluation Name Fn)

/-- A caller or a builtin begins an evaluation or acts on the registry, the guest calls a
builtin or ends, a builtin returns or fails, or the thread goes on. -/
inductive Action (Name Fn : Type) where
  | evaluate
  | registry (action : BuiltinRegistry.Action Name Fn)
  | dispatch (name : Name)
  | guestEnds
  | builtinReturns
  | builtinFails
  | go
deriving DecidableEq

variable {Thread Name Fn : Type} [DecidableEq Name]

/-- One step in the registry. -/
def inRegistry (config : Config Name Fn) (thread : Thread) (shared : Shared Thread Name Fn)
    (here : Local Name Fn) (action : BuiltinRegistry.Action Name Fn)
    (follow : Point Name Fn → Control Name) : Option (Shared Thread Name Fn × Local Name Fn) :=
  (BuiltinRegistry.next config thread shared.registry here.point action).map (fun reached =>
    ({ shared with registry := reached.1 }, ⟨here.running, follow reached.2, reached.2⟩))

/-- Where `_dispatch_builtin` is after a step of `snapshot`. -/
def afterSnapshot (name : Name) : Point Name Fn → Control Name
  | .outside (some (.taken reference)) => .resolved name reference
  | _ => .resolving name

/-- An evaluation that ended. -/
@[simps] def Shared.finish (shared : Shared Thread Name Fn) (evaluation : Evaluation Name Fn) :
    Shared Thread Name Fn :=
  { shared with ended := evaluation :: shared.ended }

/-- The look-up in a snapshot, on the innermost evaluation. -/
def resolve (shared : Shared Thread Name Fn) (evaluation : Evaluation Name Fn) (name : Name)
    (reference : Nat) : Evaluation Name Fn :=
  { evaluation with
    calls := (name, shared.registry.dicts reference name) :: evaluation.calls }

/-- One atomic action of a thread. -/
def next (config : Config Name Fn) (thread : Thread) (shared : Shared Thread Name Fn)
    (here : Local Name Fn) (action : Action Name Fn) :
    Option (Shared Thread Name Fn × Local Name Fn) :=
  match here, action with
  | ⟨running, .python, .outside last⟩, .evaluate =>
    some (shared,
      ⟨⟨shared.registry.changes.length, []⟩ :: running, .guest, .outside last⟩)
  | ⟨running, .python, point⟩, .registry action =>
    inRegistry config thread shared ⟨running, .python, point⟩ action (fun _ => .python)
  | ⟨evaluation :: rest, .python, .outside last⟩, .builtinReturns =>
    some (shared, ⟨evaluation :: rest, .guest, .outside last⟩)
  | ⟨evaluation :: rest, .python, .outside last⟩, .builtinFails =>
    some (shared.finish evaluation, ⟨rest, .python, .outside last⟩)
  | ⟨evaluation :: rest, .guest, point⟩, .guestEnds =>
    some (shared.finish evaluation, ⟨rest, .python, point⟩)
  | ⟨running, .guest, point⟩, .dispatch name =>
    inRegistry config thread shared ⟨running, .guest, point⟩ (.call .snapshot) (afterSnapshot name)
  | ⟨running, .resolving name, point⟩, .go =>
    inRegistry config thread shared ⟨running, .resolving name, point⟩ .go (afterSnapshot name)
  | ⟨evaluation :: rest, .resolved name reference, point⟩, .go =>
    match shared.registry.dicts reference name with
    | some _ => some (shared, ⟨resolve shared evaluation name reference :: rest, .python, point⟩)
    | none => some (shared.finish (resolve shared evaluation name reference), ⟨rest, .python, point⟩)
  | _, _ => none

/-- What one atomic action can do. A step in the registry carries the step it is. -/
inductive Move (config : Config Name Fn) (thread : Thread) (shared : Shared Thread Name Fn) :
    Local Name Fn → Action Name Fn → Shared Thread Name Fn → Local Name Fn → Prop
  | began (running : List (Evaluation Name Fn)) (last : Option Answer) :
      Move config thread shared ⟨running, .python, .outside last⟩ .evaluate shared
        ⟨⟨shared.registry.changes.length, []⟩ :: running, .guest, .outside last⟩
  | registered {running : List (Evaluation Name Fn)} {point point' : Point Name Fn}
      {action : BuiltinRegistry.Action Name Fn}
      {registry : BuiltinRegistry.Shared Thread Name Fn}
      (acted : BuiltinRegistry.next config thread shared.registry point action =
        some (registry, point')) :
      Move config thread shared ⟨running, .python, point⟩ (.registry action)
        { shared with registry := registry } ⟨running, .python, point'⟩
  | returned (evaluation : Evaluation Name Fn) (rest : List (Evaluation Name Fn))
      (last : Option Answer) :
      Move config thread shared ⟨evaluation :: rest, .python, .outside last⟩ .builtinReturns shared
        ⟨evaluation :: rest, .guest, .outside last⟩
  | failed (evaluation : Evaluation Name Fn) (rest : List (Evaluation Name Fn))
      (last : Option Answer) :
      Move config thread shared ⟨evaluation :: rest, .python, .outside last⟩ .builtinFails
        (shared.finish evaluation) ⟨rest, .python, .outside last⟩
  | ended (evaluation : Evaluation Name Fn) (rest : List (Evaluation Name Fn))
      (point : Point Name Fn) :
      Move config thread shared ⟨evaluation :: rest, .guest, point⟩ .guestEnds
        (shared.finish evaluation) ⟨rest, .python, point⟩
  | dispatched {running : List (Evaluation Name Fn)} (name : Name) {point point' : Point Name Fn}
      {registry : BuiltinRegistry.Shared Thread Name Fn}
      (acted : BuiltinRegistry.next config thread shared.registry point (.call .snapshot) =
        some (registry, point')) :
      Move config thread shared ⟨running, .guest, point⟩ (.dispatch name)
        { shared with registry := registry } ⟨running, afterSnapshot name point', point'⟩
  | snapshotStepped {running : List (Evaluation Name Fn)} (name : Name)
      {point point' : Point Name Fn} {registry : BuiltinRegistry.Shared Thread Name Fn}
      (acted : BuiltinRegistry.next config thread shared.registry point .go =
        some (registry, point')) :
      Move config thread shared ⟨running, .resolving name, point⟩ .go
        { shared with registry := registry } ⟨running, afterSnapshot name point', point'⟩
  | found (evaluation : Evaluation Name Fn) (rest : List (Evaluation Name Fn)) (name : Name)
      (reference : Nat) (point : Point Name Fn) (fn : Fn)
      (present : shared.registry.dicts reference name = some fn) :
      Move config thread shared ⟨evaluation :: rest, .resolved name reference, point⟩ .go shared
        ⟨resolve shared evaluation name reference :: rest, .python, point⟩
  | unregistered (evaluation : Evaluation Name Fn) (rest : List (Evaluation Name Fn)) (name : Name)
      (reference : Nat) (point : Point Name Fn)
      (absent : shared.registry.dicts reference name = none) :
      Move config thread shared ⟨evaluation :: rest, .resolved name reference, point⟩ .go
        (shared.finish (resolve shared evaluation name reference)) ⟨rest, .python, point⟩

/-- A step that was taken in the registry. -/
theorem inRegistry_some {config : Config Name Fn} {thread : Thread}
    {shared shared' : Shared Thread Name Fn} {here here' : Local Name Fn}
    {action : BuiltinRegistry.Action Name Fn} {follow : Point Name Fn → Control Name}
    (acted : inRegistry config thread shared here action follow = some (shared', here')) :
    ∃ registry point',
      BuiltinRegistry.next config thread shared.registry here.point action =
        some (registry, point') ∧
      shared' = { shared with registry := registry } ∧
      here' = ⟨here.running, follow point', point'⟩ := by
  obtain ⟨⟨registry, point'⟩, stepped, same⟩ := Option.map_eq_some_iff.mp acted
  obtain ⟨rfl, rfl⟩ := Prod.mk.inj same
  exact ⟨registry, point', stepped, rfl, rfl⟩

/-- Every action of a thread is one of these moves. -/
theorem next_move {config : Config Name Fn} {thread : Thread}
    {shared shared' : Shared Thread Name Fn} {here here' : Local Name Fn}
    {action : Action Name Fn}
    (acted : next config thread shared here action = some (shared', here')) :
    Move config thread shared here action shared' here' := by
  unfold next at acted
  split at acted
  all_goals (try split at acted)
  all_goals first
    | exact absurd acted (Option.some_ne_none _).symm
    | (obtain ⟨registry, point', stepped, rfl, rfl⟩ := inRegistry_some acted
       constructor
       exact stepped)
    | (obtain ⟨rfl, rfl⟩ := Prod.mk.inj (Option.some.inj acted)
       first
         | (constructor; assumption)
         | constructor)

/-- A move leaves the registry or is one action of the registry. -/
theorem Move.registered_or_kept {config : Config Name Fn} {thread : Thread}
    {shared shared' : Shared Thread Name Fn} {here here' : Local Name Fn}
    {action : Action Name Fn} (move : Move config thread shared here action shared' here') :
    (shared'.registry = shared.registry ∧ here'.point = here.point) ∨
      ∃ taken, BuiltinRegistry.next config thread shared.registry here.point taken =
        some (shared'.registry, here'.point) := by
  cases move with
  | registered acted => exact .inr ⟨_, acted⟩
  | dispatched name acted => exact .inr ⟨_, acted⟩
  | snapshotStepped name acted => exact .inr ⟨_, acted⟩
  | _ => exact .inl ⟨rfl, rfl⟩

omit [DecidableEq Name] in
/-- The look-up comes next once `snapshot` returned a dictionary. -/
theorem afterSnapshot_cases (name : Name) (point : Point Name Fn) :
    (∃ reference, point.reference? = some reference ∧
        afterSnapshot name point = .resolved name reference) ∨
      afterSnapshot name point = .resolving name := by
  unfold afterSnapshot
  split
  · exact .inl ⟨_, rfl, rfl⟩
  · exact .inr rfl

/-- Every call of an evaluation resolved as in the registry that was published when the
evaluation began. -/
def Evaluation.Isolated (registry : BuiltinRegistry.Shared Thread Name Fn)
    (evaluation : Evaluation Name Fn) : Prop :=
  ∃ builtins, registry.registries[evaluation.started]? = some builtins ∧
    ∀ call ∈ evaluation.calls, call.2 = builtins call.1

/-- A look-up that will resolve so. -/
def Evaluation.Resolves (registry : BuiltinRegistry.Shared Thread Name Fn)
    (evaluation : Evaluation Name Fn) (name : Name) (reference : Nat) : Prop :=
  reference ≤ registry.builtins ∧
    ∃ builtins, registry.registries[evaluation.started]? = some builtins ∧
      registry.dicts reference name = builtins name

/-- The look-up that a thread is about to make for its innermost evaluation. -/
def Local.Pending (registry : BuiltinRegistry.Shared Thread Name Fn) (here : Local Name Fn) : Prop :=
  ∀ evaluation ∈ here.running.head?,
    match here.control with
    | .resolving name =>
      ∀ reference, here.point.reference? = some reference →
        evaluation.Resolves registry name reference
    | .resolved name reference => evaluation.Resolves registry name reference
    | _ => True

/-- The law of a thread. -/
def Local.Isolated (registry : BuiltinRegistry.Shared Thread Name Fn) (here : Local Name Fn) : Prop :=
  (∀ evaluation ∈ here.running, evaluation.Isolated registry) ∧ here.Pending registry

section Laws

variable {registry registry' : BuiltinRegistry.Shared Thread Name Fn}
  {evaluation : Evaluation Name Fn} {name : Name} {reference : Nat}

omit [DecidableEq Name] in
/-- An evaluation that saw one version only has still seen one version only when the registry has
grown. -/
theorem Evaluation.Isolated.mono (grown : registry.Grown registry')
    (isolated : evaluation.Isolated registry) : evaluation.Isolated registry' := by
  obtain ⟨builtins, published, same⟩ := isolated
  exact ⟨builtins, grown.recorded _ _ published, same⟩

omit [DecidableEq Name] in
/-- A name that was resolved stays resolved in the registry that has grown. -/
theorem Evaluation.Resolves.mono (grown : registry.Grown registry')
    (resolves : evaluation.Resolves registry name reference) :
    evaluation.Resolves registry' name reference := by
  obtain ⟨old, builtins, published, same⟩ := resolves
  exact ⟨Nat.le_trans old grown.forward, builtins, grown.recorded _ _ published,
    by rw [grown.kept reference old, same]⟩

omit [DecidableEq Name] in
/-- The law of a thread survives what other threads do to the registry. -/
theorem Local.Isolated.mono {here : Local Name Fn} (grown : registry.Grown registry')
    (isolated : here.Isolated registry) : here.Isolated registry' := by
  obtain ⟨running, pending⟩ := isolated
  refine ⟨fun evaluation member => (running evaluation member).mono grown, fun evaluation top => ?_⟩
  have law := pending evaluation top
  cases control : here.control with
  | python => trivial
  | guest => trivial
  | resolving name =>
    rw [control] at law
    exact fun reference handed => (law reference handed).mono grown
  | resolved name reference =>
    rw [control] at law
    exact law.mono grown

omit [DecidableEq Name] in
/-- A look-up that resolves so keeps its evaluation isolated. -/
theorem Evaluation.Resolves.isolated {shared : Shared Thread Name Fn}
    (resolves : evaluation.Resolves shared.registry name reference)
    (isolated : evaluation.Isolated shared.registry) :
    (resolve shared evaluation name reference).Isolated shared.registry := by
  obtain ⟨-, builtins, published, found⟩ := resolves
  obtain ⟨builtins', published', same⟩ := isolated
  cases published.symm.trans published'
  exact ⟨builtins, published, List.forall_mem_cons.mpr ⟨found, same⟩⟩

variable {config : Config Name Fn} {thread : Thread} {shared shared' : Shared Thread Name Fn}
  {here here' : Local Name Fn} {action : Action Name Fn}

/-- Whether the name that a snapshot is being taken for was changed since the evaluation began. -/
def Local.changed (registry : BuiltinRegistry.Shared Thread Name Fn) : Local Name Fn → Bool
  | ⟨evaluation :: _, .resolving name, .locked .snapshot⟩ =>
    decide (name ∈ registry.changes.drop evaluation.started)
  | _ => false

/-- The registry only grows under a move. -/
theorem Move.grown (move : Move config thread shared here action shared' here')
    (ordered : shared.registry.Ordered) (own : here.point.Ordered thread shared.registry) :
    shared.registry.Grown shared'.registry := by
  rcases move.registered_or_kept with ⟨same, -⟩ | ⟨taken, acted⟩
  · rw [same]
    exact Shared.Grown.refl _
  · exact (BuiltinRegistry.next_move acted).grown ordered own

/-- A snapshot that is handed out resolves the name as when the evaluation began. -/
theorem Evaluation.Isolated.resolves {point point' : Point Name Fn}
    {action : BuiltinRegistry.Action Name Fn}
    (move : BuiltinRegistry.Move config thread registry point action registry' point')
    (ordered : registry.Ordered) (own : point.Ordered thread registry)
    (isolated : evaluation.Isolated registry)
    (unchanged : point = .locked .snapshot → name ∉ registry.changes.drop evaluation.started)
    (pending : ∀ reference, point.reference? = some reference →
      evaluation.Resolves registry name reference)
    (handed : point'.reference? = some reference) :
    evaluation.Resolves registry' name reference := by
  have grown := move.grown ordered own
  rcases move.hands_out handed with before | ⟨reads, -, rfl⟩
  · exact (pending reference before).mono grown
  · obtain ⟨builtins, published, -⟩ := isolated
    have current : evaluation.Resolves registry name registry.builtins :=
      ⟨Nat.le_refl _, builtins, published, ordered.unchanged published (unchanged reads)⟩
    exact current.mono grown

/-- What a thread does keeps its law, and the evaluations that it ends are isolated.

Proof: an evaluation that begins has resolved nothing yet. A name that was not changed since
then resolves in the latest registry as it does in that one, so a dispatch under this
condition adds to the names that one version resolves. -/
theorem Move.keeps_isolated (move : Move config thread shared here action shared' here')
    (ordered : shared.registry.Ordered) (own : here.point.Ordered thread shared.registry)
    (unchanged : here.changed shared.registry = false) (isolated : here.Isolated shared.registry) :
    here'.Isolated shared'.registry ∧
      ∀ evaluation ∈ shared'.ended, evaluation ∈ shared.ended ∨
        evaluation.Isolated shared'.registry := by
  have grown := move.grown ordered own
  obtain ⟨running, pending⟩ := isolated
  cases move with
  | began running' last =>
    have fresh : (⟨shared.registry.changes.length, []⟩ : Evaluation Name Fn).Isolated
        shared.registry :=
      ⟨_, ordered.latest, fun _ absent => absurd absent List.not_mem_nil⟩
    exact ⟨⟨List.forall_mem_cons.mpr ⟨fresh, running⟩, fun _ _ => True.intro⟩, fun _ => .inl⟩
  | registered acted =>
    exact ⟨⟨fun evaluation member => (running evaluation member).mono grown,
      fun _ _ => True.intro⟩, fun _ => .inl⟩
  | returned evaluation rest last =>
    exact ⟨⟨running, fun _ _ => True.intro⟩, fun _ => .inl⟩
  | failed evaluation rest last =>
    obtain ⟨first, others⟩ := List.forall_mem_cons.mp running
    exact ⟨⟨others, fun _ _ => True.intro⟩, List.forall_mem_cons.mpr ⟨.inr first, fun _ => .inl⟩⟩
  | ended evaluation rest point =>
    obtain ⟨first, others⟩ := List.forall_mem_cons.mp running
    exact ⟨⟨others, fun _ _ => True.intro⟩, List.forall_mem_cons.mpr ⟨.inr first, fun _ => .inl⟩⟩
  | dispatched name acted =>
    refine ⟨⟨fun evaluation member => (running evaluation member).mono grown, ?_⟩, fun _ => .inl⟩
    cases BuiltinRegistry.next_move acted with
    | called last operation => exact fun evaluation top reference handed => nomatch handed
  | @snapshotStepped running' name point point' registry acted =>
    refine ⟨⟨fun evaluation member => (running evaluation member).mono grown, ?_⟩, fun _ => .inl⟩
    intro evaluation top
    have resolves : ∀ reference, point'.reference? = some reference →
        evaluation.Resolves registry name reference := by
      intro reference handed
      refine (running evaluation (List.mem_of_mem_head? top)).resolves
        (BuiltinRegistry.next_move acted) ordered own ?_ (pending evaluation top) handed
      intro reads
      subst reads
      obtain ⟨rest, rfl⟩ := List.head?_eq_some_iff.mp top
      exact of_decide_eq_false unchanged
    rcases afterSnapshot_cases name point' with ⟨reference, handed, same⟩ | same
    · simp only [same]
      exact resolves reference handed
    · simp only [same]
      exact resolves
  | found evaluation rest name reference point fn present =>
    obtain ⟨first, others⟩ := List.forall_mem_cons.mp running
    have resolves : evaluation.Resolves shared.registry name reference := pending evaluation rfl
    exact ⟨⟨List.forall_mem_cons.mpr ⟨resolves.isolated first, others⟩, fun _ _ => True.intro⟩,
      fun _ => .inl⟩
  | unregistered evaluation rest name reference point absent =>
    obtain ⟨first, others⟩ := List.forall_mem_cons.mp running
    have resolves : evaluation.Resolves shared.registry name reference := pending evaluation rfl
    exact ⟨⟨others, fun _ _ => True.intro⟩,
      List.forall_mem_cons.mpr ⟨.inr (resolves.isolated first), fun _ => .inl⟩⟩

end Laws

/-- A policy with its initial builtins on which nothing has been called yet. -/
def start (initial : Builtins Name Fn) : State Thread (Shared Thread Name Fn) (Local Name Fn) where
  shared := ⟨opened initial, []⟩
  threads := fun _ => ⟨[], .python, .outside none⟩

section Machine

variable [DecidableEq Thread] {config : Config Name Fn} {initial : Builtins Name Fn}
  {state : State Thread (Shared Thread Name Fn) (Local Name Fn)}

/-- Any number of threads that evaluate and change the registry, at every interleaving. -/
def evaluations (config : Config Name Fn) (initial : Builtins Name Fn) :
    Machine (State Thread (Shared Thread Name Fn) (Local Name Fn)) (Thread × Action Name Fn) :=
  Threads.machine (next config) (start initial)

/-- A snapshot is not taken for a name that was registered or unregistered since the
evaluation began. -/
def unchanged (state : State Thread (Shared Thread Name Fn) (Local Name Fn))
    (label : Thread × Action Name Fn) : Prop :=
  (state.threads label.1).changed state.shared.registry = false

/-- The condition is computed from the threads and the registry. -/
instance (state : State Thread (Shared Thread Name Fn) (Local Name Fn))
    (label : Thread × Action Name Fn) : Decidable (unchanged state label) :=
  inferInstanceAs (Decidable (_ = false))

/-- The registry inside a policy. -/
abbrev inner (state : State Thread (Shared Thread Name Fn) (Local Name Fn)) :
    State Thread (BuiltinRegistry.Shared Thread Name Fn) (Point Name Fn) :=
  state.project Shared.registry Local.point

/-- Every run is a run of the registry, so the laws of the registry hold. -/
theorem inner_reachable (reached : Reachable (evaluations config initial) state) :
    Reachable (BuiltinRegistry.registry config initial) (inner state) := by
  have projects : Projects (evaluations config initial) (BuiltinRegistry.registry config initial)
      (inner : State Thread (Shared Thread Name Fn) (Local Name Fn) → _) :=
    projects_of_actions Shared.registry Local.point rfl
      (fun _ _ _ _ _ _ acted => (next_move acted).registered_or_kept)
  exact projects.reachable reached

/-- In every run in which no evaluation calls a name that was registered or unregistered since
it began, every evaluation, ended or under way, resolves all its builtins as in the one
registry that was published when it began.

Proof: by induction on the run. The acting thread keeps its law under the condition, and the
registry only grows for all others. -/
theorem one_registry_per_evaluation
    (reached : ReachableUnder (evaluations config initial) unchanged state) :
    (∀ evaluation ∈ state.shared.ended, evaluation.Isolated state.shared.registry) ∧
      ∀ thread, ∀ evaluation ∈ (state.threads thread).running,
        evaluation.Isolated state.shared.registry := by
  have laws : (∀ evaluation ∈ state.shared.ended, evaluation.Isolated state.shared.registry) ∧
      ∀ thread, (state.threads thread).Isolated state.shared.registry := by
    refine under_invariant (fun state =>
      (∀ evaluation ∈ state.shared.ended, evaluation.Isolated state.shared.registry) ∧
        ∀ thread, (state.threads thread).Isolated state.shared.registry) ?_ ?_ reached
    · exact ⟨fun _ absent => absurd absent List.not_mem_nil,
        fun _ => ⟨fun _ absent => absurd absent List.not_mem_nil, fun _ none => nomatch none⟩⟩
    · intro before label after earlier laws admitted stepped
      obtain ⟨ended, threads⟩ := laws
      obtain ⟨ordered, points⟩ := ordered_reachable (inner_reachable (reachable_of_under earlier))
      have keeps {shared' : Shared Thread Name Fn} {here' : Local Name Fn}
          (acted : next config label.1 before.shared (before.threads label.1) label.2 =
            some (shared', here')) :=
        (next_move acted).keeps_isolated ordered (points label.1) admitted (threads label.1)
      have grown {shared' : Shared Thread Name Fn} {here' : Local Name Fn}
          (acted : next config label.1 before.shared (before.threads label.1) label.2 =
            some (shared', here')) : before.shared.registry.Grown shared'.registry :=
        (next_move acted).grown ordered (points label.1)
      constructor
      · obtain ⟨shared', here', acted, rfl⟩ := step_cases stepped
        intro evaluation member
        rcases (keeps acted).2 evaluation member with old | new
        · exact (ended evaluation old).mono (grown acted)
        · exact new
      · refine step_locals (fun _ shared here => here.Isolated shared.registry) ?_ ?_ stepped
        · exact fun _ _ acted => (keeps acted).1
        · exact fun _ _ acted other _ => (threads other).mono (grown acted)
  exact ⟨laws.1, fun thread => (laws.2 thread).1⟩

end Machine

/-- The two threads of the runs below. -/
inductive Caller where
  | evaluator
  | registrar
deriving DecidableEq

/-- Several actions of one thread. -/
def Caller.does (caller : Caller) (actions : List (Action String Nat)) :
    List (Caller × Action String Nat) :=
  actions.map (caller, ·)

/-- Every object is callable; its version stands for it. -/
def versions : Config String Nat := ⟨fun _ => true, id⟩

/-- A registry with the first version of one builtin. -/
def oneBuiltin : Builtins String Nat := fun name => if name = "rate" then some 1 else none

/-- One call of the builtin by the guest, with its snapshot, look-up and return. -/
def oneCall : List (Action String Nat) :=
  .dispatch "rate" :: List.replicate 5 .go ++ [.builtinReturns]

/-- A registration of the second version. -/
def oneRegistration : List (Action String Nat) :=
  .registry (.call (.update (.register "rate" 2 true))) :: List.replicate 7 (.registry .go)

/-- The evaluations that ended in a run, if each of its steps is admitted and enabled. -/
def endedAfter (admits : State Caller (Shared Caller String Nat) (Local String Nat) →
      Caller × Action String Nat → Prop)
    [∀ state label, Decidable (admits state label)] (labels : List (Caller × Action String Nat)) :
    Option (List (Evaluation String Nat)) :=
  (run (evaluations versions oneBuiltin) admits (start oneBuiltin) labels).map
    (·.shared.ended)

/-- A registration after both calls. -/
def registeredAfter : List (Caller × Action String Nat) :=
  Caller.evaluator.does (.evaluate :: oneCall ++ oneCall) ++
    Caller.registrar.does oneRegistration ++ Caller.evaluator.does [.guestEnds]

/-- A registration between the two calls. -/
def registeredBetween : List (Caller × Action String Nat) :=
  Caller.evaluator.does (.evaluate :: oneCall) ++ Caller.registrar.does oneRegistration ++
    Caller.evaluator.does (oneCall ++ [.guestEnds])

/-- An evaluation that ended before the registration was seen resolved as at its start. -/
theorem isolated_registeredAfter :
    ∃ state : State Caller (Shared Caller String Nat) (Local String Nat),
      ReachableUnder (evaluations versions oneBuiltin) unchanged state ∧
      state.shared.ended = [⟨0, [("rate", some 1), ("rate", some 1)]⟩] ∧
      ∀ evaluation ∈ state.shared.ended, evaluation.Isolated state.shared.registry := by
  have ended : endedAfter unchanged registeredAfter =
      some [⟨0, [("rate", some 1), ("rate", some 1)]⟩] := by decide +kernel
  obtain ⟨state, executed, same⟩ := Option.map_eq_some_iff.mp ended
  have reached := run_reaches (evaluations versions oneBuiltin) unchanged _ _ _ executed
  exact ⟨state, reached, same, (one_registry_per_evaluation reached).1⟩

/-- An evaluation calls two versions of one builtin when a registration comes between its
calls; no registry resolves both. -/
theorem mixed_registeredBetween :
    ∃ state : State Caller (Shared Caller String Nat) (Local String Nat),
      Reachable (evaluations versions oneBuiltin) state ∧
      state.shared.ended = [⟨0, [("rate", some 2), ("rate", some 1)]⟩] ∧
      ∀ evaluation ∈ state.shared.ended,
        ¬∃ builtins : Builtins String Nat, ∀ call ∈ evaluation.calls, call.2 = builtins call.1 := by
  have ended : endedAfter anything registeredBetween =
      some [⟨0, [("rate", some 2), ("rate", some 1)]⟩] := by decide +kernel
  obtain ⟨state, executed, same⟩ := Option.map_eq_some_iff.mp ended
  have reached := run_reaches (evaluations versions oneBuiltin) anything _ _ _ executed
  refine ⟨state, reached, same, ?_⟩
  rw [same]
  rintro evaluation member ⟨builtins, resolved⟩
  rw [List.mem_singleton.mp member] at resolved
  have second := resolved ("rate", some 2) (by decide)
  have first := resolved ("rate", some 1) (by decide)
  cases second.trans first.symm

end OpaPyWasm.EvaluationBuiltins
