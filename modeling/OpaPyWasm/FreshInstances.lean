import OpaPyWasm.PolicyService
import OpaPyWasm.StateIsolation

/-!
# What a new instance answers

The answer to a plan on some data is the one of a new instance that is built with
the data and asked once. On a deterministic guest with a bump allocator this is what
a used instance answers when it loaded the data last, what a reload that raises
would have led to, and what a construction that raises does lead to.
-/

namespace OpaPyWasm.PolicyService

open Exceptions Values Effects GuestCalls MemoryCodec WasmtimeRuntime PolicyInstance Regions

variable {σ : Type}

namespace Deployment

variable (policy : Deployment σ)

/-- Build an instance with the data and ask it once. -/
def freshly (data : Option Raw) (plan : Plan) : Except Raised Value :=
  outcome (do
    let world ← PolicyInstance.build policy.setup (document data) 0
    let ended ← within world (PolicyInstance.evaluate policy.setup plan.input plan.entrypointId)
    pure ended.1) []

/-- The answer that a plan gets on the data. -/
def decide (data : Option Raw) (plan : Plan) : Answer :=
  policy.finish plan.simplified (policy.freshly data plan)

end Deployment

/-- What is raised is not simplified. -/
theorem decide_raised {policy : Deployment σ} {data : Option Raw} {plan : Plan} {raised : Raised}
    (fails : policy.freshly data plan = .error raised) :
    policy.decide data plan = .raised raised := by
  unfold Deployment.decide
  rw [fails]
  rfl

/-- A program of an instance and then its value, from outside. -/
theorem outcome_within {α : Type} (world : World σ) (program : Py σ α) (log : List Fault) :
    outcome (within world program >>= fun ended => pure ended.1) log =
      outcome program { world with faults := log } := by
  cases ended : program { world with faults := log } with
  | ok value after =>
    have ran : within world program log = .ok (value, after) after.faults := by
      simp only [within, ended]
    rw [outcome_bind_ok ran, outcome_ok ended]
    rfl
  | error raised after =>
    have ran : within world program log = .error raised after.faults := by
      simp only [within, ended]
    rw [outcome_raised (bind_of_error ran), outcome_raised ended]

variable {policy : Deployment σ} {space : Space σ} {origin world : World σ} {data : Option Raw}
  {plan : Plan} {raised : Raised} {log : List Fault}

/-- A construction that raises is what a new instance answers. -/
theorem freshly_of_build_error (failed : policy.build data 0 = .error raised log) :
    policy.freshly data plan = .error raised :=
  outcome_raised (bind_of_error failed)

/-- A new instance answers what its evaluation returns or raises. -/
theorem freshly_of_build_ok {fresh : World σ} (built : policy.build data 0 = .ok fresh log) :
    policy.freshly data plan =
      outcome (PolicyInstance.evaluate policy.setup plan.input plan.entrypointId)
        { fresh with faults := log } := by
  rw [← outcome_within]
  exact outcome_bind_ok built

section Opened

variable (opened : Opened policy.setup origin)
include opened

/-- A construction goes as `initialise` goes on after the runtime was opened. -/
theorem build_opened (data : Option Raw) (version : Nat) :
    ∃ runtime log, policy.build data version =
        (within runtime (initialise policy.setup (Deployment.document data) version) >>=
          fun built => pure built.2) log ∧
      initialise policy.setup (Deployment.document data) version { runtime with faults := log } =
        (loadData policy.setup (Deployment.document data) >>= fun _ => ensureRunning policy.setup)
          { origin with dataVersion := version } := by
  obtain ⟨runtime, log, created, reached⟩ := opened
  exact ⟨runtime, log, bind_of_ok created, bind_of_ok reached⟩

/-- A load that raises makes the construction raise that. -/
theorem build_of_load_error {version : Nat} {after : World σ}
    (failed : loadData policy.setup (Deployment.document data) { origin with dataVersion := version } =
      .error raised after) :
    ∃ log, policy.build data version = .error raised log := by
  obtain ⟨runtime, log, unfolded, initialised⟩ := build_opened opened data version
  rw [bind_of_error failed] at initialised
  have ran : within runtime (initialise policy.setup (Deployment.document data) version) log =
      .error raised after.faults := by
    simp only [within, initialised]
  exact ⟨after.faults, unfolded.trans (bind_of_error ran)⟩

/-- Where the ticker starts, a load that returns makes the construction return. -/
theorem build_of_load_ok {version : Nat} {after : World σ}
    (starts : ∀ guest, Ends policy.setup.guest.startTicker guest (fun _ _ => True) (fun _ _ => False))
    (loaded : loadData policy.setup (Deployment.document data) { origin with dataVersion := version } =
      .ok ⟨⟩ after) :
    ∃ fresh log, policy.build data version = .ok fresh log := by
  obtain ⟨runtime, log, unfolded, initialised⟩ := build_opened opened data version
  have running : Ends (ensureRunning policy.setup) after (fun _ _ => True) (fun _ _ => False) := by
    unfold ensureRunning
    split
    · exact ends_pure trivial
    · exact ends_call (starts after.guest)
  rw [bind_of_ok loaded] at initialised
  cases ended : ensureRunning policy.setup after with
  | error raised last => exact (running.of_error ended).elim
  | ok _ last =>
    rw [ended] at initialised
    have ran : within runtime (initialise policy.setup (Deployment.document data) version) log =
        .ok (⟨⟩, last) last.faults := by
      simp only [within, initialised]
    exact ⟨last, last.faults, unfolded.trans (bind_of_ok ran)⟩

end Opened

section Bump

variable (bump : BumpGuest policy.setup.guest space)
include bump

/-- A load does what it does on the opened runtime, whatever the tag there, if the
instance has the same memory below the address it goes back to. -/
theorem load_alike (initial : world.initialHeapPtr = origin.initialHeapPtr)
    (floor : AgreeBelow space origin.initialHeapPtr origin.guest world.guest) (version : Nat) :
    Alike (loadData policy.setup (Deployment.document data)) world
      { origin with dataVersion := version } (fun _ _ _ => True) (fun _ _ _ => True) := by
  have agree : AgreeBelow space world.initialHeapPtr world.guest origin.guest := by
    rw [initial]
    exact floor.symm
  have loads : Alike (loadData policy.setup (Deployment.document data)) world
      { origin with dataVersion := version }
      (fun _ after after' =>
        LoadedAlike space world { origin with dataVersion := version } after after')
      (fun _ _ _ => True) := loadData_alike bump _ initial agree
  exact loads.mono (fun _ _ _ _ => trivial) (fun _ _ _ _ => trivial)

variable (opened : Opened policy.setup origin)
include opened

/-- A reload that raises would have led to that answer on a new instance. -/
theorem freshly_of_reload_error {earlier : Option Document} (used : Used policy.setup earlier world)
    {version : Nat} {after : World σ} (failed : policy.reload data version world = .error raised after) :
    policy.freshly data plan = .error raised := by
  have failed : reloadData policy.setup (Deployment.document data) version world =
    .error raised after := failed
  cases load : loadData policy.setup (Deployment.document data) world with
  | ok _ loaded =>
    have returned : Ends (reloadData policy.setup (Deployment.document data) version) world
        (fun _ _ => True) (fun _ _ => False) := by
      refine ends_bind (ends_exceptFor ((ends_of_ok load).mono ?_ (fun _ _ => False.elim)))
      exact fun _ _ _ => ends_modify trivial
    exact (returned.of_error failed).elim
  | error error loaded =>
    have rethrown : Ends (reloadData policy.setup (Deployment.document data) version) world
        (fun _ _ => False) (fun caught _ => caught = error) := by
      have loads : Ends (loadData policy.setup (Deployment.document data)) world
          (fun _ _ => False) (fun caught _ => caught = error) := by
        unfold Ends
        rw [load]
      refine ends_bind (ends_exceptFor (loads.mono (fun _ _ => False.elim) ?_))
      rintro caught _ rfl
      exact ⟨fun _ => ends_bind (ends_modify (ends_throw rfl)), fun _ => rfl⟩
    have same : raised = error := rethrown.of_error failed
    have determined := used_determined bump opened used
    obtain ⟨last, failedToo, _⟩ :=
      (load_alike bump determined.initialHeapPtr determined.floor 0).of_error load
    obtain ⟨log, built⟩ := build_of_load_error opened failedToo
    rw [same]
    exact freshly_of_build_error built

/-- A construction that raises leads to that answer, whatever the version. -/
theorem freshly_of_build_failed {version : Nat} (starts : ∀ guest,
      Ends policy.setup.guest.startTicker guest (fun _ _ => True) (fun _ _ => False))
    (failed : policy.build data version = .error raised log) :
    policy.freshly data plan = .error raised := by
  cases load : loadData policy.setup (Deployment.document data) { origin with dataVersion := version } with
  | ok _ loaded =>
    obtain ⟨fresh, log', built⟩ := build_of_load_ok opened starts load
    rw [built] at failed
    cases failed
  | error error loaded =>
    obtain ⟨log', built⟩ := build_of_load_error opened load
    rw [built] at failed
    cases failed
    have alike : Alike (loadData policy.setup (Deployment.document data))
        { origin with dataVersion := version } { origin with dataVersion := 0 }
        (fun _ _ _ => True) (fun _ _ _ => True) := load_alike bump rfl (.refl _ _) 0
    obtain ⟨last, failedToo, _⟩ := alike.of_error load
    obtain ⟨log'', builtToo⟩ := build_of_load_error opened failedToo
    exact freshly_of_build_error builtToo

/-- A used instance answers what a new one answers that is built with the data it
loaded last. -/
theorem freshly_of_used (starts : ∀ guest,
      Ends policy.setup.guest.startTicker guest (fun _ _ => True) (fun _ _ => False))
    (used : Used policy.setup (Deployment.document data) world) (plan : Plan) :
    outcome (policy.evaluate plan) world = policy.freshly data plan := by
  change outcome (PolicyInstance.evaluate policy.setup plan.input plan.entrypointId) world = _
  obtain ⟨reference, loaded, -⟩ := (used_determined bump opened used).loaded
  have alike : Alike (loadData policy.setup (Deployment.document data)) origin
      { origin with dataVersion := 0 } (fun _ _ _ => True) (fun _ _ _ => True) :=
    load_alike bump rfl (.refl _ _) 0
  obtain ⟨last, loadedToo, _⟩ := alike.of_ok loaded
  obtain ⟨fresh, log, built⟩ := build_of_load_ok opened starts loadedToo
  rw [freshly_of_build_ok built,
    ((history_forgotten bump used built).2.2.1 plan.input plan.entrypointId).1]
  have same : SameData space fresh { fresh with faults := log } := ⟨rfl, rfl, .refl _ _⟩
  exact (evaluate_alike bump plan.input plan.entrypointId same).outcome_eq

end Bump

end OpaPyWasm.PolicyService
