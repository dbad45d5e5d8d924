import OpaPyWasm.PolicyConstruction

/-!
# How a policy's constructor ends

`PolicyApi.construct` is the constructor as its callers see it: the metadata or an error, and
the calls that raised on the way. `PolicyConstruction.construct` has the stores, the ticker
and the pool besides, with all handlers that close them.

The handlers change nothing that a caller sees, with one exception. Where the thread of the
ticker cannot be started, the handler of the policy joins a thread that was never started,
and what the join raises takes the place of what the start raised.
-/

namespace OpaPyWasm.PolicyConstruction

open Exceptions Values Effects GuestCalls MemoryCodec WasmtimeRuntime PolicyInstance PolicyApi
  RuntimeConstruction

variable {σ α : Type}

/-- The log of the calls that raised. -/
def Premises.faults (premises : Premises) : List Fault := premises.process.faults

/-- What the process does to the log. -/
theorem mirrors_onProcess {program : Construct α} {api : Api α}
    (mirrors : Mirrors Process.faults program api) :
    Mirrors Premises.faults (onProcess program) api := by
  intro premises
  have inside := mirrors premises.process
  unfold MirrorsAt at inside ⊢
  unfold onProcess Premises.faults
  cases ended : program premises.process <;> cases ended' : api premises.process.faults <;>
    simp only [ended, ended'] at inside ⊢ <;> exact inside

/-- The code of an instance may be cut in two: the second part starts with the log that the
first one left. -/
theorem within_bind {β : Type} (world : World σ) (program : Py σ α) (next : α → Py σ β) :
    within world (program >>= next) = (do
      let ended ← within world program
      within ended.2 (next ended.1)) := by
  funext log
  change within world (EStateM.bind program next) log =
    EStateM.bind (within world program) (fun ended => within ended.2 (next ended.1)) log
  unfold within EStateM.bind
  dsimp only
  cases program { world with faults := log } <;> rfl

section Construction

variable (setup : Setup σ)

/-- The instance's constructor up to the start of the ticker. -/
def unstarted (data : Option Document) (version : Nat) : Api (World σ) := do
  let runtime ← createRuntime setup.native setup.guest setup.maxMemoryPages
  let opened ← within runtime (initialiseGuarded setup data version)
  pure opened.2

/-- The start of the ticker for an instance. -/
def started (world : World σ) : Api (World σ) := do
  let ended ← within world (PolicyInstance.ensureRunning setup)
  pure ended.2

/-- The instance's constructor in its two parts. -/
theorem build_split (data : Option Document) (version : Nat) :
    build setup data version = unstarted setup data version >>= started setup := by
  have parts : initialise setup data version =
      initialiseGuarded setup data version >>= fun _ => PolicyInstance.ensureRunning setup := by
    simp only [initialise, initialiseGuarded, bind_assoc]
  unfold build unstarted started
  simp only [parts, within_bind, bind_assoc, pure_bind]

/-- Closing a runtime shows in no log. -/
theorem mirrors_close : Mirrors Premises.faults (onProcess close) (pure ⟨⟩) :=
  mirrors_onProcess (mirrors_withLock ((mirrors_pure PUnit.unit).after fun _ => rfl))

/-- A program whose handler closes a runtime and raises again mirrors the program alone. -/
theorem mirrors_closing {program : Build α} {api : Api α}
    (mirrors : Mirrors Premises.faults program api) :
    Mirrors Premises.faults (tryCatch program (fun raised => do
      onProcess close
      throw raised)) api := by
  rw [← tryCatch_rethrow api]
  exact mirrors.tryCatch fun raised => mirrors_close.bind fun _ => mirrors_throw raised

/-- The probe before the ticker makes the calls of the instance's constructor. -/
theorem mirrors_openProbe (data : Option Document) (version : Nat) :
    Mirrors Premises.faults (openProbe (fun _ => setup.native) setup data version)
      (unstarted setup data version) := by
  refine (mirrors_onProcess (mirrors_construct _ _ _)).bind fun runtime => mirrors_closing ?_
  exact (mirrors_onProcess (mirrors_calling _)).bind fun opened => mirrors_pure _

/-- An instance comes out of the constructor with the log. -/
theorem ends_unstarted (data : Option Document) (version : Nat) (log : List Fault) :
    Ends (unstarted setup data version) log (fun world after => world.faults = after)
      (fun _ _ => True) := by
  refine ends_bind (ends_true.mono (fun runtime middle _ => ?_) fun _ _ => id)
  refine ends_bind (ends_within (ends_true.mono (fun _ after _ => ?_) fun _ _ => id))
  exact ends_pure rfl

variable {premises : Premises}

/-- A new ticker starts its thread as the instance's constructor does. -/
theorem mirrors_ensureRunning {world : World σ} (logged : world.faults = premises.faults)
    (fresh : premises.ticker = ⟨none, false, false⟩) :
    MirrorsAt Premises.faults (ensureRunning setup world) (started setup world) premises := by
  unfold ensureRunning started PolicyInstance.ensureRunning
  cases setup.deadlineTicks with
  | none =>
    have same : { world with faults := premises.faults } = world := by rw [← logged]
    refine ⟨?_, rfl⟩
    exact same.symm
  | some ticks =>
    have unsettled : ¬(premises.ticker.thread.isSome || premises.ticker.stop) = true := by
      rw [fresh]
      exact Bool.false_ne_true
    have starts : Mirrors Premises.faults
        (do
          modify (fun premises =>
            premises.setTicker { premises.ticker with thread := some .unstarted })
          let ended ← onProcess (calling (within world
            (call .ticker .startTicker setup.guest.startTicker)))
          modify (fun premises =>
            premises.setTicker { premises.ticker with thread := some .started, running := true })
          pure ended.2)
        (do
          let ended ← within world (call .ticker .startTicker setup.guest.startTicker)
          pure ended.2) := by
      refine Mirrors.after ?_ fun _ => rfl
      refine (mirrors_onProcess (mirrors_calling _)).bind fun ended => ?_
      exact (mirrors_pure _).after fun _ => rfl
    refine mirrorsAt_get ?_
    rw [if_neg unsettled]
    exact starts premises

/-- The metadata are read as the policy's constructor reads them, and the probe is closed. -/
theorem mirrors_reading (built : World σ) :
    Mirrors Premises.faults
      (do
        let metadata ← tryCatch (onProcess (calling (readMetadata setup built))) (fun raised => do
          onProcess close
          throw raised)
        onProcess close
        pure metadata)
      (readMetadata setup built) := by
  have read := mirrors_closing (mirrors_onProcess (mirrors_calling (readMetadata setup built)))
  rw [← bind_pure (readMetadata setup built)]
  refine Mirrors.bind (by rwa [bind_pure]) fun metadata => ?_
  exact mirrors_close.bind fun _ => mirrors_pure metadata

/-- What the handler of the policy guards ends like the constructor without handlers.

Proof: the probe opens as the instance does, with the ticker as it was. It starts the ticker
as the instance does, and then reads and closes what the constructor reads. -/
theorem mirrors_guarded (free : premises.process.locked = false)
    (opened : ∀ store ∈ premises.process.openStores, store < premises.process.opened)
    (fresh : premises.ticker = ⟨none, false, false⟩) :
    MirrorsAt Premises.faults
      (do
        let world ← openProbe (fun _ => setup.native) setup none 0
        probe setup world)
      (build setup none 0 >>= readMetadata setup) premises := by
  rw [build_split, bind_assoc]
  refine (mirrors_openProbe setup none 0 premises).bind fun world after ended => ?_
  have returned := (mirrors_openProbe setup none 0 premises).of_ok ended
  have logged := (ends_unstarted setup none 0 premises.faults).of_ok returned
  obtain ⟨process, rfl, -⟩ := (ends_openProbe free opened none 0).of_ok ended
  refine (mirrors_ensureRunning setup logged fresh).bind fun built middle _ => ?_
  exact mirrors_reading setup built middle

/-- The factory and the pool of a policy make the calls of the compiler. -/
theorem mirrors_prepare (poolSize : Nat) (wasmBytes : List UInt8)
    (compiled : Except Raised MemoryImport) :
    Mirrors Premises.faults (prepare poolSize wasmBytes compiled)
      (compilePolicy wasmBytes compiled) := by
  have pooled : Mirrors Premises.faults (newPool poolSize) (pure ⟨⟩) :=
    (mirrors_pure PUnit.unit).after fun _ => rfl
  have prepared : Mirrors Premises.faults (prepare poolSize wasmBytes compiled)
      (compilePolicy wasmBytes compiled >>= fun _ => pure ⟨⟩) := by
    refine Mirrors.after ?_ fun _ => rfl
    exact (mirrors_onProcess (mirrors_calling _)).bind fun _ => pooled
  rwa [bind_pure_unit] at prepared

/-- Closing a pool shows in no log, and leaves the ticker. -/
theorem closePool_ok (premises : Premises) :
    ∃ after, closePool premises = .ok ⟨⟩ after ∧ after.faults = premises.faults ∧
      after.ticker = premises.ticker := by
  refine ⟨_, rfl, ?_, ?_⟩
  all_goals
    dsimp only
    split <;> rfl

/-- The handler of the policy raises again what it caught, where the ticker is settled. -/
theorem abandon_settled (settled : premises.ticker.Settled) (raised : Raised) :
    ∃ after, (abandon raised : Build α) premises = .error raised after ∧
      after.faults = premises.faults := by
  obtain ⟨middle, closed, same, ticker⟩ := closePool_ok premises
  rw [← ticker] at settled
  unfold abandon
  rw [bind_of_ok closed]
  obtain ⟨process, ⟨thread, stop, running⟩, idle, poolClosed⟩ := middle
  cases thread with
  | none => exact ⟨_, rfl, same⟩
  | some state =>
    cases state with
    | unstarted => exact absurd rfl settled.1
    | started => exact ⟨_, rfl, same⟩

/-- With a thread that was not started it raises what the join of the thread raises. -/
theorem abandon_unstarted {stop running : Bool}
    (unstarted : premises.ticker = ⟨some .unstarted, stop, running⟩) (raised : Raised) :
    ∃ after, (abandon raised : Build α) premises = .error unstartedJoin after ∧
      after.faults = premises.faults := by
  obtain ⟨middle, closed, same, ticker⟩ := closePool_ok premises
  rw [← ticker] at unstarted
  unfold abandon
  rw [bind_of_ok closed]
  obtain ⟨process, _, idle, poolClosed⟩ := middle
  cases unstarted
  exact ⟨_, rfl, same⟩

variable {setup} {start : Premises} {poolSize : Nat} {wasmBytes : List UInt8}
  {compiled : Except Raised MemoryImport}

/-- The two models of the policy's constructor agree. With its stores, its ticker, its pool
and its handlers it returns the same metadata or raises the same error, after the same calls,
unless the thread of its ticker cannot be started. Then the policy raises what the join of
that thread raises, in place of what its start raised.

Proof: the two compile the module alike, and what the handler guards ends like the
constructor without handlers. The handler then raises again what it caught, except where it
finds the unstarted thread, which is where the start of the ticker failed. -/
theorem construct_alike (free : start.process.locked = false)
    (opened : ∀ store ∈ start.process.openStores, store < start.process.opened) :
    (¬TickerFails (fun _ => setup.native) setup poolSize wasmBytes compiled start →
      MirrorsAt Premises.faults
        (construct (fun _ => setup.native) setup poolSize wasmBytes compiled)
        (PolicyApi.construct setup wasmBytes compiled) start) ∧
    (TickerFails (fun _ => setup.native) setup poolSize wasmBytes compiled start →
      ∃ after raised,
        construct (fun _ => setup.native) setup poolSize wasmBytes compiled start =
          .error unstartedJoin after ∧
        PolicyApi.construct setup wasmBytes compiled start.faults = .error raised after.faults) := by
  have compiles := mirrors_prepare poolSize wasmBytes compiled start
  have split : PolicyApi.construct setup wasmBytes compiled =
      compilePolicy wasmBytes compiled >>= fun _ => build setup none 0 >>= readMetadata setup := rfl
  rw [split]
  unfold construct
  cases prepared : prepare poolSize wasmBytes compiled start with
  | error raised after =>
    refine ⟨fun _ => compiles.bind fun value middle ended => ?_, fun fails => ?_⟩
    · cases prepared.symm.trans ended
    · exact absurd fails (not_tickerFails_of_unprepared prepared)
  | ok done middle =>
    have same := (ends_prepare start).of_ok prepared
    have guarded : MirrorsAt Premises.faults
        (do
          let world ← openProbe (fun _ => setup.native) setup none 0
          probe setup world)
        (build setup none 0 >>= readMetadata setup) middle := by
      subst same
      exact mirrors_guarded setup free opened rfl
    have ends : Ends (do
        let world ← openProbe (fun _ => setup.native) setup none 0
        probe setup world) middle _ _ := ends_guarded free opened prepared same
    constructor
    · intro unfailing
      refine compiles.bind fun value _ ended => ?_
      cases prepared.symm.trans ended
      rw [← tryCatch_rethrow (build setup none 0 >>= readMetadata setup)]
      refine guarded.tryCatch fun raised after failed => ?_
      obtain ⟨-, ⟨-, -, settled⟩ | ⟨fails, -, -⟩⟩ := ends.of_error failed
      · obtain ⟨final, again, kept⟩ := abandon_settled (α := Metadata) settled raised
        unfold MirrorsAt
        rw [again]
        exact ⟨rfl, kept⟩
      · exact absurd fails unfailing
    · intro fails
      rw [bind_of_ok prepared, bind_of_ok (compiles.of_ok prepared)]
      cases ended : (do
          let world ← openProbe (fun _ => setup.native) setup none 0
          probe setup world : Build Metadata) middle with
      | ok metadata after => exact absurd fails (ends.of_ok ended).1
      | error raised after =>
        obtain ⟨-, ⟨starts, -, -⟩ | ⟨-, -, unstarted⟩⟩ := ends.of_error ended
        · exact absurd fails starts
        · obtain ⟨final, joined, kept⟩ := abandon_unstarted (α := Metadata) unstarted raised
          refine ⟨final, raised, ?_, ?_⟩
          · rw [tryCatch_of_error ended, joined]
          · rw [kept]
            exact guarded.of_error ended

end Construction

end OpaPyWasm.PolicyConstruction
