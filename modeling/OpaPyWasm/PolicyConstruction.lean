import OpaPyWasm.EscapedFaults
import OpaPyWasm.InstancePool
import OpaPyWasm.PooledInstances
import OpaPyWasm.RuntimeConstruction

/-!
# What a construction leaves behind

`OpaWasmPolicy.__init__` compiles the module, builds a probe instance, reads its metadata and
closes it. Four constructors stand inside one another, and each has a handler of its own: the
runtime's and the instance's close the store, and the policy's closes the pool and the ticker.
The ticker is started behind the handler of the instance.
-/

namespace OpaPyWasm.PolicyConstruction

open Exceptions Values Effects GuestCalls MemoryCodec WasmtimeRuntime PolicyInstance PolicyApi
  RuntimeConstruction

/-- The `Thread` object of a ticker. -/
inductive TickerThread where
  | unstarted
  | started

/-- The ticker, with whether its thread runs. -/
structure Ticker where
  thread : Option TickerThread
  stop : Bool
  running : Bool

/-- What the constructors work on: the process, and the ticker and the pool of the new policy. A
pooled instance is named by its store. -/
structure Premises where
  process : Process
  ticker : Ticker
  idle : List InstancePool.Slot
  poolClosed : Bool

/-- The code of the policy's constructor. -/
abbrev Build := EStateM Raised Premises

variable {σ α : Type}

/-- Code that leaves the ticker and the pool. -/
def onProcess (program : Construct α) : Build α := fun premises =>
  match program premises.process with
  | .ok value process => .ok value { premises with process := process }
  | .error raised process => .error raised { premises with process := process }

/-- Set the ticker. -/
def Premises.setTicker (premises : Premises) (ticker : Ticker) : Premises :=
  { premises with ticker := ticker }

/-- `OpaInstancePool.__init__`. -/
def newPool (poolSize : Nat) : Build PUnit :=
  modify (fun premises =>
    { premises with idle := List.replicate poolSize .placeholder, poolClosed := false })

/-- `OpaInstancePool.close`: the idle instances are closed, and the sentinel is posted. -/
def closePool : Build PUnit :=
  modify (fun premises =>
    if premises.poolClosed then premises
    else
      { premises with
        process :=
          { premises.process with
            openStores := premises.process.openStores.filter (fun store => .pooled store ∉ premises.idle) }
        idle := [.sentinel]
        poolClosed := true })

/-- `EpochTicker.__init__`. -/
def newTicker : Build PUnit :=
  modify (fun premises => premises.setTicker ⟨none, false, false⟩)

/-- What `Thread.join` says of a thread that was never started. -/
def unstartedJoin : Raised := ⟨.runtimeError, "cannot join thread before it is started", []⟩

/-- `EpochTicker.close`. A started thread ends when it sees the stop event. -/
def closeTicker : Build PUnit := do
  modify (fun premises => premises.setTicker { premises.ticker with stop := true })
  let thread := (← get).ticker.thread
  modify (fun premises => premises.setTicker { premises.ticker with thread := none })
  match thread with
  | none => pure ⟨⟩
  | some .unstarted => throw unstartedJoin
  | some .started => modify (fun premises => premises.setTicker { premises.ticker with running := false })

/-- The handler of the policy. -/
def abandon (raised : Raised) : Build α := do
  closePool
  closeTicker
  throw raised

section Probe

variable (native : Nat → Native σ) (setup : Setup σ)

/-- `EpochTicker.ensure_running` for an instance with a deadline. -/
def ensureRunning (world : World σ) : Build (World σ) :=
  match setup.deadlineTicks with
  | none => pure world
  | some _ => do
    let ticker := (← get).ticker
    if ticker.thread.isSome || ticker.stop then pure world
    else do
      modify (fun premises => premises.setTicker { premises.ticker with thread := some .unstarted })
      let started ← onProcess (calling (within world
        (call .ticker .startTicker setup.guest.startTicker)))
      modify (fun premises =>
        premises.setTicker { premises.ticker with thread := some .started, running := true })
      pure started.2

/-- `OpaPolicyInstance.__init__` on a new runtime, inside the handler. -/
def initialiseGuarded (data : Option Document) (version : Nat) : Py σ PUnit := do
  openInstance setup
  modify (fun world => { world with dataVersion := version })
  loadData setup data

/-- `OpaPolicyInstance.__init__` before the start of the ticker. -/
def openProbe (data : Option Document) (version : Nat) : Build (World σ) := do
  let runtime ← onProcess (RuntimeConstruction.construct native setup.guest setup.maxMemoryPages)
  tryCatch
    (do
      let opened ← onProcess (calling (within runtime (initialiseGuarded setup data version)))
      pure opened.2)
    (fun raised => do
      onProcess close
      throw raised)

/-- The metadata of the probe. -/
def readMetadata (probe : World σ) : Api Metadata := do
  let entrypoints ← within probe (decodeEntrypoints setup.guest setup.json setup.limits .metadata)
  let builtins ← within entrypoints.2
    (decodeBuiltins setup.guest setup.json setup.limits .metadata)
  pure ⟨entrypoints.1, builtins.1⟩

/-- What the handler of the policy guards: a probe is built, read and closed. -/
def probe (world : World σ) : Build Metadata := do
  let built ← ensureRunning setup world
  let metadata ← tryCatch (onProcess (calling (readMetadata setup built))) (fun raised => do
    onProcess close
    throw raised)
  onProcess close
  pure metadata

variable (poolSize : Nat) (wasmBytes : List UInt8) (compiled : Except Raised MemoryImport)

/-- The constructor before its handler: the factory and the pool. -/
def prepare : Build PUnit := do
  newTicker
  onProcess (calling (compilePolicy wasmBytes compiled))
  newPool poolSize

/-- `OpaWasmPolicy.__init__`. -/
def construct : Build Metadata := do
  prepare poolSize wasmBytes compiled
  tryCatch
    (do
      let world ← openProbe native setup none 0
      probe setup world)
    abandon

/-- The construction comes to the start of the ticker's thread, and it fails. -/
def TickerFails (start : Premises) : Prop :=
  setup.deadlineTicks.isSome = true ∧
    ∃ world after raised guest,
      (do prepare poolSize wasmBytes compiled; openProbe native setup none 0 : Build (World σ)) start =
        .ok world after ∧ setup.guest.startTicker world.guest = .error raised guest

end Probe

/-- The exceptions between two logs are memory overflows that another attempt answered. -/
def Answered (before after : List Fault) : Prop :=
  ∃ faults, after = faults ++ before ∧
    ∀ fault ∈ faults, fault.stage = .instantiation ∧ isMemoryOverflowTrap fault.raised = true

/-- A construction that succeeded: no store is open that was not before, no instance is in the
pool, and no exception of a call was overlooked but a memory overflow that was tried again. -/
structure Succeeded (start after : Premises) : Prop where
  stores : after.process.openStores = start.process.openStores
  pool : ∀ slot ∈ after.idle, slot = .placeholder
  answered : Answered start.process.faults after.process.faults

/-- A construction that failed: every store that it opened is closed, and the ticker does not run
and does not seem to. -/
structure Failed (start after : Premises) : Prop where
  stores : after.process.openStores = start.process.openStores
  stopped : after.ticker.running = false
  cleared : after.ticker.thread = none

variable (native : Nat → Native σ) (setup : Setup σ) (poolSize : Nat) (wasmBytes : List UInt8)
  (compiled : Except Raised MemoryImport)

/-- A construction leaves nothing behind, however its steps end. -/
structure LeaksNothing (start : Premises) : Prop where
  ends : Ends (construct native setup poolSize wasmBytes compiled) start
    (fun _ after => Succeeded start after) (fun _ after => Failed start after)

section Silence

variable {τ : Type} {logOf : τ → List Fault}

/-- A program that returns only if none of its calls raised. -/
def Silent (logOf : τ → List Fault) (program : EStateM Raised τ α) : Prop :=
  ∀ start, Ends program start (fun _ after => logOf after = logOf start) (fun _ _ => True)

/-- Returning. -/
theorem silent_pure (value : α) : Silent logOf (pure value : EStateM Raised τ α) :=
  fun _ => ends_pure rfl

/-- A step that leaves the log. -/
theorem silent_modify {change : τ → τ} (same : ∀ start, logOf (change start) = logOf start) :
    Silent logOf (modify change) :=
  fun start => ends_modify (same start)

/-- A program that reports what it raises returns only if nothing was raised. -/
theorem silent_reports (stage : Stage) {program : Py σ α} (reports : Reports stage program) :
    Silent World.faults program :=
  fun world => (reports world).mono (fun _ _ both => both.2) (fun _ _ _ => trivial)

/-- One program after another returns only if both do. -/
theorem silent_bind {β : Type} {program : EStateM Raised τ α} {next : α → EStateM Raised τ β}
    (first : Silent logOf program) (second : ∀ value, Silent logOf (next value)) :
    Silent logOf (program >>= next) := by
  intro start
  refine ends_bind ((first start).mono (fun value middle same => ?_) (fun _ _ _ => trivial))
  exact (second value middle).mono (fun _ _ later => later.trans same) (fun _ _ _ => trivial)

/-- A handler that always raises does not make a program return. -/
theorem silent_exceptFor {caught : Kind → Bool} {body : EStateM Raised τ α}
    {handler : Raised → EStateM Raised τ α} (silent : Silent logOf body)
    (raises : ∀ raised start, Ends (handler raised) start (fun _ _ => False) (fun _ _ => True)) :
    Silent logOf (exceptFor caught body handler) := by
  intro start
  refine ends_exceptFor ((silent start).mono (fun _ _ => id) (fun raised middle _ => ?_))
  refine ⟨fun _ => ?_, fun _ => trivial⟩
  exact (raises raised middle).mono (fun _ _ => False.elim) (fun _ _ => id)

/-- The code of an instance carries its log outside. -/
theorem silent_within {program : Py σ α} (world : World σ) (silent : Silent World.faults program) :
    Silent id (within world program) := by
  intro log
  exact ends_within ((silent { world with faults := log }).mono (fun _ _ => id) (fun _ _ => id))

variable (setup : Setup σ)

/-- The handler of the data load always raises. -/
theorem recoverData_raises (initial : Int) (raised : Raised) (world : World σ) :
    Ends (recoverData setup initial raised) world (fun _ _ => False) (fun _ _ => True) := by
  unfold recoverData
  refine ends_bind (ends_true.mono (fun _ middle _ => ?_) (fun _ _ _ => trivial))
  refine ends_bind (ends_true.mono (fun _ after _ => ?_) (fun _ _ _ => trivial))
  exact ends_ite (fun _ => ends_throw trivial) (fun _ => ends_throw trivial)

/-- A data load that returns met no exception. -/
theorem silent_loadData (data : Option Document) : Silent World.faults (loadData setup data) := by
  unfold loadData
  refine silent_bind (silent_reports .dataReset (reports_field _)) fun initial => ?_
  refine silent_bind (silent_reports _ (reports_heapPtrSet setup .dataReset initial)) fun _ => ?_
  cases data with
  | none => exact silent_modify fun _ => rfl
  | some document =>
    refine silent_bind (silent_exceptFor (silent_bind ?_ fun addr => silent_modify fun _ => rfl)
      (recoverData_raises setup initial)) fun _ => ?_
    · exact silent_reports _
        (((reports_law setup.guest setup.json .dataLoad).buffers setup.limits).pythonToOpaValue _ _ _)
    · refine silent_bind (silent_reports _ (reports_heapPtrGet setup .dataCheckpoint)) fun heapPtr => ?_
      exact silent_modify fun _ => rfl

/-- An instance that is opened met no exception. -/
theorem silent_initialiseGuarded (data : Option Document) (version : Nat) :
    Silent World.faults (initialiseGuarded setup data version) := by
  have opened : Silent World.faults (openInstance setup) := by
    unfold openInstance
    refine silent_bind ?_ fun _ => ?_
    · exact fun world => ends_fromExcept (fun _ _ => rfl) (fun _ _ => trivial)
    refine silent_bind ?_ fun _ => ?_
    · unfold initDataManager
      refine silent_bind (silent_reports _ (reports_heapPtrGet setup .initialHeap)) fun heapPtr => ?_
      exact silent_bind (silent_modify fun _ => rfl) fun _ => silent_modify fun _ => rfl
    refine silent_bind ?_ fun _ => ?_
    · unfold convertTimeout
      split
      · exact silent_pure _
      · refine silent_bind (silent_reports .deadline (reports_callPython _ fun _ => rfl))
          fun _ => silent_pure _
    refine silent_bind (silent_reports _ ((reports_law setup.guest setup.json .metadata).decodeBuiltins))
      fun builtins => silent_modify fun _ => rfl
  refine silent_bind opened fun _ => ?_
  exact silent_bind (silent_modify fun _ => rfl) fun _ => silent_loadData setup data

/-- Metadata that were read met no exception. -/
theorem silent_readMetadata (world : World σ) : Silent id (readMetadata setup world) := by
  have law := reports_law setup.guest setup.json .metadata
  refine silent_bind (silent_within world (silent_reports _ law.decodeEntrypoints)) fun entrypoints => ?_
  exact silent_bind (silent_within entrypoints.2 (silent_reports _ law.decodeBuiltins)) fun builtins =>
    silent_pure _

/-- A module that was compiled met no exception. -/
theorem silent_compilePolicy (wasmBytes : List UInt8) (compiled : Except Raised MemoryImport) :
    Silent id (compilePolicy wasmBytes compiled) := by
  intro log
  unfold compilePolicy
  refine ends_ite (fun _ => ends_throw trivial) fun _ => ?_
  refine ends_bind ?_
  have asked : Silent id (ask .compilation .compile compiled) :=
    fun log => ends_ask (fun _ _ => rfl) (fun _ _ => trivial)
  refine ((silent_exceptFor asked fun raised start => ends_throw trivial) log).mono
    (fun imports after same => ?_) (fun _ _ => id)
  cases imports with
  | absent | other => exact ends_throw trivial
  | memory => exact ends_pure same

end Silence

section Runtime

variable {native : Nat → Native σ} {guest : Guest σ} {maxMemoryPages : Option Nat}

/-- Nothing was logged. -/
theorem Answered.refl (log : List Fault) : Answered log log :=
  ⟨[], rfl, fun _ absent => absurd absent List.not_mem_nil⟩

/-- Faults that were answered one after another are answered together. -/
theorem Answered.trans {first second third : List Fault} (earlier : Answered first second)
    (later : Answered second third) : Answered first third := by
  obtain ⟨faults, rfl, answered⟩ := earlier
  obtain ⟨faults', rfl, answered'⟩ := later
  refine ⟨faults' ++ faults, (List.append_assoc ..).symm, fun fault member => ?_⟩
  rcases List.mem_append.mp member with here | there
  · exact answered' fault here
  · exact answered fault there

/-- A memory overflow of an attempt is the one exception that it logs. -/
theorem answered_of_reported {before after : List Fault} {raised : Raised}
    (reported : Reported .instantiation before raised after)
    (overflow : isMemoryOverflowTrap raised = true) : Answered before after := by
  have kind : raised.kind = .trap true := by simpa [isMemoryOverflowTrap] using overflow
  have untyped : ¬raised.kind.isOpa = true := by
    rw [kind]
    exact Bool.false_ne_true
  rcases reported with ⟨-, typed⟩ | ⟨fault, rfl, stage, ⟨rfl, -⟩ | ⟨typed, -⟩⟩
  · exact absurd typed untyped
  · exact ⟨[fault], rfl, List.forall_mem_singleton.mpr ⟨stage, overflow⟩⟩
  · exact absurd typed untyped

/-- A retry loop that returns met no exception that it did not answer.

Proof: by induction on the rounds that are left. A round that goes on has answered an
overflow. -/
theorem retryLoop_answers (ceiling left initialPages : Nat) (process : Process) :
    Ends (retryLoop native guest maxMemoryPages ceiling left initialPages) process
      (fun _ after => Answered process.faults after.faults) (fun _ _ => True) := by
  induction left generalizing initialPages process with
  | zero => exact ends_throw trivial
  | succ left inductionHypothesis =>
    unfold retryLoop
    have opens : Ends (newStore native initialPages) process
        (fun _ after => after.faults = process.faults) (fun _ _ => True) := by
      refine ends_bind (ends_modify ?_)
      refine ends_bind (ends_calling (ends_ask (fun store _ => ?_) fun _ _ => trivial))
      exact ends_bind (ends_modify (ends_pure rfl))
    refine ends_bind (opens.mono (fun store middle same => ?_) fun _ _ _ => trivial)
    rw [← same]
    refine ends_tryCatch ?_
    have attempts := attempt_reports (native initialPages) guest maxMemoryPages initialPages
      { created store with faults := middle.faults }
    refine ends_bind (ends_calling (ends_within (attempts.mono (fun _ after both => ?_)
      (fun raised after both => ?_))))
    · refine ends_pure ?_
      change Answered middle.faults after.faults
      rw [both.2]
      exact Answered.refl _
    · refine ends_ite (fun _ => ends_throw trivial) fun _ => ?_
      refine ends_bind (ends_modify ?_)
      refine ends_ite (fun _ => ends_throw trivial) fun caught => ?_
      refine ends_ite (fun _ => ends_throw trivial) fun _ => ?_
      have overflow : isMemoryOverflowTrap raised = true := by simpa using caught
      refine (inductionHypothesis _ _).mono (fun _ after answered => ?_) fun _ _ => id
      exact (answered_of_reported both.2 overflow).trans answered

/-- Closing the store of a runtime leaves the stores that were open before. -/
theorem closed_of_holds {process after : Process}
    (opened : ∀ store ∈ process.openStores, store < process.opened) (holds : process.Holds after) :
    after.closeStore.openStores = process.openStores := by
  obtain ⟨store, newer, current, stores⟩ := holds
  have others : process.openStores.filter (fun other => some other ≠ some store) =
      process.openStores := by
    refine List.filter_eq_self.mpr fun other member => ?_
    have earlier := opened other member
    have apart : other ≠ store := by omega
    simpa using apart
  simpa [Process.closeStore, current, stores] using others

/-- The constructor of the runtime: a store is open, or no other than before. -/
theorem ends_runtime {process : Process} (free : process.locked = false)
    (opened : ∀ store ∈ process.openStores, store < process.opened) :
    Ends (RuntimeConstruction.construct native guest maxMemoryPages) process
      (fun _ after => after.locked = false ∧ process.Holds after ∧
        Answered process.faults after.faults)
      (fun _ after => after.locked = false ∧ after.openStores = process.openStores) := by
  by_cases small : maxMemoryPages.any (fun pages => pages < defaultMemoryPages)
  · unfold RuntimeConstruction.construct
    dsimp only
    rw [if_pos small]
    exact ends_throw ⟨free, rfl⟩
  · have enough : defaultMemoryPages ≤ instantiationCeiling maxMemoryPages := by
      cases maxMemoryPages with
      | none => decide
      | some pages =>
        have large : defaultMemoryPages ≤ pages := by simpa using small
        exact large
    have answers : Ends (RuntimeConstruction.construct native guest maxMemoryPages) process
        (fun _ after => Answered process.faults after.faults) (fun _ _ => True) := by
      unfold RuntimeConstruction.construct
      dsimp only
      rw [if_neg small]
      refine ends_bind (ends_modify (ends_tryCatch (ends_withLock free ?_)))
      refine (retryLoop_answers _ _ _ _).mono (fun _ _ => id) fun raised after _ => ?_
      refine ends_bind (ends_true.mono (fun _ _ _ => ends_throw trivial) fun _ _ => id)
    obtain ⟨count, exact⟩ := construct_exact native guest maxMemoryPages enough process free opened
    refine (exact.ends.and answers).mono ?_ ?_
    · rintro world after ⟨⟨left, holds, -⟩, answered⟩
      exact ⟨left.free, holds, answered⟩
    · rintro raised after ⟨⟨left, stores, -⟩, -⟩
      exact ⟨left.free, stores⟩

end Runtime

section Policy

variable {native : Nat → Native σ} {setup : Setup σ} {premises start : Premises}

/-- Code that leaves the ticker and the pool does to the process what it does. -/
theorem ends_onProcess {program : Construct α} {returned : α → Premises → Prop}
    {raised : Raised → Premises → Prop}
    (ends : Ends program premises.process
      (fun value process => returned value { premises with process := process })
      (fun error process => raised error { premises with process := process })) :
    Ends (onProcess program) premises returned raised := by
  unfold Ends onProcess
  unfold Ends at ends
  cases ended : program premises.process <;> simpa only [ended] using ends

/-- Code that only calls goes on with the log, and returns with the log as it was. -/
theorem ends_silent {program : Api α} (silent : Silent id program) (process : Process) :
    Ends (calling program) process (fun _ after => after = process)
      (fun _ after => ∃ log, after = { process with faults := log }) := by
  refine ends_calling ((silent process.faults).mono (fun _ log same => ?_) fun _ log _ => ⟨log, rfl⟩)
  obtain rfl : log = process.faults := same
  rfl

/-- The process as it was, but for the log and with the lock free. -/
structure Restored (before after : Process) : Prop where
  free : after.locked = false
  stores : after.openStores = before.openStores

/-- The store of the probe is open, with the lock free and nothing overlooked. -/
structure Held (before after : Process) : Prop where
  free : after.locked = false
  holds : before.Holds after
  answered : Answered before.faults after.faults

/-- Closing the store of the probe. -/
theorem ends_closeProbe {before : Process} (opened : ∀ store ∈ before.openStores, store < before.opened)
    (free : premises.process.locked = false) (holds : before.Holds premises.process) :
    Ends (onProcess close) premises
      (fun _ after => ∃ process, after = { premises with process := process } ∧
        Restored before process ∧ process.faults = premises.process.faults)
      (fun _ _ => False) := by
  refine ends_onProcess ((ends_close free).mono ?_ fun _ _ => id)
  rintro _ _ rfl
  exact ⟨_, rfl, ⟨rfl, closed_of_holds opened holds⟩, rfl⟩

/-- The instance's constructor before the ticker: its store is open if it returns and closed if it
raises. -/
theorem ends_openProbe (free : premises.process.locked = false)
    (opened : ∀ store ∈ premises.process.openStores, store < premises.process.opened)
    (data : Option Document) (version : Nat) :
    Ends (openProbe native setup data version) premises
      (fun _ after => ∃ process, after = { premises with process := process } ∧
        Held premises.process process)
      (fun _ after => ∃ process, after = { premises with process := process } ∧
        Restored premises.process process) := by
  unfold openProbe
  refine ends_bind (ends_onProcess ((ends_runtime free opened).mono ?_ ?_))
  · rintro runtime process ⟨unlocked, holds, answered⟩
    have silent := silent_within runtime (silent_initialiseGuarded setup data version)
    refine ends_tryCatch (ends_bind (ends_onProcess ((ends_silent silent process).mono ?_ ?_)))
    · rintro built _ rfl
      exact ends_pure ⟨_, rfl, unlocked, holds, answered⟩
    · rintro raised _ ⟨log, rfl⟩
      refine ends_bind ((ends_closeProbe opened unlocked holds).mono ?_ fun _ _ => False.elim)
      rintro _ _ ⟨closed, rfl, restored, -⟩
      exact ends_throw ⟨closed, rfl, restored⟩
  · rintro raised process ⟨unlocked, stores⟩
    exact ⟨_, rfl, unlocked, stores⟩

/-- A ticker whose thread was started or never made. -/
def Ticker.Settled (ticker : Ticker) : Prop :=
  ticker.thread ≠ some .unstarted ∧ (ticker.thread = none → ticker.running = false)

/-- A new ticker has no thread and does not run. -/
theorem settled_new : Ticker.Settled ⟨none, false, false⟩ := ⟨nofun, fun _ => rfl⟩

/-- The start of the ticker: a thread that cannot be started is kept by the ticker. -/
theorem ends_ensureRunning (world : World σ) (fresh : premises.ticker = ⟨none, false, false⟩) :
    Ends (ensureRunning setup world) premises
      (fun _ after => ∃ ticker, after = { premises with ticker := ticker } ∧ ticker.Settled ∧
        (setup.deadlineTicks.isSome = true →
          ∃ value guest, setup.guest.startTicker world.guest = .ok value guest))
      (fun _ after => (∃ log, after = { premises with
          process := { premises.process with faults := log }
          ticker := ⟨some .unstarted, false, false⟩ }) ∧
        setup.deadlineTicks.isSome = true ∧
          ∃ raised guest, setup.guest.startTicker world.guest = .error raised guest) := by
  unfold ensureRunning
  cases setup.deadlineTicks with
  | none =>
    refine ends_pure ⟨_, rfl, ?_, nofun⟩
    rw [fresh]
    exact settled_new
  | some ticks =>
    refine ends_bind (ends_get ?_)
    have unsettled : ¬(premises.ticker.thread.isSome || premises.ticker.stop) = true := by
      rw [fresh]
      exact Bool.false_ne_true
    rw [if_neg unsettled]
    refine ends_bind (ends_modify ?_)
    refine ends_bind (ends_onProcess (ends_calling (ends_within (ends_call (ends_itself.mono ?_ ?_)))))
    · intro value guest started
      refine ends_bind (ends_modify ?_)
      exact ends_pure ⟨_, rfl, ⟨nofun, nofun⟩, fun _ => ⟨value, guest, started⟩⟩
    · intro raised guest failed
      refine ⟨⟨⟨.ticker, .startTicker, raised⟩ :: premises.process.faults, ?_⟩, rfl, ?_⟩
      · simp only [Premises.setTicker, fresh]
      · exact ⟨raised, guest, failed⟩

/-- Closing a pool without instances closes no store. -/
theorem ends_closePool (idle : ∀ slot ∈ premises.idle, slot = .placeholder) :
    Ends closePool premises
      (fun _ after => after.process = premises.process ∧ after.ticker = premises.ticker)
      (fun _ _ => False) := by
  refine ends_modify ?_
  split
  · exact ⟨rfl, rfl⟩
  · refine ⟨?_, rfl⟩
    have kept : premises.process.openStores.filter (fun store => .pooled store ∉ premises.idle) =
        premises.process.openStores := by
      refine List.filter_eq_self.mpr fun store _ => ?_
      have absent : InstancePool.Slot.pooled store ∉ premises.idle :=
        fun member => nomatch idle _ member
      simpa using absent
    simp only [kept]

/-- Closing a settled ticker stops its thread. -/
theorem ends_closeTicker (settled : premises.ticker.Settled) :
    Ends closeTicker premises
      (fun _ after => after.process = premises.process ∧ after.ticker.running = false ∧
        after.ticker.thread = none)
      (fun _ _ => False) := by
  obtain ⟨process, ⟨thread, stop, running⟩, idle, poolClosed⟩ := premises
  unfold closeTicker
  refine ends_bind (ends_modify (ends_bind (ends_get (ends_bind (ends_modify ?_)))))
  cases thread with
  | none => exact ends_pure ⟨rfl, settled.2 rfl, rfl⟩
  | some state =>
    cases state with
    | unstarted => exact absurd rfl settled.1
    | started => exact ends_modify ⟨rfl, rfl, rfl⟩

/-- Closing a ticker whose thread was not started raises. -/
theorem ends_closeUnstarted {stop running : Bool}
    (unstarted : premises.ticker = ⟨some .unstarted, stop, running⟩) :
    Ends closeTicker premises (fun _ _ => False)
      (fun _ after => after.process = premises.process) := by
  unfold closeTicker
  refine ends_bind (ends_modify (ends_bind (ends_get (ends_bind (ends_modify ?_)))))
  simp only [Premises.setTicker, unstarted]
  exact ends_throw rfl

/-- The probe is read and closed, or closed alone. -/
theorem ends_probe {before : Process} (opened : ∀ store ∈ before.openStores, store < before.opened)
    (held : Held before premises.process) (fresh : premises.ticker = ⟨none, false, false⟩)
    (idle : ∀ slot ∈ premises.idle, slot = .placeholder) (world : World σ) :
    Ends (probe setup world) premises
      (fun _ after => (∀ slot ∈ after.idle, slot = .placeholder) ∧ Restored before after.process ∧
        Answered before.faults after.process.faults ∧
        (setup.deadlineTicks.isSome = true →
          ∃ value guest, setup.guest.startTicker world.guest = .ok value guest))
      (fun _ after => (∀ slot ∈ after.idle, slot = .placeholder) ∧
        ((Restored before after.process ∧ after.ticker.Settled ∧
          (setup.deadlineTicks.isSome = true →
            ∃ value guest, setup.guest.startTicker world.guest = .ok value guest)) ∨
        (before.Holds after.process ∧ after.ticker = ⟨some .unstarted, false, false⟩ ∧
          setup.deadlineTicks.isSome = true ∧
          ∃ raised guest, setup.guest.startTicker world.guest = .error raised guest))) := by
  unfold probe
  refine ends_bind ((ends_ensureRunning world fresh).mono ?_ ?_)
  · rintro built _ ⟨ticker, rfl, settled, starts⟩
    have silent := ends_silent (silent_readMetadata setup built) premises.process
    refine ends_bind (ends_tryCatch (ends_onProcess (silent.mono ?_ ?_)))
    · rintro metadata _ rfl
      refine ends_bind ((ends_closeProbe opened ?_ ?_).mono ?_ fun _ _ => False.elim)
      · exact held.free
      · exact held.holds
      · rintro _ _ ⟨process, rfl, restored, same⟩
        refine ends_pure ⟨idle, restored, ?_, starts⟩
        rw [show process.faults = _ from same]
        exact held.answered
    · rintro raised _ ⟨log, rfl⟩
      refine ends_bind ((ends_closeProbe opened ?_ ?_).mono ?_ fun _ _ => False.elim)
      · exact held.free
      · exact held.holds
      · rintro _ _ ⟨process, rfl, restored, -⟩
        exact ends_throw ⟨idle, Or.inl ⟨restored, settled, starts⟩⟩
  · rintro raised _ ⟨⟨log, rfl⟩, failed⟩
    exact ⟨idle, Or.inr ⟨held.holds, rfl, failed⟩⟩

/-- The handler closes what is left of a policy whose ticker is settled. -/
theorem ends_abandon {raised : Raised} (idle : ∀ slot ∈ premises.idle, slot = .placeholder)
    (settled : premises.ticker.Settled) :
    Ends (abandon raised : Build α) premises (fun _ _ => False)
      (fun _ after => after.process = premises.process ∧ after.ticker.running = false ∧
        after.ticker.thread = none) := by
  refine ends_bind ((ends_closePool idle).mono ?_ fun _ _ => False.elim)
  rintro _ middle ⟨same, ticker⟩
  rw [← ticker] at settled
  refine ends_bind ((ends_closeTicker settled).mono ?_ fun _ _ => False.elim)
  rintro _ after ⟨same', stopped, cleared⟩
  exact ends_throw ⟨same'.trans same, stopped, cleared⟩

/-- With a thread that was not started it leaves the stores as they are. -/
theorem ends_abandonUnstarted {raised : Raised} {stop running : Bool}
    (idle : ∀ slot ∈ premises.idle, slot = .placeholder)
    (unstarted : premises.ticker = ⟨some .unstarted, stop, running⟩) :
    Ends (abandon raised : Build α) premises (fun _ _ => False)
      (fun _ after => after.process = premises.process) := by
  refine ends_bind ((ends_closePool idle).mono ?_ fun _ _ => False.elim)
  rintro _ middle ⟨same, ticker⟩
  rw [← ticker] at unstarted
  refine ends_bind ((ends_closeUnstarted unstarted).mono (fun _ _ => False.elim) ?_)
  exact fun _ after same' => same'.trans same

variable {poolSize : Nat} {wasmBytes : List UInt8} {compiled : Except Raised MemoryImport}

/-- The factory and the pool of a new policy. -/
theorem ends_prepare (start : Premises) :
    Ends (prepare poolSize wasmBytes compiled) start
      (fun _ after => after =
        ⟨start.process, ⟨none, false, false⟩, List.replicate poolSize .placeholder, false⟩)
      (fun _ after => after.process.openStores = start.process.openStores ∧
        after.ticker = ⟨none, false, false⟩) := by
  refine ends_bind (ends_modify (ends_bind (ends_onProcess ?_)))
  refine (ends_silent (silent_compilePolicy wasmBytes compiled) _).mono ?_ ?_
  · rintro _ _ rfl
    exact ends_modify rfl
  · rintro raised _ ⟨log, rfl⟩
    exact ⟨rfl, rfl⟩

/-- A construction comes to the ticker if its factory, its pool and its probe are built. -/
theorem tickerFails_iff {middle : Premises}
    (prepared : prepare poolSize wasmBytes compiled start = .ok ⟨⟩ middle) :
    TickerFails native setup poolSize wasmBytes compiled start ↔
      setup.deadlineTicks.isSome = true ∧ ∃ world after raised guest,
        openProbe native setup none 0 middle = .ok world after ∧
          setup.guest.startTicker world.guest = .error raised guest := by
  unfold TickerFails
  rw [bind_of_ok prepared]

/-- A thread that starts is not one whose start fails. -/
theorem not_tickerFails_of_starts {middle after : Premises} {world : World σ}
    (prepared : prepare poolSize wasmBytes compiled start = .ok ⟨⟩ middle)
    (reached : openProbe native setup none 0 middle = .ok world after)
    (starts : setup.deadlineTicks.isSome = true →
      ∃ value guest, setup.guest.startTicker world.guest = .ok value guest) :
    ¬TickerFails native setup poolSize wasmBytes compiled start := by
  rw [tickerFails_iff prepared]
  rintro ⟨deadline, world', after', raised, guest, reached', fails⟩
  have same : world = world' := by
    rw [reached] at reached'
    injection reached'
  obtain ⟨value, guest', started⟩ := starts deadline
  rw [same, fails] at started
  cases started

/-- A construction whose probe is not built does not come to the ticker. -/
theorem not_tickerFails_of_unbuilt {middle after : Premises} {raised : Raised}
    (prepared : prepare poolSize wasmBytes compiled start = .ok ⟨⟩ middle)
    (unbuilt : openProbe native setup none 0 middle = .error raised after) :
    ¬TickerFails native setup poolSize wasmBytes compiled start := by
  rw [tickerFails_iff prepared]
  rintro ⟨-, world, after', -, -, reached, -⟩
  rw [unbuilt] at reached
  cases reached

/-- A construction without a factory and a pool does not come to the ticker. -/
theorem not_tickerFails_of_unprepared {after : Premises} {raised : Raised}
    (unprepared : prepare poolSize wasmBytes compiled start = .error raised after) :
    ¬TickerFails native setup poolSize wasmBytes compiled start := by
  rintro ⟨-, world, after', -, -, reached, -⟩
  obtain ⟨_, middle, prepared, -⟩ := bind_returned reached
  rw [unprepared] at prepared
  cases prepared

/-- What the handler of the policy guards, behind its factory and its pool: it ends with the
probe closed and the ticker settled, or it comes to the start of the ticker's thread, which
fails and leaves the store of the probe open and the thread unstarted. -/
theorem ends_guarded (free : start.process.locked = false)
    (opened : ∀ store ∈ start.process.openStores, store < start.process.opened) {middle : Premises}
    (prepared : prepare poolSize wasmBytes compiled start = .ok ⟨⟩ middle)
    (same : middle =
      ⟨start.process, ⟨none, false, false⟩, List.replicate poolSize .placeholder, false⟩) :
    Ends (do
        let world ← openProbe native setup none 0
        probe setup world) middle
      (fun _ after => ¬TickerFails native setup poolSize wasmBytes compiled start ∧
        Succeeded start after)
      (fun _ after => (∀ slot ∈ after.idle, slot = .placeholder) ∧
        ((¬TickerFails native setup poolSize wasmBytes compiled start ∧
            Restored start.process after.process ∧ after.ticker.Settled) ∨
          (TickerFails native setup poolSize wasmBytes compiled start ∧
            start.process.Holds after.process ∧ after.ticker = ⟨some .unstarted, false, false⟩))) := by
  subst same
  have placeholders : ∀ slot ∈ List.replicate poolSize InstancePool.Slot.placeholder,
      slot = .placeholder := fun slot => List.eq_of_mem_replicate
  refine ends_bind (((ends_openProbe ?_ ?_ none 0).and ends_itself).mono ?_ ?_)
  · exact free
  · exact opened
  · rintro world _ ⟨⟨process, rfl, held⟩, reached⟩
    refine (ends_probe opened held rfl placeholders world).mono ?_ ?_
    · rintro metadata after ⟨idle, restored, answered, starts⟩
      exact ⟨not_tickerFails_of_starts prepared reached starts, restored.stores, idle, answered⟩
    · rintro raised after ⟨idle, ⟨restored, settled, starts⟩ | ⟨holds, unstarted, fails⟩⟩
      · exact ⟨idle, Or.inl ⟨not_tickerFails_of_starts prepared reached starts, restored, settled⟩⟩
      · obtain ⟨deadline, cause, guest, failed⟩ := fails
        refine ⟨idle, Or.inr ⟨(tickerFails_iff prepared).mpr ⟨deadline, ?_⟩, holds, unstarted⟩⟩
        exact ⟨world, _, cause, guest, reached, failed⟩
  · rintro raised _ ⟨⟨process, rfl, restored⟩, unbuilt⟩
    exact ⟨placeholders,
      Or.inl ⟨not_tickerFails_of_unbuilt prepared unbuilt, restored, settled_new⟩⟩

/-- How a construction ends: only the start of the ticker's thread, where it fails, leaves the
store of the probe open. -/
theorem construct_ends (free : start.process.locked = false)
    (opened : ∀ store ∈ start.process.openStores, store < start.process.opened) :
    Ends (construct native setup poolSize wasmBytes compiled) start
      (fun _ after => ¬TickerFails native setup poolSize wasmBytes compiled start ∧
        Succeeded start after)
      (fun _ after => (¬TickerFails native setup poolSize wasmBytes compiled start ∧
          Failed start after) ∨
        (TickerFails native setup poolSize wasmBytes compiled start ∧
          start.process.Holds after.process)) := by
  refine ends_bind (((ends_prepare start).and ends_itself).mono ?_ ?_)
  · rintro ⟨⟩ middle ⟨same, prepared⟩
    refine ends_tryCatch ((ends_guarded free opened prepared same).mono (fun _ _ => id) ?_)
    rintro raised after ⟨idle, ⟨starts, restored, settled⟩ | ⟨fails, holds, unstarted⟩⟩
    · refine (ends_abandon idle settled).mono (fun _ _ => False.elim) ?_
      rintro _ final ⟨same, stopped, cleared⟩
      refine Or.inl ⟨starts, ?_, stopped, cleared⟩
      rw [same]
      exact restored.stores
    · refine (ends_abandonUnstarted idle unstarted).mono (fun _ _ => False.elim) ?_
      rintro _ final same
      rw [← same] at holds
      exact Or.inr ⟨fails, holds⟩
  · rintro raised after ⟨⟨stores, ticker⟩, unprepared⟩
    refine Or.inl ⟨not_tickerFails_of_unprepared unprepared, stores, ?_, ?_⟩
    · rw [ticker]
    · rw [ticker]

/-- A construction that leaves nothing behind leaves the stores as they were. -/
theorem LeaksNothing.stores (leaks : LeaksNothing native setup poolSize wasmBytes compiled start) :
    (final (construct native setup poolSize wasmBytes compiled) start).process.openStores =
      start.process.openStores := by
  have same : Ends (construct native setup poolSize wasmBytes compiled) start
      (fun _ after => after.process.openStores = start.process.openStores)
      (fun _ after => after.process.openStores = start.process.openStores) :=
    leaks.ends.mono (fun _ _ succeeded => succeeded.stores) fun _ _ failed => failed.stores
  exact Ends.final same

/-- A store that is open beside the earlier ones is one too many. -/
theorem not_failed_of_holds {after : Premises} (holds : start.process.Holds after.process) :
    ¬Failed start after := by
  rintro ⟨stores, -, -⟩
  obtain ⟨store, -, -, held⟩ := holds
  rw [stores] at held
  exact List.cons_ne_self _ _ held.symm

/-- A construction leaves nothing behind exactly if it does not come to the start of the ticker's
thread with the start failing.

Proof: the constructor is run to each of its ends. All but one close what was opened; where
the start of the ticker fails, the store of the probe stays open. -/
theorem leaks_nothing_iff (free : start.process.locked = false)
    (opened : ∀ store ∈ start.process.openStores, store < start.process.opened) :
    LeaksNothing native setup poolSize wasmBytes compiled start ↔
      ¬TickerFails native setup poolSize wasmBytes compiled start := by
  have run : Ends (construct native setup poolSize wasmBytes compiled) start _ _ :=
    construct_ends free opened
  constructor
  · rintro ⟨ends⟩ fails
    have both := run.and ends
    cases ended : construct native setup poolSize wasmBytes compiled start with
    | ok metadata after => exact (both.of_ok ended).1.1 fails
    | error raised after =>
      obtain ⟨⟨holds, -⟩ | ⟨-, holds⟩, failed⟩ := both.of_error ended
      · exact holds fails
      · exact not_failed_of_holds holds failed
  · intro starts
    refine ⟨run.mono (fun _ _ => And.right) ?_⟩
    rintro raised after (⟨-, failed⟩ | ⟨fails, -⟩)
    · exact failed
    · exact absurd fails starts

/-- What a policy is built on in a process where another store is open. -/
def busyPremises : Premises := ⟨busyProcess, ⟨none, false, false⟩, [], false⟩

/-- A policy with a timeout whose thread starts leaves nothing behind. -/
theorem leaks_nothing_iff_started :
    LeaksNothing (fun _ => meterNative) meterSetup 1 [0] (.ok .memory) busyPremises :=
  (leaks_nothing_iff rfl (by decide)).mpr (by
    rintro ⟨-, world, after, raised, guest, -, fails⟩
    cases fails)

/-- What `Thread.start` raises in a process that is out of threads. -/
def outOfThreads : Raised := ⟨.runtimeError, "can't start new thread", []⟩

/-- The same policy in a process that is out of threads. -/
def threadlessSetup : Setup Meter :=
  { meterSetup with guest := { meterGuest with startTicker := throw outOfThreads } }

/-- The store of the probe stays open where the thread of the ticker cannot be started. -/
theorem unstarted_thread_leaks :
    ¬LeaksNothing (fun _ => meterNative) threadlessSetup 1 [0] (.ok .memory) busyPremises := by
  intro leaks
  have stores := leaks.stores
  revert stores
  decide +kernel

end Policy

end OpaPyWasm.PolicyConstruction
