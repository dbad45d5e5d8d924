import OpaPyWasm.Abi
import OpaPyWasm.FaultReports
import OpaPyWasm.WasmtimeRuntime

/-!
# The policy instance

`DataManager` loads the data document and keeps the heap checkpoint after it.
`Evaluator` runs one evaluation above that checkpoint under a deadline. The
instance ties both together and marks itself poisoned when a reload fails or an
evaluation fails after it entered the guest.
-/

namespace OpaPyWasm.PolicyInstance

open Exceptions Values Effects GuestCalls MemoryCodec WasmtimeRuntime

/-- What an instance is built with: the native calls that create its runtime, its
guest, the `json` module, its limits, the exports of the module, and where a
timeout is configured what `deadline_ticks` makes of it, which is no number of
ticks for an infinite timeout. -/
structure Setup (σ : Type) where
  native : Native σ
  guest : Guest σ
  maxMemoryPages : Option Nat
  json : Json
  limits : Limits
  exports : Abi.Exports
  timeoutTicks : Option (Except Raised Nat)

/-- The tick budget of an evaluation on an instance that was built. -/
def Setup.deadlineTicks {σ : Type} (setup : Setup σ) : Option Nat :=
  setup.timeoutTicks.bind Except.toOption

variable {σ α : Type} (setup : Setup σ)

/-- `opa_heap_ptr_get`. -/
def heapPtrGet (stage : Stage) : Py σ Int :=
  call stage .opaHeapPtrGet setup.guest.opaHeapPtrGet

/-- `opa_heap_ptr_set`. -/
def heapPtrSet (stage : Stage) (addr : Int) : Py σ PUnit :=
  call stage .opaHeapPtrSet (setup.guest.opaHeapPtrSet addr)

/-- Reading the heap pointer is one call. -/
theorem reports_heapPtrGet (stage : Stage) : Reports stage (heapPtrGet setup stage) :=
  reports_call _ (fun _ => rfl)

/-- Setting the heap pointer is one call. -/
theorem reports_heapPtrSet (stage : Stage) (addr : Int) :
    Reports stage (heapPtrSet setup stage addr) :=
  reports_call _ (fun _ => rfl)

/-- Set the address of the data document and the checkpoint behind it. -/
def setData (addr heapPtr : Int) : Py σ PUnit :=
  modify (fun world => { world with dataAddr := addr, dataHeapPtr := heapPtr })

/-- `DataManager.__init__`. -/
def initDataManager : Py σ PUnit := do
  let heapPtr ← heapPtrGet setup .initialHeap
  modify (fun world => { world with initialHeapPtr := heapPtr })
  setData 0 heapPtr

/-- `reset_heap_to_checkpoint`. -/
def resetHeapToCheckpoint (stage : Stage) : Py σ PUnit := do
  let heapPtr ← field World.dataHeapPtr
  heapPtrSet setup stage heapPtr

/-- The reset reads a field and sets the heap pointer. -/
theorem reports_resetHeap (stage : Stage) : Reports stage (resetHeapToCheckpoint setup stage) :=
  reports_bind (reports_field _) (fun _ => reports_heapPtrSet setup stage _)

/-- The `except` clause of `load_data`. -/
def recoverData (initial : Int) (raised : Raised) : Py σ PUnit := do
  heapPtrSet setup .dataRecovery initial
  setData 0 initial
  if raised.kind = .opa .data then throw raised
  else throw (opaErrorFrom .data s!"failed to load data: {raised.text}" raised)

/-- `load_data`. -/
def loadData (data : Option Document) : Py σ PUnit := do
  let initial ← field World.initialHeapPtr
  heapPtrSet setup .dataReset initial
  match data with
  | none => setData 0 initial
  | some document => do
    exceptFor Kind.isException
      (do
        let addr ← pythonToOpaValue setup.guest setup.json .dataLoad document
          setup.limits.maxDataBytes "data"
        modify (fun world => { world with dataAddr := addr }))
      (recoverData setup initial)
    let heapPtr ← heapPtrGet setup .dataCheckpoint
    modify (fun world => { world with dataHeapPtr := heapPtr })

/-- `_arm_deadline`. -/
def armDeadline : Py σ PUnit :=
  match setup.deadlineTicks with
  | none => pure ⟨⟩
  | some ticks => call .evaluation .setEpochDeadline (setup.guest.setEpochDeadline ticks)

/-- `_disarm_deadline`: `clear_epoch_deadline` sets the far-future deadline. -/
def disarmDeadline : Py σ PUnit :=
  match setup.deadlineTicks with
  | none => pure ⟨⟩
  | some _ => call .evaluation .setEpochDeadline (setup.guest.setEpochDeadline noDeadlineTicks)

/-- Arming calls the runtime once, or not at all without a budget. -/
theorem reports_armDeadline : Reports .evaluation (armDeadline setup) := by
  unfold armDeadline
  split
  · exact reports_pure _
  · exact reports_call _ (fun _ => rfl)

/-- So does disarming. -/
theorem reports_disarmDeadline : Reports .evaluation (disarmDeadline setup) := by
  unfold disarmDeadline
  split
  · exact reports_pure _
  · exact reports_call _ (fun _ => rfl)

/-- `_reset_heap_if_safe`. -/
def resetHeapIfSafe (entered : Bool) : Py σ PUnit :=
  if entered then pure ⟨⟩ else resetHeapToCheckpoint setup .inputReset

/-- `_PASSTHROUGH_ERRORS`. -/
def isPassthrough (kind : Kind) : Bool :=
  kind == .opa .evaluation || kind == .opa .invalidInput || kind == .opa .memory

/-- What `except Exception` of `Evaluator.evaluate` raises. -/
def evaluationFailure (entered : Bool) (raised : Raised) : Raised :=
  match raised.typedInChain with
  | some typed => typed
  | none =>
    if entered && raised.isEpochInterrupt then
      opaErrorFrom .evaluation
        "evaluation exceeded its time limit (eval_timeout_seconds) and was interrupted" raised
    else opaErrorFrom .evaluation s!"evaluation failed: {raised.text}" raised

/-- What passes through the handler is typed. -/
theorem isOpa_of_isPassthrough {kind : Kind} (passes : isPassthrough kind = true) :
    kind.isOpa = true := by
  cases kind <;> first | rfl | cases passes

/-- What the handler raises instead is typed. -/
theorem evaluationFailure_isOpa (entered : Bool) (raised : Raised) :
    (evaluationFailure entered raised).kind.isOpa = true := by
  unfold evaluationFailure
  split
  · rename_i typed found
    exact Raised.typedInChain_isOpa found
  · split <;> rfl

/-- The `except` clauses of `Evaluator.evaluate`. -/
def handleFailure (entered : Bool) (raised : Raised) : Py σ α :=
  if isPassthrough raised.kind then do
    resetHeapIfSafe setup entered
    throw raised
  else if raised.kind.isException then do
    resetHeapIfSafe setup entered
    throw (evaluationFailure entered raised)
  else throw raised

/-- `Evaluator.evaluate` up to the call of `opa_eval`: the address of the input, and
the heap pointer behind it. -/
def enterGuest (inputBytes : List UInt8) : Py σ (Int × Int) := do
  armDeadline setup
  resetHeapToCheckpoint setup .evaluation
  let inputAddr ← writeBytes setup.guest .evaluation inputBytes
  let heapPtr ← heapPtrGet setup .evaluation
  pure (inputAddr, heapPtr)

/-- `Evaluator.evaluate` after the call of `opa_eval`. -/
def readResult (resultAddr : Int) : Py σ Value := do
  let result ← readJsonCstring setup.guest setup.json setup.limits .evaluation resultAddr
    setup.limits.maxResultBytes "result"
  resetHeapToCheckpoint setup .evaluation
  disarmDeadline setup
  pure result

/-- Up to `opa_eval` each call is reported. -/
theorem reports_enterGuest (inputBytes : List UInt8) :
    Reports .evaluation (enterGuest setup inputBytes) := by
  apply reports_bind (reports_armDeadline setup)
  intro _
  apply reports_bind (reports_resetHeap setup .evaluation)
  intro _
  apply reports_bind ((reports_law setup.guest setup.json .evaluation).writeBytes inputBytes)
  intro inputAddr
  apply reports_bind (reports_heapPtrGet setup .evaluation)
  intro heapPtr
  exact reports_pure _

/-- From the address of the result on each call is reported. -/
theorem reports_readResult (resultAddr : Int) :
    Reports .evaluation (readResult setup resultAddr) := by
  have buffers := (reports_law setup.guest setup.json .evaluation).buffers setup.limits
  apply reports_bind (buffers.readJsonCstring _ _ _)
  intro result
  apply reports_bind (reports_resetHeap setup .evaluation)
  intro _
  apply reports_bind (reports_disarmDeadline setup)
  intro _
  exact reports_pure _

/-- `Evaluator.evaluate` from the guest's entry on. -/
def runGuest (inputBytes : List UInt8) (entrypointId : Int) : Py σ Value := do
  modify (fun world => { world with enteredWasm := true })
  let (inputAddr, heapPtr) ← enterGuest setup inputBytes
  let dataAddr ← field World.dataAddr
  let resultAddr ← call .evaluation .opaEval
    (setup.guest.opaEval entrypointId dataAddr inputAddr inputBytes.length heapPtr)
  readResult setup resultAddr

/-- What is raised inside the guest is reported, with the flag set. -/
theorem runGuest_reports (inputBytes : List UInt8) (entrypointId : Int) (world : World σ) :
    Ends (runGuest setup inputBytes entrypointId) world
      (fun _ after => after.faults = world.faults)
      (fun raised after => after.enteredWasm = true ∧
        Reported .evaluation world.faults raised after.faults) := by
  have reports : ∀ addrs : Int × Int, Reports .evaluation (do
      let dataAddr ← field World.dataAddr
      let resultAddr ← call .evaluation .opaEval
        (setup.guest.opaEval entrypointId dataAddr addrs.1 inputBytes.length addrs.2)
      readResult setup resultAddr) := by
    intro addrs
    apply reports_bind (reports_field _)
    intro dataAddr
    apply reports_bind (reports_call _ (fun _ => rfl))
    intro resultAddr
    exact reports_readResult setup resultAddr
  apply ends_bind
  apply ends_modify
  apply (reports_bind (reports_enterGuest setup inputBytes) reports _).mono
  · rintro _ after ⟨-, same⟩
    exact same
  · rintro raised after ⟨framed, reported⟩
    exact ⟨framed.enteredWasm, reported⟩

/-- `Evaluator.evaluate`. Its flag `entered_wasm` is unset while the input is
encoded and set from the guest's entry on, so each part has the handler with that
flag; the handler always raises. -/
def evaluateOnce (input : Document) (entrypointId : Int) : Py σ Value := do
  let inputBytes ← tryCatch
    (encodeInput setup.json .input input setup.limits.maxInputBytes setup.limits.parseRawJsonInput)
    (handleFailure setup false)
  tryCatch (runGuest setup inputBytes entrypointId) (handleFailure setup true)

/-- `OpaPolicyInstance.evaluate`. -/
def evaluate (input : Document) (entrypointId : Int) : Py σ Value := do
  modify (fun world => { world with enteredWasm := false })
  exceptFor Kind.isException (evaluateOnce setup input entrypointId) (fun raised => do
    modify (fun world => { world with poisoned := world.poisoned || world.enteredWasm })
    throw raised)

/-- `reload_data`. -/
def reloadData (data : Option Document) (version : Nat) : Py σ PUnit := do
  exceptFor Kind.isException (loadData setup data) (fun raised => do
    modify (fun world => { world with poisoned := true })
    throw raised)
  modify (fun world => { world with dataVersion := version })

/-- The conversion of the timeout in `__init__`. -/
def convertTimeout : Py σ PUnit :=
  match setup.timeoutTicks with
  | none => pure ⟨⟩
  | some outcome => do
    let _ ← callPython .deadline .deadlineTicks outcome
    pure ⟨⟩

/-- The start of the ticker at the end of `__init__`. -/
def ensureRunning : Py σ PUnit :=
  match setup.deadlineTicks with
  | none => pure ⟨⟩
  | some _ => call .ticker .startTicker setup.guest.startTicker

/-- `OpaPolicyInstance.__init__` on a new runtime, up to the first load. -/
def openInstance : Py σ PUnit := do
  let _ ← fromExcept (Abi.openAbi Abi.defaultSpec setup.exports)
  initDataManager setup
  convertTimeout setup
  let builtins ← decodeBuiltins setup.guest setup.json setup.limits .metadata
  modify (fun world =>
    { world with builtinIdToName := builtins.map (fun entry => (entry.2, entry.1)) })

/-- `OpaPolicyInstance.__init__` after the runtime was created. -/
def initialise (data : Option Document) (version : Nat) : Py σ PUnit := do
  openInstance setup
  modify (fun world => { world with dataVersion := version })
  loadData setup data
  ensureRunning setup

/-- `OpaPolicyInstance.__init__`. -/
def build (data : Option Document) (version : Nat) : Api (World σ) := do
  let runtime ← createRuntime setup.native setup.guest setup.maxMemoryPages
  let built ← within runtime (initialise setup data version)
  pure built.2

/-- `_refresh_if_stale` with the policy's snapshot. -/
def refreshIfStale (data : Option Document) (version : Nat) : Py σ PUnit := do
  let loaded ← field World.dataVersion
  if loaded ≠ version then reloadData setup data version else pure ⟨⟩

/-- One loan of `evaluate_raw`: refresh the borrowed instance, then evaluate. -/
def loan (data : Option Document) (version : Nat) (input : Document) (entrypointId : Int) :
    Py σ Value := do
  refreshIfStale setup data version
  evaluate setup input entrypointId

end OpaPyWasm.PolicyInstance
