import OpaPyWasm.Library.Effects
import OpaPyWasm.Values

/-!
# One instance and its guest

A `Guest` is what one instance calls outside the package: the exports of the
policy module, the native memory and store, and the start of the ticker's thread.
Each call may do anything to the guest's state and may raise anything, before or
after it did so; that is how traps, aborts, the exceptions of host builtins and
delivered signals enter the model.

The state of an instance is the guest's state with the fields of
`OpaPolicyInstance` and its `DataManager`. A history variable, read by no step,
records every exception that came from a call, with the stage of the package's
code that made the call.
-/

namespace OpaPyWasm.GuestCalls

open Exceptions Values Effects

/-- The calls that may raise from outside. -/
inductive Operation where
  | opaMalloc
  | opaJsonParse
  | opaJsonDump
  | opaHeapPtrGet
  | opaHeapPtrSet
  | entrypoints
  | builtins
  | opaEval
  | memoryLen
  | memoryRead
  | memoryWrite
  | newStore
  | newMemory
  | setLimits
  | instantiate
  | setEpochDeadline
  | startTicker
  | encode
  | loads
  | dumps
  | repr
  | deadlineTicks
  | readSource
  | compile
  | getSlot
deriving DecidableEq

/-- The stages of the package's code, by what is done with an exception there. -/
inductive Stage where
  | source
  | compilation
  | serialisation
  | entrypoint
  | slot
  | decision
  | store
  | instantiation
  | initialHeap
  | deadline
  | metadata
  | dataReset
  | dataLoad
  | dataRecovery
  | dataCheckpoint
  | ticker
  | input
  | evaluation
  | inputReset
deriving DecidableEq

/-- An exception that came from a call. -/
structure Fault where
  stage : Stage
  operation : Operation
  raised : Raised
deriving DecidableEq

/-- What one instance calls. Addresses, lengths and results of exports are i32,
handed over as Python integers. -/
structure Guest (σ : Type) where
  opaMalloc : Int → EStateM Raised σ Int
  opaJsonParse : Int → Int → EStateM Raised σ Int
  opaJsonDump : Int → EStateM Raised σ Int
  opaHeapPtrGet : EStateM Raised σ Int
  opaHeapPtrSet : Int → EStateM Raised σ PUnit
  entrypoints : EStateM Raised σ Int
  builtins : EStateM Raised σ Int
  opaEval : Int → Int → Int → Int → Int → EStateM Raised σ Int
  memoryLen : EStateM Raised σ Nat
  memoryRead : Int → Int → EStateM Raised σ (List UInt8)
  memoryWrite : Int → List UInt8 → EStateM Raised σ PUnit
  setEpochDeadline : Nat → EStateM Raised σ PUnit
  startTicker : EStateM Raised σ PUnit

/-- An instance with its guest. -/
structure World (σ : Type) where
  guest : σ
  initialHeapPtr : Int
  dataAddr : Int
  dataHeapPtr : Int
  builtinIdToName : List (Int × Text)
  dataVersion : Nat
  poisoned : Bool
  enteredWasm : Bool
  faults : List Fault
deriving DecidableEq

/-- The package's code on one instance. -/
abbrev Py (σ : Type) := EStateM Raised (World σ)

variable {σ α : Type}

/-- Call the guest. -/
def call (stage : Stage) (operation : Operation) (called : EStateM Raised σ α) : Py σ α :=
  fun world =>
    match called world.guest with
    | .ok value guest => .ok value { world with guest := guest }
    | .error raised guest =>
      .error raised { world with
        guest := guest
        faults := ⟨stage, operation, raised⟩ :: world.faults }

/-- Call the interpreter. -/
def callPython (stage : Stage) (operation : Operation) (outcome : Except Raised α) : Py σ α :=
  fun world =>
    match outcome with
    | .ok value => .ok value world
    | .error raised =>
      .error raised { world with faults := ⟨stage, operation, raised⟩ :: world.faults }

/-- Raise what a pure step raised. -/
def fromExcept : Except Raised α → Py σ α
  | .ok value => pure value
  | .error raised => throw raised

/-- `except` for the classes that the test names; others pass. -/
def exceptFor {τ : Type} (caught : Kind → Bool) (body : EStateM Raised τ α)
    (handler : Raised → EStateM Raised τ α) : EStateM Raised τ α :=
  tryCatch body (fun raised => if caught raised.kind then handler raised else throw raised)

/-- Read a field. -/
def field (part : World σ → α) : Py σ α := part <$> get

/-- A call satisfies what holds of every state the guest may leave. -/
theorem ends_call {stage : Stage} {operation : Operation} {called : EStateM Raised σ α}
    {world : World σ} {returned : α → World σ → Prop} {raised : Raised → World σ → Prop}
    (ends : Ends called world.guest
      (fun value guest => returned value { world with guest := guest })
      (fun error guest => raised error { world with
        guest := guest
        faults := ⟨stage, operation, error⟩ :: world.faults })) :
    Ends (call stage operation called) world returned raised := by
  unfold Ends call
  unfold Ends at ends
  cases ended : called world.guest <;> simpa only [ended] using ends

/-- What a call does to the guest it does to the guest of the instance. -/
theorem ends_called {stage : Stage} {operation : Operation} {called : EStateM Raised σ α}
    {world : World σ} {returned : α → σ → Prop} {raised : Raised → σ → Prop}
    (ends : Ends called world.guest returned raised) :
    Ends (call stage operation called) world (fun value after => returned value after.guest)
      (fun error after => raised error after.guest) :=
  ends_call ends

/-- A call to the interpreter leaves the guest. -/
theorem ends_callPython {stage : Stage} {operation : Operation} {outcome : Except Raised α}
    {world : World σ} {returned : α → World σ → Prop} {raised : Raised → World σ → Prop}
    (fine : ∀ value, outcome = .ok value → returned value world)
    (failed : ∀ error, outcome = .error error →
      raised error { world with faults := ⟨stage, operation, error⟩ :: world.faults }) :
    Ends (callPython stage operation outcome) world returned raised := by
  unfold Ends callPython
  cases ended : outcome with
  | ok value => exact fine value ended
  | error error => exact failed error ended

/-- A pure step leaves the world. -/
theorem ends_fromExcept {outcome : Except Raised α} {world : World σ}
    {returned : α → World σ → Prop} {raised : Raised → World σ → Prop}
    (fine : ∀ value, outcome = .ok value → returned value world)
    (failed : ∀ error, outcome = .error error → raised error world) :
    Ends (fromExcept outcome) world returned raised := by
  cases ended : outcome with
  | ok value => exact ends_pure (fine value ended)
  | error error => exact ends_throw (failed error ended)

/-- The handler runs where the body raised what it catches; anything else passes. -/
theorem ends_exceptFor {τ : Type} {caught : Kind → Bool} {body : EStateM Raised τ α}
    {handler : Raised → EStateM Raised τ α} {start : τ} {returned : α → τ → Prop}
    {raised : Raised → τ → Prop}
    (ends : Ends body start returned (fun error after =>
      (caught error.kind = true → Ends (handler error) after returned raised) ∧
        (caught error.kind = false → raised error after))) :
    Ends (exceptFor caught body handler) start returned raised := by
  refine ends_tryCatch (ends.mono (fun _ _ => id) (fun error after both => ?_))
  refine ends_ite both.1 (fun uncaught => ends_throw (both.2 ?_))
  simpa using uncaught

/-- Two runs log the same exception of a call to the interpreter. -/
theorem alike_callPython {stage : Stage} {operation : Operation} {outcome : Except Raised α}
    {world world' : World σ} {returned : α → World σ → World σ → Prop}
    {raised : Raised → World σ → World σ → Prop}
    (fine : ∀ value, outcome = .ok value → returned value world world')
    (failed : ∀ error, outcome = .error error →
      raised error { world with faults := ⟨stage, operation, error⟩ :: world.faults }
        { world' with faults := ⟨stage, operation, error⟩ :: world'.faults }) :
    Alike (callPython stage operation outcome) world world' returned raised := by
  unfold Alike callPython
  cases ended : outcome with
  | ok value => exact ⟨rfl, fine value ended⟩
  | error error => exact ⟨rfl, failed error ended⟩

/-- Both runs handle an exception, or neither does. -/
theorem alike_exceptFor {τ : Type} {caught : Kind → Bool} {body : EStateM Raised τ α}
    {handler : Raised → EStateM Raised τ α} {start start' : τ} {returned : α → τ → τ → Prop}
    {raised : Raised → τ → τ → Prop}
    (alike : Alike body start start' returned (fun error after after' =>
      (caught error.kind = true → Alike (handler error) after after' returned raised) ∧
        (caught error.kind = false → raised error after after'))) :
    Alike (exceptFor caught body handler) start start' returned raised := by
  refine alike_tryCatch (alike.mono (fun _ _ _ => id) (fun error after after' both => ?_))
  refine alike_ite both.1 (fun uncaught => alike_throw (both.2 ?_))
  simpa using uncaught

/-- Two instances with the same field read the same. -/
theorem alike_field {part : World σ → α} {world world' : World σ}
    {returned : α → World σ → World σ → Prop} {raised : Raised → World σ → World σ → Prop}
    (same : part world = part world') (holds : returned (part world) world world') :
    Alike (field part) world world' returned raised := ⟨same, holds⟩

/-- Reading a field returns it and changes nothing. -/
theorem ends_field {part : World σ → α} {world : World σ} {returned : α → World σ → Prop}
    {raised : Raised → World σ → Prop} (holds : returned (part world) world) :
    Ends (field part) world returned raised := holds

end OpaPyWasm.GuestCalls
