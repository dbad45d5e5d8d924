import OpaPyWasm.GuestCalls

/-!
# The runtime

`WasmtimeRuntime` creates a store, gives it a memory and instantiates the module.
A module whose data segments overflow the memory is tried again with twice the
pages, up to a ceiling. An instance comes into being here, so the code from here
upwards runs on a log of the exceptions of its calls, and works on instances as
values.
-/

namespace OpaPyWasm.WasmtimeRuntime

open Exceptions Values Effects GuestCalls

/-- The package's code outside one instance. -/
abbrev Api := EStateM Raised (List Fault)

variable {σ α : Type}

/-- Call something that belongs to no instance. -/
def ask (stage : Stage) (operation : Operation) (outcome : Except Raised α) : Api α :=
  fun log =>
    match outcome with
    | .ok value => .ok value log
    | .error raised => .error raised (⟨stage, operation, raised⟩ :: log)

/-- Run the code of an instance, and go on with the instance as it leaves it. -/
def within (world : World σ) (program : Py σ α) : Api (α × World σ) :=
  fun log =>
    match program { world with faults := log } with
    | .ok value after => .ok (value, after) after.faults
    | .error raised after => .error raised after.faults

/-- A call outside an instance logs what it raises. -/
theorem ends_ask {stage : Stage} {operation : Operation} {outcome : Except Raised α}
    {log : List Fault} {returned : α → List Fault → Prop} {raised : Raised → List Fault → Prop}
    (fine : ∀ value, outcome = .ok value → returned value log)
    (failed : ∀ error, outcome = .error error → raised error (⟨stage, operation, error⟩ :: log)) :
    Ends (ask stage operation outcome) log returned raised := by
  unfold Ends ask
  cases ended : outcome with
  | ok value => exact fine value ended
  | error error => exact failed error ended

/-- The code of an instance goes on with the log. -/
theorem ends_within {world : World σ} {program : Py σ α} {log : List Fault}
    {returned : α × World σ → List Fault → Prop} {raised : Raised → List Fault → Prop}
    (ends : Ends program { world with faults := log }
      (fun value after => returned (value, after) after.faults)
      (fun error after => raised error after.faults)) :
    Ends (within world program) log returned raised := by
  unfold Ends within
  unfold Ends at ends
  cases ended : program { world with faults := log } <;> simpa only [ended] using ends

/-- The native calls that create a runtime. -/
structure Native (σ : Type) where
  newStore : Except Raised σ
  newMemory : Nat → Option Nat → EStateM Raised σ PUnit
  setLimits : Nat → EStateM Raised σ PUnit
  instantiate : EStateM Raised σ PUnit

/-- `_WASM_PAGE_BYTES`. -/
def wasmPageBytes : Nat := 64 * 1024

/-- `_NO_DEADLINE_TICKS`. -/
def noDeadlineTicks : Nat := 1 <<< 40

/-- `_DEFAULT_MEMORY_PAGES`. -/
def defaultMemoryPages : Nat := 2

/-- `_MAX_INSTANTIATION_MEMORY_PAGES`. -/
def maxInstantiationMemoryPages : Nat := 16384

/-- The classes that the retry loop catches. -/
def isNative : Kind → Bool
  | .trap _ => true
  | .wasmtimeError => true
  | _ => false

/-- `_is_memory_overflow_trap`. -/
def isMemoryOverflowTrap (raised : Raised) : Bool := raised.kind == .trap true

/-- An instance around a new store. -/
def created (guest : σ) : World σ where
  guest := guest
  initialHeapPtr := 0
  dataAddr := 0
  dataHeapPtr := 0
  builtinIdToName := []
  dataVersion := 0
  poisoned := false
  enteredWasm := false
  faults := []

section Creation

variable (native : Native σ) (guest : Guest σ) (maxMemoryPages : Option Nat)

/-- The cap on the growth of the memory, where one is configured. -/
def limitMemory : Py σ PUnit :=
  match maxMemoryPages with
  | none => pure ⟨⟩
  | some pages => call .instantiation .setLimits (native.setLimits (pages * wasmPageBytes))

/-- One attempt to instantiate the module, in a store of its own. -/
def attempt (initialPages : Nat) : Py σ PUnit := do
  call .instantiation .setEpochDeadline (guest.setEpochDeadline noDeadlineTicks)
  call .instantiation .newMemory (native.newMemory initialPages maxMemoryPages)
  limitMemory native maxMemoryPages
  call .instantiation .instantiate native.instantiate

/-- What a module that cannot be instantiated is reported as. -/
def instantiationFailure (raised : Raised) : Raised :=
  opaErrorFrom .invalidPolicy s!"failed to instantiate policy: {raised.text}" raised

/-- The retry loop. `left` bounds its attempts: each one has more pages than the
one before it, and none has more than the ceiling. -/
def instantiateLoop (ceiling : Nat) : Nat → Nat → Api (World σ)
  | 0, _ => throw (opaError .invalidPolicy "failed to instantiate policy")
  | left + 1, initialPages => do
    let store ← ask .store .newStore native.newStore
    tryCatch
      (do
        let ended ← within (created store) (attempt native guest maxMemoryPages initialPages)
        pure ended.2)
      (fun raised =>
        if !isNative raised.kind then throw raised
        else if !isMemoryOverflowTrap raised then throw (instantiationFailure raised)
        else if ceiling ≤ initialPages then throw (instantiationFailure raised)
        else instantiateLoop ceiling left (min (initialPages * 2) ceiling))

/-- `WasmtimeRuntime.__init__`. -/
def createRuntime : Api (World σ) :=
  let ceiling := maxMemoryPages.getD maxInstantiationMemoryPages
  if maxMemoryPages.any (fun pages => pages < defaultMemoryPages) then
    throw (opaError .invalidPolicy (s!"max_memory_pages={ceiling} is below the minimum of " ++
      s!"{defaultMemoryPages} pages required to instantiate an OPA policy"))
  else instantiateLoop native guest maxMemoryPages ceiling ceiling defaultMemoryPages

/-- The bound on the attempts is never met: more of it changes nothing. -/
theorem instantiateLoop_left (ceiling left initialPages : Nat) (below : initialPages ≤ ceiling)
    (positive : 0 < initialPages) (enough : ceiling < initialPages + left) :
    instantiateLoop native guest maxMemoryPages ceiling left initialPages =
      instantiateLoop native guest maxMemoryPages ceiling (left + 1) initialPages := by
  induction left generalizing initialPages with
  | zero => omega
  | succ left inductionHypothesis =>
    unfold instantiateLoop
    congr 1
    funext store
    congr 1
    funext raised
    by_cases final : ceiling ≤ initialPages
    · simp only [final, if_true]
    · rw [inductionHypothesis (min (initialPages * 2) ceiling) (by omega) (by omega) (by omega)]

end Creation

end OpaPyWasm.WasmtimeRuntime
