import OpaPyWasm.Policy
import OpaPyWasm.PolicyInstance

/-!
# The calls of the policy

What one thread does in `OpaWasmPolicy`: construct a policy, set its data, and
evaluate on an instance that the pool hands out. What the pool found for the
caller is an argument here; that it may find it is a matter of the other threads.
-/

namespace OpaPyWasm.PolicyApi

open Exceptions Values Effects GuestCalls MemoryCodec WasmtimeRuntime PolicyInstance

/-- An entrypoint as a caller names it. A `bool` is an `int` to the type checker. -/
inductive Entrypoint where
  | name (text : Text)
  | ident (value : Int)
  | bool (value : Bool)

/-- The settings of `PolicyConfig` that no instance reads. -/
structure PolicyConfig where
  defaultEntrypoint : Option Entrypoint
  strictResult : Bool
  strictResultShape : Bool
  poolSize : Nat
  borrowTimeout : String

section Data

variable (json : Json) (maxDataBytes : Nat)

/-- The raw-document branch of `_serialise_data`. -/
def validateDocument (raw : List UInt8) : Api (List UInt8) := do
  let _ ← exceptFor Kind.isValueError (ask .serialisation .loads (json.loads raw))
    (fun raised => throw (opaErrorFrom .invalidInput
      s!"data str/bytes is not valid JSON text: {raised.text}" raised))
  pure raw

/-- The JSON text of a document in `_serialise_data`. -/
def encodeDocument : Document → Api (List UInt8)
  | .bytes raw => validateDocument json raw
  | .value (.str text) => do
    let raw ← ask .serialisation .encode (encodeUtf8 text)
    validateDocument json raw
  | .value value =>
    exceptFor (fun kind => kind == .typeError || kind.isValueError)
      (ask .serialisation .dumps (json.dumps value >>= encodeUtf8))
      (fun raised => throw (opaErrorFrom .invalidInput
        s!"data is not JSON-serialisable: {raised.text}" raised))

/-- A document within the limit. -/
def serialiseDocument (document : Document) : Api (List UInt8) := do
  let raw ← encodeDocument json document
  if raw.length > maxDataBytes then
    throw (opaError .invalidInput
      s!"data is {raw.length} bytes, exceeding the {maxDataBytes}-byte limit")
  else pure raw

/-- `_serialise_data`. -/
def serialiseData (data : Option Document) : Api (Option (List UInt8)) :=
  match data with
  | none => pure none
  | some document => do
    let raw ← serialiseDocument json maxDataBytes document
    pure (some raw)

/-- `_raise_if_closed`. -/
def raiseIfClosed (closed : Bool) : Api PUnit :=
  if closed then throw (opaError .policyClosed "policy is closed") else pure ⟨⟩

/-- `set_data` up to the swap of the snapshot, which cannot fail. -/
def setData (closed : Bool) (data : Option Document) : Api (Option (List UInt8)) := do
  raiseIfClosed closed
  serialiseData json maxDataBytes data

/-- What `_serialise_data` is to the other threads: the text of a document, or
nothing. -/
theorem serialiseData_projects (data : Option Document) :
    (outcome (serialiseData json maxDataBytes data) []).toOption =
      Policy.serialiseData
        (fun document => (outcome (serialiseDocument json maxDataBytes document) []).toOption)
        data := by
  cases data with
  | none => rfl
  | some document =>
    have mapped : outcome (serialiseData json maxDataBytes (some document)) [] =
        (outcome (serialiseDocument json maxDataBytes document) []).map some :=
      outcome_map _ _ _
    rw [mapped]
    change _ = Option.map some (outcome (serialiseDocument json maxDataBytes document) []).toOption
    cases outcome (serialiseDocument json maxDataBytes document) [] <;> rfl

end Data

section Construction

variable {σ : Type} (setup : Setup σ)

/-- What the imports of a module say about `env.memory`. -/
inductive MemoryImport where
  | absent
  | other
  | memory

/-- `_validate_required_env_imports`. -/
def validateRequiredEnvImports : MemoryImport → Api PUnit
  | .absent => throw (opaError .invalidPolicy
      "policy wasm does not import 'env.memory'; not an OPA policy module")
  | .other => throw (opaError .invalidPolicy "'env.memory' import is not a memory")
  | .memory => pure ⟨⟩

/-- `WasmtimeRuntimeFactory.__init__`, with what the compiler says of the module. -/
def compilePolicy (wasmBytes : List UInt8) (compiled : Except Raised MemoryImport) : Api PUnit :=
  if wasmBytes = [] then throw (opaError .invalidPolicy "policy wasm is empty")
  else do
    let imports ← exceptFor (· == .wasmtimeError) (ask .compilation .compile compiled)
      (fun raised => throw (opaErrorFrom .invalidPolicy
        s!"invalid policy wasm: {raised.text}" raised))
    validateRequiredEnvImports imports

/-- What a policy keeps of its probe instance. -/
structure Metadata where
  entrypoints : List (Text × Int)
  builtins : List (Text × Int)

/-- `OpaWasmPolicy.__init__`: compile the module, and read the metadata from a probe
instance. -/
def construct (wasmBytes : List UInt8) (compiled : Except Raised MemoryImport) : Api Metadata := do
  compilePolicy wasmBytes compiled
  let probe ← build setup none 0
  let entrypoints ← within probe
    (decodeEntrypoints setup.guest setup.json setup.limits .metadata)
  let builtins ← within entrypoints.2
    (decodeBuiltins setup.guest setup.json setup.limits .metadata)
  pure ⟨entrypoints.1, builtins.1⟩

/-- `from_wasm_file` and `from_wasm_stream`, with what reading the source gave. -/
def fromWasmSource (source : Except Raised (List UInt8))
    (compiled : List UInt8 → Except Raised MemoryImport) : Api Metadata := do
  let wasmBytes ← ask .source .readSource source
  construct setup wasmBytes (compiled wasmBytes)

end Construction

section Evaluation

variable {σ : Type} (setup : Setup σ) (config : PolicyConfig) (entrypoints : List (Text × Int))

/-- `repr` of a value in the message of an error. -/
def reprOf (stage : Stage) (value : Value) : Api String := ask stage .repr (setup.json.repr value)

/-- `_resolve_entrypoint`. -/
def resolveEntrypoint (entrypoint : Option Entrypoint) : Api Int :=
  match (entrypoint <|> config.defaultEntrypoint).getD (.ident 0) with
  | .bool value =>
    let given := if value then "True" else "False"
    throw (opaError .entrypoint s!"invalid entrypoint {given}")
  | .ident value =>
    if value ∈ entrypoints.map Prod.snd then pure value
    else do
      let given ← reprOf setup .entrypoint (.int value)
      let ids := (entrypoints.map Prod.snd).mergeSort (fun first second => decide (first ≤ second))
      let known ← reprOf setup .entrypoint (.list (ids.map Value.int))
      throw (opaError .entrypoint s!"unknown entrypoint id {given}; known ids: {known}")
  | .name text =>
    match entrypoints.find? (fun entry => entry.1 == text) with
    | some entry => pure entry.2
    | none => do
      let given ← reprOf setup .entrypoint (.str text)
      let names := (entrypoints.map Prod.fst).mergeSort
        (fun first second => decide (first ≤ second))
      let known ← reprOf setup .entrypoint (.list (names.map Value.str))
      throw (opaError .entrypoint s!"unknown entrypoint {given}; known entrypoints: {known}")

/-- What the pool found for a borrower: the pool closed, no slot in time, a wait that
failed otherwise, a placeholder, or an idle instance. -/
inductive Drawn (σ : Type) where
  | closed
  | timedOut
  | waitFailed (raised : Raised)
  | placeholder
  | idle (world : World σ)

/-- `_take_slot`. -/
def takeSlot : Drawn σ → Api (Option (World σ))
  | .closed => throw (opaError .policyClosed "policy is closed")
  | .timedOut => throw (opaError .poolTimeout
      (s!"timed out after {config.borrowTimeout}s waiting for a free policy instance " ++
        s!"(pool_size={config.poolSize})"))
  | .waitFailed raised => ask .slot .getSlot (.error raised)
  | .placeholder => pure none
  | .idle world => pure (some world)

/-- The data snapshot, with its version. -/
abbrev Snapshot := Option Document × Nat

/-- `borrow` up to the refresh: an idle instance, or for a placeholder a new one. -/
def borrow (drawn : Drawn σ) (seeded : Snapshot) : Api (World σ) := do
  let slot ← takeSlot config drawn
  match slot with
  | some world => pure world
  | none => build setup seeded.1 seeded.2

/-- `evaluate_raw`. The factory and the refresh read the snapshot on their own. -/
def evaluateRaw (drawn : Drawn σ) (seeded current : Snapshot) (input : Document)
    (entrypoint : Option Entrypoint) : Api Value := do
  let entrypointId ← resolveEntrypoint setup config entrypoints entrypoint
  let borrowed ← borrow setup config drawn seeded
  let ended ← within borrowed (loan setup current.1 current.2 input entrypointId)
  pure ended.1

/-- The result of `evaluate`: a decision, or the `UNDEFINED` sentinel. -/
inductive Decision where
  | undefined
  | defined (value : Value)

/-- The key of a decision. -/
def resultKey : Text := "result".toList.map Char.toNat

/-- The value at a key of an object. -/
def lookup (key : Text) : List (Value × Value) → Option Value
  | [] => none
  | (.str name, value) :: rest => if name = key then some value else lookup key rest
  | _ :: rest => lookup key rest

/-- What `_simplify_result` makes of a shape that it does not recognise. -/
def unrecognised (raw : Value) : Api Decision :=
  if config.strictResultShape then do
    let shape ← reprOf setup .decision raw
    throw (opaError .evaluation
      s!"policy returned an unexpected result shape (not [\x7b'result': ...\x7d]): {shape}")
  else if config.strictResult then do
    let shape ← reprOf setup .decision raw
    throw (opaError .evaluation s!"policy returned an undefined/empty decision: {shape}")
  else pure .undefined

/-- `_simplify_result`. -/
def simplifyResult (raw : Value) : Api Decision :=
  match raw with
  | .list [] =>
    if config.strictResult then
      throw (opaError .evaluation "policy returned an undefined/empty decision")
    else pure .undefined
  | .list (.dict entries :: _) =>
    match lookup resultKey entries with
    | some value => pure (.defined value)
    | none => unrecognised setup config raw
  | _ => unrecognised setup config raw

/-- `evaluate`. -/
def evaluate (drawn : Drawn σ) (seeded current : Snapshot) (input : Document)
    (entrypoint : Option Entrypoint) : Api Decision := do
  let raw ← evaluateRaw setup config entrypoints drawn seeded current input entrypoint
  simplifyResult setup config raw

end Evaluation

end OpaPyWasm.PolicyApi
