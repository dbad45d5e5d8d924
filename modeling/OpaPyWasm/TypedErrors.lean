import OpaPyWasm.EscapedFaults

/-!
# Which exceptions reach the caller

A public call raises an untyped exception exactly if one escapes the handlers below
it. For `set_data` this is a condition on its arguments alone.
-/

namespace OpaPyWasm.PolicyApi

open Exceptions Values Effects GuestCalls MemoryCodec WasmtimeRuntime PolicyInstance

/-- Nothing of a call reaches its caller but typed errors and exceptions that are no
`Exception`. -/
def OnlyTyped {α : Type} (program : Api α) : Prop :=
  ∀ raised, outcome program [] = .error raised → raised.kind.isException = true →
    raised.kind.isOpa = true

/-- A call that raises an untyped exception exactly in one case raises only typed ones
exactly in the others. -/
theorem onlyTyped_iff_not {α : Type} {program : Api α} {condition : Prop}
    (ends : Ends program [] (fun _ _ => ¬condition)
      (fun raised _ => raised.kind.isUntyped = true ↔ condition)) :
    OnlyTyped program ↔ ¬condition := by
  unfold OnlyTyped outcome
  unfold Ends at ends
  cases ended : program [] with
  | ok value after =>
    rw [ended] at ends
    refine iff_of_true ?_ ends
    intro raised failed
    cases failed
  | error raised after =>
    rw [ended] at ends
    have exact : raised.kind.isUntyped = true ↔ condition := ends
    have typed : ¬raised.kind.isUntyped = true ↔
        (raised.kind.isException = true → raised.kind.isOpa = true) := by
      simp [Kind.isUntyped]
    rw [← exact, typed]
    constructor
    · exact fun only => only raised rfl
    · intro isTyped other same
      rw [← Except.error.inj same]
      exact isTyped

/-- A call that discloses its exceptions raises only typed ones exactly if none
escapes. -/
theorem onlyTyped_iff {α : Type} {program : Api α} (discloses : Discloses id program) :
    OnlyTyped program ↔ ¬Escaped (final program []) :=
  onlyTyped_iff_not (discloses [] not_escaped_nil).at_final

section SetData

variable (json : Json) (maxDataBytes : Nat)

/-- An untyped exception that a handler does not catch. -/
def Unhandled {α : Type} (caught : Kind → Bool) (outcome : Except Raised α) : Prop :=
  ∃ raised, outcome = .error raised ∧ caught raised.kind = false ∧ raised.kind.isUntyped = true

/-- A document of which `_serialise_data` raises an untyped exception: a text that UTF-8
does not encode, or one of which the `json` module raises what is not handled. -/
def Unserialisable : Document → Prop
  | .bytes raw => Unhandled Kind.isValueError (json.loads raw)
  | .value (.str text) => ¬Encodable text ∨
      ∃ raw, encodeUtf8 text = .ok raw ∧ Unhandled Kind.isValueError (json.loads raw)
  | .value value => Unhandled (fun kind => kind == .typeError || kind.isValueError)
      (json.dumps value >>= encodeUtf8)

/-- A program raises an untyped exception exactly in one case. -/
def RaisesUntypedIf {α : Type} (condition : Prop) (program : Api α) : Prop :=
  ∀ log, Ends program log (fun _ _ => ¬condition)
    (fun raised _ => raised.kind.isUntyped = true ↔ condition)

/-- What follows raises typed errors only, so the first part decides. -/
theorem RaisesUntypedIf.then_typed {α β : Type} {condition : Prop} {program : Api α}
    {next : α → Api β} (first : RaisesUntypedIf condition program)
    (second : ∀ value, RaisesUntypedIf False (next value)) :
    RaisesUntypedIf condition (program >>= next) := by
  intro log
  apply (first log).seq
  intro value middle absent
  apply (second value middle).mono
  · exact fun _ _ _ => absent
  · exact fun raised _ typed => typed.trans (iff_of_false id absent)

/-- A converted call raises what its handler does not catch. -/
theorem raisesUntypedIf_converted {α : Type} {stage : Stage} {operation : Operation}
    (caught : Kind → Bool) (outcome : Except Raised α) (error : OpaError) (text : Raised → String) :
    RaisesUntypedIf (Unhandled caught outcome) (exceptFor caught (ask stage operation outcome)
      (fun raised => throw (opaErrorFrom error (text raised) raised))) := by
  intro log
  apply ends_exceptFor
  apply ends_ask
  · rintro value returned ⟨raised, failed, -⟩
    rw [returned] at failed
    cases failed
  · intro raised failed
    constructor
    · intro isCaught
      apply ends_throw
      refine iff_of_false Bool.false_ne_true ?_
      rintro ⟨other, same, passes, -⟩
      rw [← Except.error.inj (failed.symm.trans same), isCaught] at passes
      cases passes
    · intro passes
      constructor
      · exact fun untyped => ⟨raised, failed, passes, untyped⟩
      · rintro ⟨other, same, -, untyped⟩
        rwa [Except.error.inj (failed.symm.trans same)]

/-- Validation converts a `ValueError` and nothing else. -/
theorem validateDocument_raises (raw : List UInt8) :
    RaisesUntypedIf (Unhandled Kind.isValueError (json.loads raw)) (validateDocument json raw) := by
  apply (raisesUntypedIf_converted _ _ _ _).then_typed
  exact fun _ _ => ends_pure id

/-- A text is encoded outside the handler, so its surrogates escape; bytes and values raise what the
`json` module raises and the handler does not catch.

Proof: one case for each kind of document. -/
theorem encodeDocument_raises (document : Document) :
    RaisesUntypedIf (Unserialisable json document) (encodeDocument json document) := by
  unfold encodeDocument
  split
  · exact validateDocument_raises json _
  · rename_i text
    intro log
    apply ends_bind
    rcases encodeUtf8_cases text with ⟨fine, raw, encoded⟩ | ⟨surrogate, failed⟩
    · apply ends_ask
      · intro raw' same
        cases encoded.symm.trans same
        have condition : Unserialisable json (.value (.str text)) ↔
            Unhandled Kind.isValueError (json.loads raw) := by
          constructor
          · rintro (surrogate | ⟨raw', same, unhandled⟩)
            · exact absurd fine surrogate
            · cases encoded.symm.trans same
              exact unhandled
          · exact fun unhandled => Or.inr ⟨raw, encoded, unhandled⟩
        rw [condition]
        exact validateDocument_raises json raw log
      · intro raised failed
        cases encoded.symm.trans failed
    · apply ends_ask
      · intro raw encoded
        cases failed.symm.trans encoded
      · intro raised same
        cases failed.symm.trans same
        exact iff_of_true rfl (Or.inl surrogate)
  · rename_i value notText
    have condition : Unserialisable json (.value value) =
        Unhandled (fun kind => kind == .typeError || kind.isValueError)
          (json.dumps value >>= encodeUtf8) := by
      cases value <;> first | rfl | exact absurd rfl (notText _)
    rw [condition]
    exact raisesUntypedIf_converted _ _ _ _

/-- The size is checked behind that, with a typed error. -/
theorem serialiseDocument_raises (document : Document) :
    RaisesUntypedIf (Unserialisable json document)
      (serialiseDocument json maxDataBytes document) := by
  apply (encodeDocument_raises json document).then_typed
  intro raw log
  apply ends_ite
  · exact fun _ => ends_throw (iff_of_false Bool.false_ne_true id)
  · exact fun _ => ends_pure id

/-- `set_data` raises an untyped exception exactly if the policy is open and the document
cannot be serialised. -/
theorem setData_raises (closed : Bool) (data : Option Document) :
    RaisesUntypedIf (closed = false ∧ ∃ document ∈ data, Unserialisable json document)
      (setData json maxDataBytes closed data) := by
  intro log
  apply ends_bind
  cases closed with
  | true => exact ends_throw (iff_of_false Bool.false_ne_true (fun both => Bool.noConfusion both.1))
  | false =>
    apply ends_pure
    cases data with
    | none =>
      apply ends_pure
      rintro ⟨-, document, member, -⟩
      cases member
    | some document =>
      have condition : (false = false ∧ ∃ other ∈ some document, Unserialisable json other) ↔
          Unserialisable json document := by
        simp
      rw [condition]
      apply (serialiseDocument_raises json maxDataBytes document).then_typed
      exact fun raw _ => ends_pure id

end SetData

section Calls

variable {σ : Type} (setup : Setup σ) (config : PolicyConfig) (entrypoints : List (Text × Int))

/-- The constructor: the handlers of the compilation convert what they catch. -/
theorem construct_discloses (wasmBytes : List UInt8) (compiled : Except Raised MemoryImport) :
    Discloses id (construct setup wasmBytes compiled) := by
  apply discloses_bind
  · apply discloses_ite (fun _ => discloses_opaError _ _)
    intro _
    apply discloses_bind
    · apply discloses_except .compilation
      · exact attributed_ask _ (fun _ => rfl)
      · exact fun _ => discloses_throw (not_isUntyped_of_isOpa rfl)
    · intro imports
      cases imports with
      | absent => exact discloses_opaError _ _
      | other => exact discloses_opaError _ _
      | memory => exact discloses_pure _
  · intro _
    apply discloses_bind (build_discloses setup none 0)
    intro probe
    apply discloses_bind (discloses_within _ (discloses_reports _
      ((reports_law setup.guest setup.json .metadata).decodeEntrypoints) (fun _ => rfl)))
    intro entrypoints
    apply discloses_bind (discloses_within _ (discloses_reports _
      ((reports_law setup.guest setup.json .metadata).decodeBuiltins) (fun _ => rfl)))
    exact fun builtins => discloses_pure _

/-- `from_wasm`: the source is read outside every handler. -/
theorem fromWasmSource_discloses (source : Except Raised (List UInt8))
    (compiled : List UInt8 → Except Raised MemoryImport) :
    Discloses id (fromWasmSource setup source compiled) := by
  apply discloses_bind
    (discloses_unguarded .source (attributed_ask _ (fun _ => rfl)) (fun _ => rfl))
  exact fun wasmBytes => construct_discloses setup wasmBytes _

/-- A document is encoded before the guarded parse. -/
theorem serialiseDocument_attributed (json : Json) (maxDataBytes : Nat) (document : Document) :
    Attributed id .serialisation (serialiseDocument json maxDataBytes document) := by
  have validated : ∀ raw, Attributed id .serialisation (validateDocument json raw) := by
    intro raw
    apply attributed_bind (attributed_converted _ _ _ (fun _ => rfl))
    exact fun _ => attributed_pure raw
  apply attributed_bind
  · unfold encodeDocument
    split
    · exact validated _
    · exact attributed_bind (attributed_ask _ (fun _ => rfl)) validated
    · exact attributed_converted _ _ _ (fun _ => rfl)
  · exact fun raw => attributed_ite (attributed_opaError _ _) (attributed_pure _)

/-- `set_data`. -/
theorem setData_discloses (json : Json) (maxDataBytes : Nat) (closed : Bool)
    (data : Option Document) : Discloses id (setData json maxDataBytes closed data) := by
  apply discloses_bind
  · exact discloses_ite (fun _ => discloses_opaError _ _) (fun _ => discloses_pure _)
  · intro _
    apply discloses_unguarded .serialisation _ (fun _ => rfl)
    cases data with
    | none => exact attributed_pure _
    | some document =>
      apply attributed_bind (serialiseDocument_attributed json maxDataBytes document)
      exact fun raw => attributed_pure _

/-- The message about an unknown entrypoint may fail to be built. -/
theorem resolveEntrypoint_discloses (entrypoint : Option Entrypoint) :
    Discloses id (resolveEntrypoint setup config entrypoints entrypoint) := by
  have message : ∀ value, Attributed id .entrypoint (reprOf setup .entrypoint value) :=
    fun value => attributed_ask _ (fun _ => rfl)
  apply discloses_unguarded .entrypoint _ (fun _ => rfl)
  unfold resolveEntrypoint
  split
  · exact attributed_opaError _ _
  · apply attributed_ite (attributed_pure _)
    apply attributed_bind (message _)
    intro given
    apply attributed_bind (message _)
    exact fun known => attributed_opaError _ _
  · split
    · exact attributed_pure _
    · apply attributed_bind (message _)
      intro given
      apply attributed_bind (message _)
      exact fun known => attributed_opaError _ _

/-- `_take_slot`: the wait of the queue stands outside every handler. -/
theorem takeSlot_discloses (drawn : Drawn σ) : Discloses id (takeSlot config drawn) := by
  cases drawn with
  | closed => exact discloses_opaError _ _
  | timedOut => exact discloses_opaError _ _
  | waitFailed raised =>
    have waited : Attributed id .slot
        (ask .slot .getSlot (.error raised) : Api (Option (World σ))) :=
      attributed_ask _ (fun _ => rfl)
    exact discloses_unguarded .slot waited (fun _ => rfl)
  | placeholder => exact discloses_pure _
  | idle world => exact discloses_pure _

/-- `evaluate_raw`: the entrypoint, the slot, then the instance. -/
theorem evaluateRaw_discloses (drawn : Drawn σ) (seeded current : Snapshot) (input : Document)
    (entrypoint : Option Entrypoint) :
    Discloses id (evaluateRaw setup config entrypoints drawn seeded current input entrypoint) := by
  apply discloses_bind (resolveEntrypoint_discloses setup config entrypoints entrypoint)
  intro entrypointId
  apply discloses_bind
  · apply discloses_bind (takeSlot_discloses config drawn)
    intro slot
    cases slot with
    | none => exact build_discloses setup _ _
    | some world => exact discloses_pure world
  · intro borrowed
    apply discloses_bind (discloses_within _ (loan_discloses setup _ _ input entrypointId))
    exact fun ended => discloses_pure _

/-- So may the message about an unexpected result. -/
theorem simplifyResult_discloses (raw : Value) :
    Discloses id (simplifyResult setup config raw) := by
  have unknown : Attributed id .decision (unrecognised setup config raw) := by
    have message : ∀ text : String → String, Attributed id .decision (do
        let shape ← reprOf setup .decision raw
        throw (opaError .evaluation (text shape)) : Api Decision) := by
      intro text
      apply attributed_bind (attributed_ask _ (fun _ => rfl))
      exact fun shape => attributed_opaError _ _
    exact attributed_ite (message _) (attributed_ite (message _) (attributed_pure _))
  apply discloses_unguarded .decision _ (fun _ => rfl)
  unfold simplifyResult
  split
  · exact attributed_ite (attributed_opaError _ _) (attributed_pure _)
  · split
    · exact attributed_pure _
    · exact unknown
  · exact unknown

/-- A call of the public API with everything that it depends on: the settings, what the
compiler says of a module, and what the pool found for the caller. -/
inductive ApiCall (σ : Type) where
  | construct (wasmBytes : List UInt8) (compiled : Except Raised MemoryImport)
  | fromWasmSource (source : Except Raised (List UInt8))
      (compiled : List UInt8 → Except Raised MemoryImport)
  | setData (closed : Bool) (data : Option Document)
  | evaluateRaw (drawn : Drawn σ) (seeded current : Snapshot) (input : Document)
      (entrypoint : Option Entrypoint)
  | evaluate (drawn : Drawn σ) (seeded current : Snapshot) (input : Document)
      (entrypoint : Option Entrypoint)

/-- A call, without the value that it returns. -/
def ApiCall.run : ApiCall σ → Api PUnit
  | .construct wasmBytes compiled => do
    let _ ← PolicyApi.construct setup wasmBytes compiled
    pure ⟨⟩
  | .fromWasmSource source compiled => do
    let _ ← PolicyApi.fromWasmSource setup source compiled
    pure ⟨⟩
  | .setData closed data => do
    let _ ← PolicyApi.setData setup.json setup.limits.maxDataBytes closed data
    pure ⟨⟩
  | .evaluateRaw drawn seeded current input entrypoint => do
    let _ ← PolicyApi.evaluateRaw setup config entrypoints drawn seeded current input entrypoint
    pure ⟨⟩
  | .evaluate drawn seeded current input entrypoint => do
    let _ ← PolicyApi.evaluate setup config entrypoints drawn seeded current input entrypoint
    pure ⟨⟩

/-- Every public call. -/
theorem run_discloses (call : ApiCall σ) : Discloses id (call.run setup config entrypoints) := by
  cases call with
  | construct wasmBytes compiled =>
    exact discloses_bind (construct_discloses setup wasmBytes compiled)
      (fun _ => discloses_pure _)
  | fromWasmSource source compiled =>
    exact discloses_bind (fromWasmSource_discloses setup source compiled)
      (fun _ => discloses_pure _)
  | setData closed data =>
    exact discloses_bind (setData_discloses _ _ closed data) (fun _ => discloses_pure _)
  | evaluateRaw drawn seeded current input entrypoint =>
    exact discloses_bind (evaluateRaw_discloses setup config entrypoints _ _ _ _ _)
      (fun _ => discloses_pure _)
  | evaluate drawn seeded current input entrypoint =>
    apply discloses_bind
    · apply discloses_bind (evaluateRaw_discloses setup config entrypoints _ _ _ _ _)
      exact fun raw => simplifyResult_discloses setup config raw
    · exact fun _ => discloses_pure _

/-- The exceptions that the guest, the runtime and the interpreter raised in a call. -/
def raisedDuring (call : ApiCall σ) : List Fault := final (call.run setup config entrypoints) []

end Calls

/-- What a trapping export raises. -/
def trap : Raised := ⟨.trap false, "wasm trap: wasm unreachable instruction executed", []⟩

/-- A guest all of whose exports trap. -/
def trappingGuest : Guest Unit where
  opaMalloc _ := throw trap
  opaJsonParse _ _ := throw trap
  opaJsonDump _ := throw trap
  opaHeapPtrGet := throw trap
  opaHeapPtrSet _ := throw trap
  entrypoints := throw trap
  builtins := throw trap
  opaEval _ _ _ _ _ := throw trap
  memoryLen := pure 131072
  memoryRead _ _ := pure []
  memoryWrite _ _ := pure ⟨⟩
  setEpochDeadline _ := pure ⟨⟩
  startTicker := pure ⟨⟩

/-- The setup of a policy with that guest, which the ABI check accepts. -/
def trappingSetup : Setup Unit where
  native := ⟨.ok (), fun _ _ => pure ⟨⟩, fun _ => pure ⟨⟩, pure ⟨⟩⟩
  guest := trappingGuest
  maxMemoryPages := none
  json := ⟨fun _ => .ok .none, fun _ => .ok [], fun _ => .ok ""⟩
  limits := ⟨100, 100, 100, 100, true⟩
  exports := ⟨[("opa_wasm_abi_version", some 1), ("opa_wasm_abi_minor_version", some 2)],
    Abi.expectedSignatures, []⟩
  timeoutTicks := none

/-- The default settings, with one instance. -/
def trappingConfig : PolicyConfig := ⟨none, false, true, 1, "5.0"⟩

end OpaPyWasm.PolicyApi
