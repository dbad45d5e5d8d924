import OpaPyWasm.PolicyApi

/-!
# Exceptions that escape the handlers

Exceptions of the guest, the runtime and the interpreter enter at every stage of the
package's code. Some stages stand inside an `except` clause, which turns what it
catches into a typed error. An untyped exception from anywhere else leaves an
instance as it is, and nothing else does.
-/

namespace OpaPyWasm.PolicyApi

open Exceptions Values Effects GuestCalls MemoryCodec WasmtimeRuntime PolicyInstance

/-- The classes that the `except` clause around a whole stage catches. -/
def catches : Stage → Kind → Bool
  | .dataLoad => Kind.isException
  | .input => Kind.isException
  | .evaluation => Kind.isException
  | .instantiation => isNative
  | .compilation => fun kind => kind == .wasmtimeError
  | _ => fun _ => false

/-- An untyped exception that no `except` clause of its stage turns into a typed error. -/
def escapes (fault : Fault) : Bool :=
  fault.raised.kind.isUntyped && !(fault.isConverted || catches fault.stage fault.raised.kind)

/-- The log holds an exception that escapes. -/
def Escaped (log : List Fault) : Prop := ∃ fault ∈ log, escapes fault = true

/-- A log is finite, so whether something escaped can be computed. -/
instance (log : List Fault) : Decidable (Escaped log) :=
  inferInstanceAs (Decidable (∃ fault ∈ log, escapes fault = true))

section Laws

variable {τ σ α β : Type} {logOf : τ → List Fault} {stage : Stage}

/-- A program that raises typed errors of its own, or what the one call raised that it
logs at its stage. -/
def Attributed (logOf : τ → List Fault) (stage : Stage) (program : EStateM Raised τ α) : Prop :=
  ∀ start, Ends program start (fun _ after => logOf after = logOf start)
    (fun raised after => Reported stage (logOf start) raised (logOf after))

/-- Where nothing has escaped before, a program raises an untyped exception exactly if
one escapes in it. -/
def Discloses (logOf : τ → List Fault) (program : EStateM Raised τ α) : Prop :=
  ∀ start, ¬Escaped (logOf start) → Ends program start (fun _ after => ¬Escaped (logOf after))
    (fun raised after => raised.kind.isUntyped = true ↔ Escaped (logOf after))

/-- Nothing escapes where nothing was raised. -/
theorem not_escaped_nil : ¬Escaped [] := by
  rintro ⟨fault, member, -⟩
  exact List.not_mem_nil member

/-- A log escapes at its latest entry or before it. -/
theorem escaped_cons (fault : Fault) (log : List Fault) :
    Escaped (fault :: log) ↔ escapes fault = true ∨ Escaped log :=
  List.exists_mem_cons_iff _ _ _

/-- An exception escapes exactly if it is untyped, its call does not convert it and its stage does
not catch it. -/
theorem escapes_iff (fault : Fault) :
    escapes fault = true ↔ fault.raised.kind.isUntyped = true ∧ fault.isConverted = false ∧
      catches fault.stage fault.raised.kind = false := by
  unfold escapes
  rw [Bool.and_eq_true, Bool.not_eq_true', Bool.or_eq_false_iff]

/-- A typed error is not untyped. -/
theorem not_isUntyped_of_isOpa {kind : Kind} (typed : kind.isOpa = true) :
    ¬kind.isUntyped = true := by
  unfold Kind.isUntyped
  rw [typed]
  simp

/-- What is no `Exception` is not untyped. -/
theorem not_isUntyped_of_not_isException {kind : Kind} (other : ¬kind.isException = true) :
    ¬kind.isUntyped = true := by
  unfold Kind.isUntyped
  intro both
  exact other (Bool.and_eq_true_iff.mp both).1

/-- A report that the stage does not catch is untyped exactly if it escapes. -/
theorem untyped_iff_escaped {before after : List Fault} {raised : Raised}
    (reported : Reported stage before raised after) (clean : ¬Escaped before)
    (passes : catches stage raised.kind = false) :
    raised.kind.isUntyped = true ↔ Escaped after := by
  rcases reported with ⟨rfl, typed⟩ | ⟨fault, rfl, rfl, ⟨rfl, unconverted⟩ | ⟨typed, converted⟩⟩
  · exact iff_of_false (not_isUntyped_of_isOpa typed) clean
  · rw [escaped_cons, escapes_iff]
    exact ⟨fun untyped => Or.inl ⟨untyped, unconverted, passes⟩,
      fun escaped => (escaped.resolve_right clean).1⟩
  · refine iff_of_false (not_isUntyped_of_isOpa typed) (fun escaped => ?_)
    rw [escaped_cons, escapes_iff, converted] at escaped
    exact Bool.noConfusion (escaped.resolve_right clean).2.1

/-- A report that the stage catches escapes nowhere. -/
theorem not_escaped_of_caught {before after : List Fault} {raised : Raised}
    (reported : Reported stage before raised after) (clean : ¬Escaped before)
    (stops : catches stage raised.kind = true) : ¬Escaped after := by
  rcases reported with ⟨rfl, -⟩ | ⟨fault, rfl, rfl, ⟨rfl, -⟩ | ⟨-, converted⟩⟩
  · exact clean
  · rw [escaped_cons, escapes_iff, stops]
    exact fun escaped => Bool.noConfusion (escaped.resolve_right clean).2.2
  · rw [escaped_cons, escapes_iff, converted]
    exact fun escaped => Bool.noConfusion (escaped.resolve_right clean).2.1

/-- Returning raises nothing. -/
theorem attributed_pure (value : α) :
    Attributed logOf stage (pure value : EStateM Raised τ α) :=
  fun _ => ends_pure rfl

/-- Raising a typed error. -/
theorem attributed_opaError (error : OpaError) (text : String) :
    Attributed logOf stage (throw (opaError error text) : EStateM Raised τ α) :=
  fun _ => ends_throw (Or.inl ⟨rfl, rfl⟩)

/-- The first part logs nothing where it returns, so what the second part raises is the only entry.
-/
theorem attributed_bind {program : EStateM Raised τ α} {next : α → EStateM Raised τ β}
    (first : Attributed logOf stage program)
    (second : ∀ value, Attributed logOf stage (next value)) :
    Attributed logOf stage (program >>= next) := by
  intro start
  apply (first start).seq
  intro value middle same
  rw [← same]
  exact second value middle

/-- Of two branches only one is run. -/
theorem attributed_ite {condition : Prop} [Decidable condition]
    {program other : EStateM Raised τ α} (positive : Attributed logOf stage program)
    (negative : Attributed logOf stage other) :
    Attributed logOf stage (if condition then program else other) := by
  split
  · exact positive
  · exact negative

/-- A program of one instance that reports what it raises. -/
theorem attributed_of_reports {program : Py σ α} (reports : Reports stage program) :
    Attributed World.faults stage program :=
  fun start => (reports start).mono (fun _ _ => And.right) (fun _ _ => And.right)

/-- Code of an instance carries its log outside. -/
theorem attributed_within {program : Py σ α} (world : World σ)
    (inside : Attributed World.faults stage program) :
    Attributed id stage (within world program) :=
  fun _ => ends_within (inside _)

/-- A call outside an instance. -/
theorem attributed_ask {operation : Operation} (outcome : Except Raised α)
    (passed : ∀ raised, Fault.isConverted ⟨stage, operation, raised⟩ = false) :
    Attributed id stage (ask stage operation outcome) := by
  intro log
  apply ends_ask
  · exact fun _ _ => rfl
  · exact fun raised _ => Or.inr ⟨_, rfl, rfl, Or.inl ⟨rfl, passed raised⟩⟩

/-- A call outside an instance whose handler converts what it catches. -/
theorem attributed_converted {operation : Operation} {caught : Kind → Bool}
    (outcome : Except Raised α) (error : OpaError) (text : Raised → String)
    (exact : ∀ raised, Fault.isConverted ⟨stage, operation, raised⟩ = caught raised.kind) :
    Attributed id stage (exceptFor caught (ask stage operation outcome)
      (fun raised => throw (opaErrorFrom error (text raised) raised))) := by
  intro log
  apply ends_exceptFor
  apply ends_ask
  · exact fun _ _ => rfl
  · intro raised _
    constructor
    · intro isCaught
      exact ends_throw (Or.inr ⟨_, rfl, rfl, Or.inr ⟨rfl, (exact raised).trans isCaught⟩⟩)
    · intro uncaught
      exact Or.inr ⟨_, rfl, rfl, Or.inl ⟨rfl, (exact raised).trans uncaught⟩⟩

/-- Returning. -/
theorem discloses_pure (value : α) : Discloses logOf (pure value : EStateM Raised τ α) :=
  fun _ clean => ends_pure clean

/-- Raising what is not untyped. -/
theorem discloses_throw {raised : Raised} (typed : ¬raised.kind.isUntyped = true) :
    Discloses logOf (throw raised : EStateM Raised τ α) :=
  fun _ clean => ends_throw (iff_of_false typed clean)

/-- Raising a typed error. -/
theorem discloses_opaError (error : OpaError) (text : String) :
    Discloses logOf (throw (opaError error text) : EStateM Raised τ α) :=
  discloses_throw Bool.false_ne_true

/-- One program after another: where the first returns, nothing has escaped yet. -/
theorem discloses_bind {program : EStateM Raised τ α} {next : α → EStateM Raised τ β}
    (first : Discloses logOf program) (second : ∀ value, Discloses logOf (next value)) :
    Discloses logOf (program >>= next) :=
  fun start clean => (first start clean).seq (fun value middle => second value middle)

/-- Of two branches only one is run. -/
theorem discloses_ite {condition : Prop} [Decidable condition]
    {program other : EStateM Raised τ α} (positive : condition → Discloses logOf program)
    (negative : ¬condition → Discloses logOf other) :
    Discloses logOf (if condition then program else other) := by
  split
  · exact positive ‹_›
  · exact negative ‹_›

/-- A step that leaves the log. -/
theorem discloses_modify {change : τ → τ} (same : ∀ start, logOf (change start) = logOf start) :
    Discloses logOf (modify change : EStateM Raised τ PUnit) := by
  intro start clean
  apply ends_modify
  rwa [same]

/-- Reading a field. -/
theorem discloses_field (part : World σ → α) : Discloses World.faults (field part) :=
  fun _ clean => ends_field clean

/-- A stage outside every `except` clause discloses what its calls raise. -/
theorem discloses_unguarded (stage : Stage) {program : EStateM Raised τ α}
    (attributed : Attributed logOf stage program)
    (unguarded : ∀ kind, catches stage kind = false) : Discloses logOf program := by
  intro start clean
  apply (attributed start).mono
  · intro value after same
    rwa [same]
  · exact fun raised after reported => untyped_iff_escaped reported clean (unguarded _)

/-- A stage inside its `except` clause: what is caught goes to the handler, and
anything else is raised again. -/
theorem discloses_guarded (stage : Stage) {program : EStateM Raised τ α}
    {handler : Raised → EStateM Raised τ α}
    (attributed : Attributed logOf stage program)
    (handled : ∀ raised, catches stage raised.kind = true → Discloses logOf (handler raised))
    (passed : ∀ raised, catches stage raised.kind = false → handler raised = throw raised) :
    Discloses logOf (tryCatch program handler) := by
  intro start clean
  apply ends_tryCatch
  apply (attributed start).mono
  · intro value after same
    rwa [same]
  · intro raised after reported
    cases caught : catches stage raised.kind with
    | true => exact handled raised caught after (not_escaped_of_caught reported clean caught)
    | false =>
      rw [passed raised caught]
      exact ends_throw (untyped_iff_escaped reported clean caught)

/-- The same with the `except` clause written for the classes that the stage catches. -/
theorem discloses_except (stage : Stage) {program : EStateM Raised τ α}
    {handler : Raised → EStateM Raised τ α}
    (attributed : Attributed logOf stage program)
    (handled : ∀ raised, Discloses logOf (handler raised)) :
    Discloses logOf (exceptFor (catches stage) program handler) := by
  apply discloses_guarded stage attributed
  · intro raised caught
    rw [if_pos caught]
    exact handled raised
  · intro raised passed
    exact if_neg (Bool.eq_false_iff.mp passed)

/-- A handler that takes note of an exception and raises it again. -/
theorem discloses_reraised {program : EStateM Raised τ α} {caught : Kind → Bool}
    {note : τ → τ} (same : ∀ start, logOf (note start) = logOf start)
    (discloses : Discloses logOf program) :
    Discloses logOf (exceptFor caught program (fun raised => do
      modify note
      throw raised)) := by
  intro start clean
  apply ends_exceptFor
  apply (discloses start clean).mono
  · exact fun _ _ => id
  · intro raised after exact
    constructor
    · intro _
      apply ends_bind
      apply ends_modify
      apply ends_throw
      rwa [same]
    · exact fun _ => exact

/-- Code of an instance discloses outside what it discloses inside. -/
theorem discloses_within {program : Py σ α} (world : World σ)
    (inside : Discloses World.faults program) : Discloses id (within world program) :=
  fun log clean => ends_within (inside { world with faults := log } clean)

end Laws

section Instance

variable {σ α : Type} (setup : Setup σ)

/-- The codec, at a stage that no `except` clause encloses. -/
theorem discloses_reports (stage : Stage) {program : Py σ α} (reports : Reports stage program)
    (unguarded : ∀ kind, catches stage kind = false) : Discloses World.faults program :=
  discloses_unguarded stage (attributed_of_reports reports) unguarded

/-- Recording where the data and the heap begin calls nothing. -/
theorem setDataFields_discloses (addr heapPtr : Int) :
    Discloses World.faults (PolicyInstance.setData (σ := σ) addr heapPtr) :=
  discloses_modify (fun _ => rfl)

/-- The reset inside the handler of `load_data` stands outside its `try`. -/
theorem recoverData_discloses (initial : Int) (raised : Raised) :
    Discloses World.faults (recoverData setup initial raised) := by
  apply discloses_bind (discloses_reports _ (reports_heapPtrSet setup .dataRecovery _) (fun _ => rfl))
  intro _
  apply discloses_bind (setDataFields_discloses _ _)
  intro _
  apply discloses_ite
  · intro isData
    apply discloses_throw
    rw [isData]
    exact Bool.false_ne_true
  · exact fun _ => discloses_throw Bool.false_ne_true

/-- So do the first reset of `load_data` and the reading of the checkpoint. -/
theorem loadData_discloses (data : Option Document) :
    Discloses World.faults (loadData setup data) := by
  apply discloses_bind (discloses_field _)
  intro initial
  apply discloses_bind (discloses_reports _ (reports_heapPtrSet setup .dataReset _) (fun _ => rfl))
  intro _
  cases data with
  | none => exact setDataFields_discloses _ _
  | some document =>
    apply discloses_bind
    · apply discloses_except .dataLoad
      · apply attributed_bind
        · exact attributed_of_reports
            (((reports_law setup.guest setup.json .dataLoad).buffers setup.limits).pythonToOpaValue _ _ _)
        · exact fun addr start => ends_modify rfl
      · exact recoverData_discloses setup initial
    · intro _
      apply discloses_bind
        (discloses_reports _ (reports_heapPtrGet setup .dataCheckpoint) (fun _ => rfl))
      intro heapPtr
      exact discloses_modify (fun _ => rfl)

/-- The reset after a rejected input calls the guest at most once, outside every handler. -/
theorem resetHeapIfSafe_discloses (entered : Bool) :
    Discloses World.faults (resetHeapIfSafe setup entered) := by
  apply discloses_ite
  · exact fun _ => discloses_pure _
  · exact fun _ => discloses_reports _ (reports_resetHeap setup .inputReset) (fun _ => rfl)

/-- The handlers of `Evaluator.evaluate` raise typed errors, unless their reset fails. -/
theorem handleFailure_discloses (entered : Bool) (raised : Raised) :
    Discloses World.faults (handleFailure (α := α) setup entered raised) := by
  apply discloses_ite
  · intro passes
    apply discloses_bind (resetHeapIfSafe_discloses setup entered)
    exact fun _ => discloses_throw (not_isUntyped_of_isOpa (isOpa_of_isPassthrough passes))
  · intro _
    apply discloses_ite
    · intro _
      apply discloses_bind (resetHeapIfSafe_discloses setup entered)
      exact fun _ => discloses_throw (not_isUntyped_of_isOpa (evaluationFailure_isOpa entered raised))
    · exact fun other => discloses_throw (not_isUntyped_of_not_isException other)

/-- What is no `Exception` passes the handlers. -/
theorem handleFailure_passes (entered : Bool) {raised : Raised}
    (other : raised.kind.isException = false) :
    handleFailure (α := α) setup entered raised = throw raised := by
  unfold handleFailure
  rw [if_neg, if_neg]
  · exact Bool.eq_false_iff.mp other
  · intro passes
    rw [isException_of_isOpa (isOpa_of_isPassthrough passes)] at other
    cases other

/-- One evaluation: each part that calls belongs to one stage, and no handler stands around it. -/
theorem evaluateOnce_discloses (input : Document) (entrypointId : Int) :
    Discloses World.faults (evaluateOnce setup input entrypointId) := by
  apply discloses_bind
  · apply discloses_guarded .input
    · exact attributed_of_reports
        ((reports_law setup.guest setup.json .input).encodeInput _ _ _)
    · exact fun raised _ => handleFailure_discloses setup false raised
    · exact fun raised other => handleFailure_passes setup false other
  · intro inputBytes
    apply discloses_guarded .evaluation
    · exact fun world => (runGuest_reports setup inputBytes entrypointId world).mono
        (fun _ _ => id) (fun _ _ => And.right)
    · exact fun raised _ => handleFailure_discloses setup true raised
    · exact fun raised other => handleFailure_passes setup true other

/-- `evaluate`, with the handler that only marks the instance and raises again. -/
theorem evaluate_discloses (input : Document) (entrypointId : Int) :
    Discloses World.faults (PolicyInstance.evaluate setup input entrypointId) := by
  apply discloses_bind
  · exact discloses_modify (fun _ => rfl)
  intro _
  exact discloses_reraised (fun _ => rfl) (evaluateOnce_discloses setup input entrypointId)

/-- `reload_data`, whose handler converts the errors of the load. -/
theorem reloadData_discloses (data : Option Document) (version : Nat) :
    Discloses World.faults (reloadData setup data version) := by
  apply discloses_bind
  · exact discloses_reraised (fun _ => rfl) (loadData_discloses setup data)
  intro _
  exact discloses_modify (fun _ => rfl)

/-- A loan discloses what escapes its refresh and its evaluation. -/
theorem loan_discloses (data : Option Document) (version : Nat) (input : Document)
    (entrypointId : Int) : Discloses World.faults (loan setup data version input entrypointId) := by
  apply discloses_bind
  · apply discloses_bind (discloses_field _)
    intro loaded
    apply discloses_ite
    · exact fun _ => reloadData_discloses setup data version
    · exact fun _ => discloses_pure _
  · exact fun _ => evaluate_discloses setup input entrypointId

/-- The calls of one attempt to instantiate the module. -/
theorem attempt_reports (native : Native σ) (guest : Guest σ) (maxMemoryPages : Option Nat)
    (initialPages : Nat) :
    Reports .instantiation (attempt native guest maxMemoryPages initialPages) := by
  apply reports_bind (reports_call _ (fun _ => rfl))
  intro _
  apply reports_bind (reports_call _ (fun _ => rfl))
  intro _
  apply reports_bind
  · unfold limitMemory
    split
    · exact reports_pure _
    · exact reports_call _ (fun _ => rfl)
  · exact fun _ => reports_call _ (fun _ => rfl)

/-- The retry loop discloses what escapes any of its attempts. -/
theorem instantiateLoop_discloses (native : Native σ) (guest : Guest σ)
    (maxMemoryPages : Option Nat) (ceiling left initialPages : Nat) :
    Discloses id (instantiateLoop native guest maxMemoryPages ceiling left initialPages) := by
  induction left generalizing initialPages with
  | zero => exact discloses_opaError _ _
  | succ left inductionHypothesis =>
    apply discloses_bind
      (discloses_unguarded .store (attributed_ask _ (fun _ => rfl)) (fun _ => rfl))
    intro store
    apply discloses_guarded .instantiation
    · apply attributed_bind
        (attributed_within _ (attributed_of_reports (attempt_reports native guest _ _)))
      exact fun ended => attributed_pure ended.2
    · intro raised isNative
      have refused : Discloses id
          (throw (instantiationFailure raised) : Api (World σ)) :=
        discloses_throw (not_isUntyped_of_isOpa rfl)
      apply discloses_ite
      · intro other
        rw [Bool.not_eq_true', show WasmtimeRuntime.isNative raised.kind = true from isNative]
          at other
        cases other
      · intro _
        apply discloses_ite (fun _ => refused)
        intro _
        exact discloses_ite (fun _ => refused) (fun _ => inductionHypothesis _)
    · intro raised other
      exact if_pos (by rw [show isNative raised.kind = false from other]; rfl)

/-- `create`, whose handlers convert what the runtime raises. -/
theorem createRuntime_discloses :
    Discloses id (createRuntime setup.native setup.guest setup.maxMemoryPages) :=
  discloses_ite (fun _ => discloses_opaError _ _)
    (fun _ => instantiateLoop_discloses _ _ _ _ _ _)

/-- The first heap pointer, the conversion of the timeout and the metadata are read
outside every `except Exception`. -/
theorem openInstance_discloses : Discloses World.faults (openInstance setup) := by
  apply discloses_bind
  · intro world clean
    apply ends_fromExcept
    · exact fun _ _ => clean
    · exact fun raised failed => iff_of_false
        (not_isUntyped_of_isOpa (Abi.openAbi_typed _ _ raised failed)) clean
  · intro _
    apply discloses_bind
    · apply discloses_bind
        (discloses_reports _ (reports_heapPtrGet setup .initialHeap) (fun _ => rfl))
      intro heapPtr
      apply discloses_bind
      · exact discloses_modify (fun _ => rfl)
      exact fun _ => setDataFields_discloses _ _
    · intro _
      apply discloses_bind
      · apply discloses_reports .deadline _ (fun _ => rfl)
        unfold convertTimeout
        split
        · exact reports_pure _
        · apply reports_bind (reports_callPython _ (fun _ => rfl))
          exact fun _ => reports_pure _
      · intro _
        apply discloses_bind (discloses_reports _
          ((reports_law setup.guest setup.json .metadata).decodeBuiltins) (fun _ => rfl))
        exact fun builtins => discloses_modify (fun _ => rfl)

/-- The constructor of an instance: the runtime, the first checkpoint, then the data. -/
theorem build_discloses (data : Option Document) (version : Nat) :
    Discloses id (build setup data version) := by
  apply discloses_bind (createRuntime_discloses setup)
  intro runtime
  apply discloses_bind
  · apply discloses_within
    apply discloses_bind (openInstance_discloses setup)
    intro _
    apply discloses_bind
    · exact discloses_modify (fun _ => rfl)
    intro _
    apply discloses_bind (loadData_discloses setup data)
    intro _
    apply discloses_reports .ticker _ (fun _ => rfl)
    unfold ensureRunning
    split
    · exact reports_pure _
    · exact reports_call _ (fun _ => rfl)
  · exact fun built => discloses_pure _

end Instance

end OpaPyWasm.PolicyApi
