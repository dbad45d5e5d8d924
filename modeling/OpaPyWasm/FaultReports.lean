import OpaPyWasm.CodecLaws

/-!
# What a raised exception says about the calls

Everything a function of the codec raises is either a typed error of its own or
comes from exactly one call, the one that was logged last. The exception of a call
is passed on as it is, unless the codec converts it into a typed error. Nothing
but the guest and the log changes.
-/

namespace OpaPyWasm.GuestCalls

open Exceptions Values Effects MemoryCodec

/-- An exception that the codec converts: what `json.loads` says of an invalid
document and what `json.dumps` says of a value that JSON does not have. -/
def Fault.isConverted (fault : Fault) : Bool :=
  match fault.operation with
  | .loads => fault.raised.kind.isValueError
  | .dumps => fault.raised.kind == .typeError || fault.raised.kind.isValueError
  | _ => false

/-- The exception of a logged call, passed on or converted. -/
def PassedOn (fault : Fault) (raised : Raised) : Prop :=
  (fault.raised = raised ∧ fault.isConverted = false) ∨
    (raised.kind.isOpa = true ∧ fault.isConverted = true)

/-- What was raised is a typed error of the package, or comes from the one call
that was logged. -/
def Reported (stage : Stage) (before : List Fault) (raised : Raised) (after : List Fault) : Prop :=
  (after = before ∧ raised.kind.isOpa = true) ∨
    ∃ fault, after = fault :: before ∧ fault.stage = stage ∧ PassedOn fault raised

/-- Between two worlds only the guest and the log changed. -/
def GuestOnly {σ : Type} (before after : World σ) : Prop :=
  after = { before with guest := after.guest, faults := after.faults }

/-- A program that touches nothing but the guest, and raises only what it reports
at its stage. -/
def Reports {σ α : Type} (stage : Stage) (program : Py σ α) : Prop :=
  ∀ world, Ends program world
    (fun _ after => GuestOnly world after ∧ after.faults = world.faults)
    (fun raised after => GuestOnly world after ∧
      Reported stage world.faults raised after.faults)

variable {σ α β : Type} {stage : Stage}

/-- Where nothing changed, the guest and the log did at most. -/
theorem guestOnly_refl (world : World σ) : GuestOnly world world := rfl

/-- Two such changes are one. -/
theorem GuestOnly.trans {first second third : World σ} (earlier : GuestOnly first second)
    (later : GuestOnly second third) : GuestOnly first third := by
  unfold GuestOnly at earlier later ⊢
  rw [earlier] at later
  exact later

/-- The mark of a poisoned instance is kept. -/
theorem GuestOnly.poisoned {before after : World σ} (framed : GuestOnly before after) :
    after.poisoned = before.poisoned := by
  rw [framed]

/-- The mark of an entered guest is kept. -/
theorem GuestOnly.enteredWasm {before after : World σ} (framed : GuestOnly before after) :
    after.enteredWasm = before.enteredWasm := by
  rw [framed]

/-- The first checkpoint is kept. -/
theorem GuestOnly.initialHeapPtr {before after : World σ} (framed : GuestOnly before after) :
    after.initialHeapPtr = before.initialHeapPtr := by
  rw [framed]

/-- The address of the data is kept. -/
theorem GuestOnly.dataAddr {before after : World σ} (framed : GuestOnly before after) :
    after.dataAddr = before.dataAddr := by
  rw [framed]

/-- The checkpoint behind the data is kept. -/
theorem GuestOnly.dataHeapPtr {before after : World σ} (framed : GuestOnly before after) :
    after.dataHeapPtr = before.dataHeapPtr := by
  rw [framed]

/-- Returning touches nothing. -/
theorem reports_pure (value : α) : Reports (σ := σ) stage (pure value) :=
  fun world => ends_pure ⟨guestOnly_refl world, rfl⟩

/-- Raising an error of the package touches nothing and logs nothing. -/
theorem reports_opaError (error : OpaError) (text : String) :
    Reports (α := α) (σ := σ) stage (throw (opaError error text)) :=
  fun world => ends_throw ⟨guestOnly_refl world, Or.inl ⟨rfl, rfl⟩⟩

/-- Reading a field touches nothing. -/
theorem reports_field (part : World σ → α) : Reports stage (field part) :=
  fun world => ends_field ⟨guestOnly_refl world, rfl⟩

/-- One program after another: where the first returns, the log is as it was, so what the second
raises is the one entry. -/
theorem reports_bind {program : Py σ α} {next : α → Py σ β} (first : Reports stage program)
    (second : ∀ value, Reports stage (next value)) : Reports stage (program >>= next) := by
  intro world
  apply ends_bind
  apply (first world).mono
  · rintro value middle ⟨framed, same⟩
    apply (second value middle).mono
    · rintro _ after ⟨framedLater, sameLater⟩
      exact ⟨framed.trans framedLater, sameLater.trans same⟩
    · rintro raised after ⟨framedLater, reported⟩
      rw [same] at reported
      exact ⟨framed.trans framedLater, reported⟩
  · exact fun _ _ => id

/-- A call reports what it raises. -/
theorem reports_call {operation : Operation} (called : EStateM Raised σ α)
    (passed : ∀ raised, Fault.isConverted ⟨stage, operation, raised⟩ = false) :
    Reports stage (call stage operation called) := by
  intro world
  apply ends_call
  unfold Ends
  split
  · exact ⟨rfl, rfl⟩
  · exact ⟨rfl, Or.inr ⟨_, rfl, rfl, Or.inl ⟨rfl, passed _⟩⟩⟩

/-- A call of the interpreter reports what it raises. -/
theorem reports_callPython {operation : Operation} (outcome : Except Raised α)
    (passed : ∀ raised, Fault.isConverted ⟨stage, operation, raised⟩ = false) :
    Reports (σ := σ) stage (callPython stage operation outcome) := by
  intro world
  apply ends_callPython
  · exact fun _ _ => ⟨rfl, rfl⟩
  · exact fun _ _ => ⟨rfl, Or.inr ⟨_, rfl, rfl, Or.inl ⟨rfl, passed _⟩⟩⟩

/-- A guarded call of the interpreter converts what its handler catches. -/
theorem reports_converted {operation : Operation} {caught : Kind → Bool}
    (outcome : Except Raised α) (error : OpaError) (text : Raised → String)
    (exact : ∀ raised, Fault.isConverted ⟨stage, operation, raised⟩ = caught raised.kind) :
    Reports (σ := σ) stage (exceptFor caught (callPython stage operation outcome)
      (fun raised => throw (opaErrorFrom error (text raised) raised))) := by
  intro world
  apply ends_exceptFor
  apply ends_callPython
  · exact fun _ _ => ⟨rfl, rfl⟩
  · intro raised _
    constructor
    · intro isCaught
      exact ends_throw ⟨rfl, Or.inr ⟨_, rfl, rfl, Or.inr ⟨rfl, (exact raised).trans isCaught⟩⟩⟩
    · intro uncaught
      exact ⟨rfl, Or.inr ⟨_, rfl, rfl, Or.inl ⟨rfl, (exact raised).trans uncaught⟩⟩⟩

/-- Every function of the codec reports what it raises. -/
theorem reports_law (guest : Guest σ) (json : Json) (stage : Stage) :
    Law guest json stage (fun _ program => Reports stage program) where
  returns := reports_pure
  raises error text _ := reports_opaError error text
  sequence := reports_bind
  opaMalloc _ := reports_call _ (fun _ => rfl)
  opaJsonParse _ _ := reports_call _ (fun _ => rfl)
  opaJsonDump _ := reports_call _ (fun _ => rfl)
  entrypoints := reports_call _ (fun _ => rfl)
  builtins := reports_call _ (fun _ => rfl)
  memoryLen := reports_call _ (fun _ => rfl)
  memoryRead _ _ := reports_call _ (fun _ => rfl)
  memoryWrite _ _ := reports_call _ (fun _ => rfl)
  encode _ := reports_callPython _ (fun _ => rfl)
  repr _ := reports_callPython _ (fun _ => rfl)
  loads _ error text _ := reports_converted _ error text (fun _ => rfl)
  dumps _ error text _ := reports_converted _ error text (fun _ => rfl)

end OpaPyWasm.GuestCalls
