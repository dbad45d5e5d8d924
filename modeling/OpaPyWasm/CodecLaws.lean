import OpaPyWasm.MemoryCodec

/-!
# Laws of the memory codec

A law of programs that holds of the codec's single steps and of their
composition holds of every function of the codec. Each law is then established
for the steps only, and a change of a codec function is followed here once.
-/

namespace OpaPyWasm.MemoryCodec

open Exceptions Values Effects GuestCalls

/-- The classes of the errors that the codec raises on its own. -/
def isCodecError : OpaError → Bool
  | .memory => true
  | .invalidInput => true
  | _ => false

/-- A law of programs that the steps of the codec outside the guest keep at a
stage. -/
structure TextLaw {σ : Type} (json : Json) (stage : Stage)
    (good : (α : Type) → Py σ α → Prop) : Prop where
  returns : ∀ {α : Type} (value : α), good α (pure value)
  raises : ∀ {α : Type} (error : OpaError) (text : String), isCodecError error = true →
    good α (throw (opaError error text))
  sequence : ∀ {α β : Type} {program : Py σ α} {next : α → Py σ β},
    good α program → (∀ value, good β (next value)) → good β (program >>= next)
  encode : ∀ text, good (List UInt8) (callPython stage .encode (encodeUtf8 text))
  repr : ∀ value, good String (callPython stage .repr (json.repr value))
  loads : ∀ raw error (text : Raised → String), isCodecError error = true → good Value
    (exceptFor Kind.isValueError (callPython stage .loads (json.loads raw))
      (fun raised => throw (opaErrorFrom error (text raised) raised)))
  dumps : ∀ value error (text : Raised → String), isCodecError error = true → good (List UInt8)
    (exceptFor (fun kind => kind == .typeError || kind.isValueError)
      (callPython stage .dumps (json.dumps value >>= encodeUtf8))
      (fun raised => throw (opaErrorFrom error (text raised) raised)))

/-- A value that the guest makes of a written buffer. -/
def parsedValue {σ : Type} (guest : Guest σ) (stage : Stage) (addr length : Int) (kind : String) :
    Py σ Int := do
  let value ← call stage .opaJsonParse (guest.opaJsonParse addr length)
  MemoryCodec.checkPointer value kind

/-- The text that the guest makes of a value. -/
def dumpedText {σ : Type} (guest : Guest σ) (limits : Limits) (stage : Stage) (valueAddr : Int)
    (kind : String) : Py σ (List UInt8) := do
  let dumped ← call stage .opaJsonDump (guest.opaJsonDump valueAddr)
  let strAddr ← MemoryCodec.checkPointer dumped kind
  readCstring guest limits stage strAddr

/-- A law of programs that the transfers of the codec keep at a stage: the functions that
move text through the guest's memory, each with the checks of its addresses. -/
structure BufferLaw {σ : Type} (guest : Guest σ) (json : Json) (limits : Limits) (stage : Stage)
    (good : (α : Type) → Py σ α → Prop) : Prop extends TextLaw json stage good where
  writeBytes : ∀ data, good Int (writeBytes guest stage data)
  readCstring : ∀ addr, good (List UInt8) (readCstring guest limits stage addr)
  parsedValue : ∀ addr length kind, good Int (parsedValue guest stage addr length kind)
  dumpedText : ∀ addr kind, good (List UInt8) (dumpedText guest limits stage addr kind)

/-- A law of programs that the steps of the codec's transfers keep at a stage. -/
structure StepLaw {σ : Type} (guest : Guest σ) (json : Json) (stage : Stage)
    (good : (α : Type) → Py σ α → Prop) : Prop extends TextLaw json stage good where
  opaMalloc : ∀ size, good Int (call stage .opaMalloc (guest.opaMalloc size))
  opaJsonParse : ∀ addr length, good Int (call stage .opaJsonParse (guest.opaJsonParse addr length))
  opaJsonDump : ∀ addr, good Int (call stage .opaJsonDump (guest.opaJsonDump addr))
  memoryLen : good Nat (call stage .memoryLen guest.memoryLen)
  memoryRead : ∀ start stop,
    good (List UInt8) (call stage .memoryRead (guest.memoryRead start stop))
  memoryWrite : ∀ addr data, good PUnit (call stage .memoryWrite (guest.memoryWrite addr data))

/-- A law of programs that all the steps of the codec keep at a stage. -/
structure Law {σ : Type} (guest : Guest σ) (json : Json) (stage : Stage)
    (good : (α : Type) → Py σ α → Prop) : Prop extends StepLaw guest json stage good where
  entrypoints : good Int (call stage .entrypoints guest.entrypoints)
  builtins : good Int (call stage .builtins guest.builtins)

/-- A test keeps a law where both programs do. -/
theorem good_ite {σ α : Type} {good : (α : Type) → Py σ α → Prop} {condition : Prop}
    [Decidable condition] {program other : Py σ α} (positive : good α program)
    (negative : good α other) : good α (if condition then program else other) := by
  split
  · exact positive
  · exact negative

namespace TextLaw

variable {σ : Type} {json : Json} {stage : Stage} {good : (α : Type) → Py σ α → Prop}
  (law : TextLaw json stage good)
include law

/-- `_check_pointer` returns its address or raises `OpaMemoryError`. -/
theorem checkPointer (addr : Int) (kind : String) : good Int (checkPointer addr kind) :=
  good_ite (law.raises _ _ rfl) (law.returns _)

/-- `_check_size` returns or raises `OpaMemoryError`. -/
theorem checkSize (raw : List UInt8) (limit : Nat) (kind : String) :
    good PUnit (checkSize raw limit kind) :=
  good_ite (law.raises _ _ rfl) (law.returns _)

/-- A value that is dumped: what the `json` module raises is converted. -/
theorem dumped (value : Value) : good (List UInt8) (MemoryCodec.dumps json stage value) :=
  law.dumps _ _ _ rfl

/-- A raw document passes `json.loads` where it is validated, and is kept as it stands. -/
theorem validated (raw : List UInt8) (validate : Bool) :
    good (List UInt8) (validated json stage raw validate) := by
  apply good_ite _ (law.returns _)
  apply law.sequence (law.loads _ _ _ rfl)
  intro _
  exact law.returns _

/-- `coerce_to_json_bytes`: bytes as they are, a text encoded, any other value dumped. -/
theorem coerceToJsonBytes (document : Document) (validate : Bool) :
    good (List UInt8) (coerceToJsonBytes json stage document validate) := by
  unfold MemoryCodec.coerceToJsonBytes
  split
  · exact law.validated _ _
  · apply law.sequence (law.encode _)
    intro raw
    exact law.validated _ _
  · exact law.dumped _

/-- `encode_input` coerces, then checks the size. -/
theorem encodeInput (document : Document) (limit : Nat) (validate : Bool) :
    good (List UInt8) (encodeInput json stage document limit validate) := by
  apply law.sequence (law.coerceToJsonBytes _ _)
  intro raw
  apply law.sequence (law.checkSize _ _ _)
  intro _
  exact law.returns _

/-- The entries of a map are read one after another; the first that is no pair of a string and an
integer ends the loop. -/
theorem strIntEntries (kind : String) (entries : List (Value × Value)) :
    good (List (Text × Int)) (strIntEntries json stage kind entries) := by
  have refused : ∀ name ident, good (List (Text × Int)) (do
      let nameText ← callPython stage .repr (json.repr name)
      let identText ← callPython stage .repr (json.repr ident)
      throw (opaError .memory
        s!"{kind}() entry {nameText}={identText} is not a str->int mapping")) := by
    intro name ident
    apply law.sequence (law.repr _)
    intro nameText
    apply law.sequence (law.repr _)
    intro identText
    exact law.raises _ _ rfl
  induction entries with
  | nil => exact law.returns _
  | cons entry rest inductionHypothesis =>
    unfold MemoryCodec.strIntEntries
    split
    · contradiction
    · rename_i same
      obtain ⟨-, rfl⟩ := List.cons.inj same
      apply law.sequence inductionHypothesis
      intro others
      exact law.returns _
    · exact refused _ _

end TextLaw

namespace BufferLaw

variable {σ : Type} {guest : Guest σ} {json : Json} {limits : Limits} {stage : Stage}
  {good : (α : Type) → Py σ α → Prop} (law : BufferLaw guest json limits stage good)
include law

/-- `write_json` encodes, then writes. -/
theorem writeJsonValidating (document : Document) (limit : Nat) (kind : String) (validate : Bool) :
    good (Int × Int) (writeJsonValidating guest json stage document limit kind validate) := by
  apply law.sequence (law.coerceToJsonBytes _ _)
  intro raw
  apply law.sequence (law.checkSize _ _ _)
  intro _
  apply law.sequence (law.writeBytes _)
  intro addr
  exact law.returns _

/-- `python_to_opa_value` writes a document, then lets the guest parse it. -/
theorem pythonToOpaValueValidating (document : Document) (limit : Nat) (kind : String)
    (validate : Bool) :
    good Int (pythonToOpaValueValidating guest json stage document limit kind validate) := by
  apply law.sequence (law.writeJsonValidating _ _ _ _)
  intro written
  exact law.parsedValue _ _ _

/-- The same without validation, its default. -/
theorem pythonToOpaValue (document : Document) (limit : Nat) (kind : String) :
    good Int (pythonToOpaValue guest json stage document limit kind) :=
  law.pythonToOpaValueValidating document limit kind true

/-- A Python object is dumped, checked, written and parsed. -/
theorem pythonObjectToOpaValue (value : Value) (limit : Nat) (kind : String) :
    good Int (pythonObjectToOpaValue guest json stage value limit kind) := by
  apply law.sequence (law.dumped _)
  intro raw
  apply law.sequence (law.checkSize _ _ _)
  intro _
  apply law.sequence (law.writeBytes _)
  intro addr
  exact law.parsedValue _ _ _

/-- `read_json_cstring` after its scan. -/
theorem parsedText (raw : List UInt8) (limit : Nat) (kind : String) :
    good Value (do
      MemoryCodec.checkSize raw limit kind
      exceptFor Kind.isValueError (callPython stage .loads (json.loads raw))
        (fun raised => throw (opaErrorFrom .memory
          s!"OPA emitted invalid JSON for {kind}: {raised.text}" raised))) := by
  apply law.sequence (law.checkSize _ _ _)
  intro _
  exact law.loads _ _ _ rfl

/-- `read_json_cstring` reads a text, checks its size and loads it. -/
theorem readJsonCstring (addr : Int) (limit : Nat) (kind : String) :
    good Value (readJsonCstring guest json limits stage addr limit kind) := by
  apply law.sequence (law.readCstring _)
  intro raw
  exact law.parsedText _ _ _

/-- `opa_value_to_python` lets the guest dump a value and reads the text under its limit. -/
theorem opaValueToPythonWithin (valueAddr : Int) (limit : Option Nat) (kind : String) :
    good Value (opaValueToPythonWithin guest json limits stage valueAddr limit kind) := by
  have regrouped := law.sequence (law.dumpedText valueAddr s!"opa_json_dump:{kind}")
    (fun raw => law.parsedText raw (limit.getD limits.maxResultBytes) kind)
  simp only [MemoryCodec.dumpedText, bind_assoc] at regrouped
  exact regrouped

/-- The same without a limit, its default. -/
theorem opaValueToPython (valueAddr : Int) (kind : String) :
    good Value (opaValueToPython guest json limits stage valueAddr kind) :=
  law.opaValueToPythonWithin valueAddr none kind

/-- A map of the guest is read as a value first, then entry by entry. -/
theorem decodeStrIntMap (valueAddr : Int) (kind : String) :
    good (List (Text × Int)) (decodeStrIntMap guest json limits stage valueAddr kind) := by
  apply law.sequence (law.opaValueToPython _ _)
  intro decoded
  cases decoded <;> first | exact law.strIntEntries _ _ | exact law.raises _ _ rfl

end BufferLaw

namespace StepLaw

variable {σ : Type} {guest : Guest σ} {json : Json} {limits : Limits} {stage : Stage}
  {good : (α : Type) → Py σ α → Prop} (law : StepLaw guest json stage good)
include law

/-- `_check_range` asks for the length of memory and returns or raises. -/
theorem checkRange (addr length : Int) (kind : String) :
    good PUnit (checkRange guest stage addr length kind) := by
  apply good_ite (law.raises _ _ rfl)
  apply good_ite (law.raises _ _ rfl)
  apply law.sequence law.memoryLen
  intro memLen
  exact good_ite (law.raises _ _ rfl) (law.returns _)

/-- `write_bytes`: allocate, check the range, write. -/
theorem writeBytes (data : List UInt8) : good Int (writeBytes guest stage data) := by
  apply law.sequence (law.opaMalloc _)
  intro allocated
  apply law.sequence (law.checkPointer _ _)
  intro addr
  apply law.sequence (law.checkRange _ _ _)
  intro _
  apply law.sequence (law.memoryWrite _ _)
  intro _
  exact law.returns _

/-- `read_bytes`: check the range, read. -/
theorem readBytes (addr length : Int) :
    good (List UInt8) (readBytes guest stage addr length) := by
  apply law.sequence (law.checkRange _ _ _)
  intro _
  exact law.memoryRead _ _

/-- The scan keeps the law whatever bounds its iterations. -/
theorem scanCstring (chunkSize memLen : Nat) (addr : Int) (left : Nat) (pos : Int)
    (out : List UInt8) :
    good (List UInt8) (scanCstring guest limits stage chunkSize memLen addr left pos out) := by
  induction left generalizing pos out with
  | zero => exact law.raises _ _ rfl
  | succ left inductionHypothesis =>
    apply good_ite (law.raises _ _ rfl)
    apply good_ite (law.raises _ _ rfl)
    apply law.sequence (law.memoryRead _ _)
    intro chunk
    cases chunk.findIdx? (· == 0) with
    | none => exact inductionHypothesis _ _
    | some nul => exact law.returns _

/-- `read_cstring` scans chunk by chunk: the law is carried through the loop by induction on the
rounds that are left. -/
theorem readCstring (addr : Int) : good (List UInt8) (readCstring guest limits stage addr) := by
  apply law.sequence law.memoryLen
  intro memLen
  apply good_ite (law.raises _ _ rfl)
  exact law.scanCstring _ _ _ _ _ _

/-- A law of the steps is a law of the transfers. -/
theorem buffers (limits : Limits) : BufferLaw guest json limits stage good where
  toTextLaw := law.toTextLaw
  writeBytes := law.writeBytes
  readCstring := law.readCstring
  parsedValue addr length kind := by
    apply law.sequence (law.opaJsonParse _ _)
    intro value
    exact law.checkPointer _ _
  dumpedText addr kind := by
    apply law.sequence (law.opaJsonDump _)
    intro dumped
    apply law.sequence (law.checkPointer _ _)
    intro strAddr
    exact law.readCstring _

end StepLaw

namespace Law

variable {σ : Type} {guest : Guest σ} {json : Json} {limits : Limits} {stage : Stage}
  {good : (α : Type) → Py σ α → Prop} (law : Law guest json stage good)
include law

/-- The entrypoints are one map of the guest. -/
theorem decodeEntrypoints :
    good (List (Text × Int)) (decodeEntrypoints guest json limits stage) := by
  apply law.sequence law.entrypoints
  intro valueAddr
  exact (law.buffers limits).decodeStrIntMap _ _

/-- The builtins are one map of the guest. -/
theorem decodeBuiltins : good (List (Text × Int)) (decodeBuiltins guest json limits stage) := by
  apply law.sequence law.builtins
  intro valueAddr
  exact (law.buffers limits).decodeStrIntMap _ _

end Law

end OpaPyWasm.MemoryCodec
