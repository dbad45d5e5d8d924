import OpaPyWasm.GuestCalls

/-!
# The memory codec

`MemoryCodec` writes JSON text into the instance's linear memory and reads it
back. Every address and range is checked against the memory's current length
before memory is touched. Each function takes the stage that called it, which
only labels the faults of its calls.
-/

namespace OpaPyWasm.MemoryCodec

open Exceptions Values Effects GuestCalls

/-- The limits of `PolicyConfig` that the codec enforces. -/
structure Limits where
  maxInputBytes : Nat
  maxDataBytes : Nat
  maxResultBytes : Nat
  maxCstringScanBytes : Nat
  parseRawJsonInput : Bool

/-- `_CSTRING_CHUNK`. -/
def cstringChunk : Nat := 4096

variable {σ α : Type} (guest : Guest σ) (json : Json) (limits : Limits) (stage : Stage)

/-- `_check_range`. -/
def checkRange (addr length : Int) (kind : String) : Py σ PUnit :=
  if addr < 0 then throw (opaError .memory s!"{kind}: negative guest address {addr}")
  else if length < 0 then throw (opaError .memory s!"{kind}: negative length {length}")
  else do
    let memLen ← call stage .memoryLen guest.memoryLen
    if addr + length > memLen then
      throw (opaError .memory
        s!"{kind}: range [{addr}, {addr + length}) exceeds guest memory size {memLen}")
    else pure ⟨⟩

/-- `_check_pointer`. -/
def checkPointer (addr : Int) (kind : String) : Py σ Int :=
  if addr ≤ 0 then
    throw (opaError .memory s!"{kind}: OPA returned an invalid guest pointer {addr}")
  else pure addr

/-- `write_bytes`. -/
def writeBytes (data : List UInt8) : Py σ Int := do
  let allocated ← call stage .opaMalloc (guest.opaMalloc data.length)
  let addr ← checkPointer allocated "opa_malloc"
  checkRange guest stage addr data.length "write_bytes"
  call stage .memoryWrite (guest.memoryWrite addr data)
  pure addr

/-- `read_bytes`. -/
def readBytes (addr length : Int) : Py σ (List UInt8) := do
  checkRange guest stage addr length "read_bytes"
  call stage .memoryRead (guest.memoryRead addr (addr + length))

/-- No terminator within the scan budget or before the end of memory. -/
def unterminated (addr : Int) : Raised :=
  opaError .memory (s!"no NUL terminator found within {limits.maxCstringScanBytes} bytes " ++
    s!"while reading string at addr {addr}")

/-- The loop of `read_cstring`, from position `pos` with what it has read so far.
`left` bounds the iterations: each one moves `pos` towards the end of memory. -/
def scanCstring (chunkSize memLen : Nat) (addr : Int) : Nat → Int → List UInt8 → Py σ (List UInt8)
  | 0, _, _ => throw (unterminated limits addr)
  | left + 1, pos, out =>
    let remaining : Int := (limits.maxCstringScanBytes : Int) - out.length
    if remaining ≤ 0 then throw (unterminated limits addr)
    else
      let stop : Int := min (min (pos + chunkSize) (pos + remaining)) memLen
      if stop ≤ pos then throw (unterminated limits addr)
      else do
        let chunk ← call stage .memoryRead (guest.memoryRead pos stop)
        match chunk.findIdx? (· == 0) with
        | some nul => pure (out ++ chunk.take nul)
        | none => scanCstring chunkSize memLen addr left stop (out ++ chunk)

/-- `read_cstring`. -/
def readCstring (addr : Int) : Py σ (List UInt8) := do
  let memLen ← call stage .memoryLen guest.memoryLen
  if addr < 0 ∨ (memLen : Int) ≤ addr then
    throw (opaError .memory
      s!"read_cstring: start address {addr} outside guest memory size {memLen}")
  else scanCstring guest limits stage cstringChunk memLen addr (memLen - addr.toNat) addr []

/-- `_dumps`. -/
def dumps (value : Value) : Py σ (List UInt8) :=
  exceptFor (fun kind => kind == .typeError || kind.isValueError)
    (callPython stage .dumps (json.dumps value >>= encodeUtf8))
    (fun raised => throw (opaErrorFrom .invalidInput
      s!"value is not JSON-serialisable: {raised.text}" raised))

/-- The advice at the end of a rejected raw input. -/
def rawInputAdvice : String :=
  "Pass a JSON document (e.g. '\"hello\"' for a string), or a Python object."

/-- The raw-document branch of `_coerce_to_json_bytes`. -/
def validated (raw : List UInt8) (validate : Bool) : Py σ (List UInt8) :=
  if validate then do
    let _ ← exceptFor Kind.isValueError (callPython stage .loads (json.loads raw))
      (fun raised => throw (opaErrorFrom .invalidInput
        s!"input str/bytes is not valid JSON text: {raised.text}. {rawInputAdvice}" raised))
    pure raw
  else pure raw

/-- `_coerce_to_json_bytes`. -/
def coerceToJsonBytes (document : Document) (validate : Bool) : Py σ (List UInt8) :=
  match document with
  | .bytes raw => validated json stage raw validate
  | .value (.str text) => do
    let raw ← callPython stage .encode (encodeUtf8 text)
    validated json stage raw validate
  | .value value => dumps json stage value

/-- `_check_size`. -/
def checkSize (raw : List UInt8) (limit : Nat) (kind : String) : Py σ PUnit :=
  if raw.length > limit then
    throw (opaError .memory s!"{kind} is {raw.length} bytes, exceeding the {limit}-byte limit")
  else pure ⟨⟩

/-- `encode_input`. -/
def encodeInput (document : Document) (limit : Nat) (validate : Bool) : Py σ (List UInt8) := do
  let raw ← coerceToJsonBytes json stage document validate
  checkSize raw limit "input"
  pure raw

/-- `read_json_cstring`. -/
def readJsonCstring (addr : Int) (limit : Nat) (kind : String) : Py σ Value := do
  let raw ← readCstring guest limits stage addr
  checkSize raw limit kind
  exceptFor Kind.isValueError (callPython stage .loads (json.loads raw))
    (fun raised => throw (opaErrorFrom .memory
      s!"OPA emitted invalid JSON for {kind}: {raised.text}" raised))

/-- `write_json` with its `validate`. -/
def writeJsonValidating (document : Document) (limit : Nat) (kind : String) (validate : Bool) :
    Py σ (Int × Int) := do
  let raw ← coerceToJsonBytes json stage document validate
  checkSize raw limit kind
  let addr ← writeBytes guest stage raw
  pure (addr, raw.length)

/-- `python_to_opa_value` with its `validate`. -/
def pythonToOpaValueValidating (document : Document) (limit : Nat) (kind : String)
    (validate : Bool) : Py σ Int := do
  let written ← writeJsonValidating guest json stage document limit kind validate
  let value ← call stage .opaJsonParse (guest.opaJsonParse written.1 written.2)
  checkPointer value s!"opa_json_parse:{kind}"

/-- `python_to_opa_value` with its default of a validated document. -/
def pythonToOpaValue (document : Document) (limit : Nat) (kind : String) : Py σ Int :=
  pythonToOpaValueValidating guest json stage document limit kind true

/-- `python_object_to_opa_value`. -/
def pythonObjectToOpaValue (value : Value) (limit : Nat) (kind : String) : Py σ Int := do
  let raw ← dumps json stage value
  checkSize raw limit kind
  let addr ← writeBytes guest stage raw
  let parsed ← call stage .opaJsonParse (guest.opaJsonParse addr raw.length)
  checkPointer parsed s!"opa_json_parse:{kind}"

/-- `opa_value_to_python` with its `limit`. -/
def opaValueToPythonWithin (valueAddr : Int) (limit : Option Nat) (kind : String) : Py σ Value := do
  let dumped ← call stage .opaJsonDump (guest.opaJsonDump valueAddr)
  let strAddr ← checkPointer dumped s!"opa_json_dump:{kind}"
  readJsonCstring guest json limits stage strAddr (limit.getD limits.maxResultBytes) kind

/-- `opa_value_to_python` with its default of the configured result limit. -/
def opaValueToPython (valueAddr : Int) (kind : String) : Py σ Value :=
  opaValueToPythonWithin guest json limits stage valueAddr none kind

/-- The entries of a metadata map, each a name and an id that is no `bool`. -/
def strIntEntries (kind : String) : List (Value × Value) → Py σ (List (Text × Int))
  | [] => pure []
  | (.str name, .int ident) :: rest => do
    let others ← strIntEntries kind rest
    pure ((name, ident) :: others)
  | (name, ident) :: _ => do
    let nameText ← callPython stage .repr (json.repr name)
    let identText ← callPython stage .repr (json.repr ident)
    throw (opaError .memory s!"{kind}() entry {nameText}={identText} is not a str->int mapping")

/-- `_decode_str_int_map`. -/
def decodeStrIntMap (valueAddr : Int) (kind : String) : Py σ (List (Text × Int)) := do
  let decoded ← opaValueToPython guest json limits stage valueAddr kind
  match decoded with
  | .dict entries => strIntEntries json stage kind entries
  | value =>
    throw (opaError .memory s!"{kind}() did not decode to an object: {value.typeName}")

/-- `decode_entrypoints`. -/
def decodeEntrypoints : Py σ (List (Text × Int)) := do
  let valueAddr ← call stage .entrypoints guest.entrypoints
  decodeStrIntMap guest json limits stage valueAddr "entrypoints"

/-- `decode_builtins`. -/
def decodeBuiltins : Py σ (List (Text × Int)) := do
  let valueAddr ← call stage .builtins guest.builtins
  decodeStrIntMap guest json limits stage valueAddr "builtins"

end OpaPyWasm.MemoryCodec
