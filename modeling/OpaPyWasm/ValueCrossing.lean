import OpaPyWasm.BuiltinDispatch
import OpaPyWasm.GuestMemory
import OpaPyWasm.JsonDocuments

/-!
# Values across the boundary

A value crosses the boundary as JSON text: Python writes it into a buffer that the guest
allocates, and the guest parses it; or the guest writes it with a terminator, and Python
scans and parses it. What an address denotes is the guest's affair: it parses a text of a
value into an address that denotes it, and writes a text of what an address denotes. What
is denoted stays denoted, since new buffers lie apart from it.

Under these laws no value changes on its way, in either direction or through a builtin.
-/

namespace OpaPyWasm.ValueCrossing

open Exceptions Values Effects GuestCalls MemoryCodec PolicyInstance Regions BuiltinDispatch
  JsonDocuments

/-- JSON values: finite numbers, strings of Unicode characters, and objects with keys that are
such strings and do not repeat. -/
inductive IsJsonValue : Value → Prop
  | none : IsJsonValue .none
  | bool (value : Bool) : IsJsonValue (.bool value)
  | int (value : Int) : IsJsonValue (.int value)
  | float (text : String) (finite : text ∉ ["nan", "inf", "-inf"]) : IsJsonValue (.float text)
  | str (text : Text) (characters : Encodable text) : IsJsonValue (.str text)
  | list (items : List Value) (all : ∀ item ∈ items, IsJsonValue item) : IsJsonValue (.list items)
  | dict (entries : List (Text × Value)) (keys : ∀ entry ∈ entries, Encodable entry.1)
      (distinct : (entries.map Prod.fst).Nodup) (all : ∀ entry ∈ entries, IsJsonValue entry.2) :
      IsJsonValue (.dict (entries.map (fun entry => (.str entry.1, entry.2))))

/-- A `json` module whose `loads` inverts its `dumps`. -/
structure Faithful (json : Json) : Prop extends Documented json where
  inverse {value : Value} {text : Text} {raw : List UInt8} (known : IsJsonValue value)
    (dumped : json.dumps value = .ok text) (encoded : encodeUtf8 text = .ok raw) :
    json.loads raw = .ok value

/-- What addresses denote in a state of the guest, and which buffers no value uses. -/
structure Holdings (σ : Type) where
  denotes : σ → Int → Value → Prop
  free : σ → Int → Nat → Prop

/-- What was denoted still is. -/
def Holdings.Kept {σ : Type} (holdings : Holdings σ) (before after : σ) : Prop :=
  ∀ addr value, holdings.denotes before addr value → holdings.denotes after addr value

/-- Nothing happened to the memory and to what it holds. -/
structure Holdings.Still {σ : Type} (holdings : Holdings σ) (space : Space σ)
    (before after : σ) : Prop where
  undisturbed : Undisturbed space before after
  kept : holdings.Kept before after
  free : ∀ addr length, holdings.free before addr length → holdings.free after addr length

/-- The laws of the guest: an allocated buffer is free, parsing a JSON text of a value denotes
it, and dumping what an address denotes gives one of the guest's texts of it. -/
structure Marshals {σ : Type} (guest : Guest σ) (space : Space σ) (json : Json)
    (holdings : Holdings σ) (texts : Value → List UInt8 → Prop) : Prop where
  memoryLen : ∀ state, Ends guest.memoryLen state
    (fun length after => (length : Int) = space.size state ∧ holdings.Still space state after)
    (fun _ _ => False)
  memoryRead : ∀ start length state, 0 ≤ start → start + (length : Nat) ≤ space.size state →
    Ends (guest.memoryRead start (start + length)) state
      (fun bytes after => bytes = slice space state start length ∧ holdings.Still space state after)
      (fun _ _ => False)
  opaMalloc : ∀ (length : Nat) state, Ends (guest.opaMalloc length) state
    (fun addr after => 0 < addr ∧ addr + length ≤ space.size after ∧
      holdings.free after addr length ∧ holdings.Kept state after)
    (fun _ _ => False)
  memoryWrite : ∀ addr data state, 0 < addr → addr + data.length ≤ space.size state →
    holdings.free state addr data.length →
    Ends (guest.memoryWrite addr data) state
      (fun _ after => Written space addr data state after ∧ holdings.Kept state after)
      (fun _ _ => False)
  opaJsonParse : ∀ addr raw value state, 0 < addr → addr + (raw.length : Nat) ≤ space.size state →
    slice space state addr raw.length = raw → IsUtf8Json raw → json.loads raw = .ok value →
    IsJsonValue value →
    Ends (guest.opaJsonParse addr raw.length) state
      (fun result after => 0 < result ∧ holdings.denotes after result value ∧
        holdings.Kept state after)
      (fun _ _ => False)
  opaJsonDump : ∀ addr value state, holdings.denotes state addr value → IsJsonValue value →
    Ends (guest.opaJsonDump addr) state
      (fun result after => ∃ raw, texts value raw ∧ json.loads raw = .ok value ∧ 0 < result ∧
        result + (raw.length : Nat) < space.size after ∧ Terminated space after result raw.length ∧
        slice space after result raw.length = raw ∧ holdings.Kept state after)
      (fun _ _ => False)

/-- Every text that the guest writes of a value is within the limits. -/
def Fits (limits : Limits) (texts : Value → List UInt8 → Prop) (value : Value) : Prop :=
  ∀ raw, texts value raw → raw.length ≤ limits.maxResultBytes ∧
    raw.length < limits.maxCstringScanBytes

/-- The compact JSON text of a value, and its bytes. -/
def Compact (json : Json) (value : Value) (text : Text) (raw : List UInt8) : Prop :=
  json.dumps value = .ok text ∧ encodeUtf8 text = .ok raw

/-- A compact text is a JSON text in UTF-8. -/
theorem Compact.isUtf8Json {json : Json} (documented : Documented json) {value : Value}
    {text : Text} {raw : List UInt8} (compact : Compact json value text raw) : IsUtf8Json raw :=
  ⟨text, compact.2, documented.dumps compact.1⟩

variable {σ : Type} {guest : Guest σ} {space : Space σ} {json : Json} {holdings : Holdings σ}
  {texts : Value → List UInt8 → Prop} {limits : Limits} {stage : Stage}

/-- Values that are kept twice are kept. -/
theorem Holdings.Kept.trans {first second third : σ} (earlier : holdings.Kept first second)
    (later : holdings.Kept second third) : holdings.Kept first third :=
  fun addr value denotes => later addr value (earlier addr value denotes)

section Crossing

variable (marshals : Marshals guest space json holdings texts)
include marshals

/-- The memory of such a guest is readable. -/
theorem Marshals.readable : Readable guest space (holdings.Still space) where
  trans earlier later := {
    undisturbed := ⟨later.undisturbed.top.trans earlier.undisturbed.top,
      later.undisturbed.size.trans earlier.undisturbed.size,
      fun addr => (later.undisturbed.byte addr).trans (earlier.undisturbed.byte addr)⟩
    kept := earlier.kept.trans later.kept
    free := fun addr length free => later.free addr length (earlier.free addr length free) }
  undisturbed still := still.undisturbed
  memoryLen := marshals.memoryLen
  memoryRead := marshals.memoryRead

/-- A text is written where nothing else lies. -/
theorem writeBytes_placed (data : List UInt8) (world : World σ) :
    Ends (writeBytes guest stage data) world
      (fun addr after => 0 < addr ∧ addr + data.length ≤ space.size after.guest ∧
        slice space after.guest addr data.length = data ∧ holdings.Kept world.guest after.guest)
      (fun _ _ => False) := by
  apply ends_bind
  apply (ends_called (marshals.opaMalloc data.length world.guest)).mono
  · rintro addr allocated ⟨positive, inside, free, kept⟩
    unfold checkPointer
    rw [if_neg (by omega)]
    apply ends_bind
    apply ends_pure
    apply ends_bind
    unfold checkRange
    rw [if_neg (by omega), if_neg (by omega)]
    apply ends_bind
    apply (ends_called (marshals.memoryLen allocated.guest)).mono
    · rintro memLen measured ⟨same, still⟩
      rw [if_neg (by omega)]
      apply ends_pure
      apply ends_bind
      have place := marshals.memoryWrite addr data measured.guest positive
        (by rw [still.undisturbed.size]; exact inside) (still.free _ _ free)
      apply (ends_called place).mono
      · rintro _ written ⟨stored, keptLater⟩
        refine ends_pure ⟨positive, ?_, stored.slice, kept.trans (still.kept.trans keptLater)⟩
        rw [stored.size, still.undisturbed.size]
        exact inside
      · exact fun _ _ => id
    · exact fun _ _ => id
  · exact fun _ _ => id

/-- A JSON text that is written and parsed is the value that it is a text of. -/
theorem parsed_denotes {raw : List UInt8} {value : Value} (known : IsJsonValue value)
    (valid : IsUtf8Json raw) (loaded : json.loads raw = .ok value) (kind : String)
    (world : World σ) :
    Ends (writeBytes guest stage raw >>= fun addr => parsedValue guest stage addr raw.length kind)
      world
      (fun addr after => holdings.denotes after.guest addr value ∧
        holdings.Kept world.guest after.guest)
      (fun _ _ => False) := by
  apply (writeBytes_placed marshals raw world).next
  rintro addr placed ⟨positive, inside, stored, kept⟩
  have parses := marshals.opaJsonParse addr raw value placed.guest positive inside stored valid
    loaded known
  apply (ends_called parses).next
  rintro result parsed ⟨present, denotes, keptLater⟩
  exact ends_ite (fun null => absurd null (by omega))
    (fun _ => ends_pure ⟨denotes, kept.trans keptLater⟩)

/-- `python_object_to_opa_value` gives an address that denotes the object. -/
theorem pythonObjectToOpaValue_denotes {value : Value} {text : Text} {raw : List UInt8}
    (faithful : Faithful json) (known : IsJsonValue value) (compact : Compact json value text raw)
    {limit : Nat} (within : raw.length ≤ limit) (kind : String) (world : World σ) :
    Ends (pythonObjectToOpaValue guest json stage value limit kind) world
      (fun addr after => holdings.denotes after.guest addr value ∧
        holdings.Kept world.guest after.guest)
      (fun _ _ => False) := by
  have written : (json.dumps value >>= encodeUtf8) = .ok raw := by
    rw [compact.1]
    exact compact.2
  apply ends_bind
  apply ends_exceptFor
  rw [written]
  apply ends_bind
  apply ends_ite
  · intro exceeds
    omega
  · intro _
    apply ends_pure
    exact parsed_denotes marshals known (compact.isUtf8Json faithful.toDocumented)
      (faithful.inverse known compact.1 compact.2) _ world

/-- `opa_value_to_python` gives the value that the address denotes.

Proof: the dumped text is a JSON text of the value, within both limits, so the scan returns
all of it and `json.loads` gives the value back. -/
theorem opaValueToPython_reads {addr : Int} {value : Value} (known : IsJsonValue value)
    (fits : Fits limits texts value) (kind : String) (world : World σ)
    (denotes : holdings.denotes world.guest addr value) :
    Ends (opaValueToPython guest json limits stage addr kind) world
      (fun result after => result = value ∧ holdings.Kept world.guest after.guest)
      (fun _ _ => False) := by
  apply (ends_called (marshals.opaJsonDump addr value world.guest denotes known)).next
  rintro strAddr dumped ⟨raw, written, loaded, positive, inside, terminated, stored, kept⟩
  obtain ⟨within, scanned⟩ := fits raw written
  apply ends_bind
  apply ends_ite
  · intro null
    omega
  intro _
  apply ends_pure
  have text : readText space limits dumped.guest strAddr raw.length = .ok raw := by
    unfold readText
    rw [if_pos scanned, stored]
  apply ends_bind
  apply (readCstring_reads marshals.readable stage limits terminated (by omega) inside).mono
  · rintro read scanned ⟨same, -, still⟩
    cases text.symm.trans same
    apply ends_bind
    apply ends_ite
    · intro exceeds
      rw [Option.getD_none] at exceeds
      omega
    intro _
    apply ends_pure
    apply ends_exceptFor
    apply ends_callPython
    · intro result same
      cases loaded.symm.trans same
      exact ⟨rfl, kept.trans still.kept⟩
    · intro error failed
      cases loaded.symm.trans failed
  · intro error failed same
    cases text.symm.trans same

end Crossing

/-- The arguments are decoded in order, each where the earlier ones left the heap. -/
theorem decodeArguments_reads {setup : Setup σ}
    (marshals : Marshals setup.guest space setup.json holdings texts) (kind : String)
    {argAddrs : List Int} {args : List Value}
    (known : ∀ arg ∈ args, IsJsonValue arg ∧ Fits setup.limits texts arg) (world : World σ)
    (denotes : List.Forall₂ (holdings.denotes world.guest) argAddrs args) :
    Ends (decodeArguments setup kind argAddrs) world
      (fun decoded after => decoded = args ∧ holdings.Kept world.guest after.guest)
      (fun _ _ => False) := by
  induction argAddrs generalizing args world with
  | nil =>
    cases denotes
    exact ends_pure ⟨rfl, fun _ _ => id⟩
  | cons addr rest inductionHypothesis =>
    cases denotes with
    | @cons _ arg _ args first others =>
      obtain ⟨⟨isJson, fits⟩, later⟩ := List.forall_mem_cons.mp known
      apply (opaValueToPython_reads marshals isJson fits kind world first).next
      rintro _ read ⟨rfl, kept⟩
      have still := others.imp (fun addr value => kept addr value)
      apply (inductionHypothesis later read still).next
      rintro _ decoded ⟨rfl, keptLater⟩
      exact ends_pure ⟨rfl, kept.trans keptLater⟩

/-- An object that is no `str` and its compact text as a raw document become the same bytes. -/
theorem coerceToJsonBytes_compact {value loaded : Value} {text : Text} {raw : List UInt8}
    (noText : ∀ text, value ≠ .str text) (compact : Compact json value text raw)
    (accepted : json.loads raw = .ok loaded) :
    (coerceToJsonBytes json stage (.value value) true : Py σ (List UInt8)) = pure raw ∧
      (coerceToJsonBytes json stage (.value (.str text)) true : Py σ (List UInt8)) = pure raw := by
  have written : (json.dumps value >>= encodeUtf8) = .ok raw := by
    rw [compact.1]
    exact compact.2
  constructor
  · have object : (coerceToJsonBytes json stage (.value value) true : Py σ (List UInt8)) =
        dumps json stage value := by
      unfold coerceToJsonBytes
      split
      · rename_i same
        cases same
      · rename_i text same
        exact absurd (Document.value.inj same) (noText text)
      · rename_i same
        rw [Document.value.inj same]
    rw [object, dumps, written]
    rfl
  · have document : (coerceToJsonBytes json stage (.value (.str text)) true : Py σ (List UInt8)) =
        callPython stage .encode (encodeUtf8 text) >>= fun raw => validated json stage raw true := rfl
    rw [document, compact.2]
    change (validated json stage raw true : Py σ (List UInt8)) = pure raw
    rw [validated, if_pos rfl, accepted]
    rfl

/-- `python_to_opa_value` on a document whose bytes are known. -/
theorem pythonToOpaValue_denotes (marshals : Marshals guest space json holdings texts)
    {document : Document} {raw : List UInt8} {loaded : Value}
    (coerced : (coerceToJsonBytes json stage document true : Py σ (List UInt8)) = pure raw)
    (valid : IsUtf8Json raw) (accepted : json.loads raw = .ok loaded) (known : IsJsonValue loaded)
    {limit : Nat} (within : raw.length ≤ limit) (kind : String) (world : World σ) :
    Ends (pythonToOpaValue guest json stage document limit kind) world
      (fun addr after => holdings.denotes after.guest addr loaded ∧
        holdings.Kept world.guest after.guest)
      (fun _ _ => False) := by
  unfold pythonToOpaValue pythonToOpaValueValidating writeJsonValidating
  rw [coerced]
  simp only [pure_bind, bind_assoc]
  apply ends_bind
  apply ends_ite
  · intro exceeds
    omega
  intro _
  apply ends_pure
  exact parsed_denotes marshals known valid accepted _ world

/-- What a dispatch raises when its builtin raised. -/
def builtinRaised (repr : Text → String) (name : Text) (raised : Raised) : Raised :=
  if raised.kind.isException = true ∧ raised.kind ≠ .opa .builtin then
    opaErrorFrom .builtin ("builtin " ++ repr name ++ " raised: " ++ raised.text) raised
  else raised

/-- A builtin is called with the values that its arguments denote, and the address that the
dispatch returns denotes what the builtin returned.

Proof: the arguments are read one after another and keep what was denoted. The builtin returns
or raises on exactly these, and its result is written like an input. -/
theorem dispatchBuiltin_calls {setup : Setup σ} (faithful : Faithful setup.json)
    (marshals : Marshals setup.guest space setup.json holdings texts) (repr : Text → String)
    {snapshot : Snapshot} {builtinId : Int} {name : Text} {fn : Builtin} {argAddrs : List Int}
    {args : List Value} {world : World σ}
    (named : builtinName world.builtinIdToName builtinId = some name)
    (registered : snapshot name = some fn)
    (known : ∀ arg ∈ args, IsJsonValue arg ∧ Fits setup.limits texts arg)
    (denotes : List.Forall₂ (holdings.denotes world.guest) argAddrs args)
    (returns : ∀ result, fn args = .ok result → IsJsonValue result ∧ ∃ text raw,
      Compact setup.json result text raw ∧ raw.length ≤ setup.limits.maxResultBytes) :
    Ends (dispatchBuiltin setup repr snapshot builtinId argAddrs) world
      (fun addr after => holdings.Kept world.guest after.guest ∧
        ∃ result, fn args = .ok result ∧ holdings.denotes after.guest addr result)
      (fun error _ => ∃ raised, fn args = .error raised ∧ error = builtinRaised repr name raised) := by
  unfold dispatchBuiltin
  apply ends_bind
  apply ends_field
  rw [named]
  dsimp only
  rw [registered]
  dsimp only
  apply ends_bind
  apply ends_exceptFor
  apply (decodeArguments_reads marshals _ known world denotes).mono
  · rintro _ decoded ⟨rfl, kept⟩
    apply ends_bind
    apply ends_exceptFor
    apply ends_fromExcept
    · intro result same
      obtain ⟨isJson, text, raw, compact, within⟩ := returns result same
      apply ends_exceptFor
      apply (pythonObjectToOpaValue_denotes marshals faithful isJson compact within _ decoded).mono
      · rintro addr after ⟨holds, keptLater⟩
        exact ⟨kept.trans keptLater, result, same, holds⟩
      · exact fun _ _ => False.elim
    · intro raised failed
      constructor
      · intro caught
        apply ends_ite
        · intro typed
          exact ends_throw ⟨raised, failed, by rw [builtinRaised, if_neg (fun both => both.2 typed)]⟩
        · intro other
          exact ends_throw ⟨raised, failed, by rw [builtinRaised, if_pos ⟨caught, other⟩]⟩
      · intro uncaught
        refine ⟨raised, failed, ?_⟩
        rw [builtinRaised, if_neg]
        rw [uncaught]
        exact fun both => Bool.false_ne_true both.1
  · exact fun _ _ => False.elim

/-- A memory in use up to its extent, and the texts of the values that were parsed. -/
structure Shelf where
  extent : Nat
  byte : Int → UInt8
  values : List (List UInt8)

/-- Write bytes into a memory. -/
def overwrite (byte : Int → UInt8) (addr : Int) (data : List UInt8) : Int → UInt8 := fun other =>
  if addr ≤ other ∧ other < addr + data.length then data[(other - addr).toNat]?.getD 0
  else byte other

/-- The shelf as a memory. -/
def shelfSpace : Space Shelf := ⟨fun shelf => shelf.extent, fun shelf => shelf.extent, Shelf.byte⟩

/-- A guest that keeps the text of each value on its shelf and writes it out on demand. -/
def shelfGuest : Guest Shelf where
  opaMalloc length := fun shelf =>
    .ok (shelf.extent + 1) { shelf with extent := shelf.extent + 1 + length.toNat }
  opaJsonParse addr length := fun shelf =>
    .ok (shelf.values.length + 1)
      { shelf with values := shelf.values ++ [slice shelfSpace shelf addr length.toNat] }
  opaJsonDump addr := fun shelf =>
    match shelf.values[(addr - 1).toNat]? with
    | some raw => .ok (shelf.extent + 1)
        { shelf with
          extent := shelf.extent + 1 + raw.length + 1
          byte := overwrite shelf.byte (shelf.extent + 1) (raw ++ [0]) }
    | none => .error (opaError .abort "no such value") shelf
  opaHeapPtrGet := pure 0
  opaHeapPtrSet _ := pure ⟨⟩
  entrypoints := pure 0
  builtins := pure 0
  opaEval _ _ _ _ _ := pure 0
  memoryLen := Shelf.extent <$> get
  memoryRead start stop := (fun shelf => slice shelfSpace shelf start (stop - start).toNat) <$> get
  memoryWrite addr data := modify (fun shelf => { shelf with byte := overwrite shelf.byte addr data })
  setEpochDeadline _ := pure ⟨⟩
  startTicker := pure ⟨⟩

/-- The number 7, and the string of the same digit: a string that is itself a JSON text. -/
def digitText : List UInt8 := [0x37]

/-- The string of this digit. -/
def digitString : Value := .str [0x37]

/-- Its JSON text, in quotation marks. -/
def quotedText : List UInt8 := [0x22, 0x37, 0x22]

/-- A `json` module that knows these two values. -/
def sevenJson : Json where
  loads raw :=
    if raw = digitText then .ok (.int 7)
    else if raw = quotedText then .ok digitString
    else .error ⟨.jsonDecodeError, "Expecting value", []⟩
  dumps
    | .int 7 => .ok [0x37]
    | .str [0x37] => .ok [0x22, 0x37, 0x22]
    | _ => .error ⟨.typeError, "not JSON serializable", []⟩
  repr _ := .ok "7"

/-- What is serialised is one of the two, and its text is its own. -/
theorem sevenJson_dumps {value : Value} {text : Text} (dumped : sevenJson.dumps value = .ok text) :
    (value = .int 7 ∧ text = [0x37]) ∨ (value = digitString ∧ text = [0x22, 0x37, 0x22]) := by
  simp only [sevenJson] at dumped
  split at dumped
  · cases dumped
    exact .inl ⟨rfl, rfl⟩
  · cases dumped
    exact .inr ⟨rfl, rfl⟩
  · cases dumped

/-- What is read is one of the two texts. -/
theorem sevenJson_loads {value : Value} {raw : List UInt8} (loaded : sevenJson.loads raw = .ok value) :
    (raw = digitText ∧ value = .int 7) ∨ (raw = quotedText ∧ value = digitString) := by
  simp only [sevenJson] at loaded
  split at loaded
  · rename_i same
    cases loaded
    exact .inl ⟨same, rfl⟩
  · split at loaded
    · rename_i same
      cases loaded
      exact .inr ⟨same, rfl⟩
    · cases loaded

/-- The digit is JSON as a number. -/
theorem digit_isJson (constants : Bool) : JsonText.IsJson constants [0x37] := by
  have digit : JsonText.IntPart [0x37] :=
    .digits ⟨⟨by decide, by decide⟩, by decide⟩ (fun _ absent => absurd absent List.not_mem_nil)
  have number : JsonText.Derives constants .value [0x37] :=
    .number (.of (.inl rfl) digit .absent .absent)
  exact .of blank_space number blank_space

/-- The digit in quotation marks is JSON as a string. -/
theorem quoted_digit_isJson (constants : Bool) : JsonText.IsJson constants [0x22, 0x37, 0x22] := by
  have string : JsonText.StringToken [0x22, 0x37, 0x22] := .of (.unescaped (by decide) .nil)
  exact @JsonText.IsJson.of constants [] _ [] blank_space (.string string) blank_space

/-- The module does what the documentation says, and reads back what it writes. -/
theorem sevenJson_faithful : Faithful sevenJson where
  loads := by
    intro raw value taken _
    obtain ⟨rfl, rfl⟩ | ⟨rfl, rfl⟩ := sevenJson_loads taken
    · exact ⟨[0x37], by unfold Utf8.InRange; decide, rfl, digit_isJson true⟩
    · exact ⟨[0x22, 0x37, 0x22], by unfold Utf8.InRange; decide, rfl, quoted_digit_isJson true⟩
  dumps := by
    intro value text written
    obtain ⟨rfl, rfl⟩ | ⟨rfl, rfl⟩ := sevenJson_dumps written
    · exact digit_isJson false
    · exact quoted_digit_isJson false
  inverse := by
    intro value text raw _ dumped encoded
    obtain ⟨rfl, rfl⟩ | ⟨rfl, rfl⟩ := sevenJson_dumps dumped <;> cases encoded <;> rfl

/-- The texts are short and hold no NUL. -/
theorem sevenJson_texts {value : Value} {raw : List UInt8} (loaded : sevenJson.loads raw = .ok value) :
    raw.length ≤ 3 ∧ ∀ byte ∈ raw, byte ≠ 0 := by
  obtain ⟨rfl, -⟩ | ⟨rfl, -⟩ := sevenJson_loads loaded
  · simp [digitText]
  · simp [quotedText]

/-- An address denotes the value whose text is on the shelf there. Values take up no memory. -/
def shelfHoldings : Holdings Shelf where
  denotes shelf addr value :=
    0 < addr ∧ ∃ raw, shelf.values[(addr - 1).toNat]? = some raw ∧ sevenJson.loads raw = .ok value
  free _ _ _ := True

/-- The texts that `sevenJson` reads. -/
def shelfTexts (value : Value) (raw : List UInt8) : Prop := sevenJson.loads raw = .ok value

/-- A shelf to which values are added keeps what it holds, wherever bytes are written. -/
theorem shelf_kept {shelf : Shelf} (extent : Nat) (byte : Int → UInt8) (more : List (List UInt8)) :
    shelfHoldings.Kept shelf ⟨extent, byte, shelf.values ++ more⟩ := by
  rintro addr value ⟨positive, raw, placed, loaded⟩
  obtain ⟨inside, -⟩ := List.getElem?_eq_some_iff.mp placed
  exact ⟨positive, raw, (List.getElem?_append_left inside).trans placed, loaded⟩

/-- A shelf that is left alone keeps all. -/
theorem shelf_still (shelf : Shelf) : shelfHoldings.Still shelfSpace shelf shelf :=
  ⟨⟨rfl, rfl, fun _ => rfl⟩, fun _ _ => id, fun _ _ => id⟩

/-- What was overwritten was written. -/
theorem overwrite_written (shelf : Shelf) (addr : Int) (data : List UInt8) (extent : Nat)
    (same : extent = shelf.extent) :
    Written shelfSpace addr data shelf ⟨extent, overwrite shelf.byte addr data, shelf.values⟩ where
  top := by rw [same]; rfl
  size := by rw [same]; rfl
  inside index below := by
    have within : addr ≤ addr + index ∧ addr + index < addr + data.length := by omega
    have offset : (addr + (index : Int) - addr).toNat = index := by omega
    simp only [shelfSpace, overwrite, if_pos within, offset, List.getElem?_eq_getElem below,
      Option.getD_some]
  outside other apart := if_neg (by omega)

/-- The shelf obeys the laws of a guest.

Proof: a parsed text is added behind the others, so the values that were there keep their
addresses. A dumped text is written behind the extent of memory, with its terminator. -/
theorem shelfGuest_marshals :
    Marshals shelfGuest shelfSpace sevenJson shelfHoldings shelfTexts where
  memoryLen shelf := ⟨rfl, shelf_still shelf⟩
  memoryRead start length shelf positive inside := by
    refine ⟨?_, shelf_still shelf⟩
    have same : (start + (length : Int) - start).toNat = length := by omega
    simp only [same]
  opaMalloc length shelf := by
    refine ⟨by omega, ?_, True.intro, ?_⟩
    · simp only [shelfSpace]
      omega
    · have kept := @shelf_kept shelf (shelf.extent + 1 + length) shelf.byte []
      rwa [List.append_nil] at kept
  memoryWrite addr data shelf positive inside free := by
    refine ⟨overwrite_written shelf addr data shelf.extent rfl, ?_⟩
    have kept := @shelf_kept shelf shelf.extent (overwrite shelf.byte addr data) []
    rwa [List.append_nil] at kept
  opaJsonParse addr raw value shelf positive inside stored valid loaded known := by
    refine ⟨by omega, ⟨by omega, raw, ?_, loaded⟩, shelf_kept _ _ _⟩
    have position : ((shelf.values.length : Int) + 1 - 1).toNat = shelf.values.length := by omega
    have text : slice shelfSpace shelf addr ((raw.length : Int).toNat) = raw := stored
    simp only [position, text]
    exact List.getElem?_concat_length
  opaJsonDump addr value shelf denotes known := by
    obtain ⟨positive, raw, placed, loaded⟩ := denotes
    have present := (sevenJson_texts loaded).2
    have written := overwrite_written
      ⟨shelf.extent + 1 + raw.length + 1, shelf.byte, shelf.values⟩ (shelf.extent + 1) (raw ++ [0])
      _ rfl
    have longer : (raw ++ [0]).length = raw.length + 1 := List.length_append
    have both := written.slice
    unfold Ends shelfGuest
    simp only [placed]
    refine ⟨raw, loaded, loaded, by omega, ?_, ⟨?_, ?_⟩, ?_, ?_⟩
    · change (shelf.extent : Int) + 1 + raw.length < (shelf.extent + 1 + raw.length + 1 : Nat)
      omega
    · intro index below zero
      have text := written.inside index (by omega)
      rw [List.getElem_append_left below] at text
      exact present raw[index] (List.getElem_mem below) (text.symm.trans zero)
    · have terminator := written.inside raw.length (by omega)
      rwa [List.getElem_concat_length rfl] at terminator
    · have shorter := congrArg (List.take raw.length) both
      rwa [take_slice _ _ (by omega), List.take_left] at shorter
    · have kept := @shelf_kept shelf (shelf.extent + 1 + raw.length + 1)
        (overwrite shelf.byte (shelf.extent + 1) (raw ++ [0])) []
      rwa [List.append_nil] at kept

/-- A setup around the shelf. -/
def shelfSetup : Setup Shelf where
  native := ⟨.ok ⟨0, fun _ => 0, []⟩, fun _ _ => pure ⟨⟩, fun _ => pure ⟨⟩, pure ⟨⟩⟩
  guest := shelfGuest
  maxMemoryPages := none
  json := sevenJson
  limits := ⟨100, 100, 100, 100, true⟩
  exports := ⟨[], [], []⟩
  timeoutTicks := none

/-- An instance on an empty shelf. -/
def shelfInstance : World Shelf := WasmtimeRuntime.created ⟨0, fun _ => 0, []⟩

/-- An instance on whose shelf the number and the string stand, and whose guest declares one
builtin. -/
def stockedInstance : World Shelf :=
  { WasmtimeRuntime.created ⟨0, fun _ => 0, [digitText, quotedText]⟩ with
    builtinIdToName := [(5, [0x66])] }

/-- A builtin that takes a number and a string, in this order, and returns the string. -/
def secondOf : Builtin
  | [.int _, .str text] => .ok (.str text)
  | _ => .error ⟨.typeError, "expected a number and a string", []⟩

/-- A registry that has it. -/
def secondSnapshot : Snapshot := fun name => if name = [0x66] then some secondOf else none

end OpaPyWasm.ValueCrossing
