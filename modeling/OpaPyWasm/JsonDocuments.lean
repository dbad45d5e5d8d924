import OpaPyWasm.PolicyApi
import OpaPyWasm.Library.JsonText
import OpaPyWasm.Library.Utf8

/-!
# Which accepted documents are JSON

The guest reads JSON texts in UTF-8. A Python object becomes one, or is rejected. A raw
document is passed on as it came once `json.loads` takes it, and `json.loads` takes more:
the constants that are no numbers, encoded surrogates, and the encodings that it detects.

An accepted raw document is JSON for the guest exactly if none of these stands in it.
-/

namespace OpaPyWasm.JsonDocuments

open Exceptions Values Effects GuestCalls MemoryCodec WasmtimeRuntime PolicyApi

/-- The encodings of `json.detect_encoding`. -/
inductive Encoding where
  | utf8
  | utf8Sig
  | utf16
  | utf16Be
  | utf16Le
  | utf32
  | utf32Be
  | utf32Le
deriving DecidableEq

/-- The rules of `json.detect_encoding` without a byte order mark, on which bytes are NUL. -/
def detectByNul : List UInt8 → Encoding
  | [0, _] => .utf16Be
  | [_, 0] => .utf16Le
  | 0 :: second :: _ :: _ :: _ => if second ≠ 0 then .utf16Be else .utf32Be
  | _ :: 0 :: third :: fourth :: _ => if third ≠ 0 ∨ fourth ≠ 0 then .utf16Le else .utf32Le
  | _ => .utf8

/-- `json.detect_encoding`. -/
def detectEncoding (raw : List UInt8) : Encoding :=
  if [0x00, 0x00, 0xFE, 0xFF].isPrefixOf raw || [0xFF, 0xFE, 0x00, 0x00].isPrefixOf raw then .utf32
  else if [0xFE, 0xFF].isPrefixOf raw || [0xFF, 0xFE].isPrefixOf raw then .utf16
  else if [0xEF, 0xBB, 0xBF].isPrefixOf raw then .utf8Sig
  else detectByNul raw

/-- What the documentation of the `json` module promises: `loads` takes the constants and
decodes with the encoding that it detects, where surrogates pass; `dumps` with
`allow_nan=False` writes JSON. Of what is read in other encodings nothing is needed. -/
structure Documented (json : Json) : Prop where
  loads {raw : List UInt8} {value : Value} (taken : json.loads raw = .ok value)
    (detected : detectEncoding raw = .utf8) :
    ∃ text, Utf8.InRange text ∧ raw = Utf8.encode text ∧ JsonText.IsJson true text
  dumps {value : Value} {text : Text} (written : json.dumps value = .ok text) :
    JsonText.IsJson false text

/-- JSON texts in UTF-8. -/
def IsUtf8Json (raw : List UInt8) : Prop :=
  ∃ text, encodeUtf8 text = .ok raw ∧ JsonText.IsJson false text

/-- Bytes that are detected and decoded as UTF-8 without surrogates, and outside whose
strings no letter of a constant stands. -/
def CleanRaw (raw : List UInt8) : Prop :=
  detectEncoding raw = .utf8 ∧ ∃ text, encodeUtf8 text = .ok raw ∧ JsonText.Clean text

/-- Raw documents that are clean, and all Python objects. -/
def CleanDocument : Document → Prop
  | .bytes raw => CleanRaw raw
  | .value (.str text) => ∃ raw, encodeUtf8 text = .ok raw ∧ CleanRaw raw
  | .value _ => True

section Texts

variable {text : Text} {raw : List UInt8} {constants : Bool}

/-- `str.encode` is the encoding of UTF-8 on the texts that it takes. -/
theorem encode_of_encodeUtf8 (encoded : encodeUtf8 text = .ok raw) :
    Utf8.InRange text ∧ Utf8.encode text = raw := by
  induction text generalizing raw with
  | nil =>
    cases encoded
    exact ⟨fun _ absent => absurd absent List.not_mem_nil, rfl⟩
  | cons point rest inductionHypothesis =>
    unfold encodeUtf8 at encoded
    by_cases valid : point.isValidChar
    · rw [if_pos valid] at encoded
      cases tail : encodeUtf8 rest with
      | error raised =>
        rw [tail] at encoded
        cases encoded
      | ok raw' =>
        rw [tail] at encoded
        cases encoded
        obtain ⟨known, same⟩ := inductionHypothesis tail
        have bound : point < 0x110000 := by
          unfold Nat.isValidChar at valid
          omega
        have value : (Char.ofNat point).val.toNat = point := by
          rw [Char.ofNat, dif_pos valid]
          rfl
        refine ⟨List.forall_mem_cons.mpr ⟨bound, known⟩, ?_⟩
        rw [Utf8.encode_cons, same, Utf8.encodePoint, String.utf8EncodeChar, value]
    · rw [if_neg valid] at encoded
      cases encoded

/-- A text is known by its bytes. -/
theorem encodeUtf8_injective {text' : Text} (known : Utf8.InRange text')
    (encoded : encodeUtf8 text = .ok raw) (same : raw = Utf8.encode text') : text = text' := by
  obtain ⟨known', same'⟩ := encode_of_encodeUtf8 encoded
  exact Utf8.encode_injective known' known (same'.trans same)

/-- Bytes that begin with ASCII and hold no NUL are detected as UTF-8. -/
theorem detectEncoding_utf8 {first : UInt8} {rest : List UInt8} (ascii : first.toNat < 0x80)
    (present : 0 ∉ first :: rest) : detectEncoding (first :: rest) = .utf8 := by
  have other : ∀ mark : UInt8, 0x80 ≤ mark.toNat → (mark == first) = false := by
    intro mark high
    refine beq_eq_false_iff_ne.mpr (fun same => ?_)
    rw [same] at high
    omega
  have nonzero : first ≠ 0 := fun zero => present (zero ▸ List.mem_cons_self)
  have zero : ((0 : UInt8) == first) = false := beq_eq_false_iff_ne.mpr (Ne.symm nonzero)
  unfold detectEncoding
  simp only [List.isPrefixOf, zero, other 0xFF (by decide), other 0xFE (by decide),
    other 0xEF (by decide), Bool.false_and, Bool.or_self, Bool.false_eq_true, if_false]
  unfold detectByNul
  split <;> simp_all

/-- A JSON text in UTF-8 is detected as such. -/
theorem detectEncoding_json (encoded : encodeUtf8 text = .ok raw)
    (json : JsonText.IsJson constants text) : detectEncoding raw = .utf8 := by
  obtain ⟨known, rfl⟩ := encode_of_encodeUtf8 encoded
  obtain ⟨⟨point, rest, rfl, ascii⟩, present⟩ := json.begins
  have nonzero := Utf8.zero_not_mem_encode known present
  rw [Utf8.encode_cons, Utf8.encodePoint_ascii ascii] at nonzero ⊢
  refine detectEncoding_utf8 ?_ nonzero
  rw [UInt8.toNat_ofNat']
  omega

end Texts

section Documents

variable {json : Json} {document : Document} {raw : List UInt8}

/-- The bytes that `json.loads` takes are JSON for the guest exactly if they are clean. -/
theorem isUtf8Json_iff {value : Value} (documented : Documented json)
    (taken : json.loads raw = .ok value) : IsUtf8Json raw ↔ CleanRaw raw := by
  constructor
  · rintro ⟨text, encoded, strict⟩
    exact ⟨detectEncoding_json encoded strict, text, encoded,
      (JsonText.isJson_iff_clean strict).mp strict⟩
  · rintro ⟨detected, text, encoded, clean⟩
    obtain ⟨text', known, same, lenient⟩ := documented.loads taken detected
    obtain rfl := encodeUtf8_injective known encoded same
    exact ⟨text, encoded, (JsonText.isJson_iff_clean lenient).mpr clean⟩

/-- What becomes of a document that is taken. -/
def Taken (json : Json) : Document → List UInt8 → Prop
  | .bytes given, raw => raw = given ∧ ∃ value, json.loads raw = .ok value
  | .value (.str text), raw => encodeUtf8 text = .ok raw ∧ ∃ value, json.loads raw = .ok value
  | .value value, raw => ∃ text, json.dumps value = .ok text ∧ encodeUtf8 text = .ok raw

/-- A document that is taken becomes JSON exactly if it is clean. -/
theorem Taken.isUtf8Json_iff (documented : Documented json) (taken : Taken json document raw) :
    IsUtf8Json raw ↔ CleanDocument document := by
  unfold Taken at taken
  split at taken
  · obtain ⟨rfl, value, loaded⟩ := taken
    exact JsonDocuments.isUtf8Json_iff documented loaded
  · obtain ⟨encoded, value, loaded⟩ := taken
    rw [JsonDocuments.isUtf8Json_iff documented loaded]
    constructor
    · exact fun clean => ⟨raw, encoded, clean⟩
    · rintro ⟨raw', encoded', clean⟩
      cases encoded.symm.trans encoded'
      exact clean
  · rename_i value noText
    obtain ⟨text, dumped, encoded⟩ := taken
    have clean : CleanDocument (.value value) := by
      unfold CleanDocument
      split
      · rename_i same
        cases same
      · rename_i text same
        exact absurd (Document.value.inj same) (noText text)
      · trivial
    exact iff_of_true ⟨text, encoded, documented.dumps dumped⟩ clean

/-- An error that is raised for another one. -/
theorem ends_converted {τ α : Type} {caught : Kind → Bool} {body : EStateM Raised τ α}
    {error : Raised → Raised} {start : τ} {returned : α → τ → Prop}
    (ends : Ends body start returned (fun _ _ => True)) :
    Ends (exceptFor caught body (fun raised => throw (error raised))) start returned
      (fun _ _ => True) := by
  apply ends_exceptFor
  apply ends.mono
  · exact fun _ _ => id
  · exact fun _ _ _ => ⟨fun _ => ends_throw True.intro, fun _ => True.intro⟩

/-- An object whose text was encoded was serialised. -/
theorem dumped_taken {value : Value} (noText : ∀ text, value ≠ .str text)
    (written : (json.dumps value >>= encodeUtf8) = .ok raw) : Taken json (.value value) raw := by
  cases dumped : json.dumps value with
  | error raised =>
    rw [dumped] at written
    cases written
  | ok text =>
    rw [dumped] at written
    unfold Taken
    split
    · rename_i same
      cases same
    · rename_i text same
      exact absurd (Document.value.inj same) (noText text)
    · rename_i value' _ same
      obtain rfl := Document.value.inj same
      exact ⟨text, dumped, written⟩

/-- What `encode_input` returns when it validates.

Proof: one case for each kind of document, as for `set_data`. -/
theorem encodeInput_taken {σ : Type} (stage : Stage) (limit : Nat) (world : World σ) :
    Ends (encodeInput json stage document limit true) world
      (fun raw _ => Taken json document raw) (fun _ _ => True) := by
  have checked (given : List UInt8) (before : World σ) :
      Ends (validated json stage given true) before
        (fun raw _ => raw = given ∧ ∃ value, json.loads raw = .ok value) (fun _ _ => True) := by
    apply ends_bind
    apply ends_converted
    apply ends_callPython
    · exact fun value loaded => ends_pure ⟨rfl, value, loaded⟩
    · exact fun _ _ => True.intro
  have coerced : Ends (coerceToJsonBytes json stage document true) world
      (fun raw _ => Taken json document raw) (fun _ _ => True) := by
    unfold coerceToJsonBytes
    split
    · exact checked _ world
    · apply ends_bind
      apply ends_callPython
      · intro raw encoded
        apply (checked raw world).mono
        · rintro _ _ ⟨rfl, loaded⟩
          exact ⟨encoded, loaded⟩
        · exact fun _ _ => id
      · exact fun _ _ => True.intro
    · rename_i value noText
      apply ends_converted
      apply ends_callPython
      · exact fun raw written => dumped_taken (fun text same => noText text same) written
      · exact fun _ _ => True.intro
  apply coerced.seq
  intro raw after taken
  apply ends_bind
  apply ends_ite
  · exact fun _ => ends_throw True.intro
  · exact fun _ => ends_pure taken

/-- What `set_data` stores.

Proof: one case for each kind of document; the text is what was given, its encoding, or what
`json.dumps` wrote, and in the first two cases it was loaded. -/
theorem setData_taken (maxDataBytes : Nat) (closed : Bool) (log : List Fault) :
    Ends (setData json maxDataBytes closed (some document)) log
      (fun stored _ => ∃ raw, stored = some raw ∧ Taken json document raw) (fun _ _ => True) := by
  have checked (given : List UInt8) (before : List Fault) :
      Ends (validateDocument json given) before
        (fun raw _ => raw = given ∧ ∃ value, json.loads raw = .ok value) (fun _ _ => True) := by
    apply ends_bind
    apply ends_converted
    apply ends_ask
    · exact fun value loaded => ends_pure ⟨rfl, value, loaded⟩
    · exact fun _ _ => True.intro
  have encodes : Ends (encodeDocument json document) log
      (fun raw _ => Taken json document raw) (fun _ _ => True) := by
    unfold encodeDocument
    split
    · exact checked _ log
    · apply ends_bind
      apply ends_ask
      · intro raw encoded
        apply (checked raw log).mono
        · rintro _ _ ⟨rfl, loaded⟩
          exact ⟨encoded, loaded⟩
        · exact fun _ _ => id
      · exact fun _ _ => True.intro
    · rename_i value noText
      apply ends_converted
      apply ends_ask
      · exact fun raw written => dumped_taken (fun text same => noText text same) written
      · exact fun _ _ => True.intro
  apply ends_bind
  apply ends_ite
  · exact fun _ => ends_throw True.intro
  intro _
  apply ends_pure
  apply ends_bind
  apply encodes.seq
  intro raw after taken
  apply ends_ite
  · exact fun _ => ends_throw True.intro
  · exact fun _ => ends_pure ⟨raw, rfl, taken⟩

/-- Of the documents that `set_data` and a validating `encode_input` accept, those become
JSON in UTF-8 that are Python objects or clean raw documents.

Proof: what is stored or encoded is the text that `json.loads` took or `json.dumps` wrote; of
the first kind it is JSON exactly if none of the constants stands outside its strings, and of
the second it is always. -/
theorem accepted_json_iff (documented : Documented json) (document : Document) :
    (∀ maxDataBytes closed log raw,
      outcome (setData json maxDataBytes closed (some document)) log = .ok (some raw) →
        (IsUtf8Json raw ↔ CleanDocument document)) ∧
    ∀ (σ : Type) (stage : Stage) (limit : Nat) (world : World σ) (raw : List UInt8),
      outcome (encodeInput json stage document limit true) world = .ok raw →
        (IsUtf8Json raw ↔ CleanDocument document) := by
  constructor
  · intro maxDataBytes closed log raw accepted
    obtain ⟨-, raw', same, taken⟩ := (setData_taken maxDataBytes closed log).of_outcome accepted
    obtain rfl := Option.some.inj same
    exact taken.isUtf8Json_iff documented
  · intro σ stage limit world raw accepted
    obtain ⟨-, taken⟩ := (encodeInput_taken stage limit world).of_outcome accepted
    exact taken.isUtf8Json_iff documented

end Documents

/-- `NaN`. -/
def nanDocument : List UInt8 := [0x4E, 0x61, 0x4E]

/-- `[]` in UTF-16. -/
def wideDocument : List UInt8 := [0x5B, 0x00, 0x5D, 0x00]

/-- `["N"]` in UTF-8, where the letter of a constant stands inside a string. -/
def quotedDocument : List UInt8 := [0x5B, 0x22, 0x4E, 0x22, 0x5D]

/-- The same document as code points. -/
def quotedText : Text := [0x5B, 0x22, 0x4E, 0x22, 0x5D]

/-- A `json` module on these documents and on the objects that they denote. -/
def smallJson : Json where
  loads raw :=
    if raw = nanDocument then .ok (.float "nan")
    else if raw = wideDocument then .ok (.list [])
    else if raw = quotedDocument then .ok (.list [.str [0x4E]])
    else .error ⟨.jsonDecodeError, "Expecting value", []⟩
  dumps
    | .list [] => .ok [0x5B, 0x5D]
    | _ => .error ⟨.valueError, "Out of range float values are not JSON compliant", []⟩
  repr _ := .ok "nan"

/-- No space at all is space. -/
theorem blank_space : JsonText.IsSpace [] := fun _ absent => absurd absent List.not_mem_nil

/-- The quoted letter is a text of the grammar, without the constants too. -/
theorem quoted_isJson (constants : Bool) :
    JsonText.IsJson constants quotedText := by
  have letter : JsonText.StringToken [0x22, 0x4E, 0x22] := .of (.unescaped (by decide) .nil)
  have item : JsonText.Derives constants (.items false) [0x22, 0x4E, 0x22] :=
    @JsonText.Derives.last constants false [] _ [] (.item blank_space) (.string letter) blank_space
  have array : JsonText.Derives constants .value [0x5B, 0x22, 0x4E, 0x22, 0x5D] :=
    @JsonText.Derives.filled constants false _ item
  exact @JsonText.IsJson.of constants [] _ [] blank_space array blank_space

/-- It does what the documentation says. -/
theorem smallJson_documented : Documented smallJson where
  loads := by
    intro raw value taken detected
    by_cases nan : raw = nanDocument
    · subst nan
      have constant : JsonText.Derives true .value [0x4E, 0x61, 0x4E] :=
        .constant rfl List.mem_cons_self
      exact ⟨[0x4E, 0x61, 0x4E], by unfold Utf8.InRange; decide, rfl,
        .of blank_space constant blank_space⟩
    · by_cases wide : raw = wideDocument
      · subst wide
        cases detected
      · by_cases quoted : raw = quotedDocument
        · subst quoted
          exact ⟨quotedText, by unfold Utf8.InRange; decide, rfl, quoted_isJson true⟩
        · simp only [smallJson, if_neg nan, if_neg wide, if_neg quoted, reduceCtorEq] at taken
  dumps := by
    intro value text written
    have empty : JsonText.Derives false .value [0x5B, 0x5D] :=
      @JsonText.Derives.empty false false [] blank_space
    simp only [smallJson] at written
    split at written
    · cases written
      exact .of blank_space empty blank_space
    · cases written

/-- The quoted letter is clean: the scan skips it with its string. -/
theorem quoted_clean : CleanRaw quotedDocument :=
  ⟨rfl, quotedText, rfl,
    (JsonText.isJson_iff_clean (quoted_isJson true)).mp (quoted_isJson false)⟩

/-- An empty list is stored as JSON. So is the raw document with the quoted letter, given as
bytes to `set_data` or as a `str` to a validating `encode_input`. -/
theorem clean_documents_stored :
    IsUtf8Json [0x5B, 0x5D] ∧
      outcome (setData smallJson 100 false (some (.bytes quotedDocument))) [] =
        .ok (some quotedDocument) ∧
      outcome (encodeInput smallJson .evaluation (.value (.str quotedText)) 100 true)
        (created ()) = .ok quotedDocument ∧
      IsUtf8Json quotedDocument ∧ CleanDocument (.value (.str quotedText)) := by
  have emptyList := (accepted_json_iff smallJson_documented (.value (.list []))).1 100 false [] _ rfl
  have stored := (accepted_json_iff smallJson_documented (.bytes quotedDocument)).1 100 false [] _ rfl
  have input := (accepted_json_iff smallJson_documented (.value (.str quotedText))).2 Unit
    .evaluation 100 (created ()) _ rfl
  have json : IsUtf8Json quotedDocument := stored.mpr quoted_clean
  exact ⟨emptyList.mpr True.intro, rfl, rfl, json, input.mp json⟩

/-- A document `NaN` is stored although the number is rejected, and so is a document in
another encoding; neither is JSON for the guest. -/
theorem nan_stored :
    outcome (setData smallJson 100 false (some (.bytes nanDocument))) [] = .ok (some nanDocument) ∧
      ¬IsUtf8Json nanDocument ∧
      (outcome (setData smallJson 100 false (some (.value (.float "nan")))) []).toOption = none ∧
      outcome (setData smallJson 100 false (some (.bytes wideDocument))) [] =
        .ok (some wideDocument) ∧
      ¬IsUtf8Json wideDocument := by
  refine ⟨rfl, ?_, rfl, rfl, ?_⟩
  · rintro ⟨text, encoded, strict⟩
    have known : Utf8.InRange [0x4E, 0x61, 0x4E] := by
      unfold Utf8.InRange
      decide
    obtain rfl := encodeUtf8_injective known encoded rfl
    have clean := (JsonText.isJson_iff_clean strict).mp strict
    exact absurd (clean 0x4E (by decide)).1 (by decide)
  · rintro ⟨text, encoded, strict⟩
    have detected := detectEncoding_json encoded strict
    cases detected

end OpaPyWasm.JsonDocuments
