import OpaPyWasm.Exceptions

/-!
# Python values at the boundary

Callers hand over Python objects or raw JSON documents. A `str` is a list of code
points, since it may hold lone surrogates, which UTF-8 does not encode. The
`json` module is a parameter: any two functions that return or raise.
-/

namespace OpaPyWasm.Values

open Exceptions

/-- A Python `str`, by code points. -/
abbrev Text := List Nat

/-- The Python objects that the package inspects. A float is kept as its text, and
any object outside JSON as the name of its type. -/
inductive Value where
  | none
  | bool (value : Bool)
  | int (value : Int)
  | float (text : String)
  | str (text : Text)
  | list (items : List Value)
  | dict (entries : List (Value × Value))
  | other (typeName : String)

/-- `type(value).__name__`. -/
def Value.typeName : Value → String
  | .none => "NoneType"
  | .bool _ => "bool"
  | .int _ => "int"
  | .float _ => "float"
  | .str _ => "str"
  | .list _ => "list"
  | .dict _ => "dict"
  | .other typeName => typeName

/-- A `JSONInput`: raw bytes or a Python object, where a `str` object is a raw
JSON document too. -/
inductive Document where
  | bytes (raw : List UInt8)
  | value (value : Value)

/-- What the interpreter says of a code point that UTF-8 does not encode. -/
def surrogateError : Raised :=
  ⟨.unicodeEncodeError, "'utf-8' codec can't encode characters: surrogates not allowed", []⟩

/-- `str.encode("utf-8")`. -/
def encodeUtf8 : Text → Except Raised (List UInt8)
  | [] => .ok []
  | point :: rest =>
    if point.isValidChar then do
      let encoded ← encodeUtf8 rest
      pure (String.utf8EncodeChar (Char.ofNat point) ++ encoded)
    else .error surrogateError

/-- A text that UTF-8 encodes: no code point is a surrogate. -/
def Encodable (text : Text) : Prop := ∀ point ∈ text, point.isValidChar

/-- A text is tested point by point. -/
instance (text : Text) : Decidable (Encodable text) :=
  inferInstanceAs (Decidable (∀ point ∈ text, point.isValidChar))

/-- Encoding raises exactly on a text with a surrogate, and then nothing but
`UnicodeEncodeError`. -/
theorem encodeUtf8_cases (text : Text) :
    (Encodable text ∧ ∃ raw, encodeUtf8 text = .ok raw) ∨
      (¬Encodable text ∧ encodeUtf8 text = .error surrogateError) := by
  induction text with
  | nil => exact Or.inl ⟨fun _ absent => absurd absent List.not_mem_nil, [], rfl⟩
  | cons point rest inductionHypothesis =>
    have split : Encodable (point :: rest) ↔ point.isValidChar ∧ Encodable rest :=
      List.forall_mem_cons
    rw [split]
    unfold encodeUtf8
    by_cases valid : point.isValidChar
    · rcases inductionHypothesis with ⟨fine, raw, encoded⟩ | ⟨surrogate, raised⟩
      · exact Or.inl ⟨⟨valid, fine⟩, _, by rw [if_pos valid, encoded]; rfl⟩
      · exact Or.inr ⟨fun both => surrogate both.2, by rw [if_pos valid, raised]; rfl⟩
    · exact Or.inr ⟨fun both => valid both.1, if_neg valid⟩

/-- The `json` module with the compact separators and `allow_nan=False`, and
`repr` of the values in error messages, which fails on values nested too deeply
and on integers with too many digits. -/
structure Json where
  loads : List UInt8 → Except Raised Value
  dumps : Value → Except Raised Text
  repr : Value → Except Raised String

end OpaPyWasm.Values
