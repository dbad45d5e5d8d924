import OpaPyWasm.Values

/-!
# Texts of Python values

`str`, `repr` and `json.dumps` on the values that the package inspects. A container is laid
out alike by `repr` and by `json.dumps`, with the same separators, and the two differ in the
scalars and the keys. What only the interpreter knows is a parameter; its stack and its memory
are taken to suffice.
-/

namespace OpaPyWasm.PythonText

open Exceptions Values

/-- A text from its characters. -/
def chars (text : List Char) : Text := text.map Char.toNat

/-- A text from a string of the model. -/
def points (text : String) : Text := chars text.toList

/-- What is known of the interpreter: the limit of digits of `int` to `str` conversions, with 0
for none, the code points that are printable, the floats as far as they are computed with, and
the objects outside JSON. -/
structure Interpreter where
  /-- `sys.get_int_max_str_digits()` -/
  maxStrDigits : Nat
  /-- `str.isprintable` of a code point beyond ASCII. -/
  printable : Nat → Bool
  /-- `int(x)` of a finite float. -/
  truncated : String → Int
  /-- `float(n)` of an integer in the range of the floats. -/
  floatOf : Int → String
  /-- The text of a float by a letter, a precision and the alternate form, with its sign. -/
  formatFloat : Nat → Nat → Bool → String → Text
  /-- A `%` behind options writes a percent sign, as it does before 3.11. -/
  percentBehindOptions : Bool
  objectStr : String → Except Raised Text
  objectRepr : String → Except Raised Text
  objectTruth : String → Except Raised Bool
  objectFormat : Text → String → Except Raised Text

variable (interpreter : Interpreter)

/-- The digits of a number. -/
def digits (base n : Nat) : Text := chars (Nat.toDigits base n)

/-- An integer has no more digits than a limit allows. -/
def Fits (limit : Nat) (n : Int) : Prop := limit = 0 ∨ (digits 10 n.natAbs).length ≤ limit

/-- The digits can be counted. -/
instance (limit : Nat) (n : Int) : Decidable (Fits limit n) :=
  inferInstanceAs (Decidable (_ ∨ _))

/-- What the interpreter says of an integer beyond the limit. -/
def digitsError : Raised :=
  ⟨.valueError, "Exceeds the limit for integer string conversion", []⟩

/-- The decimal text of an integer. -/
def integerText (n : Int) : Text :=
  if n < 0 then 0x2D :: digits 10 n.natAbs else digits 10 n.natAbs

/-- `int.__repr__` -/
def Interpreter.decimal (n : Int) : Except Raised Text :=
  if Fits interpreter.maxStrDigits n then .ok (integerText n) else .error digitsError

/-- The last digits of a number in base 16, with leading zeros. -/
def hexDigits (width n : Nat) : Text :=
  List.replicate (width - (digits 16 n).length) 0x30 ++ digits 16 n

/-- A code point in a JSON string of ASCII characters. -/
def escapeAscii (point : Nat) : Text :=
  if point = 0x22 ∨ point = 0x5C then [0x5C, point]
  else if 0x20 ≤ point ∧ point ≤ 0x7E then [point]
  else if point = 0x08 then [0x5C, 0x62]
  else if point = 0x0C then [0x5C, 0x66]
  else if point = 0x0A then [0x5C, 0x6E]
  else if point = 0x0D then [0x5C, 0x72]
  else if point = 0x09 then [0x5C, 0x74]
  else if point < 0x10000 then [0x5C, 0x75] ++ hexDigits 4 point
  else
    [0x5C, 0x75] ++ hexDigits 4 (0xD800 + (point - 0x10000) / 0x400) ++
      ([0x5C, 0x75] ++ hexDigits 4 (0xDC00 + (point - 0x10000) % 0x400))

/-- `json.dumps` of a `str`. -/
def encodeString (text : Text) : Text := [0x22] ++ text.flatMap escapeAscii ++ [0x22]

/-- A code point in the `repr` of a `str` between given quotes. -/
def reprPoint (quote point : Nat) : Text :=
  if point = quote ∨ point = 0x5C then [0x5C, point]
  else if point = 0x09 then [0x5C, 0x74]
  else if point = 0x0A then [0x5C, 0x6E]
  else if point = 0x0D then [0x5C, 0x72]
  else if point < 0x20 ∨ point = 0x7F then [0x5C, 0x78] ++ hexDigits 2 point
  else if point < 0x7F ∨ interpreter.printable point = true then [point]
  else if point ≤ 0xFF then [0x5C, 0x78] ++ hexDigits 2 point
  else if point ≤ 0xFFFF then [0x5C, 0x75] ++ hexDigits 4 point
  else [0x5C, 0x55] ++ hexDigits 8 point

/-- `repr` of a `str`. -/
def reprString (text : Text) : Text :=
  let quote := if 0x27 ∈ text ∧ 0x22 ∉ text then 0x22 else 0x27
  [quote] ++ text.flatMap (reprPoint interpreter quote) ++ [quote]

/-- How the values that hold no others are written, and the keys of a dictionary. -/
structure Style where
  scalar : Value → Except Raised Text
  key : Value → Except Raised Text

/-- `", ".join(texts)` -/
def joined (texts : List Text) : Text := List.intercalate [0x2C, 0x20] texts

mutual

/-- A value in a style, containers with the separators `", "` and `": "`. -/
def Style.render (style : Style) : Value → Except Raised Text
  | .list items => do
    let inside ← style.renderItems items
    pure ([0x5B] ++ joined inside ++ [0x5D])
  | .dict entries => do
    let inside ← style.renderEntries entries
    pure ([0x7B] ++ joined inside ++ [0x7D])
  | value => style.scalar value

/-- The items of a list. -/
def Style.renderItems (style : Style) : List Value → Except Raised (List Text)
  | [] => pure []
  | item :: rest => do
    let text ← style.render item
    let texts ← style.renderItems rest
    pure (text :: texts)

/-- The entries of a dictionary. -/
def Style.renderEntries (style : Style) : List (Value × Value) → Except Raised (List Text)
  | [] => pure []
  | entry :: rest => do
    let text ← style.renderEntry entry
    let texts ← style.renderEntries rest
    pure (text :: texts)

/-- One entry of a dictionary. -/
def Style.renderEntry (style : Style) : Value × Value → Except Raised Text
  | (name, value) => do
    let before ← style.key name
    let after ← style.render value
    pure (before ++ [0x3A, 0x20] ++ after)

end

/-- What the interpreter says of a container that is used as a key. -/
def unhashable (value : Value) : Raised :=
  ⟨.typeError, "unhashable type: '" ++ value.typeName ++ "'", []⟩

/-- `repr` of a value that holds no others. -/
def Interpreter.reprScalar : Value → Except Raised Text
  | .none => .ok (chars ['N', 'o', 'n', 'e'])
  | .bool value => .ok (if value then chars ['T', 'r', 'u', 'e'] else chars ['F', 'a', 'l', 's', 'e'])
  | .int n => interpreter.decimal n
  | .float text => .ok (points text)
  | .str text => .ok (reprString interpreter text)
  | .other typeName => interpreter.objectRepr typeName
  | container => .error (unhashable container)

/-- `repr(value)` -/
def Interpreter.repr (value : Value) : Except Raised Text :=
  Style.render ⟨interpreter.reprScalar, interpreter.reprScalar⟩ value

/-- `str(value)` -/
def Interpreter.str : Value → Except Raised Text
  | .str text => .ok text
  | .other typeName => interpreter.objectStr typeName
  | value => interpreter.repr value

/-- `true` and `false`. -/
def boolText (value : Bool) : Text :=
  if value then chars ['t', 'r', 'u', 'e'] else chars ['f', 'a', 'l', 's', 'e']

/-- A float for `json.dumps`. -/
def jsonFloat (text : String) : Text :=
  if text = "nan" then chars ['N', 'a', 'N']
  else if text = "inf" then chars ['I', 'n', 'f', 'i', 'n', 'i', 't', 'y']
  else if text = "-inf" then chars ['-', 'I', 'n', 'f', 'i', 'n', 'i', 't', 'y']
  else points text

/-- `json.dumps` of a value that holds no others. -/
def Interpreter.jsonScalar : Value → Except Raised Text
  | .none => .ok (chars ['n', 'u', 'l', 'l'])
  | .bool value => .ok (boolText value)
  | .int n => interpreter.decimal n
  | .float text => .ok (jsonFloat text)
  | .str text => .ok (encodeString text)
  | value => .error ⟨.typeError, "Object of type " ++ value.typeName ++ " is not JSON serializable", []⟩

/-- A key for `json.dumps`: a text as it is, another scalar by its own JSON text. -/
def Interpreter.jsonKey : Value → Except Raised Text
  | .str text => .ok (encodeString text)
  | .none => encodeString <$> interpreter.jsonScalar .none
  | .bool value => encodeString <$> interpreter.jsonScalar (.bool value)
  | .int n => encodeString <$> interpreter.jsonScalar (.int n)
  | .float text => encodeString <$> interpreter.jsonScalar (.float text)
  | value =>
    .error ⟨.typeError, "keys must be str, int, float, bool or None, not " ++ value.typeName, []⟩

/-- `json.dumps(value, separators=(", ", ": "))` -/
def Interpreter.dumps (value : Value) : Except Raised Text :=
  Style.render ⟨interpreter.jsonScalar, interpreter.jsonKey⟩ value

/-- The values that `json.loads` gives under a limit of digits. -/
inductive Loaded (limit : Nat) : Value → Prop
  | none : Loaded limit .none
  | bool (value : Bool) : Loaded limit (.bool value)
  | int (n : Int) (fits : Fits limit n) : Loaded limit (.int n)
  | float (text : String) : Loaded limit (.float text)
  | str (text : Text) : Loaded limit (.str text)
  | list (items : List Value) (all : ∀ item ∈ items, Loaded limit item) : Loaded limit (.list items)
  | dict (entries : List (Value × Value)) (keys : ∀ entry ∈ entries, ∃ name, entry.1 = .str name)
      (all : ∀ entry ∈ entries, Loaded limit entry.2) : Loaded limit (.dict entries)

/-- A value that holds no others. -/
def IsScalar : Value → Prop
  | .list _ => False
  | .dict _ => False
  | _ => True

/-- A result that is an allowed exception if it is one. -/
def OnlyRaises {α : Type} (allowed : Raised → Prop) : Except Raised α → Prop
  | .ok _ => True
  | .error raised => allowed raised

section OnlyRaises

variable {α β : Type} {allowed : Raised → Prop} {result : Except Raised α}

/-- More may be allowed. -/
theorem OnlyRaises.mono {allowed' : Raised → Prop} (first : OnlyRaises allowed result)
    (implied : ∀ raised, allowed raised → allowed' raised) : OnlyRaises allowed' result := by
  cases result with
  | error raised => exact implied raised first
  | ok value => trivial

/-- One step after another. -/
theorem OnlyRaises.bind {next : α → Except Raised β} (first : OnlyRaises allowed result)
    (later : ∀ value, OnlyRaises allowed (next value)) : OnlyRaises allowed (result >>= next) := by
  cases result with
  | error raised => exact first
  | ok value => exact later value

/-- A change of the value raises nothing. -/
theorem OnlyRaises.map {change : α → β} (first : OnlyRaises allowed result) :
    OnlyRaises allowed (change <$> result) := by
  cases result with
  | error raised => exact first
  | ok value => trivial

/-- A sequence of two steps returns if both do. -/
theorem returned_of_bind {next : α → Except Raised β} {written : β}
    (returned : result >>= next = .ok written) : ∃ value, result = .ok value ∧ next value = .ok written := by
  cases result with
  | error raised => cases returned
  | ok value => exact ⟨value, rfl, returned⟩

/-- Where nothing may be raised, a value is returned. -/
theorem onlyRaises_false_iff :
    OnlyRaises (fun _ => False) result ↔ ∃ value, result = .ok value := by
  cases result with
  | error raised => simp [OnlyRaises]
  | ok value => simp [OnlyRaises]

end OnlyRaises

section Render

variable {style : Style} {allowed : Raised → Prop} {limit : Nat} {value : Value}

/-- The items of a list raise what one of them raises. -/
theorem renderItems_raises {items : List Value}
    (all : ∀ item ∈ items, OnlyRaises allowed (style.render item)) :
    OnlyRaises allowed (style.renderItems items) := by
  induction items with
  | nil => trivial
  | cons item rest inductionHypothesis =>
    rw [List.forall_mem_cons] at all
    unfold Style.renderItems
    exact all.1.bind fun text => (inductionHypothesis all.2).bind fun texts => trivial

/-- The entries of a dictionary raise what one of their keys or values raises. -/
theorem renderEntries_raises {entries : List (Value × Value)}
    (keys : ∀ entry ∈ entries, OnlyRaises allowed (style.key entry.1))
    (all : ∀ entry ∈ entries, OnlyRaises allowed (style.render entry.2)) :
    OnlyRaises allowed (style.renderEntries entries) := by
  induction entries with
  | nil => trivial
  | cons entry rest inductionHypothesis =>
    rw [List.forall_mem_cons] at keys all
    unfold Style.renderEntries Style.renderEntry
    have first : OnlyRaises allowed (do
        let before ← style.key entry.1
        let after ← style.render entry.2
        pure (before ++ [0x3A, 0x20] ++ after)) :=
      keys.1.bind fun before => all.1.bind fun after => trivial
    exact first.bind fun text => (inductionHypothesis keys.2 all.2).bind fun texts => trivial

/-- A value raises what one of the scalars or keys in it raises. -/
theorem render_raises (loaded : Loaded limit value)
    (scalars : ∀ scalar, Loaded limit scalar → IsScalar scalar → OnlyRaises allowed (style.scalar scalar))
    (keys : ∀ text, OnlyRaises allowed (style.key (.str text))) :
    OnlyRaises allowed (style.render value) := by
  induction loaded with
  | none => exact scalars .none .none trivial
  | bool value => exact scalars (.bool value) (.bool value) trivial
  | int n fits => exact scalars (.int n) (.int n fits) trivial
  | float text => exact scalars (.float text) (.float text) trivial
  | str text => exact scalars (.str text) (.str text) trivial
  | list items all inductionHypothesis =>
    unfold Style.render
    exact (renderItems_raises inductionHypothesis).bind fun inside => trivial
  | dict entries names all inductionHypothesis =>
    unfold Style.render
    refine (renderEntries_raises ?_ inductionHypothesis).bind fun inside => trivial
    intro entry member
    obtain ⟨name, same⟩ := names entry member
    rw [same]
    exact keys name

/-- The texts of a list's items, item by item. -/
theorem renderItems_paired {items : List (Value × Text)}
    (all : ∀ item ∈ items, style.render item.1 = .ok item.2) :
    style.renderItems (items.map Prod.fst) = .ok (items.map Prod.snd) := by
  induction items with
  | nil => rfl
  | cons item rest inductionHypothesis =>
    rw [List.forall_mem_cons] at all
    unfold Style.renderItems
    rw [List.map_cons, List.map_cons]
    simp only [all.1, inductionHypothesis all.2]
    rfl

/-- The texts of a dictionary's entries, entry by entry. -/
theorem renderEntries_paired {entries : List (Text × Value × Text)} (keyText : Text → Text)
    (keys : ∀ name, style.key (.str name) = .ok (keyText name))
    (all : ∀ entry ∈ entries, style.render entry.2.1 = .ok entry.2.2) :
    style.renderEntries (entries.map (fun entry => (.str entry.1, entry.2.1))) =
      .ok (entries.map (fun entry => keyText entry.1 ++ [0x3A, 0x20] ++ entry.2.2)) := by
  induction entries with
  | nil => rfl
  | cons entry rest inductionHypothesis =>
    rw [List.forall_mem_cons] at all
    unfold Style.renderEntries Style.renderEntry
    rw [List.map_cons, List.map_cons]
    simp only [all.1, keys, inductionHypothesis all.2]
    rfl

/-- Each item of a list that is written is written. -/
theorem rendered_of_renderItems {items : List Value} {texts : List Text}
    (written : style.renderItems items = .ok texts) :
    ∀ item ∈ items, ∃ text, style.render item = .ok text := by
  induction items generalizing texts with
  | nil => exact fun item absent => absurd absent List.not_mem_nil
  | cons item rest inductionHypothesis =>
    unfold Style.renderItems at written
    obtain ⟨text, first, later⟩ := returned_of_bind written
    obtain ⟨others, behind, -⟩ := returned_of_bind later
    exact List.forall_mem_cons.mpr ⟨⟨text, first⟩, inductionHypothesis behind⟩

/-- The value of each entry of a dictionary that is written is written. -/
theorem rendered_of_renderEntries {entries : List (Value × Value)} {texts : List Text}
    (written : style.renderEntries entries = .ok texts) :
    ∀ entry ∈ entries, ∃ text, style.render entry.2 = .ok text := by
  induction entries generalizing texts with
  | nil => exact fun entry absent => absurd absent List.not_mem_nil
  | cons entry rest inductionHypothesis =>
    unfold Style.renderEntries Style.renderEntry at written
    obtain ⟨text, first, later⟩ := returned_of_bind written
    obtain ⟨others, behind, -⟩ := returned_of_bind later
    obtain ⟨name, -, first⟩ := returned_of_bind first
    obtain ⟨text, value, -⟩ := returned_of_bind first
    exact List.forall_mem_cons.mpr ⟨⟨text, value⟩, inductionHypothesis behind⟩

end Render

variable {interpreter}

/-- An integer within the limit has a decimal text. -/
theorem decimal_returns {n : Int} (fits : Fits interpreter.maxStrDigits n) :
    interpreter.decimal n = .ok (integerText n) := if_pos fits

end OpaPyWasm.PythonText
