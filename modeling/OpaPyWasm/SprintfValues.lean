import OpaPyWasm.SprintfFallback
import OpaPyWasm.ValueCrossing

/-!
# Values under the verb v

`%v` gives a string as it is. Any other JSON value with finite numbers has one text with the
separators `", "` and `": "`, in which each scalar is written the same at every depth. At the
top level the code has its own branches for the scalars: `str` for numbers and null, and
`true` and `false` for booleans.
-/

namespace OpaPyWasm.Sprintf

open Exceptions Values PythonText PercentFormat ValueCrossing

variable {interpreter : Interpreter} {value : Value} {text : Text}

/-- The text of an entry of an object. -/
def entryText (name text : Text) : Text := encodeString name ++ [0x3A, 0x20] ++ text

/-- The JSON text of a value with finite numbers, with the separators `", "` and `": "`. -/
inductive Spaced : Value → Text → Prop
  | none : Spaced .none (chars ['n', 'u', 'l', 'l'])
  | bool (value : Bool) : Spaced (.bool value) (boolText value)
  | int (n : Int) : Spaced (.int n) (integerText n)
  | float (text : String) (finite : text ≠ "nan" ∧ text ≠ "inf" ∧ text ≠ "-inf") :
      Spaced (.float text) (points text)
  | str (text : Text) : Spaced (.str text) (encodeString text)
  | list (items : List (Value × Text)) (all : ∀ item ∈ items, Spaced item.1 item.2) :
      Spaced (.list (items.map Prod.fst)) ([0x5B] ++ joined (items.map Prod.snd) ++ [0x5D])
  | dict (entries : List (Text × Value × Text)) (all : ∀ entry ∈ entries, Spaced entry.2.1 entry.2.2) :
      Spaced (.dict (entries.map (fun entry => (.str entry.1, entry.2.1))))
        ([0x7B] ++ joined (entries.map (fun entry => entryText entry.1 entry.2.2)) ++ [0x7D])

/-- A choice for each item of a list. -/
theorem exists_paired {α β : Type} {chosen : α → β → Prop} {items : List α}
    (all : ∀ item ∈ items, ∃ choice, chosen item choice) :
    ∃ pairs : List (α × β), pairs.map Prod.fst = items ∧ ∀ pair ∈ pairs, chosen pair.1 pair.2 := by
  induction items with
  | nil => exact ⟨[], rfl, fun pair absent => absurd absent List.not_mem_nil⟩
  | cons item rest inductionHypothesis =>
    rw [List.forall_mem_cons] at all
    obtain ⟨choice, first⟩ := all.1
    obtain ⟨pairs, same, later⟩ := inductionHypothesis all.2
    exact ⟨(item, choice) :: pairs, congrArg _ same, List.forall_mem_cons.mpr ⟨first, later⟩⟩

/-- Every JSON value has such a text. -/
theorem spaced_exists (known : IsJsonValue value) : ∃ text, Spaced value text := by
  induction known with
  | none => exact ⟨_, .none⟩
  | bool value => exact ⟨_, .bool value⟩
  | int n => exact ⟨_, .int n⟩
  | float text finite => exact ⟨_, .float text (by simpa using finite)⟩
  | str text characters => exact ⟨_, .str text⟩
  | list items all inductionHypothesis =>
    obtain ⟨pairs, rfl, spaced⟩ := exists_paired inductionHypothesis
    exact ⟨_, .list pairs spaced⟩
  | dict entries keys distinct all inductionHypothesis =>
    obtain ⟨pairs, rfl, spaced⟩ := exists_paired inductionHypothesis
    have placed := Spaced.dict (pairs.map (fun pair => (pair.1.1, pair.1.2, pair.2)))
      (List.forall_mem_map.mpr spaced)
    rw [List.map_map] at placed
    rw [List.map_map]
    exact ⟨_, placed⟩

section Dumps

/-- `json.dumps` writes this text, if no integer has too many digits.

Proof: by induction on the value. -/
theorem dumps_spaced (spaced : Spaced value text) (loaded : Loaded interpreter.maxStrDigits value) :
    interpreter.dumps value = .ok text := by
  induction spaced with
  | none => rfl
  | bool value => rfl
  | int n =>
    cases loaded with
    | int _ fits => exact decimal_returns fits
  | float text finite =>
    refine congrArg Except.ok ?_
    unfold jsonFloat
    rw [if_neg finite.1, if_neg finite.2.1, if_neg finite.2.2]
  | str text => rfl
  | list items all inductionHypothesis =>
    cases loaded with
    | list _ loadedItems =>
      have written := renderItems_paired fun item member =>
        inductionHypothesis item member (loadedItems _ (List.mem_map_of_mem member))
      unfold Interpreter.dumps Style.render
      rw [written]
      rfl
  | dict entries all inductionHypothesis =>
    cases loaded with
    | dict _ keys loadedEntries =>
      have written := renderEntries_paired encodeString (fun name => rfl)
        fun entry member => inductionHypothesis entry member
          (loadedEntries _ (List.mem_map_of_mem member))
      unfold Interpreter.dumps Style.render
      rw [written]
      rfl

/-- What `json.dumps` writes has no integer with too many digits. -/
theorem loaded_of_dumps (spaced : Spaced value text) {written : Text}
    (returned : interpreter.dumps value = .ok written) : Loaded interpreter.maxStrDigits value := by
  induction spaced generalizing written with
  | none => exact .none
  | bool value => exact .bool value
  | int n =>
    refine .int n (Classical.byContradiction fun tooLong => ?_)
    cases (show interpreter.decimal n = _ from if_neg tooLong).symm.trans returned
  | float text finite => exact .float text
  | str text => exact .str text
  | list items all inductionHypothesis =>
    unfold Interpreter.dumps Style.render at returned
    obtain ⟨inside, rendered, -⟩ := returned_of_bind returned
    refine .list _ (List.forall_mem_map.mpr fun item member => ?_)
    obtain ⟨text, itself⟩ := rendered_of_renderItems rendered item.1 (List.mem_map_of_mem member)
    exact inductionHypothesis item member itself
  | dict entries all inductionHypothesis =>
    unfold Interpreter.dumps Style.render at returned
    obtain ⟨inside, rendered, -⟩ := returned_of_bind returned
    refine .dict _ (List.forall_mem_map.mpr fun entry member => ⟨entry.1, rfl⟩)
      (List.forall_mem_map.mpr fun entry member => ?_)
    obtain ⟨text, itself⟩ := rendered_of_renderEntries rendered _ (List.mem_map_of_mem member)
    exact inductionHypothesis entry member itself

end Dumps

/-- A string as it is, and the JSON text of any other value. -/
def plainText : Value → Text → Text
  | .str own, _ => own
  | _, text => text

/-- The verb `%v`, with any flags, on the values that have a JSON text: a null is written as
`None`, and every other value as it should be, as far as its integers can be written.

Proof: one case for each kind of value. A container is dumped, which raises exactly if one of
its integers has too many digits. -/
theorem default_verb_uniform_iff {verb : Verb} (isDefault : verb.letter = 'v'.toNat)
    (spaced : Spaced value text) :
    formatVerb interpreter verb.text value = .ok (plainText value text) ↔
      value ≠ .none ∧ Loaded interpreter.maxStrDigits value := by
  unfold formatVerb
  rw [verb.getLast_text, isDefault]
  cases spaced with
  | none =>
    refine ⟨fun same => ?_, fun both => absurd rfl both.1⟩
    exact absurd (Except.ok.inj same) (by decide)
  | bool value => exact ⟨fun _ => ⟨nofun, .bool value⟩, fun _ => rfl⟩
  | int n =>
    exact ⟨fun returned => ⟨nofun, loaded_of_dumps (.int n) returned⟩,
      fun both => dumps_spaced (.int n) both.2⟩
  | float text finite => exact ⟨fun _ => ⟨nofun, .float text⟩, fun _ => rfl⟩
  | str text => exact ⟨fun _ => ⟨nofun, .str text⟩, fun _ => rfl⟩
  | list items all =>
    exact ⟨fun returned => ⟨nofun, loaded_of_dumps (.list items all) returned⟩,
      fun both => dumps_spaced (.list items all) both.2⟩
  | dict entries all =>
    exact ⟨fun returned => ⟨nofun, loaded_of_dumps (.dict entries all) returned⟩,
      fun both => dumps_spaced (.dict entries all) both.2⟩

/-- `%v` on `[null]` writes `[null]`. -/
theorem default_verb_uniform_iff_list :
    formatVerb defaultInterpreter defaultVerb.text (.list [.none]) =
      .ok (plainText (.list [.none]) ([0x5B] ++ joined [chars ['n', 'u', 'l', 'l']] ++ [0x5D])) :=
  (default_verb_uniform_iff rfl
    (.list [(.none, chars ['n', 'u', 'l', 'l'])] (by simpa using Spaced.none))).mpr
      ⟨nofun, .list _ (by simpa using Loaded.none)⟩

/-- `%v` on null writes `None` and not its JSON text, which it writes inside a list. -/
theorem null_not_uniform :
    Spaced .none (chars ['n', 'u', 'l', 'l']) ∧
      formatVerb defaultInterpreter defaultVerb.text .none ≠
        .ok (plainText .none (chars ['n', 'u', 'l', 'l'])) ∧
      sprintf defaultInterpreter (.str defaultVerb.text) (.list [.none]) =
        .ok (.str (chars ['N', 'o', 'n', 'e'])) ∧
      sprintf defaultInterpreter (.str defaultVerb.text) (.list [.list [.none]]) =
        .ok (.str (chars ['[', 'n', 'u', 'l', 'l', ']'])) :=
  ⟨.none, fun same => absurd (Except.ok.inj same) (by decide), rfl, rfl⟩

end OpaPyWasm.Sprintf
