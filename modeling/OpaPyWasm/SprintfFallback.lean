import OpaPyWasm.Sprintf

/-!
# Operands that no verb can format

`_format_verb` takes the text of an operand where the percent operator raises a `TypeError` or
a `ValueError`. An `OverflowError` is neither. It comes of an integer outside the code points
under `%c`, of an infinite float under `%d`, of an integer too large for a float under a float
verb and of a precision at the end of its range.
-/

namespace OpaPyWasm.Sprintf

open Exceptions Values PythonText PercentFormat Patterns

variable {interpreter : Interpreter} {spec : Spec} {letter : Nat} {operand : Value} {verb : Verb}

/-- An operand that an integer conversion takes. -/
def IsIntegral (letter : Nat) : Value → Prop
  | .int _ => True
  | .bool _ => True
  | .float text => letter = 'd'.toNat ∧ text ≠ "nan" ∧ text ≠ "inf" ∧ text ≠ "-inf"
  | _ => False

/-- An operand under a conversion that raises an `OverflowError`. -/
inductive Unfit (spec : Spec) : Nat → Value → Prop
  | character {n : Int} (outside : n < 0 ∨ (maxUnicode : Int) < n) : Unfit spec 'c'.toNat (.int n)
  | infinite {text : String} (infinite : text = "inf" ∨ text = "-inf") :
      Unfit spec 'd'.toNat (.float text)
  | large {letter : Nat} {n : Int} (isFloat : letter ∈ floatLetters) (large : floatBound ≤ n.natAbs) :
      Unfit spec letter (.int n)
  | precise {letter : Nat} {operand : Value} (isInteger : letter ∈ integerLetters)
      (integral : IsIntegral letter operand) (precise : maxPrecision - 3 < spec.precision.getD 0) :
      Unfit spec letter operand

/-- The verb gives its operand to the percent operator with well-formed options, and the operand
is unfit for its conversion. -/
def Overflows (verb : Verb) (operand : Value) : Prop :=
  ∃ spec, parse (verb.flags ++ [verb.letter]) = .ok (spec, verb.letter, []) ∧
    Unfit spec verb.letter operand

/-- What the percent operator may raise. -/
def Expected (overflows : Prop) (raised : Raised) : Prop :=
  raised.kind = .typeError ∨ raised.kind = .valueError ∨ (raised.kind = .overflowError ∧ overflows)

/-- A loaded value has a text. -/
theorem str_returns (loaded : Loaded interpreter.maxStrDigits operand) :
    ∃ text, interpreter.str operand = .ok text := by
  have repr_returns : OnlyRaises (fun _ => False) (interpreter.repr operand) := by
    refine render_raises loaded ?_ (fun text => trivial)
    intro scalar loadedScalar isScalar
    cases loadedScalar with
    | int n fits =>
      exact onlyRaises_false_iff.mpr ⟨_, decimal_returns fits⟩
    | list | dict => exact absurd isScalar id
    | none | bool | float | str => trivial
  rw [onlyRaises_false_iff] at repr_returns
  cases loaded with
  | str text => exact ⟨text, rfl⟩
  | none | bool | int | float | list | dict => exact repr_returns

/-- A loaded value has a JSON text, if `NaN` and the infinities count as such. -/
theorem dumps_returns (loaded : Loaded interpreter.maxStrDigits operand) :
    ∃ text, interpreter.dumps operand = .ok text := by
  rw [← onlyRaises_false_iff]
  refine render_raises loaded ?_ (fun text => trivial)
  intro scalar loadedScalar isScalar
  cases loadedScalar with
  | int n fits =>
    exact onlyRaises_false_iff.mpr ⟨_, decimal_returns fits⟩
  | list | dict => exact absurd isScalar id
  | none | bool | float | str => trivial

section Convert

/-- The integer of an operand is missing by its type, or it is an infinite float. -/
theorem integerOf_ends (isInteger : letter ∈ integerLetters) (operand : Value) :
    OnlyRaises (Expected (Unfit spec letter operand)) (integerOf interpreter letter operand) := by
  unfold integerOf
  split
  · trivial
  · trivial
  · rename_i text
    by_cases decimal : letter = 'd'.toNat
    · subst decimal
      simp only [ne_eq, not_true_eq_false, if_false]
      by_cases nan : text = "nan"
      · rw [if_pos nan]
        exact Or.inr (Or.inl rfl)
      · rw [if_neg nan]
        by_cases infinite : text = "inf" ∨ text = "-inf"
        · rw [if_pos infinite]
          exact Or.inr (Or.inr ⟨rfl, .infinite infinite⟩)
        · rw [if_neg infinite]
          trivial
    · rw [if_pos decimal]
      exact Or.inl rfl
  · exact Or.inl rfl

/-- An operand has an integer exactly if it is integral. -/
theorem integerOf_returns_iff : (∃ n, integerOf interpreter letter operand = .ok n) ↔
    IsIntegral letter operand := by
  unfold integerOf IsIntegral
  cases operand with
  | float text =>
    constructor
    · rintro ⟨n, found⟩
      grind
    · rintro ⟨rfl, nan, infinite, negative⟩
      exact ⟨interpreter.truncated text, by simp [nan, infinite, negative]⟩
  | none | bool | int | str | list | dict | other => simp

/-- An integer is written unless the precision or the number of digits is too large. -/
theorem formatLong_ends (spec : Spec) (letter : Nat) (n : Int) :
    OnlyRaises (Expected (maxPrecision - 3 < spec.precision.getD 0))
      (formatLong interpreter spec letter n) := by
  unfold formatLong
  by_cases precise : maxPrecision - 3 < spec.precision.getD 0
  · rw [if_pos precise]
    exact Or.inr (Or.inr ⟨rfl, precise⟩)
  · rw [if_neg precise]
    split
    · exact Or.inr (Or.inl rfl)
    · trivial

/-- The float of an operand is missing by its type, or an integer is too large. -/
theorem floatOf_ends (isFloat : letter ∈ floatLetters) (operand : Value) :
    OnlyRaises (Expected (Unfit spec letter operand)) (floatOf interpreter operand) := by
  unfold floatOf
  split
  · trivial
  · trivial
  · rename_i n
    by_cases large : floatBound ≤ n.natAbs
    · rw [if_pos large]
      exact Or.inr (Or.inr ⟨rfl, .large isFloat large⟩)
    · rw [if_neg large]
      trivial
  · exact Or.inl rfl

/-- The character of an operand is missing by its type, or an integer is outside the range. -/
theorem characterOf_ends (operand : Value) :
    OnlyRaises (Expected (Unfit spec 'c'.toNat operand)) (characterOf operand) := by
  unfold characterOf
  split
  · trivial
  · split
    · exact Or.inr (Or.inr ⟨rfl, .character ‹_›⟩)
    · trivial
  · trivial
  · exact Or.inl rfl

/-- More may be expected. -/
theorem Expected.mono {first second : Prop} {raised : Raised} (expected : Expected first raised)
    (implied : first → second) : Expected second raised :=
  expected.imp_right (Or.imp_right (And.imp_right implied))

/-- A conversion raises an `OverflowError` only on an unfit operand, and otherwise a `TypeError` or
a `ValueError`. -/
theorem convert_ends (loaded : Loaded interpreter.maxStrDigits operand) :
    OnlyRaises (Expected (Unfit spec letter operand)) (convert interpreter spec letter operand) := by
  unfold convert
  split
  · obtain ⟨text, written⟩ := str_returns loaded
    rw [written]
    trivial
  split
  · rename_i isInteger
    cases found : integerOf interpreter letter operand with
    | error raised =>
      have ends : OnlyRaises (Expected (Unfit spec letter operand))
          (integerOf interpreter letter operand) := integerOf_ends isInteger operand
      rw [found] at ends
      exact ends
    | ok n =>
      have integral := integerOf_returns_iff.mp ⟨n, found⟩
      refine ((formatLong_ends spec letter n).mono fun raised expected => ?_).map
      exact expected.mono fun precise => .precise isInteger integral precise
  split
  · rename_i isFloat
    exact (floatOf_ends isFloat operand).bind fun x => trivial
  split
  · rename_i character
    subst character
    exact (characterOf_ends operand).map
  split
  · split
    · trivial
    · exact Or.inl rfl
  · exact Or.inr (Or.inl rfl)

variable (interpreter) in
/-- A conversion of an unfit operand raises an `OverflowError`. -/
theorem convert_unfit (unfit : Unfit spec letter operand) :
    ∃ raised, convert interpreter spec letter operand = .error raised ∧
      raised.kind = .overflowError := by
  cases unfit with
  | character outside =>
    refine ⟨⟨.overflowError, "%c arg not in range(0x110000)", []⟩, ?_, rfl⟩
    simp only [convert, characterOf, if_pos outside]
    rfl
  | infinite infinite =>
    refine ⟨⟨.overflowError, "cannot convert float infinity to integer", []⟩, ?_, rfl⟩
    rcases infinite with rfl | rfl
    · rfl
    · rfl
  | large isFloat large =>
    have others : ∀ letter ∈ floatLetters, letter ≠ 's'.toNat ∧ letter ∉ integerLetters := by decide
    refine ⟨⟨.overflowError, "int too large to convert to float", []⟩, ?_, rfl⟩
    unfold convert floatOf
    rw [if_neg (others letter isFloat).1, if_neg (others letter isFloat).2, if_pos isFloat]
    simp only [if_pos large]
    rfl
  | precise isInteger integral precise =>
    obtain ⟨n, found⟩ : ∃ n, integerOf interpreter letter operand = .ok n :=
      integerOf_returns_iff.mpr integral
    refine ⟨⟨.overflowError, "precision too large", []⟩, ?_, rfl⟩
    have other : letter ≠ 's'.toNat := by rintro rfl; exact absurd isInteger (by decide)
    unfold convert
    rw [if_neg other, if_pos isInteger, found]
    unfold formatLong
    simp only [bind, Except.bind]
    rw [if_pos precise]
    rfl

end Convert

section Parse

variable {text rest tail : Text} {limit number : Nat} {tooBig : Raised}

/-- A number in a format raises only if it is too big. -/
theorem takeNumber_ends (number : Nat) (text : Text) :
    OnlyRaises (fun raised => raised = tooBig) (takeNumber limit tooBig number text) := by
  induction text generalizing number with
  | nil => trivial
  | cons point rest inductionHypothesis =>
    unfold takeNumber
    split
    · split
      · exact rfl
      · exact inductionHypothesis _
    · trivial

/-- The options of a format raise only a `ValueError`. -/
theorem parse_ends (text : Text) :
    OnlyRaises (fun raised => raised.kind = .valueError) (parse text) := by
  have width : ∀ text, OnlyRaises (fun raised => raised.kind = .valueError) (takeWidth text) := by
    intro text
    unfold takeWidth
    split
    · trivial
    split
    · refine OnlyRaises.bind ((takeNumber_ends 0 _).mono fun raised same => ?_) fun found => trivial
      rw [same]
    · trivial
  have precision : ∀ text, OnlyRaises (fun raised => raised.kind = .valueError) (takePrecision text) := by
    intro text
    unfold takePrecision
    split
    · trivial
    split
    · refine OnlyRaises.bind ((takeNumber_ends 0 _).mono fun raised same => ?_) fun found => trivial
      rw [same]
    · trivial
  unfold parse
  refine (width _).bind fun found => (precision _).bind fun found' => ?_
  obtain ⟨precise, rest⟩ := found'
  cases rest with
  | nil => exact rfl
  | cons conversion tail => trivial

/-- The flags leave an end of the text. -/
theorem takeFlags_suffix (text : Text) (spec : Spec) : (takeFlags text spec).2 <:+ text := by
  induction text generalizing spec with
  | nil => exact List.suffix_rfl
  | cons point rest inductionHypothesis =>
    have later : ∀ spec, (takeFlags rest spec).2 <:+ point :: rest := fun spec =>
      (inductionHypothesis spec).trans (List.suffix_cons point rest)
    unfold takeFlags
    split
    · exact later _
    split
    · exact later _
    split
    · exact later _
    split
    · exact later _
    split
    · exact later _
    · exact List.suffix_rfl

/-- A number leaves an end of the text. -/
theorem takeNumber_suffix {found : Nat} (taken : takeNumber limit tooBig number text = .ok (found, rest)) :
    rest <:+ text := by
  induction text generalizing number with
  | nil =>
    cases taken
    exact List.suffix_rfl
  | cons point behind inductionHypothesis =>
    unfold takeNumber at taken
    split at taken
    · split at taken
      · cases taken
      · exact (inductionHypothesis taken).trans (List.suffix_cons point behind)
    · cases taken
      exact List.suffix_rfl

/-- A width leaves an end of the text. -/
theorem takeWidth_suffix {width : Option Nat} (taken : takeWidth text = .ok (width, rest)) :
    rest <:+ text := by
  unfold takeWidth at taken
  split at taken
  · cases taken
    exact List.suffix_rfl
  split at taken
  · obtain ⟨found, number, same⟩ := returned_of_bind taken
    cases same
    exact takeNumber_suffix number
  · cases taken
    exact List.suffix_rfl

/-- A precision leaves an end of the text. -/
theorem takePrecision_suffix {precision : Option Nat} (taken : takePrecision text = .ok (precision, rest)) :
    rest <:+ text := by
  unfold takePrecision at taken
  split at taken
  · cases taken
    exact List.suffix_rfl
  split at taken
  · obtain ⟨found, number, same⟩ := returned_of_bind taken
    cases same
    exact (takeNumber_suffix number).trans (List.suffix_cons ..)
  · cases taken
    exact List.suffix_rfl

/-- The conversion and what stands behind it are an end of the text. -/
theorem parse_suffix (parsed : parse text = .ok (spec, letter, tail)) : letter :: tail <:+ text := by
  unfold parse at parsed
  obtain ⟨⟨width, behindWidth⟩, wide, parsed⟩ := returned_of_bind parsed
  obtain ⟨⟨precision, behindPrecision⟩, precise, parsed⟩ := returned_of_bind parsed
  cases behindPrecision with
  | nil => cases parsed
  | cons conversion behind =>
    cases parsed
    exact (takePrecision_suffix precise).trans
      ((takeWidth_suffix wide).trans (takeFlags_suffix text Spec.plain))

/-- A conversion that is the letter of a verb is its last character. -/
theorem parse_verb {verb : Verb} (letters : isLetter letter = true)
    (parsed : parse (verb.flags ++ [verb.letter]) = .ok (spec, letter, tail)) :
    letter = verb.letter ∧ tail = [] := by
  obtain ⟨before, split⟩ := parse_suffix parsed
  rcases tail.eq_nil_or_concat with rfl | ⟨behind, last, rfl⟩
  · exact ⟨(List.cons.inj (List.append_inj' split rfl).2).1, rfl⟩
  · rw [List.concat_eq_append, ← List.cons_append, ← List.append_assoc] at split
    have inside : letter ∈ verb.flags := by
      rw [← (List.append_inj' split rfl).1]
      simp
    have flag := verb.isFlags letter inside
    rw [isFlag_of_isLetter letters] at flag
    cases flag

end Parse

/-- The conversions of unfit operands. -/
theorem Unfit.letter_mem (unfit : Unfit spec letter operand) :
    letter ∈ 'c'.toNat :: (integerLetters ++ floatLetters) := by
  cases unfit with
  | character outside => decide
  | infinite infinite => decide
  | large isFloat large => exact List.mem_cons_of_mem _ (List.mem_append_right _ isFloat)
  | precise isInteger integral precise =>
    exact List.mem_cons_of_mem _ (List.mem_append_left _ isInteger)

/-- Every conversion of an unfit operand is a letter of the verbs, and none of the four that
`_format_verb` writes itself. -/
theorem Unfit.isLetter (unfit : Unfit spec letter operand) :
    Sprintf.isLetter letter = true ∧ letter ∉ chars ['T', 'v', 't', 'q'] := by
  have known : ∀ letter ∈ 'c'.toNat :: (integerLetters ++ floatLetters),
      Sprintf.isLetter letter = true ∧ letter ∉ chars ['T', 'v', 't', 'q'] := by decide
  exact known letter unfit.letter_mem

/-- The percent operator on a loaded operand. -/
theorem percent_eq (loaded : Loaded interpreter.maxStrDigits operand) (verb : Verb) :
    percent interpreter verb.text operand = (do
      let (spec, conversion, tail) ← parse (verb.flags ++ [verb.letter])
      let text ← convert interpreter spec conversion operand
      pure (text ++ tail)) := by
  cases loaded with
  | none | bool | int | float | str | list | dict => rfl

/-- Under a verb the percent operator raises a `TypeError`, a `ValueError` or, if the verb
overflows, an `OverflowError`. -/
theorem percent_ends (loaded : Loaded interpreter.maxStrDigits operand) (verb : Verb) :
    OnlyRaises (Expected (Overflows verb operand)) (percent interpreter verb.text operand) := by
  rw [percent_eq loaded]
  cases parsed : parse (verb.flags ++ [verb.letter]) with
  | error raised =>
    have ends := parse_ends (verb.flags ++ [verb.letter])
    rw [parsed] at ends
    exact Or.inr (Or.inl ends)
  | ok found =>
    obtain ⟨spec, conversion, tail⟩ := found
    have converted : OnlyRaises (Expected (Unfit spec conversion operand))
        (convert interpreter spec conversion operand) := convert_ends loaded
    have overflows : Unfit spec conversion operand → Overflows verb operand := by
      intro unfit
      obtain ⟨rfl, rfl⟩ := parse_verb unfit.isLetter.1 parsed
      exact ⟨spec, parsed, unfit⟩
    have appended : ∀ text, OnlyRaises (Expected (Overflows verb operand))
        (pure (text ++ tail) : Except Raised Text) := fun text => trivial
    exact (converted.mono fun raised expected => expected.mono overflows).bind appended

/-- A verb that overflows raises an `OverflowError`. -/
theorem percent_overflows (loaded : Loaded interpreter.maxStrDigits operand)
    (overflows : Overflows verb operand) :
    ∃ raised, percent interpreter verb.text operand = .error raised ∧
      raised.kind = .overflowError := by
  obtain ⟨spec, parsed, unfit⟩ := overflows
  obtain ⟨raised, failed, kind⟩ := convert_unfit interpreter unfit
  refine ⟨raised, ?_, kind⟩
  rw [percent_eq loaded, parsed]
  simp only [bind, Except.bind]
  rw [failed]

/-- `verb[-1]` -/
theorem Verb.getLast_text (verb : Verb) : verb.text.getLast? = some verb.letter := by
  unfold Verb.text
  rw [← List.cons_append, List.getLast?_concat]

/-- The letters that `_format_verb` writes itself. -/
theorem Verb.apart (other : verb.letter ∉ chars ['T', 'v', 't', 'q']) :
    verb.letter ≠ 'T'.toNat ∧ verb.letter ≠ 'v'.toNat ∧ verb.letter ≠ 't'.toNat ∧
      verb.letter ≠ 'q'.toNat := by
  simpa [chars] using other

/-- Any other verb is written by the percent operator. -/
theorem formatVerb_formatted (other : verb.letter ∉ chars ['T', 'v', 't', 'q']) {text : Text}
    (formatted : percent interpreter verb.text operand = .ok text) :
    formatVerb interpreter verb.text operand = .ok text := by
  have apart := Verb.apart other
  unfold formatVerb
  simp only [verb.getLast_text, Option.some.injEq]
  rw [if_neg apart.1, if_neg apart.2.1, if_neg apart.2.2.1, if_neg apart.2.2.2, formatted]

/-- What it raises is handled or passed on. -/
theorem formatVerb_failed (other : verb.letter ∉ chars ['T', 'v', 't', 'q']) {raised : Raised}
    (failed : percent interpreter verb.text operand = .error raised) :
    formatVerb interpreter verb.text operand =
      if raised.kind = .typeError ∨ raised.kind.isValueError = true then
        whileHandling raised (interpreter.str operand)
      else .error raised := by
  have apart := Verb.apart other
  unfold formatVerb
  simp only [verb.getLast_text, Option.some.injEq]
  rw [if_neg apart.1, if_neg apart.2.1, if_neg apart.2.2.1, if_neg apart.2.2.2, failed]

/-- The four that `_format_verb` writes itself return. -/
theorem formatVerb_own (loaded : Loaded interpreter.maxStrDigits operand)
    (own : verb.letter ∈ chars ['T', 'v', 't', 'q']) :
    ∃ text, formatVerb interpreter verb.text operand = .ok text := by
  have letters : verb.letter = 'T'.toNat ∨ verb.letter = 'v'.toNat ∨ verb.letter = 't'.toNat ∨
      verb.letter = 'q'.toNat := by simpa [chars] using own
  obtain ⟨text, written⟩ := str_returns loaded
  obtain ⟨dumped, json⟩ := dumps_returns loaded
  unfold formatVerb
  rw [verb.getLast_text]
  rcases letters with same | same | same | same
  · exact ⟨_, if_pos (congrArg some same)⟩
  · rw [same]
    cases loaded with
    | list | dict => exact ⟨dumped, json⟩
    | bool value => exact ⟨_, rfl⟩
    | none | int | float | str => exact ⟨text, written⟩
  · rw [same]
    cases loaded with
    | none | bool | int | float | str | list | dict => exact ⟨_, rfl⟩
  · rw [same]
    cases loaded with
    | str text => exact ⟨_, rfl⟩
    | none | bool | int | float | list | dict =>
      exact ⟨encodeString text, congrArg (Functor.map encodeString) written⟩

/-- A verb that overflows raises the `OverflowError` of the percent operator. -/
theorem formatVerb_overflows (loaded : Loaded interpreter.maxStrDigits operand)
    (overflows : Overflows verb operand) :
    ∃ raised, formatVerb interpreter verb.text operand = .error raised ∧
      raised.kind = .overflowError := by
  obtain ⟨raised, failed, kind⟩ := percent_overflows loaded overflows
  obtain ⟨spec, parsed, unfit⟩ := overflows
  refine ⟨raised, ?_, kind⟩
  rw [formatVerb_failed unfit.isLetter.2 failed]
  exact if_neg (by rw [kind]; decide)

/-- A verb falls back to the text of its operand unless it overflows. -/
theorem formatVerb_falls (loaded : Loaded interpreter.maxStrDigits operand) (fits : ¬Overflows verb operand)
    (other : verb.letter ∉ chars ['T', 'v', 't', 'q']) {raised : Raised}
    (failed : percent interpreter verb.text operand = .error raised) :
    formatVerb interpreter verb.text operand = interpreter.str operand := by
  have expected := percent_ends loaded verb
  rw [failed] at expected
  have caught : raised.kind = .typeError ∨ raised.kind.isValueError = true := by
    rcases expected with kind | kind | ⟨-, overflows⟩
    · exact Or.inl kind
    · exact Or.inr (kind ▸ rfl)
    · exact absurd overflows fits
  obtain ⟨text, written⟩ := str_returns loaded
  rw [formatVerb_failed other failed, written]
  exact if_pos caught

/-- A verb that does not overflow writes its operand. -/
theorem formatVerb_returns (loaded : Loaded interpreter.maxStrDigits operand)
    (fits : ¬Overflows verb operand) : ∃ text, formatVerb interpreter verb.text operand = .ok text := by
  by_cases own : verb.letter ∈ chars ['T', 'v', 't', 'q']
  · exact formatVerb_own loaded own
  · cases formatted : percent interpreter verb.text operand with
    | ok text => exact ⟨text, formatVerb_formatted own formatted⟩
    | error raised =>
      rw [formatVerb_falls loaded fits own formatted]
      exact str_returns loaded

/-- What a verb raises is an `OverflowError`. -/
theorem formatVerb_ends (loaded : Loaded interpreter.maxStrDigits operand) (verb : Verb) :
    OnlyRaises (fun raised => raised.kind = .overflowError)
      (formatVerb interpreter verb.text operand) := by
  by_cases overflows : Overflows verb operand
  · obtain ⟨raised, failed, kind⟩ := formatVerb_overflows loaded overflows
    rw [failed]
    exact kind
  · obtain ⟨text, written⟩ := formatVerb_returns loaded overflows
    rw [written]
    trivial

/-- A verb writes its operand exactly if it does not overflow. -/
theorem formatVerb_returns_iff (loaded : Loaded interpreter.maxStrDigits operand) :
    (∃ text, formatVerb interpreter verb.text operand = .ok text) ↔ ¬Overflows verb operand := by
  constructor
  · rintro ⟨text, written⟩ overflows
    obtain ⟨raised, failed, -⟩ := formatVerb_overflows loaded overflows
    rw [written] at failed
    cases failed
  · exact formatVerb_returns loaded

section Renderings

variable {verbs : List Verb} {operands : List Value}

/-- The operands are written exactly if no verb overflows on its operand. -/
theorem renderings_return_iff (loaded : ∀ operand ∈ operands, Loaded interpreter.maxStrDigits operand) :
    (∃ texts, renderings interpreter verbs operands = .ok texts) ↔
      ∀ pair ∈ verbs.zip operands, ¬Overflows pair.1 pair.2 := by
  induction verbs generalizing operands with
  | nil => exact ⟨fun _ pair absent => absurd absent List.not_mem_nil, fun _ => ⟨[], rfl⟩⟩
  | cons verb verbs inductionHypothesis =>
    cases operands with
    | nil => exact ⟨fun _ pair absent => absurd absent List.not_mem_nil, fun _ => ⟨[], rfl⟩⟩
    | cons operand operands =>
      rw [List.forall_mem_cons] at loaded
      rw [List.zip_cons_cons, List.forall_mem_cons, ← inductionHypothesis loaded.2,
        ← formatVerb_returns_iff loaded.1, renderings_cons]
      constructor
      · rintro ⟨texts, written⟩
        obtain ⟨text, first, later⟩ := returned_of_bind written
        obtain ⟨others, rest, -⟩ := returned_of_bind later
        exact ⟨⟨text, first⟩, others, rest⟩
      · rintro ⟨⟨text, first⟩, others, rest⟩
        exact ⟨text :: others, by rw [first, rest]; rfl⟩

/-- What the operands raise is an `OverflowError`. -/
theorem renderings_end (loaded : ∀ operand ∈ operands, Loaded interpreter.maxStrDigits operand) :
    OnlyRaises (fun raised => raised.kind = .overflowError) (renderings interpreter verbs operands) := by
  induction verbs generalizing operands with
  | nil => trivial
  | cons verb verbs inductionHypothesis =>
    cases operands with
    | nil => trivial
    | cons operand operands =>
      rw [List.forall_mem_cons] at loaded
      rw [renderings_cons]
      exact (formatVerb_ends loaded.1 verb).bind fun text =>
        (inductionHypothesis loaded.2).bind fun texts => trivial

end Renderings

variable {format : Text} {pieces : List Piece} {operands : List Value}

/-- `_sprintf` returns a text, and a verb that the percent operator cannot format gets the text of
its operand. -/
structure NeverFails (interpreter : Interpreter) (format : Text) (pieces : List Piece)
    (operands : List Value) : Prop where
  returns : ∃ text, sprintf interpreter (.str format) (.list operands) = .ok (.str text)
  falls : ∀ pair ∈ (verbsOf Verb.takesInCode pieces).zip operands,
    pair.1.letter ∉ chars ['T', 'v', 't', 'q'] →
      ∀ raised, percent interpreter pair.1.text pair.2 = .error raised →
        formatVerb interpreter pair.1.text pair.2 = interpreter.str pair.2

/-- `_sprintf` returns a text exactly if there is an operand for every verb other than `%%` and no
verb overflows on its operand. -/
theorem sprintf_returns_iff (scans : Scans format pieces)
    (loaded : ∀ operand ∈ operands, Loaded interpreter.maxStrDigits operand) :
    (∃ text, sprintf interpreter (.str format) (.list operands) = .ok (.str text)) ↔
      (verbsOf Verb.takesInCode pieces).length ≤ operands.length ∧
        ∀ pair ∈ (verbsOf Verb.takesInCode pieces).zip operands, ¬Overflows pair.1 pair.2 := by
  rw [← renderings_return_iff loaded]
  unfold sprintf
  simp only
  rw [sprintfRun_eq scans, runPieces_eq]
  cases renderings interpreter (verbsOf Verb.takesInCode pieces) operands with
  | error raised => simp [bind, Except.bind]
  | ok texts =>
    simp only [bind, Except.bind]
    by_cases short : operands.length < (verbsOf Verb.takesInCode pieces).length
    · rw [if_pos short]
      simp
      omega
    · rw [if_neg short]
      exact ⟨fun _ => ⟨Nat.le_of_not_lt short, texts, rfl⟩, fun _ => ⟨_, rfl⟩⟩

/-- `_sprintf` never fails exactly if there is an operand for every verb other than `%%` and none of
these overflows on its operand.

Proof: the run returns exactly under the condition, and each conversion that does not overflow
raises what the fallback handles. -/
theorem never_fails_iff (scans : Scans format pieces)
    (loaded : ∀ operand ∈ operands, Loaded interpreter.maxStrDigits operand) :
    NeverFails interpreter format pieces operands ↔
      (verbsOf Verb.takesInCode pieces).length ≤ operands.length ∧
        ∀ pair ∈ (verbsOf Verb.takesInCode pieces).zip operands, ¬Overflows pair.1 pair.2 := by
  constructor
  · exact fun never => (sprintf_returns_iff scans loaded).mp never.returns
  · rintro ⟨supplied, fits⟩
    refine ⟨(sprintf_returns_iff scans loaded).mpr ⟨supplied, fits⟩, ?_⟩
    intro pair member other raised failed
    exact formatVerb_falls (loaded pair.2 (List.of_mem_zip member).2) (fits pair member) other failed

/-- An interpreter with the default limit of digits, for operands that need nothing else of it. -/
def defaultInterpreter : Interpreter where
  maxStrDigits := 4300
  printable := fun _ => false
  truncated := fun _ => 0
  floatOf := fun _ => "0.0"
  formatFloat := fun _ _ _ _ => chars ['0']
  percentBehindOptions := false
  objectStr := fun _ => .error ⟨.otherException, "", []⟩
  objectRepr := fun _ => .error ⟨.otherException, "", []⟩
  objectTruth := fun _ => .ok true
  objectFormat := fun _ _ => .error ⟨.otherException, "", []⟩

/-- `%s` -/
def stringVerb : Verb := ⟨[], 's'.toNat, by decide, by decide⟩

/-- `%c` -/
def characterVerb : Verb := ⟨[], 'c'.toNat, by decide, by decide⟩

/-- `%d` -/
def decimalVerb : Verb := ⟨[], 'd'.toNat, by decide, by decide⟩

/-- `%v` -/
def defaultVerb : Verb := ⟨[], 'v'.toNat, by decide, by decide⟩

/-- `%%` -/
def percentVerb : Verb := ⟨[], '%'.toNat, by decide, by decide⟩

/-- `%5%` -/
def paddedPercent : Verb := ⟨chars ['5'], '%'.toNat, by decide, by decide⟩

/-- `sprintf("%s", [null])` returns. -/
theorem never_fails_iff_null :
    NeverFails defaultInterpreter stringVerb.text [.verb stringVerb] [.none] := by
  refine (never_fails_iff (.verb stringVerb .nil) ?_).mpr ⟨by decide, ?_⟩
  · simpa using Loaded.none
  · intro pair member overflows
    obtain rfl := List.mem_singleton.mp member
    obtain ⟨spec, -, unfit⟩ := overflows
    exact absurd unfit.letter_mem (by decide)

/-- `sprintf("%c", [-1])` has an operand for its verb and raises an `OverflowError`. -/
theorem character_overflows :
    (verbsOf Verb.takesOperand [.verb characterVerb]).length ≤ [Value.int (-1)].length ∧
      Loaded defaultInterpreter.maxStrDigits (.int (-1)) ∧
      ∃ raised, sprintf defaultInterpreter (.str characterVerb.text) (.list [.int (-1)]) = .error raised ∧
        raised.kind = .overflowError :=
  ⟨by decide, .int (-1) (by decide), _, rfl, rfl⟩

end OpaPyWasm.Sprintf
