import OpaPyWasm.Library.Numerals
import OpaPyWasm.SprintfFallback

/-!
# The integer verbs

`%d`, `%o`, `%x` and `%X` are conversions of Python's percent operator, which write the numeral
of an integer in base 10, 8 and 16. Python has no conversion `%b`: it raises a `ValueError`, and
the fallback of `_format_verb` writes the integer in base 10.
-/

namespace OpaPyWasm.Sprintf

open Exceptions Values PythonText PercentFormat Patterns Numerals

/-- The integer verbs. -/
inductive IntegerVerb where
  | d
  | o
  | x
  | X
  | b
deriving DecidableEq

/-- The letter of a verb. -/
def IntegerVerb.letter : IntegerVerb → Char
  | .d => 'd'
  | .o => 'o'
  | .x => 'x'
  | .X => 'X'
  | .b => 'b'

/-- The base of a verb, as Go has it. -/
def IntegerVerb.base : IntegerVerb → Nat
  | .d => 10
  | .o => 8
  | .x => 16
  | .X => 16
  | .b => 2

/-- The code point of a digit: letters stand for the digits from 10 on, in upper case under `%X`. -/
def IntegerVerb.glyph (kind : IntegerVerb) (digit : Nat) : Nat :=
  if digit < 10 then '0'.toNat + digit
  else if kind = .X then 'A'.toNat + (digit - 10)
  else 'a'.toNat + (digit - 10)

/-- The sign of an integer. -/
def signOf (n : Int) : Text := if n < 0 then chars ['-'] else []

/-- `sprintf` with the verb alone writes the sign and the numeral of an integer. -/
def PrintsNumeral (interpreter : Interpreter) (kind : IntegerVerb) (n : Int) : Prop :=
  ∃ digits, IsNumeral kind.base n.natAbs digits ∧
    sprintf interpreter (.str (chars ['%', kind.letter])) (.list [.int n]) =
      .ok (.str (signOf n ++ digits.map kind.glyph))

variable {interpreter : Interpreter} {kind : IntegerVerb} {n : Int}

/-- A format that is one verb is its operand under the verb. -/
theorem sprintf_verb {verb : Verb} (taking : verb.takesInCode = true) (operand : Value) :
    sprintf interpreter (.str verb.text) (.list [operand]) =
      (fun text => .str text) <$> formatVerb interpreter verb.text operand := by
  have scans : Scans verb.text [.verb verb] := by simpa using Scans.verb verb .nil
  simp only [sprintf, sprintfRun_eq scans, runPieces, taking, if_true]
  cases formatVerb interpreter verb.text operand with
  | error raised => rfl
  | ok text => simp [bind, Except.bind]

/-- Without flags all flags are flags. -/
theorem no_flags : ∀ point ∈ ([] : Text), isFlag point = true :=
  fun _ absent => absurd absent List.not_mem_nil

/-- The letters of the integer verbs are letters of verbs. -/
theorem isLetter_integer (kind : IntegerVerb) : isLetter kind.letter.toNat = true := by
  cases kind <;> decide

/-- The verb without options. -/
def IntegerVerb.verb (kind : IntegerVerb) : Verb :=
  ⟨[], kind.letter.toNat, no_flags, isLetter_integer kind⟩

/-- The text of such a verb. -/
theorem IntegerVerb.text_verb (kind : IntegerVerb) : kind.verb.text = chars ['%', kind.letter] := rfl

/-- The code gives each integer verb an operand. -/
theorem IntegerVerb.takesInCode_verb (kind : IntegerVerb) : kind.verb.takesInCode = true := by
  cases kind <;> decide

/-- `_format_verb` gives an integer verb to the percent operator. -/
theorem IntegerVerb.letter_apart (kind : IntegerVerb) :
    kind.verb.letter ∉ chars ['T', 'v', 't', 'q'] := by
  cases kind <;> decide

/-- A verb without options has the options of none. -/
theorem IntegerVerb.parse_letter (kind : IntegerVerb) :
    parse [kind.letter.toNat] = .ok (Spec.plain, kind.letter.toNat, []) := by
  cases kind <;> rfl

/-- Without options a conversion is written as it is. -/
theorem output_plain (letter : Nat) (text : Text) : output Spec.plain letter text = text := by
  have parts : ∀ signed : Bool,
      (if signed then text.take 1 else []) ++ (if signed then text.drop 1 else text) = text := by
    intro signed
    cases signed with
    | false => rfl
    | true => exact List.take_append_drop 1 text
  simpa [output, Spec.plain] using parts (decide (letter ∈ integerLetters ++ floatLetters) &&
    (text.head? = some '-'.toNat || text.head? = some '+'.toNat))

/-- The text of an integer under an integer conversion without options. -/
def integerAs (letter : Nat) (n : Int) : Text :=
  let text := signOf n ++ digits (baseOf letter) n.natAbs
  if letter = 'X'.toNat then text.map upperHex else text

/-- Without options an integer within the limit of digits is written with its sign and its digits.
-/
theorem formatLong_plain (letter : Nat) (fits : Fits interpreter.maxStrDigits n) :
    formatLong interpreter Spec.plain letter n = .ok (integerAs letter n) := by
  simp [formatLong, integerAs, signOf, Spec.plain, maxPrecision, fits]

/-- An integer conversion without options writes every integer within the limit of digits. -/
theorem convert_integer {letter : Nat} (isInteger : letter ∈ integerLetters)
    (fits : Fits interpreter.maxStrDigits n) :
    convert interpreter Spec.plain letter (.int n) = .ok (integerAs letter n) := by
  have other : letter ≠ 's'.toNat := by
    rintro rfl
    exact absurd isInteger (by decide)
  unfold convert
  rw [if_neg other, if_pos isInteger, integerOf]
  simp only [bind, Except.bind]
  rw [formatLong_plain letter fits]
  simp [output_plain]

/-- The percent operator on an integer verb is its conversion. -/
theorem percent_integer (kind : IntegerVerb) (operand : Int) :
    percent interpreter kind.verb.text (.int operand) =
      convert interpreter Spec.plain kind.letter.toNat (.int operand) := by
  have parsed : parse (kind.verb.text.drop 1) = .ok (Spec.plain, kind.letter.toNat, []) :=
    kind.parse_letter
  simp only [percent, parsed, bind, Except.bind]
  cases convert interpreter Spec.plain kind.letter.toNat (.int operand) with
  | error raised => rfl
  | ok text => simp [pure, Except.pure]

/-- All integer verbs but `%b` write the integer under their conversion. -/
theorem sprintf_integer (fits : Fits interpreter.maxStrDigits n) (known : kind ≠ .b) :
    sprintf interpreter (.str (chars ['%', kind.letter])) (.list [.int n]) =
      .ok (.str (integerAs kind.letter.toNat n)) := by
  have isInteger : kind.letter.toNat ∈ integerLetters := by
    cases kind with
    | b => exact absurd rfl known
    | d | o | x | X => decide
  have formatted := (percent_integer kind n).trans (convert_integer isInteger fits)
  rw [← kind.text_verb, sprintf_verb kind.takesInCode_verb,
    formatVerb_formatted kind.letter_apart formatted]
  rfl

/-- `%b` falls back to the text of the integer. -/
theorem sprintf_binary (fits : Fits interpreter.maxStrDigits n) :
    sprintf interpreter (.str (chars ['%', IntegerVerb.b.letter])) (.list [.int n]) =
      .ok (.str (signOf n ++ digits 10 n.natAbs)) := by
  have failed : percent interpreter IntegerVerb.b.verb.text (.int n) =
      .error ⟨.valueError, "unsupported format character", []⟩ :=
    percent_integer .b n
  have written : interpreter.str (.int n) = .ok (signOf n ++ digits 10 n.natAbs) := by
    refine (decimal_returns fits).trans (congrArg Except.ok ?_)
    unfold integerText signOf
    split
    · rfl
    · rfl
  have falls : formatVerb interpreter IntegerVerb.b.verb.text (.int n) =
      .ok (signOf n ++ digits 10 n.natAbs) := by
    rw [formatVerb_failed IntegerVerb.b.letter_apart failed, written]
    rfl
  rw [← IntegerVerb.text_verb, sprintf_verb IntegerVerb.b.takesInCode_verb, falls]
  rfl

/-- The character of a digit that the percent operator prints. -/
theorem glyph_eq (kind : IntegerVerb) {digit : Nat} (below : digit < 16) :
    kind.glyph digit =
      if kind = .X then upperHex (Nat.digitChar digit).toNat else (Nat.digitChar digit).toNat := by
  have known : ∀ digit < 16, kind.glyph digit =
      if kind = .X then upperHex (Nat.digitChar digit).toNat else (Nat.digitChar digit).toNat := by
    cases kind <;> decide
  exact known digit below

/-- Different digits have different characters. -/
theorem glyph_injective (kind : IntegerVerb) : Function.Injective kind.glyph := by
  intro digit other same
  unfold IntegerVerb.glyph at same
  simp only [Char.reduceToNat] at same
  split_ifs at same <;> omega

/-- The printed digits are those of the numeral, in lower case but for `%X`.

Proof: the digits that are printed are lower case, and for `%X` they are changed to upper case
one by one, which leaves the sign. -/
theorem integerAs_numeral {numeral : List Nat} (known : kind ≠ .b)
    (isNumeral : IsNumeral kind.base n.natAbs numeral)
    (printed : Nat.toDigits kind.base n.natAbs = numeral.map Nat.digitChar) :
    integerAs kind.letter.toNat n = signOf n ++ numeral.map kind.glyph := by
  have base : baseOf kind.letter.toNat = kind.base := by
    cases kind with
    | b => exact absurd rfl known
    | d | o | x | X => rfl
  have below : ∀ digit ∈ numeral, digit < 16 := by
    intro digit member
    refine (isNumeral.below digit member).trans_le ?_
    cases kind <;> decide
  have upper : kind.letter.toNat = 'X'.toNat ↔ kind = .X := by cases kind <;> decide
  have sign : (signOf n).map upperHex = signOf n := by
    unfold signOf
    split
    · rfl
    · rfl
  unfold integerAs digits
  rw [base, printed]
  simp only [upper, chars, List.map_map]
  by_cases isUpper : kind = .X
  · rw [if_pos isUpper, List.map_append, sign, List.map_map]
    refine congrArg (signOf n ++ ·) (List.map_congr_left fun digit member => ?_)
    rw [glyph_eq kind (below digit member), if_pos isUpper]
    rfl
  · rw [if_neg isUpper]
    refine congrArg (signOf n ++ ·) (List.map_congr_left fun digit member => ?_)
    rw [glyph_eq kind (below digit member), if_neg isUpper]
    rfl

/-- Every base is a base of numerals. -/
theorem IntegerVerb.one_lt_base (kind : IntegerVerb) : 1 < kind.base := by
  cases kind <;> decide

/-- `%b` prints the decimal numeral. -/
theorem sprintf_binary_numeral (fits : Fits interpreter.maxStrDigits n) {decimal : List Nat}
    (isDecimal : IsNumeral 10 n.natAbs decimal) :
    sprintf interpreter (.str (chars ['%', IntegerVerb.b.letter])) (.list [.int n]) =
      .ok (.str (signOf n ++ decimal.map IntegerVerb.b.glyph)) := by
  obtain ⟨numeral, isNumeral, printed⟩ := toDigits_numeral (by decide : 1 < 10) n.natAbs
  obtain rfl := isNumeral.unique (by decide) isDecimal
  have characters : digits 10 n.natAbs = numeral.map IntegerVerb.b.glyph := by
    unfold digits chars
    rw [printed, List.map_map]
    refine List.map_congr_left fun digit member => ?_
    rw [glyph_eq .b ((isNumeral.below digit member).trans (by decide))]
    rfl
  rw [sprintf_binary fits, characters]

/-- An integer verb writes the numeral of an integer, but `%b` only of -1, 0 and 1.

Proof: the printer writes the numeral in the base that the percent operator uses, which is ten
for `%b`. A numeral that is the same in base two and ten has one digit, which is 0 or 1. -/
theorem integer_verbs_iff (kind : IntegerVerb) (n : Int) (fits : Fits interpreter.maxStrDigits n) :
    PrintsNumeral interpreter kind n ↔ (kind = .b → n.natAbs ≤ 1) := by
  constructor
  · rintro ⟨numeral, isBinary, written⟩ rfl
    obtain ⟨decimal, isDecimal, -⟩ := toDigits_numeral (by decide : 1 < 10) n.natAbs
    rw [sprintf_binary_numeral fits isDecimal] at written
    injection written with written
    injection written with written
    have same : decimal = numeral :=
      (List.map_injective_iff.mpr (glyph_injective .b)) (List.append_cancel_left written)
    rw [same] at isDecimal
    exact Nat.le_of_lt_succ (isBinary.lt_of_larger isDecimal (by decide))
  · intro small
    by_cases isBinary : kind = .b
    · subst isBinary
      have digit : n.natAbs < 2 := Nat.lt_succ_of_le (small rfl)
      exact ⟨[n.natAbs], isNumeral_digit digit,
        sprintf_binary_numeral fits (isNumeral_digit (digit.trans (by decide)))⟩
    · obtain ⟨numeral, isNumeral, printed⟩ := toDigits_numeral kind.one_lt_base n.natAbs
      refine ⟨numeral, isNumeral, ?_⟩
      rw [sprintf_integer fits isBinary, integerAs_numeral isBinary isNumeral printed]

/-- `sprintf("%x", [-255])` is `-ff`. -/
theorem integer_verbs_iff_negative : PrintsNumeral defaultInterpreter .x (-255) :=
  (integer_verbs_iff .x (-255) (by decide)).mpr nofun

/-- `sprintf("%b", [5])` is `5`, and the binary numeral of 5 is `101`. -/
theorem binary_printed_in_decimal : ¬PrintsNumeral defaultInterpreter .b 5 := by
  rintro ⟨digits, numeral, written⟩
  have binary : IsNumeral 2 5 [1, 0, 1] :=
    ((isNumeral_digit (by decide : 1 < 2)).append (by decide) (by decide : 0 < 2)).append (by decide)
      (by decide : 1 < 2)
  obtain rfl := numeral.unique (by decide) binary
  have decimal : sprintf defaultInterpreter (.str (chars ['%', 'b'])) (.list [.int 5]) =
      .ok (.str (chars ['5'])) := rfl
  rw [show IntegerVerb.b.letter = 'b' from rfl, decimal] at written
  injection written with written
  injection written with written
  exact absurd written (by decide)

end OpaPyWasm.Sprintf
