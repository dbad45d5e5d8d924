import Mathlib.Algebra.Group.Nat.Defs
import OpaPyWasm.PythonText

/-!
# The percent operator

`verb % operand` of Python for a format of one conversion and an operand that is no tuple. The
conversions and prefixes that no verb of `_GO_VERB` has (`i`, `u`, `r`, `a`, a mapping key, a
starred width, `h`, `l`, `L`) are left out, and so is `%%`, which `_sprintf` writes itself.
-/

namespace OpaPyWasm.PercentFormat

open Exceptions Values PythonText

/-- What stands between the percent sign and the conversion. -/
structure Spec where
  leftJustified : Bool
  plus : Bool
  blank : Bool
  alternate : Bool
  zero : Bool
  width : Option Nat
  precision : Option Nat

/-- No flags, no width and no precision. -/
def Spec.plain : Spec := ⟨false, false, false, false, false, none, none⟩

/-- `0` to `9` -/
def IsDigit (point : Nat) : Prop := 0x30 ≤ point ∧ point ≤ 0x39

/-- Two comparisons. -/
instance (point : Nat) : Decidable (IsDigit point) := inferInstanceAs (Decidable (_ ∧ _))

/-- The flags at the front of a text, and the rest. -/
def takeFlags : Text → Spec → Spec × Text
  | [], spec => (spec, [])
  | point :: rest, spec =>
    if point = '-'.toNat then takeFlags rest { spec with leftJustified := true }
    else if point = '+'.toNat then takeFlags rest { spec with plus := true }
    else if point = ' '.toNat then takeFlags rest { spec with blank := true }
    else if point = '#'.toNat then takeFlags rest { spec with alternate := true }
    else if point = '0'.toNat then takeFlags rest { spec with zero := true }
    else (spec, point :: rest)

/-- The digits at the front of a text as a number up to a limit, and the rest. -/
def takeNumber (limit : Nat) (tooBig : Raised) : Nat → Text → Except Raised (Nat × Text)
  | number, [] => .ok (number, [])
  | number, point :: rest =>
    if IsDigit point then
      if (limit - (point - 0x30)) / 10 < number then .error tooBig
      else takeNumber limit tooBig (number * 10 + (point - 0x30)) rest
    else .ok (number, point :: rest)

/-- `PY_SSIZE_T_MAX` -/
def maxWidth : Nat := 9223372036854775807

/-- `INT_MAX` -/
def maxPrecision : Nat := 2147483647

/-- The width at the front of a text, and the rest. -/
def takeWidth (text : Text) : Except Raised (Option Nat × Text) :=
  match text with
  | [] => .ok (none, [])
  | point :: _ =>
    if IsDigit point then do
      let (width, rest) ← takeNumber maxWidth ⟨.valueError, "width too big", []⟩ 0 text
      pure (some width, rest)
    else .ok (none, text)

/-- The precision at the front of a text, and the rest. A dot alone is the precision 0. -/
def takePrecision (text : Text) : Except Raised (Option Nat × Text) :=
  match text with
  | [] => .ok (none, [])
  | point :: rest =>
    if point = '.'.toNat then do
      let (precision, rest) ← takeNumber maxPrecision ⟨.valueError, "precision too big", []⟩ 0 rest
      pure (some precision, rest)
    else .ok (none, text)

/-- `unicode_format_arg_parse`: the options, the conversion and the text behind it. -/
def parse (text : Text) : Except Raised (Spec × Nat × Text) := do
  let (spec, text) := takeFlags text Spec.plain
  let (width, text) ← takeWidth text
  let (precision, text) ← takePrecision text
  match text with
  | [] => .error ⟨.valueError, "incomplete format", []⟩
  | conversion :: tail => pure ({ spec with width := width, precision := precision }, conversion, tail)

/-- The integer conversions. -/
def integerLetters : Text := chars ['d', 'o', 'x', 'X']

/-- The float conversions. -/
def floatLetters : Text := chars ['e', 'E', 'f', 'F', 'g', 'G']

/-- `unicode_format_arg_output`: the text of a conversion, cut, signed and padded. -/
def output (spec : Spec) (letter : Nat) (text : Text) : Text :=
  let numeric := decide (letter ∈ integerLetters ++ floatLetters)
  let text := if letter = 's'.toNat then text.take (spec.precision.getD text.length) else text
  let signed := numeric && (text.head? = some '-'.toNat || text.head? = some '+'.toNat)
  let sign :=
    if signed then text.take 1
    else if numeric && spec.plus then chars ['+']
    else if numeric && spec.blank then chars [' ']
    else []
  let body := if signed then text.drop 1 else text
  let mark := if spec.alternate && decide (letter ∈ chars ['o', 'x', 'X']) then body.take 2 else []
  let body := body.drop mark.length
  let missing := spec.width.getD 0 - (sign.length + mark.length + body.length)
  if spec.leftJustified then sign ++ mark ++ body ++ List.replicate missing ' '.toNat
  else if numeric && spec.zero then sign ++ mark ++ List.replicate missing '0'.toNat ++ body
  else List.replicate missing ' '.toNat ++ sign ++ mark ++ body

/-- What the interpreter says of an operand that a conversion does not take. -/
def wrongType (operand : Value) : Raised :=
  ⟨.typeError, "a number is required, not " ++ operand.typeName, []⟩

variable (interpreter : Interpreter)

/-- The integer of an operand: a float is truncated for `d` and refused for the others. -/
def integerOf (letter : Nat) : Value → Except Raised Int
  | .int n => .ok n
  | .bool value => .ok (if value then 1 else 0)
  | .float text =>
    if letter ≠ 'd'.toNat then .error (wrongType (.float text))
    else if text = "nan" then .error ⟨.valueError, "cannot convert float NaN to integer", []⟩
    else if text = "inf" ∨ text = "-inf" then
      .error ⟨.overflowError, "cannot convert float infinity to integer", []⟩
    else .ok (interpreter.truncated text)
  | operand => .error (wrongType operand)

/-- The lower case letters of hexadecimal numbers and their mark in upper case. -/
def upperHex (point : Nat) : Nat := if 'a'.toNat ≤ point ∧ point ≤ 'x'.toNat then point - 0x20 else point

/-- The base of an integer conversion. -/
def baseOf (letter : Nat) : Nat :=
  if letter = 'd'.toNat then 10 else if letter = 'o'.toNat then 8 else 16

/-- `_PyUnicode_FormatLong`: sign, mark and digits, with leading zeros up to the precision. -/
def formatLong (spec : Spec) (letter : Nat) (n : Int) : Except Raised Text :=
  if maxPrecision - 3 < spec.precision.getD 0 then .error ⟨.overflowError, "precision too large", []⟩
  else if letter = 'd'.toNat ∧ ¬Fits interpreter.maxStrDigits n then .error digitsError
  else
    let body := digits (baseOf letter) n.natAbs
    let body := List.replicate (spec.precision.getD 0 - body.length) '0'.toNat ++ body
    let mark :=
      if letter = 'd'.toNat ∨ spec.alternate = false then []
      else if letter = 'o'.toNat then chars ['0', 'o']
      else chars ['0', 'x']
    let text := (if n < 0 then chars ['-'] else []) ++ mark ++ body
    .ok (if letter = 'X'.toNat then text.map upperHex else text)

/-- The integers from here on, on either side, are rounded to no finite float. -/
@[irreducible] def floatBound : Nat := 2 ^ 1024 - 2 ^ 970

/-- `PyFloat_AsDouble`: the float of an operand. -/
def floatOf : Value → Except Raised String
  | .float text => .ok text
  | .bool value => .ok (interpreter.floatOf (if value then 1 else 0))
  | .int n =>
    if floatBound ≤ n.natAbs then .error ⟨.overflowError, "int too large to convert to float", []⟩
    else .ok (interpreter.floatOf n)
  | operand => .error (wrongType operand)

/-- The code points of Unicode end here. -/
def maxUnicode : Nat := 0x10FFFF

/-- `formatchar`: the code point of an operand. -/
def characterOf : Value → Except Raised Nat
  | .str [point] => .ok point
  | .int n =>
    if n < 0 ∨ (maxUnicode : Int) < n then .error ⟨.overflowError, "%c arg not in range(0x110000)", []⟩
    else .ok n.toNat
  | .bool value => .ok (if value then 1 else 0)
  | operand => .error (wrongType operand)

/-- A list or a dictionary. -/
def isContainer : Value → Bool
  | .list _ => true
  | .dict _ => true
  | _ => false

/-- `unicode_format_arg_format` and what follows it: an operand under a conversion. A percent
sign takes none, and then a scalar is left that a mapping would not be. -/
def convert (spec : Spec) (letter : Nat) (operand : Value) : Except Raised Text :=
  if letter = 's'.toNat then output spec letter <$> interpreter.str operand
  else if letter ∈ integerLetters then do
    let n ← integerOf interpreter letter operand
    output spec letter <$> formatLong interpreter spec letter n
  else if letter ∈ floatLetters then do
    let x ← floatOf interpreter operand
    pure (output spec letter
      (interpreter.formatFloat letter (spec.precision.getD 6) spec.alternate x))
  else if letter = 'c'.toNat then
    (fun point => output spec letter [point]) <$> characterOf operand
  else if letter = '%'.toNat ∧ interpreter.percentBehindOptions = true then
    if isContainer operand then .ok (chars ['%'])
    else .error ⟨.typeError, "not all arguments converted during string formatting", []⟩
  else .error ⟨.valueError, "unsupported format character", []⟩

/-- `verb % operand` -/
def percent (verb : Text) (operand : Value) : Except Raised Text :=
  match operand with
  | .other typeName => interpreter.objectFormat verb typeName
  | operand => do
    let (spec, conversion, tail) ← parse (verb.drop 1)
    let text ← convert interpreter spec conversion operand
    pure (text ++ tail)

end OpaPyWasm.PercentFormat
