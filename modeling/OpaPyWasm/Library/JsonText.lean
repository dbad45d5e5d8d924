import Mathlib.Data.List.Basic

/-!
# JSON texts

The grammar of RFC 8259 over code points, and a lenient one that also has the
constants `NaN`, `Infinity` and `-Infinity` as values, at any depth.

What stands outside the strings of a text tells the two apart: a lenient text is a
strict one exactly if no `N` and no `I` stands there.
-/

namespace JsonText

/-- A text by its code points. -/
abbrev Text := List Nat

/-- `ws` -/
def IsSpace (text : Text) : Prop :=
  ∀ point ∈ text, point = 0x20 ∨ point = 0x09 ∨ point = 0x0A ∨ point = 0x0D

/-- `DIGIT` -/
def IsDigit (point : Nat) : Prop := 0x30 ≤ point ∧ point ≤ 0x39

/-- `HEXDIG` -/
def IsHex (point : Nat) : Prop :=
  IsDigit point ∨ (0x41 ≤ point ∧ point ≤ 0x46) ∨ (0x61 ≤ point ∧ point ≤ 0x66)

/-- `int` -/
inductive IntPart : Text → Prop
  | zero : IntPart [0x30]
  | digits {first : Nat} {rest : Text} (nonzero : IsDigit first ∧ first ≠ 0x30)
      (all : ∀ point ∈ rest, IsDigit point) : IntPart (first :: rest)

/-- `[ frac ]` -/
inductive FracPart : Text → Prop
  | absent : FracPart []
  | present {digits : Text} (some : digits ≠ []) (all : ∀ point ∈ digits, IsDigit point) :
      FracPart (0x2E :: digits)

/-- `[ exp ]` -/
inductive ExpPart : Text → Prop
  | absent : ExpPart []
  | present {e : Nat} {sign digits : Text} (letter : e = 0x65 ∨ e = 0x45)
      (signed : sign = [] ∨ sign = [0x2B] ∨ sign = [0x2D]) (some : digits ≠ [])
      (all : ∀ point ∈ digits, IsDigit point) : ExpPart (e :: (sign ++ digits))

/-- `number` -/
inductive Number : Text → Prop
  | of {sign int frac exp : Text} (signed : sign = [] ∨ sign = [0x2D]) (whole : IntPart int)
      (fraction : FracPart frac) (exponent : ExpPart exp) : Number (sign ++ int ++ frac ++ exp)

/-- `*char` -/
inductive Chars : Text → Prop
  | nil : Chars []
  | unescaped {point : Nat} {rest : Text}
      (allowed : 0x20 ≤ point ∧ point ≠ 0x22 ∧ point ≠ 0x5C) (more : Chars rest) :
      Chars (point :: rest)
  | escaped {point : Nat} {rest : Text}
      (allowed : point ∈ [0x22, 0x5C, 0x2F, 0x62, 0x66, 0x6E, 0x72, 0x74]) (more : Chars rest) :
      Chars (0x5C :: point :: rest)
  | unicode {a b c d : Nat} {rest : Text} (hex : ∀ point ∈ [a, b, c, d], IsHex point)
      (more : Chars rest) : Chars (0x5C :: 0x75 :: a :: b :: c :: d :: rest)

/-- `string` -/
inductive StringToken : Text → Prop
  | of {body : Text} (chars : Chars body) : StringToken (0x22 :: (body ++ [0x22]))

/-- `false / null / true` -/
def literals : List Text :=
  [[0x66, 0x61, 0x6C, 0x73, 0x65], [0x6E, 0x75, 0x6C, 0x6C], [0x74, 0x72, 0x75, 0x65]]

/-- `NaN`, `Infinity` and `-Infinity`. -/
def nonFinite : List Text :=
  [[0x4E, 0x61, 0x4E], [0x49, 0x6E, 0x66, 0x69, 0x6E, 0x69, 0x74, 0x79],
    [0x2D, 0x49, 0x6E, 0x66, 0x69, 0x6E, 0x69, 0x74, 0x79]]

/-- What stands before an item: nothing in an array, the name in an object. -/
inductive Lead : Bool → Text → Prop
  | item {before : Text} (space : IsSpace before) : Lead false before
  | member {before name after between : Text} (space : IsSpace before) (quoted : StringToken name)
      (space' : IsSpace after) (space'' : IsSpace between) :
      Lead true (before ++ name ++ after ++ [0x3A] ++ between)

/-- The brackets of an array, the braces of an object. -/
def opening (named : Bool) : Nat := if named then 0x7B else 0x5B

/-- The bracket or the brace that ends them. -/
def closing (named : Bool) : Nat := if named then 0x7D else 0x5D

/-- `value`, and the items of an array or an object. -/
inductive Symbol where
  | value
  | items (named : Bool)

/-- The texts of the grammar, with the constants or without. -/
inductive Derives (constants : Bool) : Symbol → Text → Prop
  | literal {text : Text} (known : text ∈ literals) : Derives constants .value text
  | constant {text : Text} (lenient : constants = true) (known : text ∈ nonFinite) :
      Derives constants .value text
  | number {text : Text} (written : Number text) : Derives constants .value text
  | string {text : Text} (quoted : StringToken text) : Derives constants .value text
  | empty {named : Bool} {space : Text} (blank : IsSpace space) :
      Derives constants .value ([opening named] ++ space ++ [closing named])
  | filled {named : Bool} {items : Text} (inside : Derives constants (.items named) items) :
      Derives constants .value ([opening named] ++ items ++ [closing named])
  | last {named : Bool} {lead value after : Text} (leads : Lead named lead)
      (item : Derives constants .value value) (space : IsSpace after) :
      Derives constants (.items named) (lead ++ value ++ after)
  | more {named : Bool} {lead value after rest : Text} (leads : Lead named lead)
      (item : Derives constants .value value) (space : IsSpace after)
      (others : Derives constants (.items named) rest) :
      Derives constants (.items named) (lead ++ value ++ after ++ [0x2C] ++ rest)

/-- `JSON-text` -/
inductive IsJson (constants : Bool) : Text → Prop
  | of {before value after : Text} (space : IsSpace before)
      (derived : Derives constants .value value) (space' : IsSpace after) :
      IsJson constants (before ++ value ++ after)

/-- Where a scan stands: outside strings, inside one, or behind a backslash in one. -/
inductive Mode where
  | outside
  | inside
  | escaped

/-- The code points outside strings that a scan passes. -/
def scan : Mode → Text → Text
  | _, [] => []
  | .outside, point :: rest =>
    if point = 0x22 then scan .inside rest else point :: scan .outside rest
  | .inside, point :: rest =>
    if point = 0x22 then scan .outside rest
    else if point = 0x5C then scan .escaped rest
    else scan .inside rest
  | .escaped, _ :: rest => scan .inside rest

/-- What stands outside the strings of a text. -/
def outside (text : Text) : Text := scan .outside text

/-- No `N` and no `I` stands outside the strings. -/
def Clean (text : Text) : Prop := ∀ point ∈ outside text, point ≠ 0x4E ∧ point ≠ 0x49

section Scans

variable {text first second : Text}

/-- A text after which a scan is outside strings again. -/
def Closed (text : Text) : Prop := ∀ rest, outside (text ++ rest) = outside text ++ outside rest

/-- A scan that is outside strings after each of two texts is so after both. -/
theorem Closed.append (closed : Closed first) (closed' : Closed second) : Closed (first ++ second) := by
  intro rest
  rw [List.append_assoc, closed, closed', closed, List.append_assoc]

/-- Closed texts are clean together or not at all. -/
theorem clean_append (closed : Closed first) :
    Clean (first ++ second) ↔ Clean first ∧ Clean second := by
  unfold Clean
  rw [closed]
  exact List.forall_mem_append

/-- A text without quotation marks stands outside strings as it is. -/
theorem outside_plain (plain : 0x22 ∉ text) (rest : Text) :
    outside (text ++ rest) = text ++ outside rest := by
  induction text with
  | nil => rfl
  | cons point text inductionHypothesis =>
    obtain ⟨other, plain⟩ := not_or.mp (fun either => plain (List.mem_cons.mpr either))
    simp only [List.cons_append, outside, scan, if_neg (Ne.symm other)]
    congr 1
    exact inductionHypothesis plain

/-- A text without quotation marks stands outside strings. -/
theorem outside_self (plain : 0x22 ∉ text) : outside text = text := by
  have same := outside_plain plain []
  have none : outside [] = [] := rfl
  rwa [List.append_nil, none, List.append_nil] at same

/-- A text without quotation marks opens no string. -/
theorem closed_plain (plain : 0x22 ∉ text) : Closed text := by
  intro rest
  rw [outside_plain plain, outside_self plain]

/-- A scan leaves a string where it ends. -/
theorem scan_chars (chars : Chars text) (rest : Text) :
    scan .inside (text ++ 0x22 :: rest) = outside rest := by
  induction chars with
  | nil => simp [scan, outside]
  | unescaped allowed _ inductionHypothesis =>
    simp only [List.cons_append, scan, if_neg allowed.2.1, if_neg allowed.2.2]
    exact inductionHypothesis
  | escaped _ _ inductionHypothesis =>
    simp only [List.cons_append, scan]
    exact inductionHypothesis
  | unicode hex _ inductionHypothesis =>
    have other : ∀ {point}, IsHex point → point ≠ 0x22 ∧ point ≠ 0x5C := by
      intro point isHex
      unfold IsHex IsDigit at isHex
      omega
    simp only [List.mem_cons, List.not_mem_nil, or_false, forall_eq_or_imp, forall_eq] at hex
    obtain ⟨a, b, c, d⟩ := hex
    simp only [List.cons_append, scan, if_neg (other a).1, if_neg (other a).2, if_neg (other b).1,
      if_neg (other b).2, if_neg (other c).1, if_neg (other c).2, if_neg (other d).1,
      if_neg (other d).2]
    exact inductionHypothesis

/-- Nothing of a string stands outside strings. -/
theorem outside_string (string : StringToken text) (rest : Text) :
    outside (text ++ rest) = outside rest := by
  obtain ⟨chars⟩ := string
  rw [List.cons_append, List.append_assoc]
  simp only [outside, scan, if_true]
  exact scan_chars chars rest

/-- A string is closed by its second quotation mark. -/
theorem closed_string (string : StringToken text) : Closed text := by
  intro rest
  have none : outside text = [] := by
    have all := outside_string string []
    rwa [List.append_nil] at all
  rw [outside_string string, none, List.nil_append]

/-- The letters inside a string do not count. -/
theorem clean_string (string : StringToken text) : Clean text := by
  have none : outside text = [] := by
    have all := outside_string string []
    rwa [List.append_nil] at all
  intro point member
  rw [none] at member
  cases member

/-- Space has no quotation mark. -/
theorem space_plain (space : IsSpace text) : 0x22 ∉ text := by
  intro member
  have known := space _ member
  omega

/-- Space has no letter of a constant. -/
theorem space_clean (space : IsSpace text) : Clean text := by
  intro point member
  rw [outside_self (space_plain space)] at member
  have known := space point member
  omega

/-- The code points of a number. -/
theorem number_points (number : Number text) (point : Nat) (member : point ∈ text) :
    IsDigit point ∨ point ∈ [0x2B, 0x2D, 0x2E, 0x45, 0x65] := by
  obtain ⟨signed, whole, fraction, exponent⟩ := number
  simp only [List.mem_append] at member
  rcases member with ((member | member) | member) | member
  · rcases signed with rfl | rfl
    · cases member
    · exact .inr (by rw [List.mem_singleton.mp member]; decide)
  · cases whole with
    | zero => exact .inl (by rw [List.mem_singleton.mp member]; exact ⟨by decide, by decide⟩)
    | digits nonzero all =>
      rcases List.mem_cons.mp member with rfl | member
      · exact .inl nonzero.1
      · exact .inl (all point member)
  · cases fraction with
    | absent => cases member
    | present _ all =>
      rcases List.mem_cons.mp member with rfl | member
      · exact .inr (by decide)
      · exact .inl (all point member)
  · cases exponent with
    | absent => cases member
    | present letter signed _ all =>
      rcases List.mem_cons.mp member with rfl | member
      · exact .inr (by rcases letter with rfl | rfl <;> decide)
      · rcases List.mem_append.mp member with member | member
        · rcases signed with rfl | rfl | rfl
          · cases member
          · exact .inr (by rw [List.mem_singleton.mp member]; decide)
          · exact .inr (by rw [List.mem_singleton.mp member]; decide)
        · exact .inl (all point member)

/-- A number has no quotation mark, no letter of a constant and no NUL. -/
theorem number_apart (number : Number text) (point : Nat) (member : point ∈ text) :
    point ≠ 0x22 ∧ point ≠ 0x4E ∧ point ≠ 0x49 ∧ point ≠ 0 := by
  have known := number_points number point member
  simp only [IsDigit, List.mem_cons, List.not_mem_nil, or_false] at known
  omega

/-- A number has no quotation mark. -/
theorem number_plain (number : Number text) : 0x22 ∉ text :=
  fun member => (number_apart number _ member).1 rfl

/-- A text without quotation marks and letters of constants is clean. -/
theorem clean_plain (apart : ∀ point ∈ text, point ≠ 0x22 ∧ point ≠ 0x4E ∧ point ≠ 0x49) :
    Clean text := by
  intro point member
  rw [outside_self (fun quote => (apart _ quote).1 rfl)] at member
  exact (apart point member).2

/-- `true`, `false` and `null` have no quotation mark and no letter of a constant. -/
theorem literal_apart (known : text ∈ literals) :
    ∀ point ∈ text, point ≠ 0x22 ∧ point ≠ 0x4E ∧ point ≠ 0x49 := by
  simp only [literals, List.mem_cons, List.not_mem_nil, or_false] at known
  rcases known with rfl | rfl | rfl <;> decide

/-- A constant has no quotation mark. -/
theorem constant_plain (known : text ∈ nonFinite) : 0x22 ∉ text := by
  simp only [nonFinite, List.mem_cons, List.not_mem_nil, or_false] at known
  rcases known with rfl | rfl | rfl <;> decide

/-- Each constant has a letter that tells it: `N` or `I` outside strings. -/
theorem not_clean_constant (known : text ∈ nonFinite) : ¬Clean text := by
  intro clean
  unfold Clean at clean
  rw [outside_self (constant_plain known)] at clean
  simp only [nonFinite, List.mem_cons, List.not_mem_nil, or_false] at known
  rcases known with rfl | rfl | rfl <;> revert clean <;> decide

/-- Brackets and braces are no quotation mark and no letter. -/
theorem bracket_apart (named : Bool) :
    (∀ point ∈ [opening named], point ≠ 0x22 ∧ point ≠ 0x4E ∧ point ≠ 0x49) ∧
      ∀ point ∈ [closing named], point ≠ 0x22 ∧ point ≠ 0x4E ∧ point ≠ 0x49 := by
  cases named <;> decide

/-- A text without quotation marks and letters of constants is closed. -/
theorem closed_apart (apart : ∀ point ∈ text, point ≠ 0x22 ∧ point ≠ 0x4E ∧ point ≠ 0x49) :
    Closed text := closed_plain (fun quote => (apart _ quote).1 rfl)

/-- Space is closed. -/
theorem space_closed (space : IsSpace text) : Closed text := closed_plain (space_plain space)

/-- What stands before an item is closed and clean. -/
theorem Lead.closed {named : Bool} (leads : Lead named text) : Closed text := by
  cases leads with
  | item space => exact space_closed space
  | member space quoted space' space'' =>
    exact ((((space_closed space).append (closed_string quoted)).append (space_closed space')).append
      (closed_plain (by decide))).append (space_closed space'')

/-- What stands before an item is clean: its name is a string. -/
theorem Lead.clean {named : Bool} (leads : Lead named text) : Clean text := by
  cases leads with
  | item space => exact space_clean space
  | member space quoted space' space'' =>
    have first := (space_closed space).append (closed_string quoted)
    have second := first.append (space_closed space')
    have colon : Clean [0x3A] := clean_plain (by decide)
    rw [clean_append (second.append (closed_plain (by decide))), clean_append second,
      clean_append first, clean_append (space_closed space)]
    exact ⟨⟨⟨⟨space_clean space, clean_string quoted⟩, space_clean space'⟩, colon⟩,
      space_clean space''⟩

variable {constants : Bool} {symbol : Symbol}

/-- Every text of the grammar is closed. -/
theorem Derives.closed (derives : Derives constants symbol text) : Closed text := by
  induction derives with
  | literal known => exact closed_apart (literal_apart known)
  | constant _ known => exact closed_plain (constant_plain known)
  | number written => exact closed_plain (number_plain written)
  | string quoted => exact closed_string quoted
  | @empty named space blank =>
    exact ((closed_apart (bracket_apart named).1).append (space_closed blank)).append
      (closed_apart (bracket_apart named).2)
  | @filled named items _ inductionHypothesis =>
    exact ((closed_apart (bracket_apart named).1).append inductionHypothesis).append
      (closed_apart (bracket_apart named).2)
  | last leads _ space inductionHypothesis =>
    exact (leads.closed.append inductionHypothesis).append (space_closed space)
  | more leads _ space _ first rest =>
    exact (((leads.closed.append first).append (space_closed space)).append
      (closed_plain (by decide))).append rest

/-- A clean lenient text is a strict one. -/
theorem Derives.strict (derives : Derives constants symbol text) (clean : Clean text) :
    Derives false symbol text := by
  induction derives with
  | literal known => exact .literal known
  | constant _ known => exact absurd clean (not_clean_constant known)
  | number written => exact .number written
  | string quoted => exact .string quoted
  | empty blank => exact .empty blank
  | @filled named items inside inductionHypothesis =>
    have opens := closed_apart (bracket_apart named).1
    rw [clean_append (opens.append inside.closed), clean_append opens] at clean
    exact .filled (inductionHypothesis clean.1.2)
  | last leads item space inductionHypothesis =>
    rw [clean_append (leads.closed.append item.closed), clean_append leads.closed] at clean
    exact .last leads (inductionHypothesis clean.1.2) space
  | more leads item space others first rest =>
    have before := leads.closed.append item.closed
    have after := before.append (space_closed space)
    rw [clean_append (after.append (closed_plain (by decide))), clean_append after,
      clean_append before, clean_append leads.closed] at clean
    exact .more leads (first clean.1.1.1.2) space (rest clean.2)

/-- A strict text is clean.

Proof: by induction on the derivation. Its parts are closed, so each is clean by itself, and
the constants are not derived. -/
theorem Derives.clean (derives : Derives false symbol text) : Clean text := by
  induction derives with
  | literal known => exact clean_plain (literal_apart known)
  | constant lenient => cases lenient
  | number written =>
    exact clean_plain (fun point member => by
      have apart := number_apart written point member
      exact ⟨apart.1, apart.2.1, apart.2.2.1⟩)
  | string quoted => exact clean_string quoted
  | @empty named space blank =>
    have opens := closed_apart (bracket_apart named).1
    rw [clean_append (opens.append (space_closed blank)), clean_append opens]
    exact ⟨⟨clean_plain (bracket_apart named).1, space_clean blank⟩,
      clean_plain (bracket_apart named).2⟩
  | @filled named items inside inductionHypothesis =>
    have opens := closed_apart (bracket_apart named).1
    rw [clean_append (opens.append inside.closed), clean_append opens]
    exact ⟨⟨clean_plain (bracket_apart named).1, inductionHypothesis⟩,
      clean_plain (bracket_apart named).2⟩
  | last leads item space inductionHypothesis =>
    rw [clean_append (leads.closed.append item.closed), clean_append leads.closed]
    exact ⟨⟨leads.clean, inductionHypothesis⟩, space_clean space⟩
  | more leads item space others first rest =>
    have before := leads.closed.append item.closed
    have after := before.append (space_closed space)
    rw [clean_append (after.append (closed_plain (by decide))), clean_append after,
      clean_append before, clean_append leads.closed]
    exact ⟨⟨⟨⟨leads.clean, first⟩, space_clean space⟩, clean_plain (by decide)⟩, rest⟩

/-- A lenient text is a strict one exactly if it is clean. -/
theorem isJson_iff_clean (lenient : IsJson constants text) : IsJson false text ↔ Clean text := by
  constructor
  · rintro ⟨space, derived, space'⟩
    rw [clean_append ((space_closed space).append derived.closed), clean_append (space_closed space)]
    exact ⟨⟨space_clean space, derived.clean⟩, space_clean space'⟩
  · obtain ⟨space, derived, space'⟩ := lenient
    intro clean
    rw [clean_append ((space_closed space).append derived.closed),
      clean_append (space_closed space)] at clean
    exact .of space (derived.strict clean.1.2) space'

end Scans

section Beginnings

variable {constants : Bool} {symbol : Symbol} {text : Text}

/-- Space has no NUL. -/
theorem space_present (space : IsSpace text) : ∀ point ∈ text, point ≠ 0 := by
  intro point member
  have known := space point member
  omega

/-- The inside of a string has no NUL: control characters are escaped, and an escape has none. -/
theorem chars_present (chars : Chars text) : ∀ point ∈ text, point ≠ 0 := by
  induction chars with
  | nil => exact fun _ member => absurd member List.not_mem_nil
  | unescaped allowed _ inductionHypothesis =>
    exact List.forall_mem_cons.mpr ⟨by omega, inductionHypothesis⟩
  | escaped allowed _ inductionHypothesis =>
    refine List.forall_mem_cons.mpr ⟨by decide, List.forall_mem_cons.mpr ⟨?_, inductionHypothesis⟩⟩
    rintro rfl
    revert allowed
    decide
  | unicode hex _ inductionHypothesis =>
    have other : ∀ {point}, IsHex point → point ≠ 0 := by
      intro point isHex
      unfold IsHex IsDigit at isHex
      omega
    simp only [List.mem_cons, List.not_mem_nil, or_false, forall_eq_or_imp, forall_eq] at hex
    simp only [List.forall_mem_cons]
    exact ⟨by decide, by decide, other hex.1, other hex.2.1, other hex.2.2.1, other hex.2.2.2,
      inductionHypothesis⟩

/-- A string has no NUL. -/
theorem string_present (string : StringToken text) : ∀ point ∈ text, point ≠ 0 := by
  obtain ⟨chars⟩ := string
  refine List.forall_mem_cons.mpr ⟨by decide, List.forall_mem_append.mpr ⟨chars_present chars, ?_⟩⟩
  decide

/-- What stands before an item has no NUL. -/
theorem Lead.present {named : Bool} (leads : Lead named text) : ∀ point ∈ text, point ≠ 0 := by
  cases leads with
  | item space => exact space_present space
  | member space quoted space' space'' =>
    simp only [List.forall_mem_append]
    exact ⟨⟨⟨⟨space_present space, string_present quoted⟩, space_present space'⟩, by decide⟩,
      space_present space''⟩

/-- No text of the grammar has a NUL. -/
theorem Derives.present (derives : Derives constants symbol text) : ∀ point ∈ text, point ≠ 0 := by
  induction derives with
  | literal known =>
    simp only [literals, List.mem_cons, List.not_mem_nil, or_false] at known
    rcases known with rfl | rfl | rfl <;> decide
  | constant _ known =>
    simp only [nonFinite, List.mem_cons, List.not_mem_nil, or_false] at known
    rcases known with rfl | rfl | rfl <;> decide
  | number written => exact fun point member => (number_apart written point member).2.2.2
  | string quoted => exact string_present quoted
  | @empty named space blank =>
    simp only [List.forall_mem_append]
    exact ⟨⟨by cases named <;> decide, space_present blank⟩, by cases named <;> decide⟩
  | @filled named items _ inductionHypothesis =>
    simp only [List.forall_mem_append]
    exact ⟨⟨by cases named <;> decide, inductionHypothesis⟩, by cases named <;> decide⟩
  | last leads _ space inductionHypothesis =>
    simp only [List.forall_mem_append]
    exact ⟨⟨leads.present, inductionHypothesis⟩, space_present space⟩
  | more leads _ space _ first rest =>
    simp only [List.forall_mem_append]
    exact ⟨⟨⟨⟨leads.present, first⟩, space_present space⟩, by decide⟩, rest⟩

/-- A number begins with a sign or a digit. -/
theorem number_begins (number : Number text) : ∃ point rest, text = point :: rest ∧ point < 0x80 := by
  obtain ⟨signed, whole, -, -⟩ := number
  rcases signed with rfl | rfl
  · cases whole with
    | zero => exact ⟨0x30, _, rfl, by decide⟩
    | @digits first rest nonzero _ =>
      refine ⟨first, _, rfl, ?_⟩
      have digit := nonzero.1
      unfold IsDigit at digit
      omega
  · exact ⟨0x2D, _, rfl, by decide⟩

/-- A value begins with a code point of ASCII. -/
theorem Derives.begins (derives : Derives constants .value text) :
    ∃ point rest, text = point :: rest ∧ point < 0x80 := by
  cases derives with
  | literal known =>
    simp only [literals, List.mem_cons, List.not_mem_nil, or_false] at known
    rcases known with rfl | rfl | rfl <;> exact ⟨_, _, rfl, by decide⟩
  | constant _ known =>
    simp only [nonFinite, List.mem_cons, List.not_mem_nil, or_false] at known
    rcases known with rfl | rfl | rfl <;> exact ⟨_, _, rfl, by decide⟩
  | number written => exact number_begins written
  | string quoted =>
    cases quoted
    exact ⟨0x22, _, rfl, by decide⟩
  | @empty named _ _ => exact ⟨opening named, _, rfl, by cases named <;> decide⟩
  | @filled named _ _ => exact ⟨opening named, _, rfl, by cases named <;> decide⟩

/-- A JSON text begins with a code point of ASCII and has no NUL. -/
theorem IsJson.begins (json : IsJson constants text) :
    (∃ point rest, text = point :: rest ∧ point < 0x80) ∧ ∀ point ∈ text, point ≠ 0 := by
  obtain ⟨space, derived, space'⟩ := json
  constructor
  · rename_i before value after
    cases before with
    | nil =>
      obtain ⟨point, rest, same, ascii⟩ := derived.begins
      exact ⟨point, rest ++ after, by rw [same]; rfl, ascii⟩
    | cons point before =>
      have known := space point List.mem_cons_self
      exact ⟨point, before ++ value ++ after, rfl, by omega⟩
  · simp only [List.forall_mem_append]
    exact ⟨⟨space_present space, derived.present⟩, space_present space'⟩

end Beginnings

end JsonText
