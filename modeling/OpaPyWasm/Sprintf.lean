import OpaPyWasm.Library.Patterns
import OpaPyWasm.PercentFormat

/-!
# The builtin sprintf

`_sprintf` finds the verbs of its format with a regular expression, copies what stands between
them and writes an operand for each verb other than `%%`. Beside it stands the format as
pieces, literal code points and verbs, and a run over the pieces.
-/

namespace OpaPyWasm.Sprintf

open Exceptions Values PythonText PercentFormat Patterns

/-- `[#+ 0-9.\-]` -/
def isFlag (point : Nat) : Bool :=
  decide (point ∈ chars ['#', '+', ' ', '.', '-']) || decide (IsDigit point)

/-- `[vTtbcdoqxXUeEfFgGsp%]` -/
def isLetter (point : Nat) : Bool :=
  decide (point ∈ chars ['v', 'T', 't', 'b', 'c', 'd', 'o', 'q', 'x', 'X', 'U', 'e', 'E', 'f', 'F',
    'g', 'G', 's', 'p', '%'])

/-- `_GO_VERB` -/
def goVerb : Pattern Nat :=
  .seq (.one (fun point => point == '%'.toNat)) (.seq (.many isFlag) (.one isLetter))

variable (interpreter : Interpreter)

/-- `bool(operand)` -/
def truth : Value → Except Raised Bool
  | .none => .ok false
  | .bool value => .ok value
  | .int n => .ok (decide (n ≠ 0))
  | .float text => .ok (decide (text ≠ "0.0" ∧ text ≠ "-0.0"))
  | .str text => .ok (!text.isEmpty)
  | .list items => .ok (!items.isEmpty)
  | .dict entries => .ok (!entries.isEmpty)
  | .other typeName => interpreter.objectTruth typeName

/-- What is raised while another exception is handled leads on to it. -/
def whileHandling {α : Type} (handled : Raised) (result : Except Raised α) : Except Raised α :=
  match result with
  | .ok value => .ok value
  | .error raised => .error { raised with chain := raised.chain ++ handled.path }

/-- `_format_verb` -/
def formatVerb (verb : Text) (operand : Value) : Except Raised Text :=
  let conv := verb.getLast?
  if conv = some 'T'.toNat then .ok (points operand.typeName)
  else if conv = some 'v'.toNat then
    match operand with
    | .list items => interpreter.dumps (.list items)
    | .dict entries => interpreter.dumps (.dict entries)
    | .bool value => .ok (boolText value)
    | operand => interpreter.str operand
  else if conv = some 't'.toNat then boolText <$> truth interpreter operand
  else if conv = some 'q'.toNat then
    match operand with
    | .str text => .ok (encodeString text)
    | operand => encodeString <$> interpreter.str operand
  else
    match percent interpreter verb operand with
    | .ok text => .ok text
    | .error raised =>
      if raised.kind = .typeError ∨ raised.kind.isValueError = true then
        whileHandling raised (interpreter.str operand)
      else .error raised

/-- The operands are used up. -/
def notEnough : Raised :=
  opaErrorFrom .builtin "sprintf: not enough arguments for format" ⟨.otherException, "", []⟩

/-- The loop of `_sprintf` over the matches, with the position behind the last one, the
operands that the iterator still holds and the texts written: the whole text, and the operands
that are left. -/
def sprintfLoop (format : Text) :
    List Span → Nat → List Value → List Text → Except Raised (Text × List Value)
  | [], pos, it, out => .ok ((out ++ [format.drop pos]).flatten, it)
  | span :: rest, pos, it, out =>
    let out := out ++ [slice format pos span.start]
    let verb := slice format span.start span.stop
    if verb = chars ['%', '%'] then sprintfLoop format rest span.stop it (out ++ [chars ['%']])
    else
      match it with
      | [] => .error notEnough
      | operand :: it => do
        let text ← formatVerb interpreter verb operand
        sprintfLoop format rest span.stop it (out ++ [text])

/-- `_sprintf` on a text and a list. -/
def sprintfRun (format : Text) (operands : List Value) : Except Raised (Text × List Value) :=
  sprintfLoop interpreter format (goVerb.finditer format) 0 operands []

/-- `_sprintf` -/
def sprintf (fmt operands : Value) : Except Raised Value :=
  match fmt with
  | .str format =>
    match operands with
    | .list items => (fun result => .str result.1) <$> sprintfRun interpreter format items
    | _ => .error (opaError .builtin "sprintf: second argument must be an array")
  | _ => .error (opaError .builtin "sprintf: format must be a string")

/-- A verb: flags, width and precision as they come, and a letter. -/
structure Verb where
  flags : Text
  letter : Nat
  isFlags : ∀ point ∈ flags, isFlag point = true
  isLetter : isLetter letter = true

/-- A verb as it stands in a format. -/
def Verb.text (verb : Verb) : Text := '%'.toNat :: (verb.flags ++ [verb.letter])

/-- A piece of a format. -/
inductive Piece where
  | literal (point : Nat)
  | verb (verb : Verb)

/-- The pieces of a format from left to right: a verb where one stands, a code point otherwise. -/
inductive Scans : Text → List Piece → Prop
  | nil : Scans [] []
  | verb (verb : Verb) {rest : Text} {pieces : List Piece} (scanned : Scans rest pieces) :
      Scans (verb.text ++ rest) (.verb verb :: pieces)
  | literal {point : Nat} {rest : Text} {pieces : List Piece}
      (plain : ∀ verb : Verb, ¬verb.text <+: point :: rest) (scanned : Scans rest pieces) :
      Scans (point :: rest) (.literal point :: pieces)

/-- The verbs of a format that take an operand. -/
def verbsOf (takes : Verb → Bool) : List Piece → List Verb
  | [] => []
  | .literal _ :: pieces => verbsOf takes pieces
  | .verb verb :: pieces => if takes verb then verb :: verbsOf takes pieces else verbsOf takes pieces

/-- A percent verb takes no operand, whatever its flags. -/
def Verb.takesOperand (verb : Verb) : Bool := verb.letter != '%'.toNat

/-- `verb == "%%"` is the test of the code. -/
def Verb.takesInCode (verb : Verb) : Bool := verb.text != chars ['%', '%']

/-- The texts of the operands under the verbs in order, as far as both go. -/
def renderings : List Verb → List Value → Except Raised (List Text)
  | verb :: verbs, operand :: operands => do
    let text ← formatVerb interpreter verb.text operand
    let texts ← renderings verbs operands
    pure (text :: texts)
  | _, _ => pure []

/-- The literal text in place, a percent sign for a verb that takes no operand, and the next text
for one that does. -/
def weave (takes : Verb → Bool) : List Piece → List Text → Text
  | [], _ => []
  | .literal point :: pieces, texts => point :: weave takes pieces texts
  | .verb verb :: pieces, texts =>
    if takes verb then texts.headD [] ++ weave takes pieces texts.tail
    else '%'.toNat :: weave takes pieces texts

/-- A run over the pieces of a format. -/
def runPieces (takes : Verb → Bool) : List Piece → List Value → Except Raised (Text × List Value)
  | [], it => .ok ([], it)
  | .literal point :: pieces, it =>
    (fun result => (point :: result.1, result.2)) <$> runPieces takes pieces it
  | .verb verb :: pieces, it =>
    if takes verb then
      match it with
      | [] => .error notEnough
      | operand :: it => do
        let text ← formatVerb interpreter verb.text operand
        (fun result => (text ++ result.1, result.2)) <$> runPieces takes pieces it
    else (fun result => ('%'.toNat :: result.1, result.2)) <$> runPieces takes pieces it

section Scans

variable {verb verb' : Verb} {text rest rest' : Text} {pieces : List Piece} {start : Nat}

/-- No letter of a verb is a flag. -/
theorem isFlag_of_isLetter {point : Nat} (letter : isLetter point = true) : isFlag point = false := by
  have known : ∀ point ∈ chars ['v', 'T', 't', 'b', 'c', 'd', 'o', 'q', 'x', 'X', 'U', 'e', 'E', 'f',
      'F', 'g', 'G', 's', 'p', '%'], isFlag point = false := by decide
  exact known point (of_decide_eq_true letter)

/-- The flags of a verb are all the flags behind its percent sign. -/
theorem Verb.takeWhile_flags (verb : Verb) (rest : Text) :
    (verb.flags ++ verb.letter :: rest).takeWhile isFlag = verb.flags := by
  rw [List.takeWhile_append_of_pos verb.isFlags, List.takeWhile_cons,
    isFlag_of_isLetter verb.isLetter]
  simp

/-- A verb is its percent sign, its flags and its letter. -/
theorem Verb.text_append (verb : Verb) (rest : Text) :
    verb.text ++ rest = '%'.toNat :: (verb.flags ++ verb.letter :: rest) := by
  simp [Verb.text]

/-- At most one verb stands at the front of a text. -/
theorem Verb.unique (same : verb.text ++ rest = verb'.text ++ rest') : verb = verb' ∧ rest = rest' := by
  rw [Verb.text_append, Verb.text_append] at same
  have behind := (List.cons.inj same).2
  have flags : verb.flags = verb'.flags := by
    rw [← verb.takeWhile_flags rest, behind, verb'.takeWhile_flags rest']
  rw [flags] at behind
  obtain ⟨letter, rest⟩ := List.cons.inj (List.append_cancel_left behind)
  refine ⟨?_, rest⟩
  cases verb
  cases verb'
  cases flags
  cases letter
  rfl

/-- The regular expression matches the verbs. -/
theorem goVerb_matches {group : Text} : goVerb.Matches group ↔ ∃ verb : Verb, verb.text = group := by
  unfold goVerb
  simp only [matches_seq_iff, matches_one_iff, matches_many_iff, beq_iff_eq]
  constructor
  · rintro ⟨_, _, ⟨_, rfl, rfl⟩, ⟨flags, _, isFlags, ⟨letter, isLetter, rfl⟩, rfl⟩, rfl⟩
    exact ⟨⟨flags, letter, isFlags, isLetter⟩, rfl⟩
  · rintro ⟨verb, rfl⟩
    exact ⟨_, _, ⟨_, rfl, rfl⟩, ⟨verb.flags, _, verb.isFlags, ⟨verb.letter, verb.isLetter, rfl⟩, rfl⟩, rfl⟩

/-- A verb at the front of a text is the match there. -/
theorem first_verb (verb : Verb) (rest : Text) : goVerb.first (verb.text ++ rest) = some verb.text := by
  refine first_of_unique (goVerb_matches.mpr ⟨verb, rfl⟩) fun group' rest' same matched => ?_
  obtain ⟨verb', rfl⟩ := goVerb_matches.mp matched
  rw [(Verb.unique same).1]

/-- Without a verb at the front of a text there is no match. -/
theorem first_literal (plain : ∀ verb : Verb, ¬verb.text <+: text) : goVerb.first text = none := by
  refine first_eq_none.mpr fun group rest split matched => ?_
  obtain ⟨verb, rfl⟩ := goVerb_matches.mp matched
  exact plain verb ⟨rest, split.symm⟩

/-- Every format has pieces. -/
theorem scans_exists (text : Text) : ∃ pieces, Scans text pieces := by
  induction bound : text.length using Nat.strongRecOn generalizing text with
  | ind length inductionHypothesis =>
    cases text with
    | nil => exact ⟨[], .nil⟩
    | cons point rest =>
      by_cases standing : ∃ verb : Verb, verb.text <+: point :: rest
      · obtain ⟨verb, behind, split⟩ := standing
        have shorter : behind.length < length := by
          rw [← bound, ← split]
          simp [Verb.text]
          omega
        obtain ⟨pieces, scanned⟩ := inductionHypothesis _ shorter behind rfl
        exact ⟨.verb verb :: pieces, split ▸ Scans.verb verb scanned⟩
      · have shorter : rest.length < length := by
          rw [← bound]
          simp
        obtain ⟨pieces, scanned⟩ := inductionHypothesis _ shorter rest rfl
        exact ⟨_, .literal (fun verb found => standing ⟨verb, found⟩) scanned⟩

/-- A format has no two lists of pieces. A verb at the front leaves no choice of its flags and
letter, and a code point is literal only where no verb stands. -/
theorem Scans.unique {other : List Piece} (scans : Scans text pieces) (scans' : Scans text other) :
    other = pieces := by
  induction scans generalizing other with
  | nil =>
    cases scans' with
    | nil => rfl
  | @verb verb rest pieces scanned inductionHypothesis =>
    generalize split : verb.text ++ rest = text at scans'
    cases scans' with
    | nil => cases split
    | verb verb' scanned' =>
      obtain ⟨rfl, rfl⟩ := Verb.unique split
      rw [inductionHypothesis scanned']
    | literal plain => exact absurd ⟨rest, split⟩ (plain verb)
  | @literal point rest pieces plain scanned inductionHypothesis =>
    generalize split : point :: rest = text at scans'
    cases scans' with
    | nil => cases split
    | @verb verb' rest' pieces' scanned' => exact absurd ⟨rest', split.symm⟩ (plain verb')
    | literal plain' scanned' =>
      cases split
      rw [inductionHypothesis scanned']

/-- Each format has exactly one list of pieces. -/
theorem scans_existsUnique (text : Text) :
    ∃ pieces, Scans text pieces ∧ ∀ other, Scans text other → other = pieces := by
  obtain ⟨pieces, scans⟩ := scans_exists text
  exact ⟨pieces, scans, fun _ => scans.unique⟩

/-- The spans of the verbs among pieces. -/
def spansOf : Nat → List Piece → List Span
  | _, [] => []
  | start, .literal _ :: pieces => spansOf (start + 1) pieces
  | start, .verb verb :: pieces =>
    ⟨start, start + verb.text.length⟩ :: spansOf (start + verb.text.length) pieces

/-- The search finds the verbs of the format. -/
theorem spans_scans (scans : Scans text pieces) : spans goVerb start 0 text = spansOf start pieces := by
  induction scans generalizing start with
  | nil => rfl
  | verb verb scanned inductionHypothesis =>
    unfold spansOf
    rw [← inductionHypothesis]
    exact spans_of_some (first_verb verb _)
  | literal plain scanned inductionHypothesis =>
    unfold spansOf
    rw [← inductionHypothesis]
    exact spans_of_none (first_literal plain)

end Scans

variable {interpreter}

variable (interpreter) in
/-- The loop of the code runs over the pieces, with the literal text since the last verb still
to be copied.

Proof: by induction on the pieces. A literal point joins the pending text, and a verb copies
what is pending, as the slices between two matches are the literal text between two verbs. -/
theorem sprintfLoop_eq {text : Text} {pieces : List Piece} (scans : Scans text pieces)
    (before pending : Text) (it : List Value) (out : List Text) :
    sprintfLoop interpreter (before ++ pending ++ text) (spansOf (before.length + pending.length) pieces)
        before.length it out =
      (fun result => (out.flatten ++ (pending ++ result.1), result.2)) <$>
        runPieces interpreter Verb.takesInCode pieces it := by
  induction scans generalizing before pending it out with
  | nil => simp [spansOf, sprintfLoop, runPieces]
  | literal plain scanned inductionHypothesis =>
    rename_i point rest pieces
    have later := inductionHypothesis before (pending ++ [point]) it out
    simp only [List.append_assoc, List.length_append, List.length_singleton, List.singleton_append,
      ← Nat.add_assoc] at later
    unfold spansOf runPieces
    rw [List.append_assoc, later, Functor.map_map]
  | verb verb scanned inductionHypothesis =>
    rename_i rest pieces
    have copied : slice (before ++ pending ++ (verb.text ++ rest)) before.length
        (before.length + pending.length) = pending := slice_append ..
    have found : slice (before ++ pending ++ (verb.text ++ rest)) (before.length + pending.length)
        (before.length + pending.length + verb.text.length) = verb.text := by
      have marked := slice_append (before ++ pending) verb.text rest
      rwa [List.length_append, List.append_assoc (before ++ pending)] at marked
    have behind : (before ++ pending ++ verb.text).length =
        before.length + pending.length + verb.text.length := by
      simp [Nat.add_assoc]
    have later := inductionHypothesis (before ++ pending ++ verb.text) []
    simp only [List.append_nil, List.length_nil, Nat.add_zero, List.nil_append, behind,
      List.append_assoc (before ++ pending)] at later
    unfold spansOf sprintfLoop runPieces
    simp only [copied, found]
    by_cases percent : verb.text = chars ['%', '%']
    · have free : ¬verb.takesInCode = true := by simp [Verb.takesInCode, percent]
      rw [if_pos percent, if_neg free, later, Functor.map_map]
      simp [chars]
    · have taking : verb.takesInCode = true := by simp [Verb.takesInCode, percent]
      rw [if_neg percent, if_pos taking]
      cases it with
      | nil => rfl
      | cons operand it =>
        simp only
        cases formatVerb interpreter verb.text operand with
        | error raised => rfl
        | ok written =>
          simp only [bind, Except.bind]
          rw [later, Functor.map_map]
          simp

/-- The code runs over the pieces of its format. -/
theorem sprintfRun_eq {format : Text} {pieces : List Piece} (scans : Scans format pieces)
    (operands : List Value) :
    sprintfRun interpreter format operands =
      runPieces interpreter Verb.takesInCode pieces operands := by
  have looped := sprintfLoop_eq interpreter scans [] [] operands []
  unfold sprintfRun Pattern.finditer
  rw [spans_scans scans]
  simpa using looped

section Runs

variable {takes : Verb → Bool}

/-- The first verb is rendered first. -/
theorem renderings_cons (verb : Verb) (verbs : List Verb) (operand : Value) (operands : List Value) :
    renderings interpreter (verb :: verbs) (operand :: operands) = (do
      let text ← formatVerb interpreter verb.text operand
      let texts ← renderings interpreter verbs operands
      pure (text :: texts)) := rfl

/-- A run renders the operands under the verbs that take one, in order, and then weaves their texts
into the format or misses an operand.

Proof: by induction on the pieces. A literal is copied and a verb that takes nothing is woven
in; a verb that takes an operand renders the first one or has none. -/
theorem runPieces_eq (pieces : List Piece) (operands : List Value) :
    runPieces interpreter takes pieces operands = (do
      let texts ← renderings interpreter (verbsOf takes pieces) operands
      if operands.length < (verbsOf takes pieces).length then .error notEnough
      else pure (weave takes pieces texts, operands.drop (verbsOf takes pieces).length)) := by
  induction pieces generalizing operands with
  | nil => rfl
  | cons piece pieces inductionHypothesis =>
    cases piece with
    | literal point =>
      unfold runPieces verbsOf
      rw [inductionHypothesis]
      cases renderings interpreter (verbsOf takes pieces) operands with
      | error raised => rfl
      | ok texts =>
        simp only [bind, Except.bind]
        split
        · rfl
        · rfl
    | verb verb =>
      unfold runPieces verbsOf
      by_cases taking : takes verb = true
      · rw [if_pos taking, if_pos taking]
        cases operands with
        | nil => simp [renderings]
        | cons operand operands =>
          rw [renderings_cons]
          simp only [inductionHypothesis]
          cases formatVerb interpreter verb.text operand with
          | error raised => rfl
          | ok written =>
            cases renderings interpreter (verbsOf takes pieces) operands with
            | error raised => rfl
            | ok texts =>
              simp only [bind, Except.bind, pure, Except.pure, List.length_cons,
                Nat.add_lt_add_iff_right]
              split
              · rfl
              · simp [weave, taking]
      · rw [if_neg taking, if_neg taking, inductionHypothesis]
        cases renderings interpreter (verbsOf takes pieces) operands with
        | error raised => rfl
        | ok texts =>
          simp only [bind, Except.bind]
          split
          · rfl
          · simp [weave, taking]

end Runs

end OpaPyWasm.Sprintf
