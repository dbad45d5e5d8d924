import OpaPyWasm.SprintfFallback

/-!
# Which operand a verb gets

In Go a percent verb writes a percent sign and takes no operand, whatever flags, width and
precision it has. The code takes only `%%` for one: with anything in between it hands an operand
to the verb, and each later verb gets the operand of the next.
-/

namespace OpaPyWasm.Sprintf

open Exceptions Values PythonText PercentFormat Patterns

variable {interpreter : Interpreter} {format : Text} {pieces : List Piece} {operands : List Value}

/-- `_sprintf` consumes its operands as Go does: it misses one exactly if there are fewer than verbs
that take one; and otherwise, where these verbs have their renderings in order, it writes them
into the literal text and leaves the operands behind them. -/
structure ConsumesAsGo (interpreter : Interpreter) (format : Text) (pieces : List Piece)
    (operands : List Value) : Prop where
  shortage : sprintf interpreter (.str format) (.list operands) = .error notEnough ↔
    operands.length < (verbsOf Verb.takesOperand pieces).length
  paired : (verbsOf Verb.takesOperand pieces).length ≤ operands.length →
    ∀ texts, renderings interpreter (verbsOf Verb.takesOperand pieces) operands = .ok texts →
      sprintfRun interpreter format operands = .ok (weave Verb.takesOperand pieces texts,
        operands.drop (verbsOf Verb.takesOperand pieces).length)

/-- Some verb overflows on the operand that stands at its place. -/
def SomeOverflows (verbs : List Verb) (operands : List Value) : Prop :=
  ∃ pair ∈ verbs.zip operands, Overflows pair.1 pair.2

/-- Every percent verb is `%%`. -/
def PercentsPlain (pieces : List Piece) : Prop :=
  ∀ verb, .verb verb ∈ pieces → verb.letter = '%'.toNat → verb.flags = []

/-- Where operands are missing, that no verb overflows before it comes to light; otherwise that no
percent verb has flags, or else that some verb of Go overflows, so that there is no text to
write, and that the code comes to no missing operand. -/
def Agrees (pieces : List Piece) (operands : List Value) : Prop :=
  if operands.length < (verbsOf Verb.takesOperand pieces).length then
    ¬SomeOverflows (verbsOf Verb.takesInCode pieces) operands
  else
    PercentsPlain pieces ∨
      (SomeOverflows (verbsOf Verb.takesOperand pieces) operands ∧
        (SomeOverflows (verbsOf Verb.takesInCode pieces) operands ∨
          (verbsOf Verb.takesInCode pieces).length ≤ operands.length))

section Verbs

variable {takes takes' : Verb → Bool}

/-- The only verb that takes no operand in the code. -/
theorem takesInCode_eq_false_iff {verb : Verb} :
    verb.takesInCode = false ↔ verb.letter = '%'.toNat ∧ verb.flags = [] := by
  unfold Verb.takesInCode Verb.text chars
  rw [bne_eq_false_iff_eq, List.map_cons, List.map_cons, List.map_nil, List.cons.injEq,
    and_iff_right rfl]
  constructor
  · intro same
    cases flags : verb.flags with
    | nil =>
      rw [flags] at same
      exact ⟨(List.cons.inj same).1, rfl⟩
    | cons point rest =>
      rw [flags] at same
      simp at same
  · rintro ⟨letter, flags⟩
    rw [letter, flags]
    rfl

/-- The code takes an operand wherever Go does. -/
theorem takesInCode_of_takesOperand {verb : Verb} (taking : verb.takesOperand = true) :
    verb.takesInCode = true := by
  refine Bool.of_not_eq_false fun free => ?_
  rw [Verb.takesOperand, (takesInCode_eq_false_iff.mp free).1] at taking
  cases taking

/-- Two ways to take operands that agree on the verbs of a format. -/
theorem takes_congr (agree : ∀ verb, .verb verb ∈ pieces → takes verb = takes' verb) :
    verbsOf takes pieces = verbsOf takes' pieces ∧ weave takes pieces = weave takes' pieces := by
  induction pieces with
  | nil => exact ⟨rfl, rfl⟩
  | cons piece pieces inductionHypothesis =>
    obtain ⟨verbs, woven⟩ := inductionHypothesis fun verb member =>
      agree verb (List.mem_cons_of_mem _ member)
    cases piece with
    | literal point =>
      refine ⟨verbs, funext fun texts => ?_⟩
      simp only [weave, woven]
    | verb verb =>
      have here := agree verb List.mem_cons_self
      refine ⟨?_, funext fun texts => ?_⟩
      · simp only [verbsOf, verbs, here]
      · simp only [weave, woven, here]

/-- Without flags on percent verbs the code takes its operands as Go does. -/
theorem takes_of_plain (plain : PercentsPlain pieces) {verb : Verb} (member : .verb verb ∈ pieces) :
    verb.takesInCode = verb.takesOperand := by
  cases taking : verb.takesOperand with
  | true => exact takesInCode_of_takesOperand taking
  | false =>
    have percent : verb.letter = '%'.toNat := by simpa [Verb.takesOperand] using taking
    exact takesInCode_eq_false_iff.mpr ⟨percent, plain verb member percent⟩

/-- The code takes at least the operands that Go takes. -/
theorem verbsOf_length_le (pieces : List Piece) :
    (verbsOf Verb.takesOperand pieces).length ≤ (verbsOf Verb.takesInCode pieces).length := by
  induction pieces with
  | nil => exact Nat.le_refl _
  | cons piece pieces inductionHypothesis =>
    cases piece with
    | literal point => exact inductionHypothesis
    | verb verb =>
      unfold verbsOf
      by_cases taking : verb.takesOperand = true
      · rw [if_pos taking, if_pos (takesInCode_of_takesOperand taking)]
        exact Nat.succ_le_succ inductionHypothesis
      · rw [if_neg taking]
        split
        · exact Nat.le_succ_of_le inductionHypothesis
        · exact inductionHypothesis

/-- With flags on a percent verb the code takes more operands than Go. -/
theorem verbsOf_length_lt {verb : Verb} (member : .verb verb ∈ pieces)
    (percent : verb.letter = '%'.toNat) (flagged : verb.flags ≠ []) :
    (verbsOf Verb.takesOperand pieces).length < (verbsOf Verb.takesInCode pieces).length := by
  induction pieces with
  | nil => exact absurd member List.not_mem_nil
  | cons piece pieces inductionHypothesis =>
    rcases List.mem_cons.mp member with rfl | later
    · have free : ¬verb.takesOperand = true := by simp [Verb.takesOperand, percent]
      have taking : verb.takesInCode = true :=
        Bool.of_not_eq_false fun free => flagged (takesInCode_eq_false_iff.mp free).2
      unfold verbsOf
      rw [if_neg free, if_pos taking]
      exact Nat.lt_succ_of_le (verbsOf_length_le pieces)
    · have behind := inductionHypothesis later
      cases piece with
      | literal point => exact behind
      | verb other =>
        unfold verbsOf
        by_cases taking : other.takesOperand = true
        · rw [if_pos taking, if_pos (takesInCode_of_takesOperand taking)]
          exact Nat.succ_lt_succ behind
        · rw [if_neg taking]
          split
          · exact Nat.lt_succ_of_lt behind
          · exact behind

/-- Where a percent sign has flags, the code takes more operands than verbs take. -/
theorem verbsOf_length_lt_of_not_plain (flagged : ¬PercentsPlain pieces) :
    (verbsOf Verb.takesOperand pieces).length < (verbsOf Verb.takesInCode pieces).length := by
  unfold PercentsPlain at flagged
  push Not at flagged
  obtain ⟨verb, member, percent, flags⟩ := flagged
  exact verbsOf_length_lt member percent flags

end Verbs

/-- The operands are written exactly if no verb overflows. -/
theorem renderings_iff_not_someOverflows {verbs : List Verb}
    (loaded : ∀ operand ∈ operands, Loaded interpreter.maxStrDigits operand) :
    (∃ texts, renderings interpreter verbs operands = .ok texts) ↔ ¬SomeOverflows verbs operands := by
  rw [renderings_return_iff loaded]
  unfold SomeOverflows
  simp only [not_exists, not_and]

/-- The code misses an operand exactly if no verb overflows on the operands there are, and they are
fewer than the verbs other than `%%`. -/
theorem sprintf_short_iff (scans : Scans format pieces)
    (loaded : ∀ operand ∈ operands, Loaded interpreter.maxStrDigits operand) :
    sprintf interpreter (.str format) (.list operands) = .error notEnough ↔
      ¬SomeOverflows (verbsOf Verb.takesInCode pieces) operands ∧
        operands.length < (verbsOf Verb.takesInCode pieces).length := by
  rw [← renderings_iff_not_someOverflows loaded]
  unfold sprintf
  simp only
  rw [sprintfRun_eq scans, runPieces_eq]
  have ends : OnlyRaises (fun raised => raised.kind = .overflowError)
      (renderings interpreter (verbsOf Verb.takesInCode pieces) operands) := renderings_end loaded
  cases rendered : renderings interpreter (verbsOf Verb.takesInCode pieces) operands with
  | error raised =>
    rw [rendered] at ends
    constructor
    · intro same
      cases same
      cases ends
    · rintro ⟨⟨texts, written⟩, -⟩
      cases written
  | ok texts =>
    simp only [bind, Except.bind]
    by_cases short : operands.length < (verbsOf Verb.takesInCode pieces).length
    · rw [if_pos short]
      exact ⟨fun _ => ⟨⟨texts, rfl⟩, short⟩, fun _ => rfl⟩
    · rw [if_neg short]
      refine ⟨fun same => ?_, fun both => absurd both.2 short⟩
      cases same

/-- With an operand for each of its verbs the code writes what it renders into the literal text. -/
theorem sprintfRun_returns (scans : Scans format pieces)
    (supplied : (verbsOf Verb.takesInCode pieces).length ≤ operands.length) {texts : List Text}
    (rendered : renderings interpreter (verbsOf Verb.takesInCode pieces) operands = .ok texts) :
    sprintfRun interpreter format operands = .ok (weave Verb.takesInCode pieces texts,
      operands.drop (verbsOf Verb.takesInCode pieces).length) := by
  rw [sprintfRun_eq scans, runPieces_eq, rendered]
  exact if_neg (Nat.not_lt.mpr supplied)

/-- What is left of the operands when the code returns. -/
theorem sprintfRun_leaves (scans : Scans format pieces) {result : Text × List Value}
    (returned : sprintfRun interpreter format operands = .ok result) :
    (verbsOf Verb.takesInCode pieces).length ≤ operands.length ∧
      result.2 = operands.drop (verbsOf Verb.takesInCode pieces).length := by
  rw [sprintfRun_eq scans, runPieces_eq] at returned
  obtain ⟨texts, -, returned⟩ := returned_of_bind returned
  split at returned
  · cases returned
  · cases returned
    exact ⟨Nat.le_of_not_lt ‹_›, rfl⟩

end OpaPyWasm.Sprintf
