import Mathlib.Data.List.Basic

/-!
# Patterns

Regular expressions of symbol classes, greedy repetition of a class and sequence, matched by
backtracking: a pattern has the ends that it can come to, in the order in which they are
tried, and the first one is its match. A search takes the leftmost match, goes on behind it
and gives the spans that it found.
-/

namespace Patterns

variable {α : Type}

/-- A class of symbols, its greedy repetition, and one pattern after another. -/
inductive Pattern (α : Type) where
  | one (accepts : α → Bool)
  | many (accepts : α → Bool)
  | seq (first second : Pattern α)

/-- The texts that a pattern matches. -/
inductive Pattern.Matches : Pattern α → List α → Prop
  | one {accepts : α → Bool} {symbol : α} (accepted : accepts symbol = true) :
      Matches (.one accepts) [symbol]
  | many {accepts : α → Bool} {group : List α} (accepted : ∀ symbol ∈ group, accepts symbol = true) :
      Matches (.many accepts) group
  | seq {first second : Pattern α} {group group' : List α} (earlier : Matches first group)
      (later : Matches second group') : Matches (.seq first second) (group ++ group')

/-- What a greedy repetition can take and leave, the longest first. -/
def manyEnds (accepts : α → Bool) : List α → List (List α × List α)
  | [] => [([], [])]
  | symbol :: rest =>
    if accepts symbol = true then
      (manyEnds accepts rest).map (fun stop => (symbol :: stop.1, stop.2)) ++ [([], symbol :: rest)]
    else [([], symbol :: rest)]

/-- What a pattern can take from the front of a text and what it then leaves, in the order of
the attempts. -/
def Pattern.ends : Pattern α → List α → List (List α × List α)
  | .one _, [] => []
  | .one accepts, symbol :: rest => if accepts symbol = true then [([symbol], rest)] else []
  | .many accepts, text => manyEnds accepts text
  | .seq first second, text =>
    (first.ends text).flatMap (fun stop =>
      (second.ends stop.2).map (fun stop' => (stop.1 ++ stop'.1, stop'.2)))

/-- The match at the front of a text. -/
def Pattern.first (pattern : Pattern α) (text : List α) : Option (List α) :=
  (pattern.ends text).head?.map Prod.fst

section Matches

variable {accepts : α → Bool} {first second pattern : Pattern α} {text group rest : List α} {symbol : α}

/-- One accepted symbol. -/
theorem matches_one_iff : (Pattern.one accepts).Matches group ↔
    ∃ symbol, accepts symbol = true ∧ group = [symbol] := by
  constructor
  · rintro ⟨accepted⟩
    exact ⟨_, accepted, rfl⟩
  · rintro ⟨symbol, accepted, rfl⟩
    exact .one accepted

/-- Accepted symbols only. -/
theorem matches_many_iff : (Pattern.many accepts).Matches group ↔
    ∀ symbol ∈ group, accepts symbol = true := by
  constructor
  · rintro ⟨⟩
    assumption
  · exact .many

/-- What the first pattern matches, and behind it what the second does. -/
theorem matches_seq_iff : (Pattern.seq first second).Matches group ↔
    ∃ before after, first.Matches before ∧ second.Matches after ∧ group = before ++ after := by
  constructor
  · rintro ⟨⟩
    exact ⟨_, _, ‹_›, ‹_›, rfl⟩
  · rintro ⟨before, after, earlier, later, rfl⟩
    exact .seq earlier later

/-- A repetition can stop behind every prefix of accepted symbols. -/
theorem mem_manyEnds : (group, rest) ∈ manyEnds accepts text ↔
    text = group ++ rest ∧ ∀ symbol ∈ group, accepts symbol = true := by
  induction text generalizing group with
  | nil => simp [manyEnds, and_assoc]; grind
  | cons symbol text inductionHypothesis =>
    unfold manyEnds
    by_cases accepted : accepts symbol = true
    · rw [if_pos accepted]
      cases group with
      | nil => simp; exact Eq.comm
      | cons taken group => simp [inductionHypothesis, and_assoc]; grind
    · rw [if_neg accepted]
      cases group with
      | nil => simp; exact Eq.comm
      | cons taken group => simp; grind

/-- The attempts are exactly the splits of the text whose first part the pattern matches. -/
theorem mem_ends : (group, rest) ∈ pattern.ends text ↔ text = group ++ rest ∧ pattern.Matches group := by
  induction pattern generalizing text group rest with
  | one accepts =>
    rw [matches_one_iff]
    cases text with
    | nil => simp [Pattern.ends]; grind
    | cons symbol text => simp [Pattern.ends]; grind
  | many accepts => rw [matches_many_iff, Pattern.ends, mem_manyEnds]
  | seq first second firstHypothesis secondHypothesis =>
    rw [matches_seq_iff]
    simp only [Pattern.ends, List.mem_flatMap, List.mem_map, Prod.exists, Prod.mk.injEq,
      firstHypothesis, secondHypothesis]
    constructor
    · rintro ⟨before, middle, ⟨rfl, earlier⟩, after, _, ⟨rfl, later⟩, rfl, rfl⟩
      exact ⟨(List.append_assoc ..).symm, before, after, earlier, later, rfl⟩
    · rintro ⟨rfl, before, after, earlier, later, rfl⟩
      exact ⟨before, after ++ rest, ⟨List.append_assoc .., earlier⟩, after, rest, ⟨rfl, later⟩, rfl, rfl⟩

/-- A text has no match at its front exactly if the pattern matches no prefix of it. -/
theorem first_eq_none : pattern.first text = none ↔
    ∀ group rest, text = group ++ rest → ¬pattern.Matches group := by
  unfold Pattern.first
  rw [Option.map_eq_none_iff, List.head?_eq_none_iff, List.eq_nil_iff_forall_not_mem]
  constructor
  · exact fun absent group rest split matched => absent (group, rest) (mem_ends.mpr ⟨split, matched⟩)
  · exact fun absent stop member =>
      absent stop.1 stop.2 (mem_ends.mp member).1 (mem_ends.mp member).2

/-- Where a pattern matches one prefix only, that prefix is the match. -/
theorem first_of_unique (matched : pattern.Matches group)
    (unique : ∀ group' rest', group ++ rest = group' ++ rest' → pattern.Matches group' → group' = group) :
    pattern.first (group ++ rest) = some group := by
  have tried : (group, rest) ∈ pattern.ends (group ++ rest) := mem_ends.mpr ⟨rfl, matched⟩
  unfold Pattern.first
  cases attempts : pattern.ends (group ++ rest) with
  | nil =>
    rw [attempts] at tried
    exact absurd tried List.not_mem_nil
  | cons stop others =>
    have member : (stop.1, stop.2) ∈ pattern.ends (group ++ rest) := attempts ▸ List.mem_cons_self
    obtain ⟨split, matched'⟩ := mem_ends.mp member
    exact congrArg some (unique stop.1 stop.2 split matched')

end Matches

/-- Where a match starts and where it stops. -/
structure Span where
  start : Nat
  stop : Nat

/-- The part of a text between two positions. -/
def slice (text : List α) (start stop : Nat) : List α := (text.drop start).take (stop - start)

/-- The matches of a text that starts at a position, the leftmost first and without overlaps,
of a pattern that matches no empty text; the first symbols may belong to the last match. -/
def spans (pattern : Pattern α) : Nat → Nat → List α → List Span
  | _, _, [] => []
  | start, covered + 1, _ :: rest => spans pattern (start + 1) covered rest
  | start, 0, symbol :: rest =>
    match pattern.first (symbol :: rest) with
    | some group => ⟨start, start + group.length⟩ :: spans pattern (start + 1) (group.length - 1) rest
    | none => spans pattern (start + 1) 0 rest

/-- The matches of a text. -/
def Pattern.finditer (pattern : Pattern α) (text : List α) : List Span := spans pattern 0 0 text

section Spans

variable {pattern : Pattern α} {start : Nat} {group rest : List α} {symbol : α}

/-- A search starts again behind what its last match covers. -/
theorem spans_covered (covered : List α) (start : Nat) :
    spans pattern start covered.length (covered ++ rest) =
      spans pattern (start + covered.length) 0 rest := by
  induction covered generalizing start with
  | nil => rfl
  | cons symbol covered inductionHypothesis =>
    rw [List.length_cons, List.cons_append, spans, inductionHypothesis]
    congr 1
    omega

/-- Without a match at the front a search goes on behind the first symbol. -/
theorem spans_of_none (absent : pattern.first (symbol :: rest) = none) :
    spans pattern start 0 (symbol :: rest) = spans pattern (start + 1) 0 rest := by
  rw [spans, absent]

/-- A match at the front is the first span, and the search goes on behind it. -/
theorem spans_of_some (found : pattern.first (symbol :: group ++ rest) = some (symbol :: group)) :
    spans pattern start 0 (symbol :: group ++ rest) =
      ⟨start, start + (symbol :: group).length⟩ ::
        spans pattern (start + (symbol :: group).length) 0 rest := by
  rw [List.cons_append] at found ⊢
  rw [spans, found]
  refine congrArg _ ((spans_covered group (start + 1)).trans ?_)
  rw [List.length_cons]
  congr 1
  omega

/-- A slice between two marks of a concatenation is the part between them. -/
theorem slice_append (before middle after : List α) :
    slice (before ++ middle ++ after) before.length (before.length + middle.length) = middle := by
  simp [slice]

end Spans

end Patterns
