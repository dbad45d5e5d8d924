import Mathlib.Data.List.Basic

/-!
# UTF-8 of any code points

The encoding of UTF-8 on every code point, surrogates included, as a decoder reads it
that lets surrogates pass. A decoder of the first point undoes it, so a text is known by
its bytes.
-/

namespace Utf8

/-- The bytes of a code point. -/
def encodePoint (point : Nat) : List UInt8 :=
  if point ≤ 0x7F then [UInt8.ofNat point]
  else if point ≤ 0x7FF then
    [UInt8.ofNat (point / 64 % 0x20 + 0xC0), UInt8.ofNat (point % 0x40 + 0x80)]
  else if point ≤ 0xFFFF then
    [UInt8.ofNat (point / 4096 % 0x10 + 0xE0), UInt8.ofNat (point / 64 % 0x40 + 0x80),
      UInt8.ofNat (point % 0x40 + 0x80)]
  else
    [UInt8.ofNat (point / 262144 % 0x08 + 0xF0), UInt8.ofNat (point / 4096 % 0x40 + 0x80),
      UInt8.ofNat (point / 64 % 0x40 + 0x80), UInt8.ofNat (point % 0x40 + 0x80)]

/-- The bytes of a text. -/
def encode (text : List Nat) : List UInt8 := text.flatMap encodePoint

/-- The code points of Unicode. -/
def InRange (text : List Nat) : Prop := ∀ point ∈ text, point < 0x110000

/-- The first code point of well-formed bytes, and what follows it. -/
def decodePoint : List UInt8 → Option (Nat × List UInt8)
  | [] => none
  | first :: rest =>
    if first.toNat < 0x80 then some (first.toNat, rest)
    else if first.toNat < 0xE0 then
      match rest with
      | second :: rest => some ((first.toNat - 0xC0) * 64 + (second.toNat - 0x80), rest)
      | _ => none
    else if first.toNat < 0xF0 then
      match rest with
      | second :: third :: rest =>
        some ((first.toNat - 0xE0) * 4096 + (second.toNat - 0x80) * 64 + (third.toNat - 0x80), rest)
      | _ => none
    else
      match rest with
      | second :: third :: fourth :: rest =>
        some ((first.toNat - 0xF0) * 262144 + (second.toNat - 0x80) * 4096 +
          (third.toNat - 0x80) * 64 + (fourth.toNat - 0x80), rest)
      | _ => none

variable {point : Nat} {text other : List Nat}

/-- The empty text has no bytes. -/
@[simp] theorem encode_nil : encode [] = [] := rfl

/-- A text is encoded point by point. -/
@[simp] theorem encode_cons (point : Nat) (text : List Nat) :
    encode (point :: text) = encodePoint point ++ encode text := rfl

/-- Decoding undoes encoding.

Proof: one case for each length of an encoded point. -/
theorem decodePoint_encodePoint (known : point < 0x110000) (rest : List UInt8) :
    decodePoint (encodePoint point ++ rest) = some (point, rest) := by
  unfold encodePoint
  by_cases one : point ≤ 0x7F
  · have value : (UInt8.ofNat point).toNat = point := by
      rw [UInt8.toNat_ofNat']
      omega
    rw [if_pos one, List.singleton_append]
    unfold decodePoint
    simp only [value]
    exact if_pos (by omega)
  · rw [if_neg one]
    by_cases two : point ≤ 0x7FF
    · simp only [if_pos two, List.cons_append, List.nil_append, decodePoint, UInt8.toNat_ofNat']
      rw [if_neg (by omega), if_pos (by omega)]
      simp only [Option.some.injEq, Prod.mk.injEq, and_true]
      omega
    · rw [if_neg two]
      by_cases three : point ≤ 0xFFFF
      · simp only [if_pos three, List.cons_append, List.nil_append, decodePoint, UInt8.toNat_ofNat']
        rw [if_neg (by omega), if_neg (by omega), if_pos (by omega)]
        simp only [Option.some.injEq, Prod.mk.injEq, and_true]
        omega
      · simp only [if_neg three, List.cons_append, List.nil_append, decodePoint, UInt8.toNat_ofNat']
        rw [if_neg (by omega), if_neg (by omega), if_neg (by omega)]
        simp only [Option.some.injEq, Prod.mk.injEq, and_true]
        omega

/-- A text is known by its bytes. -/
theorem encode_injective (known : InRange text) (known' : InRange other)
    (same : encode text = encode other) : text = other := by
  induction text generalizing other with
  | nil =>
    cases other with
    | nil => rfl
    | cons point other =>
      have decoded := decodePoint_encodePoint (known' point List.mem_cons_self) (encode other)
      rw [← encode_cons, ← same] at decoded
      cases decoded
  | cons point text inductionHypothesis =>
    have decoded := decodePoint_encodePoint (known point List.mem_cons_self) (encode text)
    rw [← encode_cons, same] at decoded
    cases other with
    | nil => cases decoded
    | cons point' other =>
      rw [encode_cons, decodePoint_encodePoint (known' point' List.mem_cons_self)] at decoded
      simp only [Option.some.injEq, Prod.mk.injEq] at decoded
      obtain ⟨rfl, rest⟩ := decoded
      have inside : InRange text := fun point member => known point (List.mem_cons_of_mem _ member)
      have inside' : InRange other := fun point member => known' point (List.mem_cons_of_mem _ member)
      rw [inductionHypothesis inside inside' rest.symm]

/-- A code point of ASCII is its own byte. -/
theorem encodePoint_ascii (ascii : point < 0x80) : encodePoint point = [UInt8.ofNat point] :=
  if_pos (by omega)

/-- NUL is the one code point that has a byte zero. -/
theorem zero_not_mem_encodePoint (known : point < 0x110000) (present : point ≠ 0) :
    0 ∉ encodePoint point := by
  have positive : ∀ {value : Nat}, 0 < value → value < 256 → (0 : UInt8) ≠ UInt8.ofNat value := by
    intro value low high zero
    have values := congrArg UInt8.toNat zero
    rw [UInt8.toNat_ofNat', UInt8.toNat_zero] at values
    omega
  unfold encodePoint
  split
  · exact mt List.mem_singleton.mp (positive (by omega) (by omega))
  · split
    · simp only [List.mem_cons, List.not_mem_nil, or_false, not_or]
      exact ⟨positive (by omega) (by omega), positive (by omega) (by omega)⟩
    · split
      · simp only [List.mem_cons, List.not_mem_nil, or_false, not_or]
        exact ⟨positive (by omega) (by omega), positive (by omega) (by omega),
          positive (by omega) (by omega)⟩
      · simp only [List.mem_cons, List.not_mem_nil, or_false, not_or]
        exact ⟨positive (by omega) (by omega), positive (by omega) (by omega),
          positive (by omega) (by omega), positive (by omega) (by omega)⟩

/-- Only the code point zero is encoded with a zero byte. -/
theorem zero_not_mem_encode (known : InRange text) (present : ∀ point ∈ text, point ≠ 0) :
    0 ∉ encode text := by
  intro zero
  obtain ⟨point, member, inside⟩ := List.mem_flatMap.mp zero
  exact zero_not_mem_encodePoint (known point member) (present point member) inside

end Utf8
