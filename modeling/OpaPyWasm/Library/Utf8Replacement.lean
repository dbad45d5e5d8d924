import OpaPyWasm.Library.Utf8

/-!
# UTF-8 of any bytes

A decoder that takes any bytes, one after another. Where they are not UTF-8 it puts a
replacement character for the longest beginning of a character that breaks off, and one
for each byte that begins none.

Such a decoder undoes the encoding of every text without surrogates. What it puts out is
always such a text, and where that has no replacement character, it has the bytes that
were decoded. Of a text that is cut anywhere it gives the characters that are whole, and
at most one replacement character behind them.
-/

namespace Utf8

/-- A code point that is no surrogate. -/
def IsScalar (point : Nat) : Prop := point < 0xD800 ∨ 0xDFFF < point ∧ point < 0x110000

/-- A scalar is a code point of Unicode. -/
theorem IsScalar.lt {point : Nat} (scalar : IsScalar point) : point < 0x110000 := by
  unfold IsScalar at scalar
  omega

/-- A text without surrogates. -/
def IsText (text : List Nat) : Prop := ∀ point ∈ text, IsScalar point

/-- A code point is tested by its range. -/
instance (point : Nat) : Decidable (IsScalar point) :=
  inferInstanceAs (Decidable (point < 0xD800 ∨ 0xDFFF < point ∧ point < 0x110000))

/-- A text is tested point by point. -/
instance (text : List Nat) : Decidable (IsText text) :=
  inferInstanceAs (Decidable (∀ point ∈ text, IsScalar point))

/-- The replacement character. -/
def replacement : Nat := 0xFFFD

/-- A character whose last bytes are missing: its bits so far, how many bytes are missing
behind the next one, and the least and the greatest byte that may be the next one. -/
structure Pending where
  bits : Nat
  later : Nat
  low : Nat
  high : Nat
deriving DecidableEq

/-- The character of several bytes that a byte begins. -/
def begun (byte : Nat) : Option Pending :=
  if 0xC2 ≤ byte ∧ byte ≤ 0xDF then some ⟨byte - 0xC0, 0, 0x80, 0xBF⟩
  else if byte = 0xE0 then some ⟨0, 1, 0xA0, 0xBF⟩
  else if byte = 0xED then some ⟨13, 1, 0x80, 0x9F⟩
  else if 0xE1 ≤ byte ∧ byte ≤ 0xEF then some ⟨byte - 0xE0, 1, 0x80, 0xBF⟩
  else if byte = 0xF0 then some ⟨0, 2, 0x90, 0xBF⟩
  else if 0xF1 ≤ byte ∧ byte ≤ 0xF3 then some ⟨byte - 0xF0, 2, 0x80, 0xBF⟩
  else if byte = 0xF4 then some ⟨4, 2, 0x80, 0x8F⟩
  else none

/-- What a byte behind a whole character puts out, and what it begins. -/
def start (byte : Nat) : List Nat × Option Pending :=
  if byte < 0x80 then ([byte], none)
  else
    match begun byte with
    | some pending => ([], some pending)
    | none => ([replacement], none)

/-- What a byte puts out that a character may have next. -/
def Pending.extended (pending : Pending) (byte : Nat) : List Nat × Option Pending :=
  match pending.later with
  | 0 => ([pending.bits * 64 + (byte - 0x80)], none)
  | later + 1 => ([], some ⟨pending.bits * 64 + (byte - 0x80), later, 0x80, 0xBF⟩)

/-- What a byte puts out. One that a character cannot have next breaks it off. -/
def advance : Option Pending → Nat → List Nat × Option Pending
  | none, byte => start byte
  | some pending, byte =>
    if pending.low ≤ byte ∧ byte ≤ pending.high then pending.extended byte
    else (replacement :: (start byte).1, (start byte).2)

/-- What bytes put out from there to the end. -/
def decodeFrom : Option Pending → List UInt8 → List Nat
  | none, [] => []
  | some _, [] => [replacement]
  | pending, byte :: rest =>
    (advance pending byte.toNat).1 ++ decodeFrom (advance pending byte.toNat).2 rest

/-- The text of any bytes. -/
def decodeReplacing (bytes : List UInt8) : List Nat := decodeFrom none bytes

/-- Bytes that a character may have next complete it to a code point. -/
inductive Completes : Pending → List UInt8 → Nat → Prop
  | last {bits low high : Nat} {byte : UInt8} (least : low ≤ byte.toNat) (most : byte.toNat ≤ high) :
      Completes ⟨bits, 0, low, high⟩ [byte] (bits * 64 + (byte.toNat - 0x80))
  | further {bits later low high point : Nat} {byte : UInt8} {bytes : List UInt8}
      (least : low ≤ byte.toNat) (most : byte.toNat ≤ high)
      (rest : Completes ⟨bits * 64 + (byte.toNat - 0x80), later, 0x80, 0xBF⟩ bytes point) :
      Completes ⟨bits, later + 1, low, high⟩ (byte :: bytes) point

section Characters

variable {pending : Pending} {bytes rest : List UInt8} {point : Nat}

/-- A character that is completed is put out. -/
theorem Completes.decode (completes : Completes pending bytes point) :
    decodeFrom (some pending) (bytes ++ rest) = point :: decodeFrom none rest := by
  induction completes with
  | last least most => simp [decodeFrom, advance, Pending.extended, least, most]
  | further least most _ inductionHypothesis =>
    simpa [decodeFrom, advance, Pending.extended, least, most] using inductionHypothesis

/-- A character that the end breaks off is replaced. -/
theorem Completes.cut (completes : Completes pending bytes point) {count : Nat}
    (short : count < bytes.length) :
    decodeFrom (some pending) (bytes.take count) = [replacement] := by
  induction completes generalizing count with
  | last =>
    obtain rfl : count = 0 := by simpa using short
    rfl
  | further least most _ inductionHypothesis =>
    cases count with
    | zero => rfl
    | succ count =>
      simpa [decodeFrom, advance, Pending.extended, least, most] using
        inductionHypothesis (Nat.lt_of_succ_lt_succ short)

/-- A byte is known by its value. -/
theorem ofNat_eq {value : Nat} {byte : UInt8} (same : value = byte.toNat) :
    UInt8.ofNat value = byte := by
  subst same
  exact UInt8.ofNat_toNat

/-- The last missing byte is one more. -/
theorem Completes.of_last {bits low high : Nat} (completes : Completes ⟨bits, 0, low, high⟩ bytes point) :
    ∃ byte : UInt8, bytes = [byte] ∧ low ≤ byte.toNat ∧ byte.toNat ≤ high ∧
      point = bits * 64 + (byte.toNat - 0x80) := by
  cases completes with
  | last least most => exact ⟨_, rfl, least, most, rfl⟩

/-- A missing byte with others behind it. -/
theorem Completes.of_further {bits later low high : Nat}
    (completes : Completes ⟨bits, later + 1, low, high⟩ bytes point) :
    ∃ (byte : UInt8) (rest : List UInt8), bytes = byte :: rest ∧ low ≤ byte.toNat ∧
      byte.toNat ≤ high ∧ Completes ⟨bits * 64 + (byte.toNat - 0x80), later, 0x80, 0xBF⟩ rest point := by
  cases completes with
  | further least most rest => exact ⟨_, _, rfl, least, most, rest⟩

section Sizes

variable {lead second third fourth : UInt8}

/-- Two bytes are the encoding of the code point that their bits give. -/
theorem encodePoint_two (least : 0x80 ≤ point) (most : point ≤ 0x7FF)
    (one : point / 64 % 0x20 + 0xC0 = lead.toNat) (two : point % 0x40 + 0x80 = second.toNat) :
    encodePoint point = [lead, second] := by
  unfold encodePoint
  rw [if_neg (by omega), if_pos most, ofNat_eq one, ofNat_eq two]

/-- Three bytes are the encoding of the code point that their bits give. -/
theorem encodePoint_three (least : 0x800 ≤ point) (most : point ≤ 0xFFFF)
    (one : point / 4096 % 0x10 + 0xE0 = lead.toNat)
    (two : point / 64 % 0x40 + 0x80 = second.toNat) (three : point % 0x40 + 0x80 = third.toNat) :
    encodePoint point = [lead, second, third] := by
  unfold encodePoint
  rw [if_neg (by omega), if_neg (by omega), if_pos most, ofNat_eq one, ofNat_eq two, ofNat_eq three]

/-- Four bytes are the encoding of the code point that their bits give. -/
theorem encodePoint_four (least : 0x10000 ≤ point)
    (one : point / 262144 % 0x08 + 0xF0 = lead.toNat)
    (two : point / 4096 % 0x40 + 0x80 = second.toNat)
    (three : point / 64 % 0x40 + 0x80 = third.toNat) (four : point % 0x40 + 0x80 = fourth.toNat) :
    encodePoint point = [lead, second, third, fourth] := by
  unfold encodePoint
  rw [if_neg (by omega), if_neg (by omega), if_neg (by omega), ofNat_eq one, ofNat_eq two,
    ofNat_eq three, ofNat_eq four]

/-- What completes a character of two bytes is the rest of its encoding. -/
theorem Completes.two {bits : Nat} (same : lead.toNat = bits + 0xC0) (least : 2 ≤ bits)
    (most : bits < 32) (completes : Completes ⟨bits, 0, 0x80, 0xBF⟩ bytes point) :
    IsScalar point ∧ encodePoint point = lead :: bytes := by
  obtain ⟨second, rfl, low, high, value⟩ := completes.of_last
  exact ⟨.inl (by omega), encodePoint_two (by omega) (by omega) (by omega) (by omega)⟩

/-- What completes a character of three bytes is the rest of its encoding, where the
bounds of the second byte leave out short code points and surrogates. -/
theorem Completes.three {bits low high : Nat} (same : lead.toNat = bits + 0xE0) (most : bits < 16)
    (trails : 0x80 ≤ low ∧ high ≤ 0xBF) (short : bits = 0 → 0xA0 ≤ low)
    (surrogate : bits = 13 → high ≤ 0x9F)
    (completes : Completes ⟨bits, 1, low, high⟩ bytes point) :
    IsScalar point ∧ encodePoint point = lead :: bytes := by
  obtain ⟨second, rest, rfl, low, high, further⟩ := completes.of_further
  obtain ⟨third, rfl, low', high', value⟩ := further.of_last
  refine ⟨?_, encodePoint_three (by omega) (by omega) (by omega) (by omega) (by omega)⟩
  unfold IsScalar
  omega

/-- What completes a character of four bytes is the rest of its encoding, where the
bounds of the second byte leave out short code points and those beyond the last one. -/
theorem Completes.four {bits low high : Nat} (same : lead.toNat = bits + 0xF0) (most : bits < 5)
    (trails : 0x80 ≤ low ∧ high ≤ 0xBF) (short : bits = 0 → 0x90 ≤ low)
    (beyond : bits = 4 → high ≤ 0x8F)
    (completes : Completes ⟨bits, 2, low, high⟩ bytes point) :
    IsScalar point ∧ encodePoint point = lead :: bytes := by
  obtain ⟨second, rest, rfl, low, high, further⟩ := completes.of_further
  obtain ⟨third, rest, rfl, low', high', further⟩ := further.of_further
  obtain ⟨fourth, rfl, low'', high'', value⟩ := further.of_last
  refine ⟨.inr (by omega), ?_⟩
  exact encodePoint_four (by omega) (by omega) (by omega) (by omega) (by omega)

end Sizes

/-- What completes the character that a byte begins is the rest of its encoding. -/
theorem Completes.encoded {lead : UInt8} (begins : begun lead.toNat = some pending)
    (completes : Completes pending bytes point) :
    IsScalar point ∧ encodePoint point = lead :: bytes := by
  unfold begun at begins
  split_ifs at begins <;> obtain rfl := Option.some.inj begins
  · exact completes.two (by omega) (by omega) (by omega)
  · exact completes.three (by omega) (by omega) (by omega) (by omega) (by omega)
  · exact completes.three (by omega) (by omega) (by omega) (by omega) (by omega)
  · exact completes.three (by omega) (by omega) (by omega) (by omega) (by omega)
  · exact completes.four (by omega) (by omega) (by omega) (by omega) (by omega)
  · exact completes.four (by omega) (by omega) (by omega) (by omega) (by omega)
  · exact completes.four (by omega) (by omega) (by omega) (by omega) (by omega)

/-- The first byte of two. -/
theorem begun_two : ∀ bits < 32, 2 ≤ bits → begun (bits + 0xC0) = some ⟨bits, 0, 0x80, 0xBF⟩ := by
  decide

/-- The first byte of three. -/
theorem begun_three : ∀ bits < 16, begun (bits + 0xE0) =
    some ⟨bits, 1, if bits = 0 then 0xA0 else 0x80, if bits = 13 then 0x9F else 0xBF⟩ := by
  decide

/-- The first byte of four. -/
theorem begun_four : ∀ bits < 5, begun (bits + 0xF0) =
    some ⟨bits, 2, if bits = 0 then 0x90 else 0x80, if bits = 4 then 0x8F else 0xBF⟩ := by
  decide

/-- The value of a byte. -/
theorem toNat_ofNat {number : Nat} (small : number < 256) : (UInt8.ofNat number).toNat = number := by
  rw [UInt8.toNat_ofNat']
  exact Nat.mod_eq_of_lt small

/-- One more byte completes a character to the code point of all the bits. -/
theorem completes_last {bits low high : Nat} {byte : UInt8} (least : low ≤ byte.toNat)
    (most : byte.toNat ≤ high) (same : bits * 64 + (byte.toNat - 0x80) = point) :
    Completes ⟨bits, 0, low, high⟩ [byte] point :=
  same ▸ .last least most

/-- One more byte adds its bits. -/
theorem completes_further {bits bits' later low high : Nat} {byte : UInt8} (least : low ≤ byte.toNat)
    (most : byte.toNat ≤ high) (same : bits * 64 + (byte.toNat - 0x80) = bits')
    (rest : Completes ⟨bits', later, 0x80, 0xBF⟩ bytes point) :
    Completes ⟨bits, later + 1, low, high⟩ (byte :: bytes) point :=
  .further least most (same ▸ rest)

/-- Behind the first of several bytes the rest of the encoding completes the character. -/
theorem encodePoint_completes (scalar : IsScalar point) (several : 0x80 ≤ point) :
    ∃ (lead : UInt8) (pending : Pending) (tail : List UInt8), encodePoint point = lead :: tail ∧
      0x80 ≤ lead.toNat ∧ begun lead.toNat = some pending ∧ Completes pending tail point := by
  have trail (number : Nat) : (UInt8.ofNat (number % 0x40 + 0x80)).toNat = number % 0x40 + 0x80 :=
    toNat_ofNat (by omega)
  have last := trail point
  have third := trail (point / 64)
  have second := trail (point / 4096)
  unfold IsScalar at scalar
  unfold encodePoint
  rw [if_neg (by omega)]
  split_ifs with two three
  · have lead : (UInt8.ofNat (point / 64 % 0x20 + 0xC0)).toNat = point / 64 % 0x20 + 0xC0 :=
      toNat_ofNat (by omega)
    have begins := begun_two (point / 64 % 0x20) (by omega) (by omega)
    refine ⟨_, _, _, rfl, by omega, lead ▸ begins, completes_last ?_ ?_ ?_⟩
    all_goals omega
  · have lead : (UInt8.ofNat (point / 4096 % 0x10 + 0xE0)).toNat = point / 4096 % 0x10 + 0xE0 :=
      toNat_ofNat (by omega)
    have begins := begun_three (point / 4096 % 0x10) (by omega)
    refine ⟨_, _, _, rfl, by omega, lead ▸ begins,
      completes_further ?_ ?_ rfl (completes_last ?_ ?_ ?_)⟩
    all_goals first | omega | (split_ifs <;> omega)
  · have lead : (UInt8.ofNat (point / 262144 % 0x08 + 0xF0)).toNat = point / 262144 % 0x08 + 0xF0 :=
      toNat_ofNat (by omega)
    have begins := begun_four (point / 262144 % 0x08) (by omega)
    refine ⟨_, _, _, rfl, by omega, lead ▸ begins,
      completes_further ?_ ?_ rfl (completes_further ?_ ?_ rfl (completes_last ?_ ?_ ?_))⟩
    all_goals first | omega | (split_ifs <;> omega)

end Characters

section Texts

variable {text : List Nat} {bytes rest : List UInt8} {point : Nat}

/-- No byte puts out nothing. -/
@[simp] theorem decodeReplacing_nil : decodeReplacing [] = [] := rfl

/-- A byte that begins a character goes on with the character. -/
theorem decodeReplacing_begun {lead : UInt8} {pending : Pending} (several : 0x80 ≤ lead.toNat)
    (begins : begun lead.toNat = some pending) :
    decodeReplacing (lead :: rest) = decodeFrom (some pending) rest := by
  simp [decodeReplacing, decodeFrom, advance, start, Nat.not_lt.mpr several, begins]

/-- A whole character is decoded, whatever follows. -/
theorem decode_encodePoint (scalar : IsScalar point) :
    decodeReplacing (encodePoint point ++ rest) = point :: decodeReplacing rest := by
  by_cases ascii : point < 0x80
  · have value : (UInt8.ofNat point).toNat = point := toNat_ofNat (by omega)
    rw [encodePoint_ascii ascii, List.singleton_append]
    simp [decodeReplacing, decodeFrom, advance, start, value, ascii]
  · obtain ⟨lead, pending, tail, encoded, several, begins, completes⟩ :=
      encodePoint_completes scalar (by omega)
    rw [encoded, List.cons_append, decodeReplacing_begun several begins]
    exact completes.decode

/-- Whole characters are decoded, whatever follows. -/
theorem decode_encode_append (scalars : IsText text) :
    decodeReplacing (encode text ++ rest) = text ++ decodeReplacing rest := by
  induction text with
  | nil => rfl
  | cons point text inductionHypothesis =>
    rw [encode_cons, List.append_assoc, decode_encodePoint (scalars point List.mem_cons_self),
      inductionHypothesis (fun other member => scalars other (List.mem_cons_of_mem _ member)),
      List.cons_append]

/-- Decoding undoes the encoding of a text. -/
theorem decode_encode (scalars : IsText text) : decodeReplacing (encode text) = text := by
  have whole : decodeReplacing (encode text ++ []) = text ++ decodeReplacing [] :=
    decode_encode_append scalars
  simpa using whole

/-- The beginning of a character, without its end, is replaced. -/
theorem decode_take_encodePoint (scalar : IsScalar point) {count : Nat} (positive : 0 < count)
    (short : count < (encodePoint point).length) :
    decodeReplacing ((encodePoint point).take count) = [replacement] := by
  by_cases ascii : point < 0x80
  · rw [encodePoint_ascii ascii, List.length_singleton] at short
    omega
  · obtain ⟨lead, pending, tail, encoded, several, begins, completes⟩ :=
      encodePoint_completes scalar (by omega)
    obtain ⟨count, rfl⟩ : ∃ earlier, count = earlier + 1 := ⟨count - 1, by omega⟩
    rw [encoded, List.length_cons] at short
    rw [encoded, List.take_succ_cons, decodeReplacing_begun several begins]
    exact completes.cut (by omega)

/-- What is shown of a text of which so many bytes are left: the characters that are whole,
and a replacement character where the cut is inside the next one. -/
inductive Shown (count : Nat) (text : List Nat) : List Nat → Prop
  | whole (fits : (encode text).length ≤ count) : Shown count text text
  | between (shown rest : List Nat) (split : text = shown ++ rest)
      (fits : (encode shown).length = count) : Shown count text shown
  | inside (shown rest : List Nat) (point : Nat) (split : text = shown ++ point :: rest)
      (fits : (encode shown).length < count)
      (broken : count < (encode (shown ++ [point])).length) : Shown count text (shown ++ [replacement])

/-- Two texts are encoded one after another. -/
@[simp] theorem encode_append (text other : List Nat) :
    encode (text ++ other) = encode text ++ encode other :=
  List.flatMap_append

/-- A character has a byte. -/
theorem length_encodePoint_pos (point : Nat) : 0 < (encodePoint point).length := by
  unfold encodePoint
  split_ifs <;> exact Nat.succ_pos _

/-- One more character in front is shown where there is room for it. -/
theorem Shown.cons {count : Nat} {shown : List Nat} (point : Nat) (shows : Shown count text shown) :
    Shown ((encodePoint point).length + count) (point :: text) (point :: shown) := by
  cases shows with
  | whole fits => exact .whole (by simpa using fits)
  | between _ rest split fits =>
    exact .between _ rest (by rw [split, List.cons_append]) (by simpa using fits)
  | inside shown rest next split fits broken =>
    rw [← List.cons_append]
    refine .inside _ rest next (by rw [split, List.cons_append]) (by simpa using fits) ?_
    simpa using broken

/-- A text whose bytes are cut shows its whole characters, and at most one replacement
character. -/
theorem decode_take (scalars : IsText text) (count : Nat) :
    Shown count text (decodeReplacing ((encode text).take count)) := by
  induction text generalizing count with
  | nil =>
    have nothing : decodeReplacing ((encode []).take count) = [] := by simp
    rw [nothing]
    exact .whole (Nat.zero_le _)
  | cons point text inductionHypothesis =>
    have scalar := scalars point List.mem_cons_self
    have others : IsText text := fun other member => scalars other (List.mem_cons_of_mem _ member)
    rw [encode_cons]
    by_cases fits : (encodePoint point).length ≤ count
    · obtain ⟨left, rfl⟩ := Nat.exists_eq_add_of_le fits
      rw [List.take_length_add_append, decode_encodePoint scalar]
      exact (inductionHypothesis others left).cons point
    · rw [List.take_append_of_le_length (by omega)]
      rcases Nat.eq_zero_or_pos count with rfl | positive
      · exact .between [] (point :: text) rfl rfl
      · rw [decode_take_encodePoint scalar positive (by omega)]
        exact .inside [] text point rfl positive (by simpa using fits)

/-- A text that fits is shown. -/
theorem Shown.eq_of_fits {count : Nat} {shown : List Nat} (shows : Shown count text shown)
    (fits : (encode text).length ≤ count) : shown = text := by
  cases shows with
  | whole => rfl
  | between _ rest split same =>
    cases rest with
    | nil => rw [split, List.append_nil]
    | cons point rest =>
      have positive := length_encodePoint_pos point
      rw [split, encode_append, encode_cons, List.length_append, List.length_append] at fits
      omega
  | inside whole rest point split below broken =>
    rw [split, encode_append, encode_cons, List.length_append, List.length_append] at fits
    rw [encode_append, encode_cons, encode_nil, List.length_append, List.append_nil] at broken
    omega

end Texts

section Outputs

/-- What a pending character may still become: what completes it gives a code point that is
no surrogate, and completes the bytes that it has to the code point's encoding. -/
def Pending.Continues (pending : Pending) (taken : List UInt8) : Prop :=
  ∀ bytes point, Completes pending bytes point →
    IsScalar point ∧ encodePoint point = taken ++ bytes

/-- The bytes that were taken and have put out nothing yet. -/
def Takes : Option Pending → List UInt8 → Prop
  | none, taken => taken = []
  | some pending, taken => pending.Continues taken

/-- What a byte puts out: characters that are no surrogates, the bytes of which are those that
were taken before, unless one is a replacement character, and the bytes taken since. -/
structure Puts (taken : List UInt8) (byte : UInt8) (put : List Nat × Option Pending) : Prop where
  scalars : IsText put.1
  exact : ∃ since, Takes put.2 since ∧
    (replacement ∉ put.1 → encode put.1 ++ since = taken ++ [byte])

/-- The replacement character is no surrogate. -/
theorem isScalar_replacement : IsScalar replacement := .inr (by decide)

/-- What a byte behind a whole character puts out. -/
theorem puts_start (byte : UInt8) : Puts [] byte (start byte.toNat) := by
  unfold start
  by_cases ascii : byte.toNat < 0x80
  · rw [if_pos ascii]
    refine ⟨?_, [], rfl, fun _ => ?_⟩
    · intro point member
      obtain rfl := List.mem_singleton.mp member
      exact .inl (by omega)
    · simp [encodePoint_ascii ascii]
  · rw [if_neg ascii]
    cases begins : begun byte.toNat with
    | some pending =>
      exact ⟨nofun, [byte], fun bytes point completes => completes.encoded begins, fun _ => rfl⟩
    | none =>
      refine ⟨?_, [], rfl, fun absent => absurd List.mem_cons_self absent⟩
      intro point member
      obtain rfl := List.mem_singleton.mp member
      exact isScalar_replacement

/-- What a byte puts out.

Proof: a byte that continues the pending character is taken with it, and completes it where
none is left. Any other byte ends it with a replacement character and starts anew. -/
theorem puts_advance {pending : Option Pending} {taken : List UInt8} (takes : Takes pending taken)
    (byte : UInt8) : Puts taken byte (advance pending byte.toNat) := by
  cases pending with
  | none =>
    obtain rfl : taken = [] := takes
    exact puts_start byte
  | some pending =>
    unfold advance
    by_cases accepted : pending.low ≤ byte.toNat ∧ byte.toNat ≤ pending.high
    · obtain ⟨bits, later, low, high⟩ := pending
      simp only [if_pos accepted, Pending.extended]
      cases later with
      | zero =>
        have completes : Completes ⟨bits, 0, low, high⟩ [byte] (bits * 64 + (byte.toNat - 0x80)) :=
          .last accepted.1 accepted.2
        obtain ⟨scalar, encoded⟩ := takes _ _ completes
        refine ⟨?_, [], rfl, fun _ => by simpa using encoded⟩
        intro point member
        rw [List.mem_singleton.mp member]
        exact scalar
      | succ later =>
        refine ⟨nofun, taken ++ [byte], ?_, fun _ => rfl⟩
        intro bytes point completes
        simpa using takes _ _ (completes_further accepted.1 accepted.2 rfl completes)
    · simp only [if_neg accepted]
      obtain ⟨scalars, since, takes', -⟩ := puts_start byte
      refine ⟨?_, since, takes', fun absent => absurd List.mem_cons_self absent⟩
      intro point member
      rcases List.mem_cons.mp member with rfl | member
      · exact isScalar_replacement
      · exact scalars point member

/-- What bytes put out from there has no surrogates, and unless it has a replacement character
it has the bytes that were taken and those that followed. -/
theorem decodeFrom_exact {pending : Option Pending} {taken bytes : List UInt8}
    (takes : Takes pending taken) :
    IsText (decodeFrom pending bytes) ∧ (replacement ∉ decodeFrom pending bytes →
      encode (decodeFrom pending bytes) = taken ++ bytes) := by
  induction bytes generalizing pending taken with
  | nil =>
    cases pending with
    | none =>
      obtain rfl : taken = [] := takes
      exact ⟨nofun, fun _ => rfl⟩
    | some pending =>
      refine ⟨?_, fun absent => absurd List.mem_cons_self absent⟩
      intro point member
      obtain rfl := List.mem_singleton.mp member
      exact isScalar_replacement
  | cons byte rest inductionHypothesis =>
    obtain ⟨scalars, since, takes', same⟩ := puts_advance takes byte
    obtain ⟨scalars', same'⟩ := inductionHypothesis takes'
    have unfolds : decodeFrom pending (byte :: rest) = (advance pending byte.toNat).1 ++
        decodeFrom (advance pending byte.toNat).2 rest := by
      cases pending <;> rfl
    rw [unfolds]
    refine ⟨fun point member => (List.mem_append.mp member).elim (scalars point) (scalars' point), ?_⟩
    intro absent
    obtain ⟨first, second⟩ := not_or.mp (mt List.mem_append.mpr absent)
    rw [encode_append, same' second, ← List.append_assoc, same first, List.append_assoc,
      List.singleton_append]

/-- Any bytes are decoded to a text without surrogates. -/
theorem isText_decodeReplacing (bytes : List UInt8) : IsText (decodeReplacing bytes) :=
  (decodeFrom_exact (show Takes none [] from rfl)).1

/-- Where nothing was replaced, the text has the bytes that were decoded. -/
theorem encode_decodeReplacing {bytes : List UInt8} (absent : replacement ∉ decodeReplacing bytes) :
    encode (decodeReplacing bytes) = bytes :=
  (decodeFrom_exact (show Takes none [] from rfl)).2 absent

end Outputs

end Utf8
