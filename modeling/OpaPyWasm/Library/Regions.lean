import Mathlib.Data.List.Basic

/-!
# Regions of a memory

A state is seen as a memory of bytes, with its size and with a pointer up to which
the memory is in use. Two states may agree below an address and differ above it;
what reads only below that address cannot tell them apart.
-/

namespace Regions

universe u
variable {σ : Type u}

/-- How a state is read as a memory. -/
structure Space (σ : Type u) where
  top : σ → Int
  size : σ → Int
  byte : σ → Int → UInt8

variable (space : Space σ)

/-- Two states hold the same bytes below an address. -/
def AgreeBelow (bound : Int) (first second : σ) : Prop :=
  ∀ addr < bound, space.byte first addr = space.byte second addr

/-- Nothing that the space shows has changed. -/
structure Undisturbed (before after : σ) : Prop where
  top : space.top after = space.top before
  size : space.size after = space.size before
  byte : ∀ addr, space.byte after addr = space.byte before addr

/-- The bytes from an address on. -/
def slice (state : σ) (start : Int) (length : Nat) : List UInt8 :=
  (List.range length).map (fun index : Nat => space.byte state (start + index))

/-- A block of bytes was written, and nothing else. -/
structure Written (addr : Int) (data : List UInt8) (before after : σ) : Prop where
  top : space.top after = space.top before
  size : space.size after = space.size before
  inside : ∀ index (below : index < data.length),
    space.byte after (addr + index) = data[index]
  outside : ∀ other, other < addr ∨ addr + data.length ≤ other →
    space.byte after other = space.byte before other

/-- A text of a known length with its terminator behind it. -/
structure Terminated (state : σ) (addr : Int) (length : Nat) : Prop where
  text : ∀ index < length, space.byte state (addr + index) ≠ 0
  terminator : space.byte state (addr + length) = 0

variable {space} {bound : Int} {first second third : σ}

/-- A memory agrees with itself. -/
theorem AgreeBelow.refl (bound : Int) (state : σ) : AgreeBelow space bound state state :=
  fun _ _ => rfl

/-- Agreement has no direction. -/
theorem AgreeBelow.symm (agree : AgreeBelow space bound first second) :
    AgreeBelow space bound second first :=
  fun addr below => (agree addr below).symm

/-- What agrees with the same region agrees. -/
theorem AgreeBelow.trans (earlier : AgreeBelow space bound first second)
    (later : AgreeBelow space bound second third) : AgreeBelow space bound first third :=
  fun addr below => (earlier addr below).trans (later addr below)

/-- Less is asked of a smaller region. -/
theorem AgreeBelow.mono {smaller : Int} (agree : AgreeBelow space bound first second)
    (le : smaller ≤ bound) : AgreeBelow space smaller first second :=
  fun addr below => agree addr (Int.lt_of_lt_of_le below le)

/-- What is undisturbed agrees with itself everywhere. -/
theorem Undisturbed.agree (undisturbed : Undisturbed space first second) (bound : Int) :
    AgreeBelow space bound first second :=
  fun addr _ => (undisturbed.byte addr).symm

/-- A write leaves what lies below it. -/
theorem Written.below {addr : Int} {data : List UInt8} (written : Written space addr data first second)
    (le : bound ≤ addr) : AgreeBelow space bound first second :=
  fun other below => (written.outside other (Or.inl (Int.lt_of_lt_of_le below le))).symm

/-- The same bytes written at the same address extend an agreement over them. -/
theorem AgreeBelow.written {addr : Int} {data : List UInt8} {first' second' : σ}
    (agree : AgreeBelow space addr first second) (written : Written space addr data first first')
    (written' : Written space addr data second second') :
    AgreeBelow space (addr + data.length) first' second' := by
  intro other below
  by_cases inside : addr ≤ other
  · obtain ⟨index, rfl⟩ : ∃ index : Nat, other = addr + index :=
      ⟨(other - addr).toNat, by omega⟩
    have within : index < data.length := by omega
    rw [written.inside index within, written'.inside index within]
  · rw [written.outside other (Or.inl (by omega)), written'.outside other (Or.inl (by omega))]
    exact agree other (by omega)

/-- A slice is as long as it was asked for. -/
@[simp] theorem length_slice (state : σ) (start : Int) (length : Nat) :
    (slice space state start length).length = length := by
  simp [slice]

/-- Two neighbouring slices. -/
theorem slice_append (state : σ) (start : Int) (length more : Nat) :
    slice space state start length ++ slice space state (start + length) more =
      slice space state start (length + more) := by
  unfold slice
  rw [List.range_add, List.map_append, List.map_map]
  congr 1
  apply List.map_congr_left
  intro index _
  simp [Int.add_assoc]

/-- What was written is read back. -/
theorem Written.slice {addr : Int} {data : List UInt8} (written : Written space addr data first second) :
    slice space second addr data.length = data := by
  apply List.ext_getElem
  · exact length_slice second addr data.length
  · intro index inside within
    rw [← written.inside index within]
    simp [Regions.slice]

/-- The beginning of a slice. -/
theorem take_slice (state : σ) (start : Int) {length shorter : Nat} (le : shorter ≤ length) :
    (slice space state start length).take shorter = slice space state start shorter := by
  unfold slice
  rw [← List.map_take, List.take_range, Nat.min_eq_left le]

/-- A slice within the agreement. -/
theorem AgreeBelow.slice_eq (agree : AgreeBelow space bound first second) {start : Int}
    {length : Nat} (below : start + length ≤ bound) :
    slice space first start length = slice space second start length := by
  apply List.map_congr_left
  intro index member
  have less := List.mem_range.mp member
  exact agree (start + index) (by omega)

/-- A terminated text within the agreement. -/
theorem Terminated.agree {addr : Int} {length : Nat} (terminated : Terminated space first addr length)
    (agree : AgreeBelow space bound first second) (below : addr + length < bound) :
    Terminated space second addr length := by
  constructor
  · intro index less
    rw [← agree (addr + index) (by omega)]
    exact terminated.text index less
  · rw [← agree (addr + length) below]
    exact terminated.terminator

/-- A slice that ends before the terminator has no zero. -/
theorem Terminated.findIdx?_none {addr : Int} {length : Nat}
    (terminated : Terminated space first addr length) {skipped taken : Nat}
    (before : skipped + taken ≤ length) :
    (slice space first (addr + skipped) taken).findIdx? (· == 0) = none := by
  rw [List.findIdx?_eq_none_iff]
  intro found member
  obtain ⟨index, inside, rfl⟩ := List.mem_map.mp member
  have less := List.mem_range.mp inside
  have nonzero := terminated.text (skipped + index) (by omega)
  rw [Int.natCast_add, ← Int.add_assoc] at nonzero
  simpa using nonzero

/-- A slice that reaches the terminator has its first zero there. -/
theorem Terminated.findIdx?_some {addr : Int} {length : Nat}
    (terminated : Terminated space first addr length) {skipped taken : Nat}
    (start : skipped ≤ length) (reaches : length < skipped + taken) :
    (slice space first (addr + skipped) taken).findIdx? (· == 0) = some (length - skipped) := by
  rw [List.findIdx?_eq_some_iff_getElem]
  refine ⟨by simp; omega, ?_, ?_⟩
  · have atEnd : addr + skipped + ((length - skipped : Nat) : Int) = addr + length := by omega
    simp [slice, atEnd, terminated.terminator]
  · intro index less
    have nonzero := terminated.text (skipped + index) (by omega)
    rw [Int.natCast_add, ← Int.add_assoc] at nonzero
    simpa [slice] using nonzero

end Regions
