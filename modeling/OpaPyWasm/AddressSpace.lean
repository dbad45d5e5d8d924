import Mathlib.Algebra.Group.Nat.Defs
import OpaPyWasm.StringScan

/-!
# Addresses from 2 GiB on

A guest returns an address as an i32, which the host gets as a signed integer. An address of
the upper half of the address space arrives as a negative number, and `_check_pointer` takes it
for a failure.
-/

namespace OpaPyWasm.MemoryCodec

open Exceptions Values Effects GuestCalls Regions

variable {σ : Type} {guest : Guest σ} {space : Space σ} {still : σ → σ → Prop} {limits : Limits}
  {stage : Stage}

/-- A guest whose memory can be read, and where a write within it changes the bytes written and
nothing else. -/
structure Writable (guest : Guest σ) (space : Space σ) (still : σ → σ → Prop) : Prop where
  readable : Readable guest space still
  memoryWrite : ∀ addr data state, 0 ≤ addr → addr + data.length ≤ space.size state →
    Ends (guest.memoryWrite addr data) state
      (fun _ after => Written space addr data state after) (fun _ _ => False)

/-- The range check passes on a range within memory. -/
theorem checkRange_passes (readable : Readable guest space still) {addr : Int} {length : Nat}
    (kind : String) (world : World σ) (positive : 0 ≤ addr)
    (inside : addr + length ≤ space.size world.guest) :
    Ends (checkRange guest stage addr length kind) world
      (fun _ after => still world.guest after.guest) (fun _ _ => False) := by
  unfold checkRange
  rw [if_neg (by omega), if_neg (by omega)]
  apply (ends_called (readable.memoryLen world.guest)).next
  rintro memLen after ⟨same, kept⟩
  rw [if_neg (by omega)]
  exact ends_pure kept

/-- What was written is read back. -/
theorem readBytes_written (readable : Readable guest space still) {addr : Int} {data : List UInt8}
    {before : σ} {world : World σ} (written : Written space addr data before world.guest)
    (positive : 0 ≤ addr) (inside : addr + data.length ≤ space.size world.guest) :
    Ends (readBytes guest stage addr data.length) world (fun bytes _ => bytes = data)
      (fun _ _ => False) := by
  apply (checkRange_passes readable _ world positive inside).next
  intro _ checked kept
  have undisturbed := readable.undisturbed kept
  apply (ends_called (readable.memoryRead addr data.length checked.guest positive ?_)).mono
  · rintro bytes _ ⟨rfl, -⟩
    have same := (undisturbed.agree (addr + data.length)).slice_eq (Int.le_refl _)
    exact same.symm.trans written.slice
  · exact fun _ _ => id
  · rw [undisturbed.size]
    exact inside

/-- A text that was written with its terminator is terminated. -/
theorem terminated_written {addr : Int} {text : List UInt8} {before after : σ}
    (written : Written space addr (text ++ [0]) before after) (plain : 0 ∉ text) :
    Terminated space after addr text.length ∧ slice space after addr text.length = text := by
  have whole := written.slice
  refine ⟨⟨fun index below => ?_, ?_⟩, ?_⟩
  · rw [written.inside index (by simp; omega), List.getElem_append_left below]
    exact fun zero => plain (zero ▸ List.getElem_mem below)
  · rw [written.inside text.length (by simp)]
    simp
  · have shorter : text.length ≤ (text ++ [0]).length := by simp
    rw [← take_slice after addr shorter, whole]
    simp

/-- A text that was written with its terminator is read back. -/
theorem readCstring_written (readable : Readable guest space still) {addr : Int}
    {text : List UInt8} {before : σ} {world : World σ}
    (written : Written space addr (text ++ [0]) before world.guest) (plain : 0 ∉ text)
    (positive : 0 ≤ addr) (inside : addr + (text ++ [0]).length ≤ space.size world.guest)
    (budget : text.length < limits.maxCstringScanBytes) :
    Ends (readCstring guest limits stage addr) world (fun bytes _ => bytes = text)
      (fun _ _ => False) := by
  obtain ⟨terminated, same⟩ := terminated_written written plain
  rw [List.length_append, List.length_singleton] at inside
  have found : readText space limits world.guest addr text.length = .ok text := by
    unfold readText
    rw [if_pos budget, same]
  apply (readCstring_reads readable stage limits terminated positive (by omega)).mono
  · rintro bytes _ ⟨read, -⟩
    exact Except.ok.inj (read.symm.trans found)
  · intro error _ failed
    cases failed.symm.trans found

variable (guest limits stage) in
/-- What was written can be read: `write_bytes` returns the address of the allocation, where
`read_bytes` gives the data back, and `read_cstring` a text that was written with its
terminator. -/
def RoundTrips (addr : BitVec 32) (data : List UInt8) (world : World σ) : Prop :=
  Ends (writeBytes guest stage data) world
    (fun returned after => returned = addr.toInt ∧
      Ends (readBytes guest stage returned data.length) after (fun bytes _ => bytes = data)
        (fun _ _ => False) ∧
      ∀ text, data = text ++ [0] → 0 ∉ text → text.length < limits.maxCstringScanBytes →
        Ends (readCstring guest limits stage returned) after (fun bytes _ => bytes = text)
          (fun _ _ => False))
    (fun _ _ => False)

/-- For every data and every address that the guest may allocate them at, they can be written
and read back if and only if the address lies below 2 GiB.

Proof: from 2 GiB on the address is negative as a signed integer, and `_check_pointer` refuses
it. Below, the signed address is the unsigned one, the range check passes, and what was
written there is read back. -/
theorem roundTrips_iff (writable : Writable guest space still) {addr : BitVec 32}
    (nonnull : addr ≠ 0) {data : List UInt8} {world : World σ}
    (allocates : Ends (guest.opaMalloc data.length) world.guest
      (fun returned after => returned = addr.toInt ∧
        (addr.toNat : Int) + data.length ≤ space.size after) (fun _ _ => False)) :
    RoundTrips guest limits stage addr data world ↔ addr.toNat < 2 ^ 31 := by
  have signed := addr.toInt_eq_toNat_cond
  have positive : addr.toNat ≠ 0 := fun zero => nonnull (BitVec.eq_of_toNat_eq (by simpa using zero))
  constructor
  · intro trips
    refine Classical.byContradiction fun high => ?_
    have negative : addr.toInt ≤ 0 := by
      rw [signed, if_neg (by omega)]
      have bounded := addr.isLt
      omega
    have refused : Ends (writeBytes guest stage data) world (fun _ _ => False) (fun _ _ => True) := by
      apply (ends_called allocates).next
      rintro returned after ⟨rfl, -⟩
      apply ends_bind
      unfold checkPointer
      rw [if_pos negative]
      exact ends_throw trivial
    unfold RoundTrips at trips
    unfold Ends at trips refused
    cases ended : writeBytes guest stage data world <;> rw [ended] at trips refused
    · exact refused
    · exact trips
  · intro low
    have same : addr.toInt = addr.toNat := by
      rw [signed, if_pos (by omega)]
    apply (ends_called allocates).next
    rintro returned allocated ⟨rfl, inside⟩
    rw [← same] at inside
    apply ends_bind
    unfold checkPointer
    rw [if_neg (by omega)]
    apply ends_pure
    apply (checkRange_passes writable.readable _ allocated (by omega) inside).next
    intro _ checked kept
    have undisturbed := writable.readable.undisturbed kept
    rw [← undisturbed.size] at inside
    apply (ends_called (writable.memoryWrite addr.toInt data checked.guest (by omega) inside)).next
    intro _ after written
    rw [← written.size] at inside
    refine ends_pure ⟨rfl, ?_, ?_⟩
    · exact readBytes_written writable.readable written (by omega) inside
    · rintro text rfl plain budget
      exact readCstring_written writable.readable written plain (by omega) inside budget

/-- The memory of a guest that does nothing but allocate can be written. -/
theorem linear_writable (buffer decision : Int) :
    Writable (linearGuest buffer decision) linearSpace Eq where
  readable := linear_readable buffer decision
  memoryWrite addr data state positive inside := by
    constructor
    · rfl
    · rfl
    · intro index below
      refine (if_pos (by omega)).trans ?_
      rw [show (addr + index - addr).toNat = index by omega]
      simp [List.getD, below]
    · intro other outside
      exact if_neg (by omega)

/-- A buffer at address 16 of a small memory. -/
theorem roundTrips_iff_low :
    RoundTrips (linearGuest 16 0) ⟨0, 0, 0, 8, false⟩ .evaluation 16#32 [97, 0]
      (WasmtimeRuntime.created ⟨64, fun _ => 0⟩) :=
  (roundTrips_iff (linear_writable 16 0) (by decide) ⟨by decide, by decide⟩).mpr (by decide)

/-- A buffer at the first address of the upper half, in a memory of 32769 pages: the guest's
allocation succeeds, but the write is refused. -/
theorem high_address_refused :
    (2 ^ 31 + [97, 0].length ≤ 32769 * WasmtimeRuntime.wasmPageBytes) ∧
      ∃ error, outcome (writeBytes (linearGuest (2147483648#32).toInt 0) .evaluation [97, 0])
        (WasmtimeRuntime.created ⟨32769 * WasmtimeRuntime.wasmPageBytes, fun _ => 0⟩) =
          .error error ∧ error.kind = .opa .memory :=
  ⟨by decide, _, rfl, rfl⟩

end OpaPyWasm.MemoryCodec
