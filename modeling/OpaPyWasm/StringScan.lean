import OpaPyWasm.GuestMemory
import OpaPyWasm.GuestTrace

/-!
# The chunked scan for a terminator

`read_cstring` reads chunks of a fixed size. Each chunk is bounded by that size, by what is
left of the scan budget and by the end of memory. Whatever the chunk size, what it returns
is what a scan of one byte after another returns, and it reads no more bytes than its budget.
-/

namespace OpaPyWasm.MemoryCodec

open Exceptions Values Effects GuestCalls Regions GuestTrace

variable {σ : Type}

/-- `read_cstring` with chunks of any size. -/
def readCstringChunked (guest : Guest σ) (limits : Limits) (stage : Stage) (chunkSize : Nat)
    (addr : Int) : Py σ (List UInt8) := do
  let memLen ← call stage .memoryLen guest.memoryLen
  if addr < 0 ∨ (memLen : Int) ≤ addr then
    throw (opaError .memory
      s!"read_cstring: start address {addr} outside guest memory size {memLen}")
  else scanCstring guest limits stage chunkSize memLen addr (memLen - addr.toNat) addr []

/-- The text at an address ends at the first zero byte behind it, which lies within memory
and within the scan budget. -/
structure TextAt (space : Space σ) (limits : Limits) (state : σ) (addr : Int) (length : Nat) :
    Prop where
  start : 0 ≤ addr
  inside : addr + length < space.size state
  terminated : Terminated space state addr length
  budget : length < limits.maxCstringScanBytes

/-- The scan of one byte after another, up to the end of memory and the scan budget. -/
def naiveScan (space : Space σ) (limits : Limits) (state : σ) (addr : Int) :
    Except Raised (List UInt8) :=
  if addr < 0 ∨ space.size state ≤ addr then
    .error (opaError .memory
      s!"read_cstring: start address {addr} outside guest memory size {(space.size state).toNat}")
  else
    let budget := min (space.size state - addr).toNat limits.maxCstringScanBytes
    match (slice space state addr budget).findIdx? (· == 0) with
    | some length => .ok (slice space state addr length)
    | none => .error (unterminated limits addr)

/-- How many bytes the recorded calls read from memory. -/
def bytesRead : List Entry → Nat
  | [] => 0
  | entry :: earlier =>
    match entry.issued with
    | .memoryRead start stop => (stop - start).toNat + bytesRead earlier
    | _ => bytesRead earlier

/-- The bytes of two pieces of a record add up. -/
theorem bytesRead_append (later earlier : List Entry) :
    bytesRead (later ++ earlier) = bytesRead later + bytesRead earlier := by
  induction later with
  | nil => simp [bytesRead]
  | cons entry later inductionHypothesis =>
    cases issued : entry.issued <;> simp [bytesRead, issued, inductionHypothesis, Nat.add_assoc]

section Naive

variable {space : Space σ} {limits : Limits} {state : σ} {addr : Int} {length : Nat}

/-- The first zero byte of a slice terminates the text before it. -/
theorem terminated_of_findIdx? {budget : Nat}
    (found : (slice space state addr budget).findIdx? (· == 0) = some length) :
    length < budget ∧ Terminated space state addr length := by
  rw [List.findIdx?_eq_some_iff_getElem] at found
  obtain ⟨inside, zero, nonzero⟩ := found
  rw [length_slice] at inside
  refine ⟨inside, ⟨fun index before => ?_, ?_⟩⟩
  · simpa [slice] using nonzero index before
  · simpa [slice] using zero

/-- The naive scan returns the text at the address. -/
theorem naiveScan_text (text : TextAt space limits state addr length) :
    naiveScan space limits state addr = .ok (slice space state addr length) := by
  have start := text.start
  have inside := text.inside
  have budget := text.budget
  unfold naiveScan
  rw [if_neg (by omega)]
  have reaches : length < 0 + min (space.size state - addr).toNat limits.maxCstringScanBytes := by
    omega
  have found := text.terminated.findIdx?_some (Nat.zero_le length) reaches
  simp only [Int.natCast_zero, Int.add_zero, Nat.sub_zero] at found
  simp only [found]

/-- The naive scan finds no text where there is none. -/
theorem naiveScan_missed (inside : 0 ≤ addr ∧ addr < space.size state)
    (missing : ∀ length, ¬TextAt space limits state addr length) :
    naiveScan space limits state addr = .error (unterminated limits addr) := by
  unfold naiveScan
  rw [if_neg (by omega)]
  cases found : (slice space state addr
    (min (space.size state - addr).toNat limits.maxCstringScanBytes)).findIdx? (· == 0) with
  | none => simp only [found]
  | some length =>
    obtain ⟨within, terminated⟩ := terminated_of_findIdx? found
    exact absurd ⟨inside.1, by omega, terminated, by omega⟩ (missing length)

/-- Without a text at the address the naive scan raises `OpaMemoryError`. -/
theorem naiveScan_missing (missing : ∀ length, ¬TextAt space limits state addr length) :
    ∃ error, naiveScan space limits state addr = .error error ∧ error.kind = .opa .memory := by
  by_cases outside : addr < 0 ∨ space.size state ≤ addr
  · exact ⟨_, if_pos outside, rfl⟩
  · exact ⟨_, naiveScan_missed (by omega) missing, rfl⟩

end Naive

section Scan

variable {guest : Guest σ} {space : Space σ} {limits : Limits} {stage : Stage} {size : σ → Nat}

/-- No zero byte among the first ones. -/
def Clear (space : Space σ) (state : σ) (addr : Int) (skipped : Nat) : Prop :=
  ∀ index < skipped, space.byte state (addr + index) ≠ 0

/-- A chunk without a zero byte leads further. -/
theorem Clear.further {state : σ} {addr : Int} {skipped taken : Nat}
    (clear : Clear space state addr skipped)
    (none : (slice space state (addr + skipped) taken).findIdx? (· == 0) = none) :
    Clear space state addr (skipped + taken) := by
  rw [List.findIdx?_eq_none_iff] at none
  intro index below
  by_cases before : index < skipped
  · exact clear index before
  · have member : space.byte state (addr + skipped + ((index - skipped : Nat) : Int)) ∈
        slice space state (addr + skipped) taken :=
      List.mem_map.mpr ⟨index - skipped, List.mem_range.mpr (by omega), rfl⟩
    have nonzero := none _ member
    rw [show addr + skipped + ((index - skipped : Nat) : Int) = addr + index by omega] at nonzero
    simpa using nonzero

/-- The first zero byte of a chunk ends the text. -/
theorem Clear.terminated {state : σ} {addr : Int} {skipped taken nul : Nat}
    (clear : Clear space state addr skipped)
    (found : (slice space state (addr + skipped) taken).findIdx? (· == 0) = some nul) :
    nul < taken ∧ Terminated space state addr (skipped + nul) := by
  obtain ⟨within, rest⟩ := terminated_of_findIdx? found
  refine ⟨within, ⟨fun index before => ?_, ?_⟩⟩
  · by_cases early : index < skipped
    · exact clear index early
    · have nonzero := rest.text (index - skipped) (by omega)
      rwa [show addr + skipped + ((index - skipped : Nat) : Int) = addr + index by omega] at nonzero
  · have zero := rest.terminator
    rwa [Int.add_assoc, ← Int.natCast_add] at zero

/-- What a scan has done at its end: memory is as it was, and the bytes it read since fit
into what was left of its budget. -/
def Within (state : σ) (budget : Nat) (world after : World (Recorded σ)) : Prop :=
  after.guest.guest = state ∧ Extended (fun calls => bytesRead calls ≤ budget) world after

/-- Nothing is read without a call. -/
theorem within_refl {state : σ} {world : World (Recorded σ)} (still : world.guest.guest = state)
    (budget : Nat) : Within state budget world world :=
  ⟨still, [], rfl, Nat.zero_le _⟩

/-- Two parts of a scan share a budget. -/
theorem Within.trans {state state' : σ} {first second budget : Nat}
    {world middle after : World (Recorded σ)} (earlier : Within state first world middle)
    (later : Within state' second middle after) (fits : first + second ≤ budget) :
    Within state' budget world after := by
  refine ⟨later.1, earlier.2.trans later.2 fun old new before rest => ?_⟩
  rw [bytesRead_append]
  omega

/-- Reading a chunk. -/
theorem ends_readChunk (readable : Readable guest space Eq) {start : Int} {taken : Nat}
    (world : World (Recorded σ)) (positive : 0 ≤ start)
    (inside : start + taken ≤ space.size world.guest.guest) :
    Ends (call stage .memoryRead ((recorded guest size).memoryRead start (start + taken))) world
      (fun chunk after => chunk = slice space world.guest.guest start taken ∧
        Within world.guest.guest taken world after)
      (fun _ _ => False) := by
  have reads := readable.memoryRead start taken world.guest.guest positive inside
  apply (ends_recorded reads).mono
  · rintro chunk after ⟨called, read, same⟩
    refine ⟨read, same.symm, called.extended ?_⟩
    simp only [bytesRead]
    omega
  · exact fun _ _ failed => failed.2

/-- A scan that has come to the end of memory or of its budget finds no text. -/
theorem Clear.missing {state : σ} {addr : Int} {skipped : Nat}
    (clear : Clear space state addr skipped)
    (ended : limits.maxCstringScanBytes ≤ skipped ∨ space.size state ≤ addr + skipped)
    (length : Nat) : ¬TextAt space limits state addr length := by
  intro text
  have inside := text.inside
  have budget := text.budget
  exact clear length (by omega) text.terminated.terminator

variable (limits stage size) in
/-- The loop from any position: it returns the text at the address, and raises where there is
none.

Proof: by induction on the rounds that are left; what was scanned so far has no terminator. A
chunk without one extends the scanned part, and in a chunk with one the first is the end of
the text. -/
theorem scanCstring_exact (readable : Readable guest space Eq) {chunkSize memLen : Nat}
    (chunked : 1 ≤ chunkSize) {state : σ} {addr : Int} (positive : 0 ≤ addr)
    (sized : (memLen : Int) = space.size state) (left skipped : Nat)
    (spent : skipped ≤ limits.maxCstringScanBytes)
    (enough : (memLen : Int) ≤ addr + skipped + left) (clear : Clear space state addr skipped)
    (world : World (Recorded σ)) (still : world.guest.guest = state) :
    Ends (scanCstring (recorded guest size) limits stage chunkSize memLen addr left
        (addr + skipped) (slice space state addr skipped)) world
      (fun text after => (∃ length, TextAt space limits state addr length ∧
          text = slice space state addr length) ∧
        Within state (limits.maxCstringScanBytes - skipped) world after)
      (fun error after => (error = unterminated limits addr ∧
          ∀ length, ¬TextAt space limits state addr length) ∧
        Within state (limits.maxCstringScanBytes - skipped) world after) := by
  induction left generalizing skipped world with
  | zero => exact ends_throw ⟨⟨rfl, clear.missing (by omega)⟩, within_refl still _⟩
  | succ left inductionHypothesis =>
    unfold scanCstring
    rw [length_slice]
    apply ends_ite
    · intro spent
      exact ends_throw ⟨⟨rfl, clear.missing (by omega)⟩, within_refl still _⟩
    · intro budget
      dsimp only
      generalize stops : min (min (addr + skipped + chunkSize)
        (addr + skipped + ((limits.maxCstringScanBytes : Int) - skipped))) memLen = stop
      apply ends_ite
      · intro ended
        exact ends_throw ⟨⟨rfl, clear.missing (by omega)⟩, within_refl still _⟩
      · intro more
        obtain ⟨taken, rfl⟩ : ∃ taken : Nat, stop = addr + skipped + taken :=
          ⟨(stop - (addr + skipped)).toNat, by omega⟩
        apply (ends_readChunk readable world (by omega) (by rw [still]; omega)).next
        rintro chunk after ⟨rfl, within⟩
        rw [still] at within ⊢
        cases found : (slice space state (addr + skipped) taken).findIdx? (· == 0) with
        | none =>
          -- no terminator in this chunk: the loop goes on behind it
          have further := inductionHypothesis (skipped + taken) (by omega) (by omega)
            (clear.further found) after within.1
          rw [Int.natCast_add, ← Int.add_assoc, ← slice_append] at further
          dsimp only
          apply further.mono
          · exact fun text last done => ⟨done.1, within.trans done.2 (by omega)⟩
          · exact fun error last failed => ⟨failed.1, within.trans failed.2 (by omega)⟩
        | some nul =>
          obtain ⟨short, terminated⟩ := clear.terminated found
          dsimp only
          apply ends_pure
          refine ⟨⟨skipped + nul, ⟨positive, by omega, terminated, by omega⟩, ?_⟩, ?_⟩
          · rw [take_slice _ _ (by omega), slice_append]
          · exact within.trans (within_refl within.1 0) (by omega)

/-- Each iteration moves on, so that more iterations than there are bytes behind the address
make no difference. -/
theorem scanCstring_enough (chunkSize memLen : Nat) (addr : Int) (left extra : Nat) (pos : Int)
    (out : List UInt8) (enough : (memLen : Int) ≤ pos + left) :
    scanCstring guest limits stage chunkSize memLen addr (left + extra) pos out =
      scanCstring guest limits stage chunkSize memLen addr left pos out := by
  induction left generalizing pos out with
  | zero =>
    cases extra with
    | zero => rfl
    | succ extra =>
      rw [Nat.zero_add]
      unfold scanCstring
      dsimp only
      split
      · rfl
      · rw [if_pos (by omega)]
  | succ left inductionHypothesis =>
    rw [Nat.add_right_comm]
    unfold scanCstring
    dsimp only
    split
    · rfl
    · split
      · rfl
      · congr 1
        funext chunk
        cases chunk.findIdx? (· == 0) with
        | none => exact inductionHypothesis _ _ (by omega)
        | some nul => rfl

/-- Reading the length of memory. -/
theorem ends_readSize (readable : Readable guest space Eq) (world : World (Recorded σ)) :
    Ends (call stage .memoryLen (recorded guest size).memoryLen) world
      (fun length after => (length : Int) = space.size world.guest.guest ∧
        Within world.guest.guest 0 world after)
      (fun _ _ => False) := by
  apply (ends_recorded (readable.memoryLen world.guest.guest)).mono
  · rintro length after ⟨called, sized, same⟩
    exact ⟨sized, same.symm, called.extended (Nat.le_refl _)⟩
  · exact fun _ _ failed => failed.2

variable (limits stage size) in
/-- The scan from an address ends like the naive one, within its budget. -/
theorem readCstringChunked_scans (readable : Readable guest space Eq) {chunkSize : Nat}
    (chunked : 1 ≤ chunkSize) (addr : Int) (world : World (Recorded σ)) :
    Ends (readCstringChunked (recorded guest size) limits stage chunkSize addr) world
      (fun text after => naiveScan space limits world.guest.guest addr = .ok text ∧
        Within world.guest.guest limits.maxCstringScanBytes world after)
      (fun error after => naiveScan space limits world.guest.guest addr = .error error ∧
        Within world.guest.guest limits.maxCstringScanBytes world after) := by
  apply (ends_readSize readable world).next
  rintro memLen after ⟨sized, asked⟩
  apply ends_ite
  · intro outside
    refine ends_throw ⟨?_, asked.trans (within_refl asked.1 0) (by omega)⟩
    unfold naiveScan
    rw [if_pos (by omega), ← sized, Int.toNat_natCast]
  · intro inside
    have clear : Clear space world.guest.guest addr 0 := fun _ absent => absurd absent (Nat.not_lt_zero _)
    have scan := scanCstring_exact limits stage size readable chunked (by omega) sized
      (memLen - addr.toNat) 0 (Nat.zero_le _) (by omega) clear after asked.1
    simp only [Int.natCast_zero, Int.add_zero, Nat.sub_zero] at scan
    apply scan.mono
    · rintro text last ⟨⟨length, text, rfl⟩, within⟩
      exact ⟨naiveScan_text text, asked.trans within (by omega)⟩
    · rintro error last ⟨⟨rfl, missing⟩, within⟩
      exact ⟨naiveScan_missed (by omega) missing, asked.trans within (by omega)⟩

/-- For every memory, every address, every budget and every chunk size, `read_cstring` ends like
a scan of one byte after another: it returns the text at the address where there is one, and
else raises `OpaMemoryError`. It reads no more than its budget, and more iterations than it
is allowed would change nothing.

Proof: both scans are shown to find the first zero byte within the budget and inside memory,
chunk by chunk and byte by byte. -/
theorem readCstring_exact (readable : Readable guest space Eq) {chunkSize : Nat}
    (chunked : 1 ≤ chunkSize) (addr : Int) (world : World (Recorded σ)) :
    let scan := readCstringChunked (recorded guest size) limits stage chunkSize addr
    outcome scan world = naiveScan space limits world.guest.guest addr ∧
    (∀ length, TextAt space limits world.guest.guest addr length →
      outcome scan world = .ok (slice space world.guest.guest addr length)) ∧
    ((∀ length, ¬TextAt space limits world.guest.guest addr length) →
      ∃ error, outcome scan world = .error error ∧ error.kind = .opa .memory) ∧
    Within world.guest.guest limits.maxCstringScanBytes world (final scan world) ∧
    (∀ (memLen left extra : Nat), (memLen : Int) ≤ addr + left →
      scanCstring (recorded guest size) limits stage chunkSize memLen addr (left + extra) addr [] =
        scanCstring (recorded guest size) limits stage chunkSize memLen addr left addr []) ∧
    readCstring (recorded guest size) limits stage addr =
      readCstringChunked (recorded guest size) limits stage cstringChunk addr := by
  intro scan
  have ends := readCstringChunked_scans limits stage size readable chunked addr world
  have naive : outcome scan world = naiveScan space limits world.guest.guest addr :=
    (ends.mono (fun _ _ => And.left) (fun _ _ => And.left)).outcome_eq
  refine ⟨naive, ?_, ?_, ?_, ?_, rfl⟩
  · intro length text
    rw [naive, naiveScan_text text]
  · intro missing
    rw [naive]
    exact naiveScan_missing missing
  · exact (ends.mono (fun _ _ => And.right) (fun _ _ => And.right)).final
  · intro memLen left extra enough
    exact scanCstring_enough chunkSize memLen addr left extra addr [] enough

end Scan

section Linear

/-- A memory by its size and its bytes. -/
structure Linear where
  size : Nat
  byte : Int → UInt8

/-- A memory read as it is; nothing is allocated. -/
def linearSpace : Space Linear where
  top _ := 0
  size memory := memory.size
  byte memory := memory.byte

/-- Bytes in their place. -/
def Linear.written (memory : Linear) (addr : Int) (data : List UInt8) : Linear :=
  { memory with
    byte := fun other =>
      if addr ≤ other ∧ other < addr + data.length then data.getD (other - addr).toNat 0
      else memory.byte other }

/-- A guest that allocates at one address, and whose decision lies at another. -/
def linearGuest (buffer decision : Int) : Guest Linear where
  opaMalloc _ := pure buffer
  opaJsonParse addr _ := pure addr
  opaJsonDump addr := pure addr
  opaHeapPtrGet := pure 0
  opaHeapPtrSet _ := pure ⟨⟩
  entrypoints := pure 0
  builtins := pure 0
  opaEval _ _ _ _ _ := pure decision
  memoryLen := Linear.size <$> get
  memoryRead start stop := (slice linearSpace · start (stop - start).toNat) <$> get
  memoryWrite addr data := modify (Linear.written · addr data)
  setEpochDeadline _ := pure ⟨⟩
  startTicker := pure ⟨⟩

/-- Its memory is shown as it is. -/
theorem linear_readable (buffer decision : Int) :
    Readable (linearGuest buffer decision) linearSpace Eq where
  trans := Eq.trans
  undisturbed same := same ▸ ⟨rfl, rfl, fun _ => rfl⟩
  memoryLen state := ⟨rfl, rfl⟩
  memoryRead start length state positive inside := by
    refine ⟨?_, rfl⟩
    rw [show start + (length : Int) - start = length by omega, Int.toNat_natCast]

end Linear

/-- Two letters and a zero byte behind them are read one byte at a time. -/
theorem readCstring_exact_letters :
    let letters : Linear := ⟨8, fun addr => if addr = 5 then 0 else 97⟩
    outcome (readCstringChunked (recorded (linearGuest 0 0) Linear.size) ⟨0, 0, 0, 3, false⟩
      .evaluation 1 3) (WasmtimeRuntime.created ⟨letters, []⟩) = .ok [97, 97] := by
  intro letters
  have text : TextAt linearSpace ⟨0, 0, 0, 3, false⟩ letters 3 2 := by
    refine ⟨by decide, by decide, ⟨fun index before => ?_, by decide⟩, by decide⟩
    have earlier : (3 : Int) + index ≠ 5 := by omega
    simp [linearSpace, letters, earlier]
  exact (readCstring_exact (linear_readable 0 0) (Nat.le_refl 1) 3 _).2.1 2 text

end OpaPyWasm.MemoryCodec
