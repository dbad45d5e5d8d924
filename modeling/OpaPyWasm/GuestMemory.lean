import OpaPyWasm.Library.Regions
import OpaPyWasm.FaultReports

/-!
# A guest with a bump allocator

The guest allocates by advancing its heap pointer. What it computes depends only
on the memory below the heap pointer, and it writes only from the heap pointer on.
Two guests that agree below their common heap pointer are then twins: every codec
function returns the same from both, and leaves twins.
-/

namespace OpaPyWasm.MemoryCodec

open Exceptions Values Effects GuestCalls Regions

/-- The calls of a deterministic guest with a bump allocator. Where two guests
agree below their heap pointer, a call ends alike, and what lies below the new
heap pointer is the same again. -/
structure BumpGuest {σ : Type} (guest : Guest σ) (space : Space σ) : Prop where
  heapPtrGet : ∀ state, Ends guest.opaHeapPtrGet state
    (fun value after => value = space.top state ∧ Undisturbed space state after)
    (fun _ _ => False)
  heapPtrSet : ∀ addr state, Ends (guest.opaHeapPtrSet addr) state
    (fun _ after => space.top after = addr ∧
      ∀ other, space.byte after other = space.byte state other)
    (fun _ _ => False)
  memoryLen : ∀ state, Ends guest.memoryLen state
    (fun length after => (length : Int) = space.size state ∧ Undisturbed space state after)
    (fun _ _ => False)
  memoryRead : ∀ start length state, 0 ≤ start → start + (length : Nat) ≤ space.size state →
    Ends (guest.memoryRead start (start + length)) state
      (fun bytes after => bytes = slice space state start length ∧ Undisturbed space state after)
      (fun _ _ => False)
  memoryWrite : ∀ addr data state, 0 ≤ addr → addr + data.length ≤ space.size state →
    Ends (guest.memoryWrite addr data) state
      (fun _ after => Written space addr data state after) (fun _ _ => False)
  setEpochDeadline : ∀ ticks state, Ends (guest.setEpochDeadline ticks) state
    (fun _ after => Undisturbed space state after) (fun _ _ => False)
  startTicker : ∀ state, Ends guest.startTicker state
    (fun _ after => Undisturbed space state after) (fun _ _ => True)
  opaMalloc : ∀ (length : Nat) state, Ends (guest.opaMalloc length) state
    (fun addr after => addr = space.top state ∧ space.top after = space.top state + length ∧
      space.top after ≤ space.size after ∧
      ∀ other, space.byte after other = space.byte state other)
    (fun _ _ => True)
  opaMalloc_alike : ∀ (length : Nat) first second, space.top first = space.top second →
    Alike (guest.opaMalloc length) first second (fun _ _ _ => True) (fun _ _ _ => True)
  opaJsonParse : ∀ addr (length : Nat) state, Ends (guest.opaJsonParse addr length) state
    (fun _ after => space.top state ≤ space.top after ∧
      AgreeBelow space (space.top state) state after)
    (fun _ _ => True)
  opaJsonParse_alike : ∀ (addr : Int) (length : Nat) first second, addr + length ≤ space.top first →
    space.top first = space.top second → AgreeBelow space (space.top first) first second →
    Alike (guest.opaJsonParse addr length) first second
      (fun _ after after' => space.top after = space.top after' ∧
        AgreeBelow space (space.top after) after after')
      (fun _ _ _ => True)
  opaEval : ∀ entrypoint data input (length : Nat) (heapPtr : Int) state, heapPtr = space.top state →
    Ends (guest.opaEval entrypoint data input length heapPtr) state
      (fun addr after => heapPtr ≤ space.top after ∧ AgreeBelow space heapPtr state after ∧
        space.top after ≤ space.size after ∧
        ∃ text, 0 ≤ addr ∧ addr + (text : Nat) < space.top after ∧ Terminated space after addr text)
      (fun _ _ => True)
  opaEval_alike : ∀ entrypoint data (input : Int) (length : Nat) (heapPtr : Int) first second,
    input + length ≤ heapPtr → heapPtr = space.top first → heapPtr = space.top second →
    AgreeBelow space heapPtr first second →
    Alike (guest.opaEval entrypoint data input length heapPtr) first second
      (fun _ after after' => space.top after = space.top after' ∧
        AgreeBelow space (space.top after) after after')
      (fun _ _ _ => True)

/-- A guest whose memory is shown as it is by calls that keep a relation between its states. -/
structure Readable {σ : Type} (guest : Guest σ) (space : Space σ) (still : σ → σ → Prop) : Prop where
  trans : ∀ {first second third}, still first second → still second third → still first third
  undisturbed : ∀ {before after}, still before after → Undisturbed space before after
  memoryLen : ∀ state, Ends guest.memoryLen state
    (fun length after => (length : Int) = space.size state ∧ still state after)
    (fun _ _ => False)
  memoryRead : ∀ start length state, 0 ≤ start → start + (length : Nat) ≤ space.size state →
    Ends (guest.memoryRead start (start + length)) state
      (fun bytes after => bytes = slice space state start length ∧ still state after)
      (fun _ _ => False)

/-- Two instances in one stage of the same computation, which started from two
instances. They have the same memory up to a bound, and what lies below the floor
is still as it was. -/
structure Kindred {σ : Type} (space : Space σ) (floor bound : Int)
    (start start' world world' : World σ) : Prop where
  framed : GuestOnly start world
  framed' : GuestOnly start' world'
  agree : AgreeBelow space bound world.guest world'.guest
  kept : AgreeBelow space floor start.guest world.guest
  above : floor ≤ bound

/-- Kindred instances with the same heap pointer. -/
structure Twin {σ : Type} (space : Space σ) (floor bound top : Int)
    (start start' world world' : World σ) : Prop
    extends Kindred space floor bound start start' world world' where
  atTop : space.top world.guest = top
  atTop' : space.top world'.guest = top

/-- A step of one instance that disturbed nothing. -/
def Quiet {σ : Type} (space : Space σ) (world after : World σ) : Prop :=
  GuestOnly world after ∧ Undisturbed space world.guest after.guest

/-- Nothing but the log changed. -/
def LogOnly {σ : Type} (before after : World σ) : Prop := after = { before with faults := after.faults }

/-- The guest is the same. -/
theorem LogOnly.guest {σ : Type} {before after : World σ} (logged : LogOnly before after) :
    after.guest = before.guest := by
  rw [logged]

/-- A change of the log is a change of the guest and the log at most. -/
theorem LogOnly.guestOnly {σ : Type} {before after : World σ} (logged : LogOnly before after) :
    GuestOnly before after := by
  unfold GuestOnly
  rw [logged.guest]
  exact logged

variable {σ α : Type} {guest : Guest σ} {space : Space σ} {stage : Stage} {floor bound top : Int}
  {start start' world world' : World σ}

/-- Two quiet steps are one. -/
theorem Quiet.trans {σ : Type} {space : Space σ} {first second third : World σ}
    (earlier : Quiet space first second) (later : Quiet space second third) :
    Quiet space first third :=
  ⟨earlier.1.trans later.1, later.2.top.trans earlier.2.top, later.2.size.trans earlier.2.size,
    fun addr => (later.2.byte addr).trans (earlier.2.byte addr)⟩

/-- Kindred instances stay so while nothing is disturbed. -/
theorem Kindred.quiet (kindred : Kindred space floor bound start start' world world')
    {after after' : World σ} (quiet : Quiet space world after)
    (quiet' : Quiet space world' after') :
    Kindred space floor bound start start' after after' where
  framed := kindred.framed.trans quiet.1
  framed' := kindred.framed'.trans quiet'.1
  agree := (quiet.2.agree bound).symm.trans (kindred.agree.trans (quiet'.2.agree bound))
  kept := kindred.kept.trans (quiet.2.agree floor)
  above := kindred.above

/-- Twins stay twins while nothing is disturbed. -/
theorem Twin.quiet (twin : Twin space floor bound top start start' world world')
    {after after' : World σ} (quiet : Quiet space world after)
    (quiet' : Quiet space world' after') :
    Twin space floor bound top start start' after after' where
  toKindred := twin.toKindred.quiet quiet quiet'
  atTop := quiet.2.top.trans twin.atTop
  atTop' := quiet'.2.top.trans twin.atTop'

/-- A call satisfies what it does to the guest, and touches nothing else. -/
theorem call_ends {operation : Operation} {called : EStateM Raised σ α}
    {returned : α → σ → Prop} {raised : Raised → σ → Prop} (passed : ∀ raised,
      Fault.isConverted ⟨stage, operation, raised⟩ = false)
    (ends : Ends called world.guest returned raised) :
    Ends (call stage operation called) world
      (fun value after => returned value after.guest ∧ GuestOnly world after)
      (fun error after => raised error after.guest) := by
  have reports : Reports stage (call stage operation called) := reports_call called passed
  apply ((reports world).and (ends_called ends)).mono
  · rintro value after ⟨⟨framed, -⟩, holds⟩
    exact ⟨holds, framed⟩
  · rintro error after ⟨-, holds⟩
    exact holds

/-- Calls that end alike on two guests end alike on their instances. -/
theorem alike_call {operation : Operation} {called : EStateM Raised σ α}
    {returned : α → σ → σ → Prop}
    (alike : Alike called world.guest world'.guest returned (fun _ _ _ => True)) :
    Alike (call stage operation called) world world'
      (fun value after after' => returned value after.guest after'.guest ∧
        GuestOnly world after ∧ GuestOnly world' after')
      (fun _ _ _ => True) := by
  unfold Alike at alike ⊢
  unfold call
  cases ended : called world.guest <;> cases ended' : called world'.guest <;>
    simp only [ended, ended'] at alike ⊢
  · exact ⟨alike.1, alike.2, rfl, rfl⟩
  · exact ⟨alike.1, trivial⟩

/-- A program that asks the interpreter only. -/
def Blind (program : Py σ α) : Prop :=
  ∀ world world', Alike program world world'
    (fun _ after after' => after = world ∧ after' = world')
    (fun _ after after' => LogOnly world after ∧ LogOnly world' after')

/-- What follows a blind program starts where it started. -/
theorem Blind.seq {β : Type} {program : Py σ α} {next : α → Py σ β}
    {done : β → World σ → World σ → Prop} (blind : Blind program)
    (continued : ∀ value, Alike (next value) world world' done (fun _ _ _ => True)) :
    Alike (program >>= next) world world' done (fun _ _ _ => True) := by
  apply alike_bind
  apply (blind world world').mono
  · rintro value _ _ ⟨rfl, rfl⟩
    exact continued value
  · exact fun _ _ _ _ => trivial

/-- A call of the interpreter. -/
theorem blind_callPython {operation : Operation} (outcome : Except Raised α) :
    Blind (σ := σ) (callPython stage operation outcome) :=
  fun _ _ => alike_callPython (fun _ _ => ⟨rfl, rfl⟩) (fun _ _ => ⟨rfl, rfl⟩)

/-- A call of the interpreter whose handler converts what it catches. -/
theorem blind_converted {operation : Operation} {caught : Kind → Bool}
    (outcome : Except Raised α) (error : OpaError) (text : Raised → String) :
    Blind (σ := σ) (exceptFor caught (callPython stage operation outcome)
      (fun raised => throw (opaErrorFrom error (text raised) raised))) :=
  fun _ _ => alike_exceptFor (alike_callPython (fun _ _ => ⟨rfl, rfl⟩)
    (fun _ _ => ⟨fun _ => alike_throw ⟨rfl, rfl⟩, fun _ => ⟨rfl, rfl⟩⟩))

/-- What the codec does outside the guest is blind. -/
theorem blind_law (json : Json) (stage : Stage) :
    TextLaw (σ := σ) json stage (fun _ program => Blind program) where
  returns _ := fun _ _ => alike_pure ⟨rfl, rfl⟩
  raises _ _ _ := fun _ _ => alike_throw ⟨rfl, rfl⟩
  sequence := by
    intro α β program next first second world world'
    apply (first world world').seq
    rintro value after after' ⟨rfl, rfl⟩
    exact second value after after'
  encode _ := blind_callPython _
  repr _ := blind_callPython _
  loads _ error text _ := blind_converted _ error text
  dumps _ error text _ := blind_converted _ error text

/-- What reading a terminated text gives: the text, where it fits into the scan. -/
def readText (space : Space σ) (limits : Limits) (state : σ) (addr : Int) (length : Nat) :
    Except Raised (List UInt8) :=
  if length < limits.maxCstringScanBytes then .ok (slice space state addr length)
  else .error (unterminated limits addr)

section Readable

variable {still : σ → σ → Prop} (readable : Readable guest space still)
include readable

/-- The scan goes on from what it has read, and stops at the terminator or at its
budget.

Proof: by induction on the rounds that are left. The position stays below the terminator,
which lies inside memory, so only the budget can end the scan before it. -/
theorem scanCstring_reads (stage : Stage) (limits : Limits) {chunkSize memLen : Nat} (chunked : 0 < chunkSize)
    {origin : World σ} {addr : Int} {length : Nat}
    (terminated : Terminated space origin.guest addr length) (positive : 0 ≤ addr)
    (inside : addr + length < memLen) (size : (memLen : Int) = space.size origin.guest)
    (left skipped : Nat) (reached : skipped ≤ length) (enough : (memLen : Int) ≤ addr + skipped + left)
    (world : World σ) (framed : GuestOnly origin world) (kept : still origin.guest world.guest) :
    Ends (scanCstring guest limits stage chunkSize memLen addr left (addr + skipped)
        (slice space origin.guest addr skipped)) world
      (fun text after => readText space limits origin.guest addr length = .ok text ∧
        GuestOnly origin after ∧ still origin.guest after.guest)
      (fun error _ => readText space limits origin.guest addr length = .error error) := by
  induction left generalizing skipped world with
  | zero => omega
  | succ left inductionHypothesis =>
    unfold scanCstring
    rw [length_slice]
    apply ends_ite
    · intro spent
      exact ends_throw (if_neg (by omega))
    · intro budget
      dsimp only
      generalize stops : min (min (addr + skipped + chunkSize)
        (addr + skipped + ((limits.maxCstringScanBytes : Int) - skipped))) memLen = stop
      apply ends_ite
      · intro ended
        omega
      · intro more
        obtain ⟨taken, rfl⟩ : ∃ taken : Nat, stop = addr + skipped + taken :=
          ⟨(stop - (addr + skipped)).toNat, by omega⟩
        have undisturbed := readable.undisturbed kept
        have reads := readable.memoryRead (addr + skipped) taken world.guest (by omega)
          (by rw [undisturbed.size, ← size]; omega)
        apply (call_ends (fun _ => rfl) reads).next
        rintro chunk after ⟨⟨rfl, keptLater⟩, framedLater⟩
        have framedAfter := framed.trans framedLater
        have keptAfter := readable.trans kept keptLater
        have agree := (undisturbed.agree (addr + skipped + taken)).symm
        rw [agree.slice_eq (Int.le_refl _)]
        by_cases short : skipped + taken ≤ length
        · rw [terminated.findIdx?_none short, slice_append]
          have further := inductionHypothesis (skipped + taken) short (by omega) after framedAfter
            keptAfter
          rw [Int.natCast_add, ← Int.add_assoc] at further
          exact further
        · rw [terminated.findIdx?_some reached (by omega)]
          apply ends_pure
          refine ⟨?_, framedAfter, keptAfter⟩
          rw [take_slice _ _ (by omega), slice_append, Nat.add_sub_cancel' reached]
          exact if_pos (by omega)

/-- A terminated text is read as it is, whatever the size of the memory. -/
theorem readCstring_reads (stage : Stage) (limits : Limits) {addr : Int} {length : Nat}
    (terminated : Terminated space world.guest addr length) (positive : 0 ≤ addr)
    (inside : addr + length < space.size world.guest) :
    Ends (readCstring guest limits stage addr) world
      (fun text after => readText space limits world.guest addr length = .ok text ∧
        GuestOnly world after ∧ still world.guest after.guest)
      (fun error _ => readText space limits world.guest addr length = .error error) := by
  apply (call_ends (fun _ => rfl) (readable.memoryLen world.guest)).next
  rintro memLen after ⟨⟨same, kept⟩, framed⟩
  apply ends_ite
  · rintro (negative | beyond)
    · omega
    · omega
  · intro _
    have chunked : 0 < cstringChunk := by decide
    have scan := scanCstring_reads readable stage limits chunked terminated positive (by omega) same
      (memLen - addr.toNat) 0 (by omega) (by omega) after framed kept
    simpa [slice] using scan

end Readable

section Bump

variable (bump : BumpGuest guest space)
include bump

/-- The range check passes on a range inside the memory, whatever its size. -/
theorem checkRange_quiet (addr : Int) (length : Nat) (kind : String) (positive : 0 ≤ addr)
    (inside : addr + length ≤ space.size world.guest) :
    Ends (checkRange guest stage addr length kind) world
      (fun value after => value = ⟨⟩ ∧ Quiet space world after) (fun _ _ => False) := by
  unfold checkRange
  rw [if_neg (by omega), if_neg (by omega)]
  apply (call_ends (fun _ => rfl) (bump.memoryLen world.guest)).seq
  rintro memLen after ⟨⟨same, undisturbed⟩, framed⟩
  rw [if_neg (by omega)]
  exact ends_pure ⟨rfl, framed, undisturbed⟩

/-- An allocation starts at the heap pointer and lies inside the memory. -/
theorem opaMalloc_twin (twin : Twin space floor top top start start' world world')
    (length : Nat) :
    Alike (call stage .opaMalloc (guest.opaMalloc length)) world world'
      (fun addr after after' => addr = top ∧
        Twin space floor top (top + length) start start' after after' ∧
        top + length ≤ space.size after.guest ∧ top + length ≤ space.size after'.guest)
      (fun _ _ _ => True) := by
  have alike := bump.opaMalloc_alike length world.guest world'.guest
    (twin.atTop.trans twin.atTop'.symm)
  apply ((alike_call alike).with_ends
    (call_ends (fun _ => rfl) (bump.opaMalloc length world.guest))
    (call_ends (fun _ => rfl) (bump.opaMalloc length world'.guest))).mono
  · rintro addr after after' ⟨-, ⟨⟨same, moved, covered, bytes⟩, framed⟩,
      ⟨-, moved', covered', bytes'⟩, framed'⟩
    rw [twin.atTop] at same moved
    rw [twin.atTop'] at moved'
    refine ⟨same, ⟨⟨twin.framed.trans framed, twin.framed'.trans framed', ?_, ?_, twin.above⟩,
      moved, moved'⟩, moved ▸ covered, moved' ▸ covered'⟩
    · intro other below
      rw [bytes, bytes']
      exact twin.agree other below
    · intro other below
      rw [bytes]
      exact twin.kept other below
  · exact fun _ _ _ _ => trivial

/-- The same bytes written behind the common memory are common too. -/
theorem memoryWrite_twin (twin : Twin space floor bound top start start' world world')
    (data : List UInt8) (positive : 0 ≤ bound)
    (covered : bound + data.length ≤ space.size world.guest)
    (covered' : bound + data.length ≤ space.size world'.guest) :
    Alike (call stage .memoryWrite (guest.memoryWrite bound data)) world world'
      (fun _ after after' =>
        Twin space floor (bound + data.length) top start start' after after')
      (fun _ _ _ => True) := by
  apply alike_of_done
    (call_ends (fun _ => rfl) (bump.memoryWrite bound data world.guest positive covered))
    (call_ends (fun _ => rfl) (bump.memoryWrite bound data world'.guest positive covered'))
  rintro after after' ⟨written, framed⟩ ⟨written', framed'⟩
  have above := twin.above
  exact ⟨⟨twin.framed.trans framed, twin.framed'.trans framed', twin.agree.written written written',
    twin.kept.trans (written.below above), by omega⟩, written.top.trans twin.atTop,
    written'.top.trans twin.atTop'⟩

/-- A written buffer starts at the heap pointer, and twins hold it both. -/
theorem writeBytes_twin (twin : Twin space floor top top start start' world world')
    (data : List UInt8) :
    Alike (writeBytes guest stage data) world world'
      (fun addr after after' => addr = top ∧
        Twin space floor (top + data.length) (top + data.length) start start' after after')
      (fun _ _ _ => True) := by
  apply (opaMalloc_twin bump twin data.length).seq
  rintro allocated after after' ⟨rfl, twin, covered, covered'⟩
  apply alike_bind
  apply alike_ite (fun _ => alike_throw trivial)
  intro positive
  apply alike_pure
  have checks : Alike (checkRange guest stage allocated data.length "write_bytes") after after'
      (fun value checked checked' => value = PUnit.unit ∧ Quiet space after checked ∧
        Quiet space after' checked') (fun _ _ _ => True) :=
    alike_of_returns PUnit.unit (checkRange_quiet bump _ _ _ (by omega) covered)
      (checkRange_quiet bump _ _ _ (by omega) covered')
  apply checks.seq
  rintro _ checked checked' ⟨-, quiet, quiet'⟩
  have twin := twin.quiet quiet quiet'
  rw [← quiet.2.size] at covered
  rw [← quiet'.2.size] at covered'
  apply (memoryWrite_twin bump twin data (by omega) covered covered').seq
  rintro _ written written' twin
  exact alike_pure ⟨rfl, twin⟩

/-- A parsed value lies behind the memory in use. -/
theorem opaJsonParse_twin (twin : Twin space floor top top start start' world world') (addr : Int)
    (length : Nat) (below : addr + length ≤ top) :
    Alike (call stage .opaJsonParse (guest.opaJsonParse addr length)) world world'
      (fun _ after after' => ∃ higher, Twin space floor higher higher start start' after after')
      (fun _ _ _ => True) := by
  have agree := twin.agree
  rw [← twin.atTop] at agree below
  have alike := bump.opaJsonParse_alike addr length world.guest world'.guest below
    (twin.atTop.trans twin.atTop'.symm) agree
  apply ((alike_call alike).with_ends
    (call_ends (fun _ => rfl) (bump.opaJsonParse addr length world.guest))
    (call_ends (fun _ => rfl) (bump.opaJsonParse addr length world'.guest))).mono
  · rintro value after after' ⟨⟨⟨same, agreeAfter⟩, framed, framed'⟩, ⟨⟨grown, kept⟩, -⟩, -⟩
    rw [twin.atTop] at grown kept
    exact ⟨space.top after.guest, ⟨twin.framed.trans framed, twin.framed'.trans framed', agreeAfter,
      twin.kept.trans (kept.mono twin.above), Int.le_trans twin.above grown⟩, rfl, same.symm⟩
  · exact fun _ _ _ _ => trivial

/-- The codec puts a document into both heaps. -/
theorem pythonToOpaValue_twin (json : Json)
    (twin : Twin space floor top top start start' world world') (document : Document)
    (limit : Nat) (kind : String) :
    Alike (pythonToOpaValue guest json stage document limit kind) world world'
      (fun _ after after' => ∃ higher, Twin space floor higher higher start start' after after')
      (fun _ _ _ => True) := by
  have blind := blind_law (σ := σ) json stage
  apply alike_bind
  apply Blind.seq (blind.coerceToJsonBytes document true)
  intro raw
  apply Blind.seq (blind.checkSize raw limit kind)
  intro _
  apply (writeBytes_twin bump twin raw).seq
  rintro addr written written' ⟨rfl, twin⟩
  apply alike_pure
  apply (opaJsonParse_twin bump twin addr raw.length (by omega)).seq
  rintro value parsed parsed' twin
  exact alike_ite (fun _ => alike_throw trivial) (fun _ => alike_pure twin)

/-- A bump allocator's memory is readable. -/
theorem BumpGuest.readable : Readable guest space (Undisturbed space) where
  trans earlier later := ⟨later.top.trans earlier.top, later.size.trans earlier.size,
    fun addr => (later.byte addr).trans (earlier.byte addr)⟩
  undisturbed := id
  memoryLen := bump.memoryLen
  memoryRead := bump.memoryRead

/-- Two instances that hold the same terminated text read it alike. -/
theorem readCstring_alike (limits : Limits) {addr : Int} {length : Nat}
    (terminated : Terminated space world.guest addr length) (positive : 0 ≤ addr)
    (agree : AgreeBelow space bound world.guest world'.guest) (below : addr + length < bound)
    (inside : bound ≤ space.size world.guest) (inside' : bound ≤ space.size world'.guest) :
    Alike (readCstring guest limits stage addr) world world'
      (fun _ after after' => Quiet space world after ∧ Quiet space world' after')
      (fun _ _ _ => True) := by
  have same : readText space limits world'.guest addr length =
      readText space limits world.guest addr length := by
    unfold readText
    rw [agree.slice_eq (by omega)]
  have reads' := readCstring_reads bump.readable stage limits (terminated.agree agree below) positive
    (by omega)
  rw [same] at reads'
  apply (alike_of_expected (readText space limits world.guest addr length)
    ((readCstring_reads bump.readable stage limits terminated positive (by omega)).mono (fun _ _ => id)
      (fun _ _ failed => ⟨failed, trivial⟩))
    (reads'.mono (fun _ _ => id) (fun _ _ failed => ⟨failed, trivial⟩))).mono
  · exact fun _ _ _ both => both.2
  · exact fun _ _ _ _ => trivial

/-- They parse it alike, too. -/
theorem readJsonCstring_alike (json : Json) (limits : Limits) {addr : Int} {length : Nat}
    (limit : Nat) (kind : String)
    (terminated : Terminated space world.guest addr length) (positive : 0 ≤ addr)
    (agree : AgreeBelow space bound world.guest world'.guest) (below : addr + length < bound)
    (inside : bound ≤ space.size world.guest) (inside' : bound ≤ space.size world'.guest) :
    Alike (readJsonCstring guest json limits stage addr limit kind) world world'
      (fun _ after after' => Quiet space world after ∧ Quiet space world' after')
      (fun _ _ _ => True) := by
  have blind := blind_law (σ := σ) json stage
  apply (readCstring_alike bump limits terminated positive agree below inside inside').seq
  intro raw read read' quiet
  apply Blind.seq (blind.checkSize raw limit kind)
  intro _
  apply (blind.loads raw .memory _ rfl read read').mono
  · rintro value _ _ ⟨rfl, rfl⟩
    exact quiet
  · exact fun _ _ _ _ => trivial

end Bump

end OpaPyWasm.MemoryCodec
