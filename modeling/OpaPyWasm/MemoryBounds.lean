import OpaPyWasm.GuestTrace

/-!
# Accesses within linear memory

Every access that the codec issues lies within linear memory as it is then, whatever
addresses the guest returns. An address that would lead outside is refused before
memory is touched: after it the host only asks for the length of memory, and the
operation ends with `OpaMemoryError`.
-/

namespace OpaPyWasm.GuestTrace

open Exceptions Values Effects GuestCalls MemoryCodec PolicyInstance

/-- Linear memory: its length can be read, and a read does not make it shorter. -/
structure LinearMemory {σ : Type} (guest : Guest σ) (size : σ → Nat) : Prop where
  memoryLen : ∀ state, guest.memoryLen state = .ok (size state) state
  memoryRead : ∀ start stop state, Ends (guest.memoryRead start stop) state
    (fun _ after => size state ≤ size after) (fun _ after => size state ≤ size after)

/-- An access lies within memory as it was when the access was issued. -/
def Entry.InBounds (entry : Entry) : Prop :=
  match entry.issued with
  | .memoryRead start stop => 0 ≤ start ∧ start ≤ stop ∧ stop ≤ entry.before
  | .memoryWrite addr data => 0 ≤ addr ∧ addr + data.length ≤ entry.before
  | _ => True

/-- An export returned an address that must not be used: none, or one whose buffer or text
does not begin, or does not fit, in memory as it is then. -/
def Entry.Refused (entry : Entry) : Prop :=
  match entry.issued, entry.address with
  | .opaMalloc length, some addr => addr ≤ 0 ∨ entry.after < addr + length
  | .opaJsonParse _ _, some addr => addr ≤ 0
  | .opaJsonDump _, some addr => addr ≤ 0 ∨ entry.after ≤ addr
  | .opaEval _ _ _ _ _, some addr => addr < 0 ∨ entry.after ≤ addr
  | _, _ => False

/-- Calls that all stay within memory, none of which returned a refused address. -/
def Sound (calls : List Entry) : Prop := ∀ entry ∈ calls, entry.InBounds ∧ ¬entry.Refused

/-- Calls that all stay within memory and end with a refused address, after which nothing was
asked for but the length of memory. -/
def EndsRefused (calls : List Entry) : Prop :=
  ∃ checks refused earlier, calls = checks ++ refused :: earlier ∧ Sound earlier ∧
    refused.Refused ∧ ∀ check ∈ checks, check.issued = .memoryLen

/-- How calls end with an error: no address was refused, or this is an `OpaMemoryError`. -/
def Guarded (error : Raised) (calls : List Entry) : Prop :=
  Sound calls ∨ error.kind = .opa .memory ∧ EndsRefused calls

/-- An operation is given an address or a length itself that leads outside memory. -/
def HostOperation.Refused (length : Nat) : HostOperation → Prop
  | .readBytes addr count => addr < 0 ∨ count < 0 ∨ length < addr + count
  | .readCstring addr => addr < 0 ∨ length ≤ addr
  | .readJsonCstring addr _ _ => addr < 0 ∨ length ≤ addr
  | _ => False

/-- Sound calls one after another are sound. -/
theorem Sound.append {earlier later : List Entry} (first : Sound earlier) (second : Sound later) :
    Sound (later ++ earlier) := by
  intro entry member
  rcases List.mem_append.mp member with inside | inside
  · exact second entry inside
  · exact first entry inside

/-- Guarded programs compose. -/
theorem guarded_law : TraceLaw Sound Guarded where
  idle _ inside := absurd inside List.not_mem_nil
  silent _ := .inl (fun _ inside => absurd inside List.not_mem_nil)
  returns := Sound.append
  raises := by
    rintro error earlier later first (second | ⟨kind, checks, refused, middle, same, rest⟩)
    · exact .inl (first.append second)
    · refine .inr ⟨kind, checks, refused, middle ++ earlier, by simp [same], ?_⟩
      exact ⟨first.append rest.1, rest.2⟩

/-- Nothing but the length of memory was asked for. -/
def LengthsOnly (calls : List Entry) : Prop := ∀ entry ∈ calls, entry.issued = .memoryLen

/-- Asking for the length of memory accesses nothing. -/
theorem LengthsOnly.sound {calls : List Entry} (lengths : LengthsOnly calls) : Sound calls := by
  intro entry member
  have asked := lengths entry member
  constructor
  · simp only [Entry.InBounds, asked]
  · simp only [Entry.Refused, asked, not_false_eq_true]

/-- The last call before length checks returned a refused address. -/
theorem guarded_refused {error : Raised} {checks : List Entry} {entry : Entry}
    (kind : error.kind = .opa .memory) (refused : entry.Refused) (lengths : LengthsOnly checks) :
    Guarded error (checks ++ [entry]) :=
  .inr ⟨kind, checks, entry, [], rfl, fun _ inside => absurd inside List.not_mem_nil, refused,
    lengths⟩

/-- A null that was refused at once. -/
theorem guarded_null {error : Raised} {entry : Entry} (kind : error.kind = .opa .memory)
    (refused : entry.Refused) : Guarded error [entry] := by
  have unread : LengthsOnly [] := fun _ inside => absurd inside List.not_mem_nil
  exact guarded_refused kind refused unread

section Transfers

variable {σ : Type} {guest : Guest σ} {size : σ → Nat} {limits : Limits} {stage : Stage}

/-- The guest is as before, and only the length of memory was asked for. -/
def Checked (world after : World (Recorded σ)) : Prop :=
  after.guest.guest = world.guest.guest ∧ Extended LengthsOnly world after

/-- Nothing was asked for. -/
theorem checked_refl (world : World (Recorded σ)) : Checked world world :=
  ⟨rfl, [], rfl, fun _ inside => absurd inside List.not_mem_nil⟩

/-- Reading the length of memory. -/
theorem ends_memoryLen (memory : LinearMemory guest size) (world : World (Recorded σ)) :
    Ends (call stage .memoryLen (recorded guest size).memoryLen) world
      (fun length after => length = size world.guest.guest ∧ Checked world after)
      (fun _ _ => False) := by
  have ends : Ends guest.memoryLen world.guest.guest
      (fun length after => length = size world.guest.guest ∧ after = world.guest.guest)
      (fun _ _ => False) := by
    unfold Ends
    rw [memory.memoryLen]
    exact ⟨rfl, rfl⟩
  apply (ends_recorded ends).mono
  · rintro length after ⟨added, same, kept⟩
    refine ⟨same, kept, Called.extended added ?_⟩
    intro entry member
    rw [List.mem_singleton.mp member]
  · rintro error after ⟨-, impossible⟩
    exact impossible

/-- A range that passes its check lies within memory; any other is refused. -/
theorem ends_checkRange (memory : LinearMemory guest size) (addr length : Int) (kind : String)
    (world : World (Recorded σ)) :
    Ends (checkRange (recorded guest size) stage addr length kind) world
      (fun _ after => Checked world after ∧ 0 ≤ addr ∧ 0 ≤ length ∧
        addr + length ≤ size world.guest.guest)
      (fun error after => Checked world after ∧ error.kind = .opa .memory ∧
        (addr < 0 ∨ length < 0 ∨ size world.guest.guest < addr + length)) := by
  unfold checkRange
  apply ends_ite
  · exact fun negative => ends_throw ⟨checked_refl world, rfl, .inl negative⟩
  intro addrFine
  apply ends_ite
  · exact fun negative => ends_throw ⟨checked_refl world, rfl, .inr (.inl negative)⟩
  intro lengthFine
  apply (ends_memoryLen memory world).next
  rintro memLen after ⟨rfl, checked⟩
  apply ends_ite
  · exact fun outside => ends_throw ⟨checked, rfl, .inr (.inr outside)⟩
  · intro inside
    exact ends_pure ⟨checked, by omega, by omega, by omega⟩

/-- A call that is no access and returns no address that could be refused. -/
theorem sound_called {issued : Issued} {address : Option Int} {before after : Nat}
    (within : Entry.InBounds ⟨issued, before, after, address⟩)
    (kept : ¬Entry.Refused ⟨issued, before, after, address⟩) :
    Sound [⟨issued, before, after, address⟩] := by
  intro other member
  rw [List.mem_singleton.mp member]
  exact ⟨within, kept⟩

/-- An access within memory as it is now. -/
theorem ends_access {issued : Issued} {operation : Operation} {α : Type}
    {called : EStateM Raised σ α} {world : World (Recorded σ)}
    (within : ∀ after, Sound [⟨issued, size world.guest.guest, after, none⟩]) :
    Ends (call stage operation (record size issued (fun _ => none) called)) world
      (fun _ after => Extended Sound world after) (fun _ after => Extended Sound world after) := by
  have ends : Ends called world.guest.guest (fun _ _ => True) (fun _ _ => True) := ends_true
  apply (ends_recorded ends).mono
  · exact fun _ after added => Called.extended added.1 (within _)
  · exact fun _ after added => Called.extended added.1 (within _)

/-- `write_bytes` writes within memory, at an address that is none of the refused ones.

Proof: the address is refused where it is null or negative, and `_check_range` refuses where
the data would end outside memory. Behind both checks the write is inside, since memory does
not shrink. -/
theorem guarded_writeBytes (memory : LinearMemory guest size) (data : List UInt8) :
    Adds Sound Guarded (writeBytes (recorded guest size) stage data) := by
  intro world
  have ends : Ends (guest.opaMalloc data.length) world.guest.guest (fun _ _ => True)
    (fun _ _ => True) := ends_true
  apply ends_bind
  apply (ends_recorded ends).mono
  · rintro allocated after ⟨added, -⟩
    apply ends_bind
    apply ends_ite
    · intro refused
      exact ends_throw (added.extended (guarded_null rfl (.inl refused)))
    intro positive
    apply ends_pure
    apply ends_bind
    apply (ends_checkRange memory allocated data.length "write_bytes" after).mono
    · rintro _ checked ⟨⟨same, asked⟩, -, -, inside⟩
      have kept : Extended Sound world after := by
        apply added.extended
        refine sound_called ?_ ?_
        · exact True.intro
        · rintro (null | outside)
          · exact positive null
          · exact Int.not_lt.mpr inside outside
      have ready : Extended Sound world checked :=
        kept.trans asked (fun _ _ sound lengths => sound.append lengths.sound)
      apply ends_bind
      apply (ends_access ?_).mono
      · intro _ last wrote
        exact ends_pure (ready.trans wrote (fun _ _ => Sound.append))
      · intro error last wrote
        exact (ready.trans wrote (fun _ _ => Sound.append)).mono (fun _ => .inl)
      · intro later
        refine sound_called ?_ id
        rw [same]
        exact ⟨by omega, inside⟩
    · rintro error checked ⟨⟨same, asked⟩, kind, outside⟩
      have refused : Entry.Refused ⟨.opaMalloc data.length, size world.guest.guest,
          size after.guest.guest, some allocated⟩ := by
        right
        show (size after.guest.guest : Int) < allocated + data.length
        omega
      exact added.only.trans asked
        (fun _ _ one lengths => one ▸ guarded_refused kind refused lengths)
  · rintro error after ⟨added, -⟩
    exact added.extended (.inl (sound_called True.intro id))

/-- How a function ends that was itself given a place in memory: one outside is refused
before memory is touched, and within only accesses are added. -/
def EndsWithin {α : Type} (program : Py (Recorded σ) α) (outside : Nat → Prop)
    (size : σ → Nat) : Prop :=
  ∀ world, Ends program world
    (fun _ after => ¬outside (size world.guest.guest) ∧ Extended Sound world after)
    (fun error after => outside (size world.guest.guest) ∧ error.kind = .opa .memory ∧
        Checked world after ∨
      ¬outside (size world.guest.guest) ∧ Extended Sound world after)

/-- `read_bytes` reads within memory. -/
theorem within_readBytes (memory : LinearMemory guest size) (addr length : Int) :
    EndsWithin (readBytes (recorded guest size) stage addr length)
      (fun memLen => addr < 0 ∨ length < 0 ∨ memLen < addr + length) size := by
  intro world
  apply ends_bind
  apply (ends_checkRange memory addr length "read_bytes" world).mono
  · rintro _ checked ⟨⟨same, asked⟩, addrFine, lengthFine, inside⟩
    have ready : Extended Sound world checked := asked.mono (fun _ => LengthsOnly.sound)
    have fits : ¬(addr < 0 ∨ length < 0 ∨ (size world.guest.guest : Int) < addr + length) := by omega
    apply (ends_access ?_).mono
    · exact fun _ after read => ⟨fits, ready.trans read (fun _ _ => Sound.append)⟩
    · exact fun _ after read => .inr ⟨fits, ready.trans read (fun _ _ => Sound.append)⟩
    · intro later
      refine sound_called ?_ id
      rw [same]
      exact ⟨addrFine, by omega, inside⟩
  · rintro error checked ⟨asked, kind, outside⟩
    exact .inl ⟨outside, kind, asked⟩

/-- The scan of `read_cstring` reads within memory: its position never passes the length of
memory that it started with, and memory does not get shorter.

Proof: by induction on the rounds that are left. A round reads from its position to a stop
that is at most the length of memory at the start. -/
theorem sound_scanCstring (memory : LinearMemory guest size) (chunkSize memLen : Nat) (addr : Int)
    (left : Nat) (pos : Int) (out : List UInt8) (world : World (Recorded σ)) (positive : 0 ≤ pos)
    (long : memLen ≤ size world.guest.guest) :
    Ends (scanCstring (recorded guest size) limits stage chunkSize memLen addr left pos out) world
      (fun _ after => Extended Sound world after) (fun _ after => Extended Sound world after) := by
  have idle : Extended Sound world world := ⟨[], rfl, guarded_law.idle⟩
  induction left generalizing pos out world with
  | zero => exact ends_throw idle
  | succ left inductionHypothesis =>
    unfold scanCstring
    dsimp only
    apply ends_ite
    · exact fun _ => ends_throw idle
    intro budget
    apply ends_ite
    · exact fun _ => ends_throw idle
    intro more
    generalize stops : min (min (pos + chunkSize) (pos + (limits.maxCstringScanBytes - out.length)))
      (memLen : Int) = stop at more ⊢
    have inside : stop ≤ memLen := stops ▸ Int.min_le_right _ _
    have fits : 0 ≤ pos ∧ pos ≤ stop ∧ stop ≤ size world.guest.guest := by omega
    apply ends_bind
    apply (ends_recorded (memory.memoryRead pos stop world.guest.guest)).mono
    · rintro chunk after ⟨added, grown⟩
      have read : Extended Sound world after := by
        apply added.extended
        exact sound_called fits id
      cases chunk.findIdx? (· == 0) with
      | some nul => exact ends_pure read
      | none =>
        apply (inductionHypothesis stop (out ++ chunk) after (by omega) (by omega)
          ⟨[], rfl, guarded_law.idle⟩).mono
        · exact fun _ last later => read.trans later (fun _ _ => Sound.append)
        · exact fun _ last later => read.trans later (fun _ _ => Sound.append)
    · rintro error after ⟨added, -⟩
      apply added.extended
      exact sound_called fits id

/-- `read_cstring` reads within memory. -/
theorem within_readCstring (memory : LinearMemory guest size) (addr : Int) :
    EndsWithin (readCstring (recorded guest size) limits stage addr)
      (fun memLen => addr < 0 ∨ memLen ≤ addr) size := by
  intro world
  apply (ends_memoryLen memory world).next
  rintro memLen checked ⟨rfl, same, asked⟩
  apply ends_ite
  · exact fun outside => ends_throw (.inl ⟨outside, rfl, same, asked⟩)
  intro inside
  have ready : Extended Sound world checked := asked.mono (fun _ => LengthsOnly.sound)
  have long : size world.guest.guest ≤ size checked.guest.guest := same ▸ Nat.le_refl _
  apply (sound_scanCstring memory _ _ _ _ _ _ checked (by omega) long).mono
  · exact fun _ after read => ⟨inside, ready.trans read (fun _ _ => Sound.append)⟩
  · exact fun _ after read => .inr ⟨inside, ready.trans read (fun _ _ => Sound.append)⟩

/-- A text that an export returned the address of is read within memory, or the address is
refused. -/
theorem guarded_read {α : Type} {program : Py (Recorded σ) α} {outside : Nat → Prop}
    {world after : World (Recorded σ)} {issued : Issued} {addr : Int}
    (added : Called size issued (some addr) world after) (reads : EndsWithin program outside size)
    (plain : ∀ before later, Entry.InBounds ⟨issued, before, later, some addr⟩)
    (exact : ∀ before later, Entry.Refused ⟨issued, before, later, some addr⟩ ↔ outside later) :
    Ends program after (fun _ last => Extended Sound world last)
      (fun error last => Extended (Guarded error) world last) := by
  have kept (fits : ¬outside (size after.guest.guest)) : Extended Sound world after := by
    apply added.extended
    exact sound_called (plain _ _) (fun refused => fits ((exact _ _).mp refused))
  apply (reads after).mono
  · rintro _ last ⟨fits, read⟩
    exact (kept fits).trans read (fun _ _ => Sound.append)
  · rintro error last (⟨refused, kind, -, asked⟩ | ⟨fits, read⟩)
    · exact added.only.trans asked
        (fun _ _ one lengths => one ▸ guarded_refused kind ((exact _ _).mpr refused) lengths)
    · exact ((kept fits).trans read (fun _ _ => Sound.append)).mono (fun _ => .inl)

/-- A place that the caller gave is none that an export returned. -/
theorem EndsWithin.adds {α : Type} {program : Py (Recorded σ) α} {outside : Nat → Prop}
    (reads : EndsWithin program outside size) : Adds Sound Guarded program := by
  intro world
  apply (reads world).mono
  · exact fun _ after read => read.2
  · rintro error after (⟨-, -, -, asked⟩ | ⟨-, read⟩)
    · exact asked.mono (fun _ lengths => .inl lengths.sound)
    · exact read.mono (fun _ => .inl)

/-- An address that passes its check is not null. -/
theorem ends_checkPointer (addr : Int) (kind : String) (world : World (Recorded σ)) :
    Ends (checkPointer addr kind) world (fun checked after => checked = addr ∧ 0 < addr ∧ after = world)
      (fun error after => addr ≤ 0 ∧ error.kind = .opa .memory ∧ after = world) := by
  apply ends_ite
  · exact fun null => ends_throw ⟨null, rfl, rfl⟩
  · exact fun positive => ends_pure ⟨rfl, by omega, rfl⟩

/-- The transfers of the codec are guarded.

Proof: an address that an export returned is tested before it is used: `_check_pointer`
refuses null, and the scan refuses what lies outside memory. -/
theorem guarded_buffers (memory : LinearMemory guest size) (json : Json) :
    BufferLaw (recorded guest size) json limits stage
      (fun _ program => Adds Sound Guarded program) where
  toTextLaw := adds_textLaw guarded_law json stage
  writeBytes := guarded_writeBytes memory
  readCstring addr := (within_readCstring memory addr).adds
  parsedValue addr length kind := by
    intro world
    have ends : Ends (guest.opaJsonParse addr length) world.guest.guest (fun _ _ => True)
      (fun _ _ => True) := ends_true
    apply ends_bind
    apply (ends_recorded ends).mono
    · rintro value after ⟨added, -⟩
      apply (ends_checkPointer value kind after).mono
      · rintro _ _ ⟨rfl, positive, rfl⟩
        exact added.extended (sound_called True.intro (fun null => absurd null (Int.not_le.mpr positive)))
      · rintro error _ ⟨null, kind, rfl⟩
        exact added.extended (guarded_null kind null)
    · rintro error after ⟨added, -⟩
      exact added.extended (.inl (sound_called True.intro id))
  dumpedText addr kind := by
    intro world
    have ends : Ends (guest.opaJsonDump addr) world.guest.guest (fun _ _ => True)
      (fun _ _ => True) := ends_true
    apply ends_bind
    apply (ends_recorded ends).mono
    · rintro dumped after ⟨added, -⟩
      apply ends_bind
      apply (ends_checkPointer dumped kind after).mono
      · rintro _ _ ⟨rfl, positive, rfl⟩
        apply guarded_read added (within_readCstring memory _) (fun _ _ => True.intro)
        intro before later
        show (_ ≤ 0 ∨ (later : Int) ≤ _) ↔ _
        omega
      · rintro error _ ⟨null, kind, rfl⟩
        exact added.extended (guarded_null kind (.inl null))
    · rintro error after ⟨added, -⟩
      exact added.extended (.inl (sound_called True.intro id))

end Transfers

section Operations

variable {σ : Type} {setup : Setup σ} {size : σ → Nat}

/-- A call that cannot return a refused address. -/
theorem guarded_call {α : Type} {stage : Stage} {operation : Operation} {issued : Issued}
    {address : α → Option Int} {called : EStateM Raised σ α}
    (plain : ∀ before after found, Sound [⟨issued, before, after, found⟩]) :
    Adds Sound Guarded (call stage operation (record size issued address called)) :=
  adds_call plain (fun before after _ => .inl (plain before after none))

/-- Reading the heap pointer accesses no memory. -/
theorem guarded_heapPtrGet (stage : Stage) :
    Adds Sound Guarded (heapPtrGet (recordedSetup setup size) stage) :=
  guarded_call (fun _ _ _ => sound_called True.intro id)

/-- Setting the heap pointer accesses no memory. -/
theorem guarded_resetHeap (stage : Stage) :
    Adds Sound Guarded (resetHeapToCheckpoint (recordedSetup setup size) stage) := by
  apply adds_bind guarded_law (adds_of_leavesGuest guarded_law (fun _ => ends_field rfl))
  intro heapPtr
  exact guarded_call (fun _ _ _ => sound_called True.intro id)

/-- Setting the deadline accesses no memory. -/
theorem guarded_armDeadline : Adds Sound Guarded (armDeadline (recordedSetup setup size)) := by
  unfold armDeadline
  split
  · exact adds_of_leavesGuest guarded_law (fun _ => ends_pure rfl)
  · exact guarded_call (fun _ _ _ => sound_called True.intro id)

/-- Neither does setting it far off. -/
theorem guarded_disarmDeadline :
    Adds Sound Guarded (disarmDeadline (recordedSetup setup size)) := by
  unfold disarmDeadline
  split
  · exact adds_of_leavesGuest guarded_law (fun _ => ends_pure rfl)
  · exact guarded_call (fun _ _ _ => sound_called True.intro id)

/-- `Evaluator.evaluate` is guarded from the guest's entry on.

Proof: each part is guarded, and guarded programs compose. The address that `opa_eval` returns
is not checked itself, but the scan of its text tests it before it reads. -/
theorem guarded_runGuest (memory : LinearMemory setup.guest size) (inputBytes : List UInt8)
    (entrypointId : Int) :
    Adds Sound Guarded (runGuest (recordedSetup setup size) inputBytes entrypointId) := by
  have buffers : BufferLaw (recorded setup.guest size) setup.json setup.limits .evaluation
      (fun _ => Adds Sound Guarded) := guarded_buffers memory setup.json
  have entered : Adds Sound Guarded (enterGuest (recordedSetup setup size) inputBytes) := by
    apply adds_bind guarded_law guarded_armDeadline
    intro _
    apply adds_bind guarded_law (guarded_resetHeap _)
    intro _
    apply adds_bind guarded_law (buffers.writeBytes inputBytes)
    intro inputAddr
    apply adds_bind guarded_law (guarded_heapPtrGet _)
    intro heapPtr
    exact adds_of_leavesGuest guarded_law (fun _ => ends_pure rfl)
  apply adds_bind guarded_law
  · exact adds_of_leavesGuest guarded_law (fun _ => ends_modify rfl)
  intro _
  apply adds_bind guarded_law entered
  intro addrs
  apply adds_bind guarded_law (adds_of_leavesGuest guarded_law (fun _ => ends_field rfl))
  intro dataAddr world
  have ends : Ends (setup.guest.opaEval entrypointId dataAddr addrs.1 inputBytes.length addrs.2)
    world.guest.guest (fun _ _ => True) (fun _ _ => True) := ends_true
  apply ends_bind
  apply (ends_recorded ends).mono
  · rintro resultAddr after ⟨added, -⟩
    unfold readResult readJsonCstring
    rw [bind_assoc]
    apply ends_bind
    apply (guarded_read added (within_readCstring memory resultAddr) (fun _ _ => True.intro)
      (fun _ _ => Iff.rfl)).mono
    · intro raw last read
      apply guarded_law.prepend _ read
      apply adds_bind guarded_law (buffers.parsedText _ _ _)
      intro result
      apply adds_bind guarded_law (guarded_resetHeap _)
      intro _
      apply adds_bind guarded_law guarded_disarmDeadline
      intro _
      exact adds_of_leavesGuest guarded_law (fun _ => ends_pure rfl)
    · exact fun _ _ => id
  · rintro error after ⟨added, -⟩
    exact added.extended (.inl (sound_called True.intro id))

/-- Before the guest's entry the handler only resets the heap. -/
theorem guarded_handleFailure {α : Type} (raised : Raised) :
    Adds Sound Guarded (handleFailure (α := α) (recordedSetup setup size) false raised) := by
  have throws : ∀ error : Raised, Adds Sound Guarded (throw error : Py (Recorded σ) α) :=
    fun error => adds_of_leavesGuest guarded_law (fun _ => ends_throw rfl)
  unfold handleFailure
  split
  · exact adds_bind guarded_law (guarded_resetHeap _) (fun _ => throws _)
  · split
    · exact adds_bind guarded_law (guarded_resetHeap _) (fun _ => throws _)
    · exact throws _

/-- After the guest's entry the handler calls nothing, and lets `OpaMemoryError` pass. -/
theorem guarded_reraise {α : Type} {raised : Raised} {world after : World (Recorded σ)}
    (added : Extended (Guarded raised) world after) :
    Ends (handleFailure (α := α) (recordedSetup setup size) true raised) after
      (fun _ last => Extended Sound world last)
      (fun error last => Extended (Guarded error) world last) := by
  unfold handleFailure
  apply ends_ite
  · intro passes
    exact ends_bind (ends_pure (ends_throw added))
  intro converts
  have sound : ∀ error, Extended (Guarded error) world after := by
    intro error
    apply added.mono
    rintro calls (sound | ⟨kind, -⟩)
    · exact .inl sound
    · rw [kind] at converts
      exact absurd rfl converts
  apply ends_ite
  · exact fun _ => ends_bind (ends_pure (ends_throw (sound _)))
  · exact fun _ => ends_throw (sound _)

/-- `Evaluator.evaluate` is guarded. -/
theorem guarded_evaluateOnce (memory : LinearMemory setup.guest size) (input : Document)
    (entrypointId : Int) :
    Adds Sound Guarded (evaluateOnce (recordedSetup setup size) input entrypointId) := by
  apply adds_bind guarded_law
  · intro world
    have encodes := (leavesGuest_law setup.json .input).encodeInput input setup.limits.maxInputBytes
      setup.limits.parseRawJsonInput world
    apply ends_tryCatch
    apply encodes.mono
    · intro _ after same
      exact ⟨[], by rw [same, List.nil_append], guarded_law.idle⟩
    · intro error after same
      have kept : Extended Sound world after := ⟨[], by rw [same, List.nil_append], guarded_law.idle⟩
      exact guarded_law.prepend (guarded_handleFailure error) kept
  · intro inputBytes world
    apply ends_tryCatch
    apply (guarded_runGuest memory inputBytes entrypointId world).mono
    · exact fun _ _ => id
    · intro error after added
      exact guarded_reraise added

/-- A result that is dropped makes no difference. -/
theorem guarded_dropped {α : Type} {program : Py (Recorded σ) α}
    (guarded : Adds Sound Guarded program) : Adds Sound Guarded (dropped program) :=
  adds_bind guarded_law guarded
    (fun _ => adds_of_leavesGuest guarded_law (fun _ => ends_pure rfl))

/-- Every operation is guarded. -/
theorem guarded_operation (memory : LinearMemory setup.guest size) (stage : Stage)
    (operation : HostOperation) :
    Adds Sound Guarded (operation.run (recordedSetup setup size) stage) := by
  have buffers : BufferLaw (recorded setup.guest size) setup.json setup.limits stage
      (fun _ => Adds Sound Guarded) := guarded_buffers memory setup.json
  cases operation with
  | writeBytes data => exact guarded_dropped (buffers.writeBytes data)
  | readBytes addr length => exact guarded_dropped (within_readBytes memory addr length).adds
  | readCstring addr => exact guarded_dropped (buffers.readCstring addr)
  | writeJson document limit kind validate =>
    exact guarded_dropped (buffers.writeJsonValidating document limit kind validate)
  | readJsonCstring addr limit kind =>
    exact guarded_dropped (buffers.readJsonCstring addr limit kind)
  | pythonToOpaValue document limit kind validate =>
    exact guarded_dropped (buffers.pythonToOpaValueValidating document limit kind validate)
  | pythonObjectToOpaValue value limit kind =>
    exact guarded_dropped (buffers.pythonObjectToOpaValue value limit kind)
  | opaValueToPython valueAddr limit kind =>
    exact guarded_dropped (buffers.opaValueToPythonWithin valueAddr limit kind)
  | decodeEntrypoints =>
    apply guarded_dropped
    apply adds_bind guarded_law
    · exact guarded_call (fun _ _ _ => sound_called True.intro id)
    · exact fun _ => buffers.decodeStrIntMap _ _
  | decodeBuiltins =>
    apply guarded_dropped
    apply adds_bind guarded_law
    · exact guarded_call (fun _ _ _ => sound_called True.intro id)
    · exact fun _ => buffers.decodeStrIntMap _ _
  | evaluate input entrypointId =>
    exact guarded_dropped (guarded_evaluateOnce memory input entrypointId)

/-- An operation that was itself given a place outside memory is refused before memory is
touched. -/
theorem refused_operation (memory : LinearMemory setup.guest size) (stage : Stage)
    (operation : HostOperation) (world : World (Recorded σ))
    (refused : operation.Refused (size world.guest.guest)) :
    Ends (operation.run (recordedSetup setup size) stage) world (fun _ _ => False)
      (fun error after => error.kind = .opa .memory ∧ Extended LengthsOnly world after) := by
  have outside : ∀ {α : Type} {program : Py (Recorded σ) α} {places : Nat → Prop},
      EndsWithin program places size → places (size world.guest.guest) →
      Ends program world (fun _ _ => False)
        (fun error after => error.kind = .opa .memory ∧ Extended LengthsOnly world after) := by
    intro α program places reads refused
    apply (reads world).mono
    · exact fun _ _ fits => fits.1 refused
    · rintro error after (⟨-, kind, -, asked⟩ | ⟨fits, -⟩)
      · exact ⟨kind, asked⟩
      · exact absurd refused fits
  cases operation with
  | readBytes addr length =>
    apply ends_bind
    apply (outside (within_readBytes memory addr length) refused).mono
    · exact fun _ _ => False.elim
    · exact fun _ _ => id
  | readCstring addr =>
    apply ends_bind
    apply (outside (within_readCstring memory addr) refused).mono
    · exact fun _ _ => False.elim
    · exact fun _ _ => id
  | readJsonCstring addr limit kind =>
    apply ends_bind
    apply ends_bind
    apply (outside (within_readCstring memory addr) refused).mono
    · exact fun _ _ => False.elim
    · exact fun _ _ => id
  | _ => exact refused.elim

/-- Calls of which none is an access outside memory. -/
def WithinMemory (calls : List Entry) : Prop := ∀ entry ∈ calls, entry.InBounds

/-- Sound calls stay inside memory. -/
theorem Sound.within {calls : List Entry} (sound : Sound calls) : WithinMemory calls :=
  fun entry member => (sound entry member).1

/-- A call that returned a refused address was no access. -/
theorem Guarded.within {error : Raised} {calls : List Entry} (guarded : Guarded error calls) :
    WithinMemory calls := by
  rcases guarded with sound | ⟨-, checks, entry, earlier, rfl, sound, refused, lengths⟩
  · exact sound.within
  · intro other member
    rcases List.mem_append.mp member with check | rest
    · exact (LengthsOnly.sound lengths).within other check
    · rcases List.mem_cons.mp rest with rfl | old
      · revert refused
        unfold Entry.Refused Entry.InBounds
        cases other.issued <;> simp
      · exact sound.within other old

/-- Several operations stay within memory. -/
theorem within_runAll (memory : LinearMemory setup.guest size) (stage : Stage)
    (operations : List HostOperation) (world : World (Recorded σ)) :
    Ends (runAll (recordedSetup setup size) stage operations) world
      (fun _ after => Extended WithinMemory world after) (fun _ _ => False) := by
  have idle : ∀ world : World (Recorded σ), Extended WithinMemory world world :=
    fun _ => ⟨[], rfl, fun _ inside => absurd inside List.not_mem_nil⟩
  have together : ∀ old new, WithinMemory old → WithinMemory new → WithinMemory (new ++ old) := by
    intro old new first second entry member
    rcases List.mem_append.mp member with later | earlier
    · exact second entry later
    · exact first entry earlier
  induction operations generalizing world with
  | nil => exact ends_pure (idle world)
  | cons operation rest inductionHypothesis =>
    have continued : ∀ after, Extended WithinMemory world after →
        Ends (runAll (recordedSetup setup size) stage rest) after
          (fun _ last => Extended WithinMemory world last) (fun _ _ => False) := by
      intro after earlier
      apply (inductionHypothesis after).mono
      · exact fun _ last later => earlier.trans later together
      · exact fun _ _ => id
    apply ends_bind
    apply ends_tryCatch
    apply (guarded_operation memory stage operation world).mono
    · exact fun _ after added => continued after (added.mono (fun _ => Sound.within))
    · exact fun error after added =>
        ends_pure (continued after (added.mono (fun _ => Guarded.within)))

/-- Whatever operations are carried out on an instance, and whatever addresses the guest
returns: every access lies within memory when it is issued. An operation adds calls none of
whose addresses is refused, or ends with `OpaMemoryError` at the one that is. An operation that
is itself given a place outside memory ends with `OpaMemoryError` before memory is touched. -/
theorem accesses_in_bounds (memory : LinearMemory setup.guest size) (stage : Stage) :
    (∀ operations world, Ends (runAll (recordedSetup setup size) stage operations) world
      (fun _ after => Extended WithinMemory world after) (fun _ _ => False)) ∧
    (∀ operation world,
      Ends (HostOperation.run (recordedSetup setup size) stage operation) world
        (fun _ after => Extended Sound world after)
        (fun error after => Extended (Guarded error) world after)) ∧
    (∀ operation world, HostOperation.Refused (size world.guest.guest) operation →
      Ends (HostOperation.run (recordedSetup setup size) stage operation) world
        (fun _ _ => False)
        (fun error after => error.kind = .opa .memory ∧ Extended LengthsOnly world after)) :=
  ⟨within_runAll memory stage, guarded_operation memory stage, refused_operation memory stage⟩

end Operations

/-- The length of a small memory that has grown some times. -/
def smallSize (grown : Nat) : Nat := 8 * (grown + 1)

/-- A guest whose allocator, `opa_eval` and metadata exports return fixed addresses. Its memory
grows with each allocation, and what is read there begins with the text `[]`. -/
def fixedGuest (buffer decision metadata : Int) : Guest Nat where
  opaMalloc _ := do
    modify (· + 1)
    pure buffer
  opaJsonParse _ _ := pure buffer
  opaJsonDump _ := pure buffer
  opaHeapPtrGet := pure 0
  opaHeapPtrSet _ := pure ⟨⟩
  entrypoints := pure metadata
  builtins := pure metadata
  opaEval _ _ _ _ _ := pure decision
  memoryLen := smallSize <$> get
  memoryRead start stop := pure ([91, 93, 0].take (stop - start).toNat)
  memoryWrite _ _ := pure ⟨⟩
  setEpochDeadline _ := pure ⟨⟩
  startTicker := pure ⟨⟩

/-- A setup around it, with a `json` module that reads the text of its memory. -/
def fixedSetup (buffer decision metadata : Int) : Setup Nat where
  native := ⟨.ok 0, fun _ _ => pure ⟨⟩, fun _ => pure ⟨⟩, pure ⟨⟩⟩
  guest := fixedGuest buffer decision metadata
  maxMemoryPages := none
  json := ⟨fun _ => .ok (.list []), fun _ => .ok [91, 93], fun _ => .ok ""⟩
  limits := ⟨100, 100, 100, 100, true⟩
  exports := ⟨[], [], []⟩
  timeoutTicks := none

/-- An instance of it whose calls are recorded. -/
def fixedInstance : World (Recorded Nat) := WasmtimeRuntime.created ⟨0, []⟩

/-- Its memory is linear. -/
theorem fixedGuest_linear (buffer decision metadata : Int) :
    LinearMemory (fixedGuest buffer decision metadata) smallSize where
  memoryLen _ := rfl
  memoryRead _ _ state := Nat.le_refl (smallSize state)

/-- An allocator that returns a negative address is refused in each operation, and a text that
is terminated is read. -/
theorem fixedGuest_in_bounds :
    Ends (runAll (recordedSetup (fixedSetup (-1) 0 0) smallSize) .evaluation
        [.writeBytes [1, 2], .readCstring 0, .evaluate (.value (.list [])) 0])
      fixedInstance (fun _ after => Extended WithinMemory fixedInstance after) (fun _ _ => False) :=
  (@accesses_in_bounds _ (fixedSetup (-1) 0 0) _ (fixedGuest_linear (-1) 0 0) .evaluation).1 _ _

end OpaPyWasm.GuestTrace
