import OpaPyWasm.PooledInstances

/-!
# The calls of a run

A guest whose calls are recorded: what the host issued, how long linear memory was
before and after, and the address that came back. A record changes nothing that the
guest does. The operations of the host on one instance are those of its codec and the
evaluation; each of them adds its own calls to the record.
-/

namespace OpaPyWasm.GuestTrace

open Exceptions Values Effects GuestCalls MemoryCodec WasmtimeRuntime PolicyInstance

/-- A call that the host issues. -/
inductive Issued where
  | opaMalloc (size : Int)
  | opaJsonParse (addr length : Int)
  | opaJsonDump (addr : Int)
  | opaHeapPtrGet
  | opaHeapPtrSet (addr : Int)
  | entrypoints
  | builtins
  | opaEval (entrypointId dataAddr inputAddr length heapPtr : Int)
  | memoryLen
  | memoryRead (start stop : Int)
  | memoryWrite (addr : Int) (data : List UInt8)
  | setEpochDeadline (ticks : Nat)
  | startTicker
deriving DecidableEq

/-- A call with the length of memory before and after it, and the address that an export
returned. -/
structure Entry where
  issued : Issued
  before : Nat
  after : Nat
  address : Option Int
deriving DecidableEq

/-- A guest with the record of its calls, the latest first. -/
structure Recorded (σ : Type) where
  guest : σ
  trace : List Entry
deriving DecidableEq

variable {σ α : Type}

/-- Record a call. -/
def record (size : σ → Nat) (issued : Issued) (address : α → Option Int)
    (called : EStateM Raised σ α) : EStateM Raised (Recorded σ) α := fun state =>
  match called state.guest with
  | .ok value guest =>
    .ok value ⟨guest, ⟨issued, size state.guest, size guest, address value⟩ :: state.trace⟩
  | .error raised guest =>
    .error raised ⟨guest, ⟨issued, size state.guest, size guest, none⟩ :: state.trace⟩

/-- The guest with a record of its calls. -/
def recorded (guest : Guest σ) (size : σ → Nat) : Guest (Recorded σ) where
  opaMalloc length := record size (.opaMalloc length) some (guest.opaMalloc length)
  opaJsonParse addr length :=
    record size (.opaJsonParse addr length) some (guest.opaJsonParse addr length)
  opaJsonDump addr := record size (.opaJsonDump addr) some (guest.opaJsonDump addr)
  opaHeapPtrGet := record size .opaHeapPtrGet some guest.opaHeapPtrGet
  opaHeapPtrSet addr :=
    record size (.opaHeapPtrSet addr) (fun _ => none) (guest.opaHeapPtrSet addr)
  entrypoints := record size .entrypoints some guest.entrypoints
  builtins := record size .builtins some guest.builtins
  opaEval entrypointId dataAddr inputAddr length heapPtr :=
    record size (.opaEval entrypointId dataAddr inputAddr length heapPtr) some
      (guest.opaEval entrypointId dataAddr inputAddr length heapPtr)
  memoryLen := record size .memoryLen (fun _ => none) guest.memoryLen
  memoryRead start stop :=
    record size (.memoryRead start stop) (fun _ => none) (guest.memoryRead start stop)
  memoryWrite addr data :=
    record size (.memoryWrite addr data) (fun _ => none) (guest.memoryWrite addr data)
  setEpochDeadline ticks :=
    record size (.setEpochDeadline ticks) (fun _ => none) (guest.setEpochDeadline ticks)
  startTicker := record size .startTicker (fun _ => none) guest.startTicker

/-- A native call, which is not recorded. -/
def unrecorded (called : EStateM Raised σ α) : EStateM Raised (Recorded σ) α := fun state =>
  match called state.guest with
  | .ok value guest => .ok value { state with guest := guest }
  | .error raised guest => .error raised { state with guest := guest }

/-- The setup of an instance whose guest's calls are recorded. -/
def recordedSetup (setup : Setup σ) (size : σ → Nat) : Setup (Recorded σ) where
  native :=
    { newStore := setup.native.newStore.map (fun guest => ⟨guest, []⟩)
      newMemory := fun pages maximum => unrecorded (setup.native.newMemory pages maximum)
      setLimits := fun bytes => unrecorded (setup.native.setLimits bytes)
      instantiate := unrecorded setup.native.instantiate }
  guest := recorded setup.guest size
  maxMemoryPages := setup.maxMemoryPages
  json := setup.json
  limits := setup.limits
  exports := setup.exports
  timeoutTicks := setup.timeoutTicks

/-- What the host asks of one instance: an operation of its codec, or an evaluation. -/
inductive HostOperation where
  | writeBytes (data : List UInt8)
  | readBytes (addr length : Int)
  | readCstring (addr : Int)
  | writeJson (document : Document) (limit : Nat) (kind : String) (validate : Bool)
  | readJsonCstring (addr : Int) (limit : Nat) (kind : String)
  | pythonToOpaValue (document : Document) (limit : Nat) (kind : String) (validate : Bool)
  | pythonObjectToOpaValue (value : Value) (limit : Nat) (kind : String)
  | opaValueToPython (valueAddr : Int) (limit : Option Nat) (kind : String)
  | decodeEntrypoints
  | decodeBuiltins
  | evaluate (input : Document) (entrypointId : Int)

/-- Drop the result of a program. -/
def dropped (program : Py σ α) : Py σ PUnit := do
  let _ ← program
  pure ⟨⟩

/-- Carry out an operation. -/
def HostOperation.run (setup : Setup σ) (stage : Stage) : HostOperation → Py σ PUnit
  | .writeBytes data => dropped (MemoryCodec.writeBytes setup.guest stage data)
  | .readBytes addr length => dropped (MemoryCodec.readBytes setup.guest stage addr length)
  | .readCstring addr => dropped (MemoryCodec.readCstring setup.guest setup.limits stage addr)
  | .writeJson document limit kind validate =>
    dropped (writeJsonValidating setup.guest setup.json stage document limit kind validate)
  | .readJsonCstring addr limit kind =>
    dropped (MemoryCodec.readJsonCstring setup.guest setup.json setup.limits stage addr limit kind)
  | .pythonToOpaValue document limit kind validate =>
    dropped (pythonToOpaValueValidating setup.guest setup.json stage document limit kind validate)
  | .pythonObjectToOpaValue value limit kind =>
    dropped (MemoryCodec.pythonObjectToOpaValue setup.guest setup.json stage value limit kind)
  | .opaValueToPython valueAddr limit kind =>
    dropped (opaValueToPythonWithin setup.guest setup.json setup.limits stage valueAddr limit kind)
  | .decodeEntrypoints =>
    dropped (MemoryCodec.decodeEntrypoints setup.guest setup.json setup.limits stage)
  | .decodeBuiltins =>
    dropped (MemoryCodec.decodeBuiltins setup.guest setup.json setup.limits stage)
  | .evaluate input entrypointId => dropped (evaluateOnce setup input entrypointId)

/-- Several operations, each whatever the one before it raised. -/
def runAll (setup : Setup σ) (stage : Stage) : List HostOperation → Py σ PUnit
  | [] => pure ⟨⟩
  | operation :: rest => do
    tryCatch (operation.run setup stage) (fun _ => pure ⟨⟩)
    runAll setup stage rest

section Laws

variable {size : σ → Nat}

/-- One call was recorded between two states. -/
def Called (size : σ → Nat) (issued : Issued) (address : Option Int)
    (world after : World (Recorded σ)) : Prop :=
  after.guest.trace =
    ⟨issued, size world.guest.guest, size after.guest.guest, address⟩ :: world.guest.trace

/-- A recorded call does what the guest does, and is recorded. -/
theorem ends_recorded {stage : Stage} {operation : Operation} {issued : Issued}
    {address : α → Option Int} {called : EStateM Raised σ α} {world : World (Recorded σ)}
    {returned : α → σ → Prop} {raised : Raised → σ → Prop}
    (ends : Ends called world.guest.guest returned raised) :
    Ends (call stage operation (record size issued address called)) world
      (fun value after => Called size issued (address value) world after ∧
        returned value after.guest.guest)
      (fun error after => Called size issued none world after ∧
        raised error after.guest.guest) := by
  apply ends_call
  unfold Ends record
  unfold Ends at ends
  cases ended : called world.guest.guest <;> rw [ended] at ends <;> exact ⟨rfl, ends⟩

/-- The record went on with calls of which something holds. -/
def Extended (holds : List Entry → Prop) (world after : World (Recorded σ)) : Prop :=
  ∃ calls, after.guest.trace = calls ++ world.guest.trace ∧ holds calls

/-- One call extends the record. -/
theorem Called.extended {issued : Issued} {address : Option Int} {world after : World (Recorded σ)}
    {holds : List Entry → Prop} (called : Called size issued address world after)
    (one : holds [⟨issued, size world.guest.guest, size after.guest.guest, address⟩]) :
    Extended holds world after := ⟨[_], called, one⟩

/-- What was added is this one call. -/
theorem Called.only {issued : Issued} {address : Option Int} {world after : World (Recorded σ)}
    (called : Called size issued address world after) :
    Extended (· = [⟨issued, size world.guest.guest, size after.guest.guest, address⟩]) world after :=
  called.extended rfl

/-- Records that were extended twice. -/
theorem Extended.trans {first second both : List Entry → Prop} {world middle after : World (Recorded σ)}
    (earlier : Extended first world middle) (later : Extended second middle after)
    (together : ∀ old new, first old → second new → both (new ++ old)) :
    Extended both world after := by
  obtain ⟨old, added, holds⟩ := earlier
  obtain ⟨new, addedLater, holdsLater⟩ := later
  exact ⟨new ++ old, by rw [addedLater, added, List.append_assoc], together old new holds holdsLater⟩

/-- What holds of the added calls may be weakened. -/
theorem Extended.mono {first second : List Entry → Prop} {world after : World (Recorded σ)}
    (extended : Extended first world after) (weaker : ∀ calls, first calls → second calls) :
    Extended second world after := by
  obtain ⟨calls, added, holds⟩ := extended
  exact ⟨calls, added, weaker calls holds⟩

/-- What a program adds to the record, as it returns and as it raises. -/
def Adds (returned : List Entry → Prop) (raised : Raised → List Entry → Prop)
    (program : Py (Recorded σ) α) : Prop :=
  ∀ world, Ends program world (fun _ after => Extended returned world after)
    (fun error after => Extended (raised error) world after)

/-- Conditions on records that programs compose with. -/
structure TraceLaw (returned : List Entry → Prop) (raised : Raised → List Entry → Prop) : Prop where
  idle : returned []
  silent : ∀ error, raised error []
  returns : ∀ {earlier later}, returned earlier → returned later → returned (later ++ earlier)
  raises : ∀ {error earlier later}, returned earlier → raised error later →
    raised error (later ++ earlier)

variable {returned : List Entry → Prop} {raised : Raised → List Entry → Prop}

/-- What was added before is kept. -/
theorem TraceLaw.prepend (law : TraceLaw returned raised) {program : Py (Recorded σ) α}
    (adds : Adds returned raised program) {world middle : World (Recorded σ)}
    (earlier : Extended returned world middle) :
    Ends program middle (fun _ after => Extended returned world after)
      (fun error after => Extended (raised error) world after) := by
  apply (adds middle).mono
  · intro _ after later
    exact earlier.trans later (fun _ _ => law.returns)
  · intro error after later
    exact earlier.trans later (fun _ _ => law.raises)

/-- One program after another adds the calls of both, the later ones in front. -/
theorem adds_bind {β : Type} (law : TraceLaw returned raised) {program : Py (Recorded σ) α}
    {next : α → Py (Recorded σ) β} (first : Adds returned raised program)
    (second : ∀ value, Adds returned raised (next value)) :
    Adds returned raised (program >>= next) := by
  intro world
  apply ends_bind
  apply (first world).mono
  · intro value middle earlier
    exact law.prepend (second value) earlier
  · exact fun _ _ => id

/-- A program that leaves the guest adds nothing. -/
theorem adds_of_leavesGuest (law : TraceLaw returned raised) {program : Py (Recorded σ) α}
    (leaves : LeavesGuest program) : Adds returned raised program := by
  intro world
  apply (leaves world).mono
  · intro _ after same
    exact ⟨[], by rw [same, List.nil_append], law.idle⟩
  · intro error after same
    exact ⟨[], by rw [same, List.nil_append], law.silent error⟩

/-- The steps of the codec outside the guest add nothing. -/
theorem adds_textLaw (law : TraceLaw returned raised) (json : Json) (stage : Stage) :
    TextLaw (σ := Recorded σ) json stage (fun _ program => Adds returned raised program) where
  returns value := adds_of_leavesGuest law ((leavesGuest_law json stage).returns value)
  raises error text own :=
    adds_of_leavesGuest law ((leavesGuest_law json stage).raises error text own)
  sequence := adds_bind law
  encode text := adds_of_leavesGuest law ((leavesGuest_law json stage).encode text)
  repr value := adds_of_leavesGuest law ((leavesGuest_law json stage).repr value)
  loads raw error text own :=
    adds_of_leavesGuest law ((leavesGuest_law json stage).loads raw error text own)
  dumps value error text own :=
    adds_of_leavesGuest law ((leavesGuest_law json stage).dumps value error text own)

/-- A single call adds its record. -/
theorem adds_call {stage : Stage} {operation : Operation} {issued : Issued}
    {address : α → Option Int} {called : EStateM Raised σ α}
    (holds : ∀ before after found, returned [⟨issued, before, after, found⟩])
    (fails : ∀ before after error, raised error [⟨issued, before, after, none⟩]) :
    Adds returned raised (call stage operation (record size issued address called)) := by
  intro world
  have ends : Ends called world.guest.guest (fun _ _ => True) (fun _ _ => True) := ends_true
  apply (ends_recorded ends).mono
  · rintro value after ⟨added, -⟩
    exact Called.extended added (holds _ _ _)
  · rintro error after ⟨added, -⟩
    exact Called.extended added (fails _ _ error)

end Laws

end OpaPyWasm.GuestTrace
