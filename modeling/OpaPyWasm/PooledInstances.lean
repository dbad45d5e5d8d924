import OpaPyWasm.Library.Machines
import OpaPyWasm.PolicyInstance
import OpaPyWasm.FaultReports

/-!
# Only clean instances are pooled

An instance is clean when it is unpoisoned, its heap pointer is at the checkpoint
behind its data, and its store carries the far-future deadline. A loan refreshes
the instance and evaluates on it, with any exception from any call. The instance
goes back to the idle queue exactly when it is unpoisoned then.

The handlers that poison an instance catch `Exception` only, and a failing heap
reset after a rejected input poisons nothing. A loan in which neither comes up
leaves a clean instance or a poisoned one.
-/

namespace OpaPyWasm.PolicyInstance

open Exceptions Values Effects GuestCalls MemoryCodec WasmtimeRuntime Machines

/-- What can be read off a guest: its heap pointer, and the ticks its store's
deadline was last set to. -/
structure Gauges (σ : Type) where
  heapPtr : σ → Int
  deadline : σ → Nat

/-- A call that returned left a gauge where it was. -/
def Keeps {σ α β : Type} (gauge : σ → β) (called : EStateM Raised σ α) : Prop :=
  ∀ before, Ends called before (fun _ after => gauge after = gauge before) (fun _ _ => True)

/-- What the calls that returned did to the gauges. A call that raised may have
done anything. -/
structure Gauged {σ : Type} (native : Native σ) (guest : Guest σ) (gauges : Gauges σ) : Prop where
  heapPtrSet : ∀ addr before, Ends (guest.opaHeapPtrSet addr) before
    (fun _ after => gauges.heapPtr after = addr ∧ gauges.deadline after = gauges.deadline before)
    (fun _ _ => True)
  heapPtrGet : ∀ before, Ends guest.opaHeapPtrGet before
    (fun value after =>
      gauges.heapPtr after = value ∧ gauges.deadline after = gauges.deadline before)
    (fun _ _ => True)
  setEpochDeadline : ∀ ticks before, Ends (guest.setEpochDeadline ticks) before
    (fun _ after => gauges.deadline after = ticks ∧ gauges.heapPtr after = gauges.heapPtr before)
    (fun _ _ => True)
  newMemory : ∀ pages limit, Keeps gauges.deadline (native.newMemory pages limit)
  setLimits : ∀ size, Keeps gauges.deadline (native.setLimits size)
  instantiate : Keeps gauges.deadline native.instantiate
  opaMalloc : ∀ size, Keeps gauges.deadline (guest.opaMalloc size)
  opaJsonParse : ∀ addr length, Keeps gauges.deadline (guest.opaJsonParse addr length)
  opaJsonDump : ∀ addr, Keeps gauges.deadline (guest.opaJsonDump addr)
  entrypoints : Keeps gauges.deadline guest.entrypoints
  builtins : Keeps gauges.deadline guest.builtins
  opaEval : ∀ entrypoint data input length heapPtr,
    Keeps gauges.deadline (guest.opaEval entrypoint data input length heapPtr)
  memoryLen : Keeps gauges.deadline guest.memoryLen
  memoryRead : ∀ start stop, Keeps gauges.deadline (guest.memoryRead start stop)
  memoryWrite : ∀ addr data, Keeps gauges.deadline (guest.memoryWrite addr data)
  startTicker : Keeps gauges.deadline guest.startTicker ∧ Keeps gauges.heapPtr guest.startTicker

/-- Fit to be handed to the next borrower. -/
structure Clean {σ : Type} (gauges : Gauges σ) (world : World σ) : Prop where
  unpoisoned : world.poisoned = false
  checkpointed : gauges.heapPtr world.guest = world.dataHeapPtr
  disarmed : gauges.deadline world.guest = noDeadlineTicks

/-- The stages whose failures poison an instance: its reload, and an evaluation
that entered the guest. -/
def isWatched : Stage → Bool
  | .dataReset => true
  | .dataLoad => true
  | .dataRecovery => true
  | .dataCheckpoint => true
  | .evaluation => true
  | _ => false

/-- A fault that the poisoning misses: an exception outside `Exception` at a
watched stage, and any failure of the heap reset after a rejected input. -/
def Fault.isHarmful (fault : Fault) : Bool :=
  (isWatched fault.stage && !fault.raised.kind.isException) || fault.stage == .inputReset

/-- A harmful fault is in the log. -/
def Harmed (log : List Fault) : Prop := ∃ fault ∈ log, Fault.isHarmful fault = true

variable {σ α : Type} {gauges : Gauges σ}

/-- What leaves a watched stage is an `Exception`, or it is a harmful fault. -/
theorem reported_harmed {stage : Stage} {before after : List Fault} {raised : Raised}
    (watched : isWatched stage = true) (reported : Reported stage before raised after)
    (base : raised.kind.isException = false) : Harmed after := by
  have untyped : ¬raised.kind.isOpa = true := by
    intro typed
    rw [isException_of_isOpa typed] at base
    cases base
  rcases reported with ⟨-, typed⟩ | ⟨fault, logged, atStage, passed⟩
  · exact absurd typed untyped
  · rcases passed with ⟨same, -⟩ | ⟨typed, -⟩
    · refine ⟨fault, logged ▸ List.mem_cons_self, ?_⟩
      simp [Fault.isHarmful, atStage, watched, same, base]
    · exact absurd typed untyped

/-- A program that keeps the deadline where it returns. -/
def Steady (gauges : Gauges σ) (program : Py σ α) : Prop :=
  ∀ world, Ends program world
    (fun _ after => gauges.deadline after.guest = gauges.deadline world.guest) (fun _ _ => True)

/-- A call that keeps the deadline of the guest. -/
theorem steady_call {stage : Stage} {operation : Operation} {called : EStateM Raised σ α}
    (keeps : Keeps gauges.deadline called) : Steady gauges (call stage operation called) :=
  fun world => ends_call (keeps world.guest)

/-- A call of the interpreter does not reach the guest. -/
theorem steady_callPython {stage : Stage} {operation : Operation} (outcome : Except Raised α) :
    Steady gauges (callPython stage operation outcome) :=
  fun _ => ends_callPython (fun _ _ => rfl) (fun _ _ => trivial)

/-- A handler that converts does not return. -/
theorem steady_converted {stage : Stage} {operation : Operation} {caught : Kind → Bool}
    (outcome : Except Raised α) (error : OpaError) (text : Raised → String) :
    Steady gauges (exceptFor caught (callPython stage operation outcome)
      (fun raised => throw (opaErrorFrom error (text raised) raised))) :=
  fun _ => ends_exceptFor (ends_callPython (fun _ _ => rfl)
    (fun _ _ => ⟨fun _ => ends_throw trivial, fun _ => trivial⟩))

/-- One program after another. -/
theorem steady_bind {β : Type} {program : Py σ α} {next : α → Py σ β}
    (first : Steady gauges program) (second : ∀ value, Steady gauges (next value)) :
    Steady gauges (program >>= next) := by
  intro world
  apply ends_bind
  apply (first world).mono
  · intro value middle same
    apply (second value middle).mono
    · exact fun _ _ sameLater => sameLater.trans same
    · exact fun _ _ => id
  · exact fun _ _ => id

/-- The codec keeps the deadline. -/
theorem steady_law {native : Native σ} {guest : Guest σ} (gauged : Gauged native guest gauges)
    (json : Json) (stage : Stage) : Law guest json stage (fun _ program => Steady gauges program) where
  returns _ := fun _ => ends_pure rfl
  raises _ _ _ := fun _ => ends_throw trivial
  sequence := steady_bind
  opaMalloc size := steady_call (gauged.opaMalloc size)
  opaJsonParse addr length := steady_call (gauged.opaJsonParse addr length)
  opaJsonDump addr := steady_call (gauged.opaJsonDump addr)
  entrypoints := steady_call gauged.entrypoints
  builtins := steady_call gauged.builtins
  memoryLen := steady_call gauged.memoryLen
  memoryRead start stop := steady_call (gauged.memoryRead start stop)
  memoryWrite addr data := steady_call (gauged.memoryWrite addr data)
  encode _ := steady_callPython _
  repr _ := steady_callPython _
  loads _ error text _ := steady_converted _ error text
  dumps _ error text _ := steady_converted _ error text

/-- A program that leaves the guest alone. -/
def LeavesGuest (program : Py σ α) : Prop :=
  ∀ world, Ends program world (fun _ after => after.guest = world.guest)
    (fun _ after => after.guest = world.guest)

/-- The encoding of the input leaves the guest alone. -/
theorem leavesGuest_law (json : Json) (stage : Stage) :
    TextLaw (σ := σ) json stage (fun _ program => LeavesGuest program) where
  returns _ := fun _ => ends_pure rfl
  raises _ _ _ := fun _ => ends_throw rfl
  sequence := by
    intro α β program next first second world
    apply ends_bind
    apply (first world).mono
    · intro value middle same
      apply (second value middle).mono
      · exact fun _ _ sameLater => sameLater.trans same
      · exact fun _ _ sameLater => sameLater.trans same
    · exact fun _ _ => id
  encode _ := fun _ => ends_callPython (fun _ _ => rfl) (fun _ _ => rfl)
  repr _ := fun _ => ends_callPython (fun _ _ => rfl) (fun _ _ => rfl)
  loads _ _ _ _ := fun _ => ends_exceptFor (ends_callPython (fun _ _ => rfl)
    (fun _ _ => ⟨fun _ => ends_throw rfl, fun _ => rfl⟩))
  dumps _ _ _ _ := fun _ => ends_exceptFor (ends_callPython (fun _ _ => rfl)
    (fun _ _ => ⟨fun _ => ends_throw rfl, fun _ => rfl⟩))

/-- Between the entry of the guest and the end of an evaluation, with a deadline. -/
structure Inside (gauges : Gauges σ) (start : World σ) (ticks : Nat) (world : World σ) : Prop where
  framed : GuestOnly start world
  entered : world.enteredWasm = true
  armed : gauges.deadline world.guest = ticks

/-- How an evaluation may fail inside the guest. -/
def Failed (raised : Raised) (after : World σ) : Prop :=
  after.enteredWasm = true ∧ (raised.kind.isException = false → Harmed after.faults)

/-- A step inside the guest stays inside, or it fails with its exception reported. -/
theorem Inside.step {program : Py σ α} {start middle : World σ} {ticks : Nat}
    (inside : Inside gauges start ticks middle) (reports : Reports .evaluation program)
    (steady : Steady gauges program) :
    Ends program middle (fun _ after => Inside gauges start ticks after) Failed := by
  apply ((reports middle).and (steady middle)).mono
  · rintro _ after ⟨⟨framed, -⟩, same⟩
    exact ⟨inside.framed.trans framed, framed.enteredWasm.trans inside.entered,
      same.trans inside.armed⟩
  · rintro raised after ⟨⟨framed, reported⟩, -⟩
    exact ⟨framed.enteredWasm.trans inside.entered, reported_harmed rfl reported⟩

/-- A reset that fails is in the log. -/
theorem resetHeap_logged (setup : Setup σ) (stage : Stage) (world : World σ) :
    Ends (resetHeapToCheckpoint setup stage) world (fun _ _ => True)
      (fun _ after => ∃ fault ∈ after.faults, fault.stage = stage) := by
  apply ends_bind
  apply ends_field
  apply ends_call
  unfold Ends
  split
  · trivial
  · exact ⟨_, List.mem_cons_self, rfl⟩

/-- The handler inside the guest raises an `Exception` for an `Exception`, and
touches nothing. -/
theorem handleFailure_entered (setup : Setup σ) (error : Raised) {world : World σ}
    (failed : Failed error world) :
    Ends (handleFailure (α := α) setup true error) world (fun _ _ => False) Failed := by
  apply ends_ite
  · exact fun _ => ends_throw failed
  · intro _
    apply ends_ite
    · intro _
      refine ends_throw ⟨failed.1, fun base => ?_⟩
      have typed := evaluationFailure_isOpa true error
      rw [isException_of_isOpa typed] at base
      cases base
    · exact fun _ => ends_throw failed

section Instance

variable {setup : Setup σ} (gauged : Gauged setup.native setup.guest gauges)
include gauged

/-- A heap reset moves the pointer and nothing else that matters. -/
theorem heapPtrSet_gauged (stage : Stage) (addr : Int) (world : World σ) :
    Ends (heapPtrSet setup stage addr) world
      (fun _ after => GuestOnly world after ∧ gauges.heapPtr after.guest = addr ∧
        gauges.deadline after.guest = gauges.deadline world.guest)
      (fun raised after => GuestOnly world after ∧
        Reported stage world.faults raised after.faults) := by
  have moved := gauged.heapPtrSet addr world.guest
  apply ((reports_heapPtrSet setup stage addr world).and (ends_called moved)).mono
  · rintro _ after ⟨⟨framed, -⟩, atAddr, steady⟩
    exact ⟨framed, atAddr, steady⟩
  · rintro raised after ⟨reported, -⟩
    exact reported

/-- The heap pointer is read as it is. -/
theorem heapPtrGet_gauged (stage : Stage) (world : World σ) :
    Ends (heapPtrGet setup stage) world
      (fun value after => GuestOnly world after ∧ gauges.heapPtr after.guest = value ∧
        gauges.deadline after.guest = gauges.deadline world.guest)
      (fun raised after => GuestOnly world after ∧
        Reported stage world.faults raised after.faults) := by
  have read := gauged.heapPtrGet world.guest
  apply ((reports_heapPtrGet setup stage world).and (ends_called read)).mono
  · rintro value after ⟨⟨framed, -⟩, atValue, steady⟩
    exact ⟨framed, atValue, steady⟩
  · rintro raised after ⟨reported, -⟩
    exact reported

/-- The handler of a load that failed raises again. -/
theorem recoverData_gauged (initial : Int) (error : Raised) (world : World σ) :
    Ends (recoverData setup initial error) world (fun (_ : PUnit) _ => False)
      (fun raised after => raised.kind.isException = false → Harmed after.faults) := by
  apply ends_bind
  apply (heapPtrSet_gauged gauged .dataRecovery initial world).mono
  · intro _ reset _
    apply ends_bind
    apply ends_modify
    apply ends_ite
    · intro typed
      apply ends_throw
      intro base
      rw [typed] at base
      cases base
    · exact fun _ => ends_throw (fun base => nomatch base)
  · rintro raised after ⟨-, reported⟩
    exact reported_harmed rfl reported

/-- A loaded document leaves the heap pointer at its checkpoint. A load that
raises nothing but an `Exception` says so.

Proof: the checkpoint is read from the heap pointer as the last call. An exception in between
is converted by the handler, unless it is outside `Exception`; then it stands in the log. -/
theorem loadData_gauged (data : Option Document) (world : World σ) :
    Ends (loadData setup data) world
      (fun _ after => after.poisoned = world.poisoned ∧
        gauges.heapPtr after.guest = after.dataHeapPtr ∧
        gauges.deadline after.guest = gauges.deadline world.guest)
      (fun raised after => raised.kind.isException = false → Harmed after.faults) := by
  apply ends_bind
  apply ends_field
  apply ends_bind
  apply (heapPtrSet_gauged gauged .dataReset world.initialHeapPtr world).mono
  · rintro _ reset ⟨framed, atInitial, steady⟩
    cases data with
    | none => exact ⟨framed.poisoned, atInitial, steady⟩
    | some document =>
      have buffers := (reports_law setup.guest setup.json .dataLoad).buffers setup.limits
      have reports := buffers.pythonToOpaValue document
        setup.limits.maxDataBytes "data"
      have keeps := ((steady_law gauged setup.json .dataLoad).buffers setup.limits).pythonToOpaValue document
        setup.limits.maxDataBytes "data"
      apply ends_bind
      apply ends_exceptFor
      apply ends_bind
      apply ((reports reset).and (keeps reset)).mono
      · rintro addr parsed ⟨⟨framedLater, -⟩, steadyLater⟩
        apply ends_modify
        apply ends_bind
        apply (heapPtrGet_gauged gauged .dataCheckpoint _).mono
        · rintro heapPtr checkpointed ⟨framedLast, atValue, steadyLast⟩
          apply ends_modify
          exact ⟨framedLast.poisoned.trans (framedLater.poisoned.trans framed.poisoned), atValue,
            steadyLast.trans (steadyLater.trans steady)⟩
        · rintro raised after ⟨-, reported⟩
          exact reported_harmed rfl reported
      · rintro raised after ⟨⟨-, reported⟩, -⟩
        constructor
        · intro _
          exact (recoverData_gauged gauged _ raised after).mono (fun _ _ => False.elim)
            (fun _ _ => id)
        · exact fun _ => reported_harmed rfl reported
  · rintro raised after ⟨-, reported⟩
    exact reported_harmed rfl reported

/-- A reset to the checkpoint moves the heap pointer to it. -/
theorem resetHeap_gauged (stage : Stage) (world : World σ) :
    Ends (resetHeapToCheckpoint setup stage) world
      (fun _ after => GuestOnly world after ∧
        gauges.heapPtr after.guest = after.dataHeapPtr ∧
        gauges.deadline after.guest = gauges.deadline world.guest)
      (fun raised after => GuestOnly world after ∧
        Reported stage world.faults raised after.faults) := by
  apply ends_bind
  apply ends_field
  apply (heapPtrSet_gauged gauged stage world.dataHeapPtr world).mono
  · rintro _ after ⟨framed, moved, steady⟩
    exact ⟨framed, moved.trans framed.dataHeapPtr.symm, steady⟩
  · exact fun _ _ => id

/-- A reset inside the guest stays inside, with the heap pointer at the
checkpoint. -/
theorem resetHeap_inside {start middle : World σ} {ticks : Nat}
    (inside : Inside gauges start ticks middle) :
    Ends (resetHeapToCheckpoint setup .evaluation) middle
      (fun _ after => Inside gauges start ticks after ∧
        gauges.heapPtr after.guest = after.dataHeapPtr) Failed := by
  apply (resetHeap_gauged gauged .evaluation middle).mono
  · rintro _ after ⟨framed, checkpointed, same⟩
    exact ⟨⟨inside.framed.trans framed, framed.enteredWasm.trans inside.entered,
      same.trans inside.armed⟩, checkpointed⟩
  · rintro raised after ⟨framed, reported⟩
    exact ⟨framed.enteredWasm.trans inside.entered, reported_harmed rfl reported⟩

/-- The deadline of an evaluation is its budget where a timeout is configured. -/
theorem armDeadline_gauged {world : World σ} (entered : world.enteredWasm = true)
    (disarmed : gauges.deadline world.guest = noDeadlineTicks) :
    Ends (armDeadline setup) world
      (fun _ after => Inside gauges world (setup.deadlineTicks.getD noDeadlineTicks) after)
      Failed := by
  unfold armDeadline
  cases setup.deadlineTicks with
  | none => exact ends_pure ⟨guestOnly_refl world, entered, disarmed⟩
  | some ticks =>
    have reports : Reports .evaluation
        (call .evaluation .setEpochDeadline (setup.guest.setEpochDeadline ticks)) :=
      reports_call _ (fun _ => rfl)
    apply ((reports world).and (ends_called (gauged.setEpochDeadline ticks world.guest))).mono
    · rintro _ after ⟨⟨framed, -⟩, armed, -⟩
      exact ⟨framed, framed.enteredWasm.trans entered, armed⟩
    · rintro raised after ⟨⟨framed, reported⟩, -⟩
      exact ⟨framed.enteredWasm.trans entered, reported_harmed rfl reported⟩

/-- The disarmed deadline is the far-future one, also where none was armed. -/
theorem disarmDeadline_gauged {start world : World σ}
    (inside : Inside gauges start (setup.deadlineTicks.getD noDeadlineTicks) world) :
    Ends (disarmDeadline setup) world
      (fun _ after => GuestOnly world after ∧ gauges.deadline after.guest = noDeadlineTicks ∧
        gauges.heapPtr after.guest = gauges.heapPtr world.guest)
      Failed := by
  unfold disarmDeadline
  cases budget : setup.deadlineTicks with
  | none =>
    have armed := inside.armed
    rw [budget] at armed
    exact ends_pure ⟨guestOnly_refl world, armed, rfl⟩
  | some ticks =>
    have reports : Reports .evaluation
        (call .evaluation .setEpochDeadline (setup.guest.setEpochDeadline noDeadlineTicks)) :=
      reports_call _ (fun _ => rfl)
    apply ((reports world).and
      (ends_called (gauged.setEpochDeadline noDeadlineTicks world.guest))).mono
    · rintro _ after ⟨⟨framed, -⟩, disarmed, same⟩
      exact ⟨framed, disarmed, same⟩
    · rintro raised after ⟨⟨framed, reported⟩, -⟩
      exact ⟨framed.enteredWasm.trans inside.entered, reported_harmed rfl reported⟩

/-- The part of an evaluation inside the guest ends clean, or it fails.

Proof: the deadline that is armed first is disarmed last, and the heap pointer is reset to the
checkpoint before that. No step in between returns with another deadline than it found. -/
theorem runGuest_gauged (inputBytes : List UInt8) (entrypointId : Int) {world : World σ}
    (clean : Clean gauges world) :
    Ends (runGuest setup inputBytes entrypointId) world (fun _ after => Clean gauges after)
      Failed := by
  have reports := reports_law setup.guest setup.json .evaluation
  have steady := steady_law gauged setup.json .evaluation
  have locates : Steady gauges (heapPtrGet setup .evaluation) := fun world =>
    (heapPtrGet_gauged gauged .evaluation world).mono (fun _ _ located => located.2.2)
      (fun _ _ _ => trivial)
  apply ends_bind
  apply ends_modify
  apply ends_bind
  refine (armDeadline_gauged gauged rfl ?_).seq ?_
  · exact clean.disarmed
  rintro _ armed inside
  apply (resetHeap_inside gauged inside).seq
  rintro _ reset ⟨inside, -⟩
  apply (inside.step (reports.writeBytes inputBytes) (steady.writeBytes inputBytes)).seq
  intro inputAddr written inside
  apply (inside.step (reports_heapPtrGet setup .evaluation) locates).seq
  intro heapPtr located inside
  apply ends_pure
  apply ends_bind
  apply ends_field
  apply (inside.step (reports_call _ (fun _ => rfl))
    (steady_call (gauged.opaEval _ _ _ _ _))).seq
  intro resultAddr evaluated inside
  apply (inside.step ((reports.buffers setup.limits).readJsonCstring _ _ _)
    ((steady.buffers setup.limits).readJsonCstring _ _ _)).seq
  intro result read inside
  apply (resetHeap_inside gauged inside).seq
  rintro _ restored ⟨inside, checkpointed⟩
  apply (disarmDeadline_gauged gauged inside).seq
  rintro _ after ⟨framed, disarmed, same⟩
  apply ends_pure
  have unpoisoned := framed.poisoned.trans inside.framed.poisoned
  exact ⟨unpoisoned.trans clean.unpoisoned,
    same.trans (checkpointed.trans framed.dataHeapPtr.symm), disarmed⟩

/-- How an evaluation may end without its result, before or inside the guest. -/
def Unfinished (gauges : Gauges σ) (raised : Raised) (after : World σ) : Prop :=
  Failed raised after ∨
    (after.enteredWasm = false ∧ (Clean gauges after ∨ Harmed after.faults))

/-- The handler before the guest's entry resets a heap that was at its checkpoint
already, unless the reset fails. -/
theorem handleFailure_unentered (error : Raised) {world : World σ} (clean : Clean gauges world)
    (unentered : world.enteredWasm = false) :
    Ends (handleFailure (α := α) setup false error) world (fun _ _ => False)
      (Unfinished gauges) := by
  have resets : Ends (resetHeapIfSafe setup false) world
      (fun _ after => Clean gauges after ∧ after.enteredWasm = false) (Unfinished gauges) := by
    apply ((resetHeap_gauged gauged .inputReset world).and
      (resetHeap_logged setup .inputReset world)).mono
    · rintro _ after ⟨⟨framed, checkpointed, steady⟩, -⟩
      exact ⟨⟨framed.poisoned.trans clean.unpoisoned, checkpointed, steady.trans clean.disarmed⟩,
        framed.enteredWasm.trans unentered⟩
    · rintro raised after ⟨⟨framed, -⟩, fault, logged, atStage⟩
      refine Or.inr ⟨framed.enteredWasm.trans unentered, Or.inr ⟨fault, logged, ?_⟩⟩
      simp [Fault.isHarmful, atStage]
  apply ends_ite
  · intro _
    apply resets.seq
    rintro _ after ⟨cleanAfter, unenteredAfter⟩
    exact ends_throw (Or.inr ⟨unenteredAfter, Or.inl cleanAfter⟩)
  · intro _
    apply ends_ite
    · intro _
      apply resets.seq
      rintro _ after ⟨cleanAfter, unenteredAfter⟩
      exact ends_throw (Or.inr ⟨unenteredAfter, Or.inl cleanAfter⟩)
    · exact fun _ => ends_throw (Or.inr ⟨unentered, Or.inl clean⟩)

/-- `Evaluator.evaluate` on a clean instance.

Proof: while the input is encoded nothing changes in the guest. Inside the guest the run ends
clean or fails, and the handler poisons an instance that was entered. -/
theorem evaluateOnce_gauged (input : Document) (entrypointId : Int) {world : World σ}
    (clean : Clean gauges world) (unentered : world.enteredWasm = false) :
    Ends (evaluateOnce setup input entrypointId) world (fun _ after => Clean gauges after)
      (Unfinished gauges) := by
  have encodes := (reports_law setup.guest setup.json .input).encodeInput input
    setup.limits.maxInputBytes setup.limits.parseRawJsonInput
  have leaves := (leavesGuest_law (σ := σ) setup.json .input).encodeInput input
    setup.limits.maxInputBytes setup.limits.parseRawJsonInput
  have stays : ∀ {after : World σ}, GuestOnly world after → after.guest = world.guest →
      Clean gauges after := by
    intro after framed same
    refine ⟨framed.poisoned.trans clean.unpoisoned, ?_, ?_⟩
    · rw [same, framed.dataHeapPtr]
      exact clean.checkpointed
    · rw [same]
      exact clean.disarmed
  apply ends_bind
  apply ends_tryCatch
  apply ((encodes world).and (leaves world)).mono
  · rintro inputBytes encoded ⟨⟨framed, -⟩, same⟩
    apply ends_tryCatch
    apply (runGuest_gauged gauged inputBytes entrypointId (stays framed same)).mono
    · exact fun _ _ => id
    · intro error after failed
      exact (handleFailure_entered setup error failed).mono (fun _ _ => False.elim)
        (fun _ _ => Or.inl)
  · rintro error after ⟨⟨framed, -⟩, same⟩
    exact (handleFailure_unentered gauged error (stays framed same)
      (framed.enteredWasm.trans unentered)).mono (fun _ _ => False.elim) (fun _ _ => id)

/-- What a loan that raised leaves. -/
def Disposed (gauges : Gauges σ) (after : World σ) : Prop :=
  after.poisoned = true ∨ Clean gauges after ∨ Harmed after.faults

/-- `OpaPolicyInstance.evaluate` on a clean instance. -/
theorem evaluate_gauged (input : Document) (entrypointId : Int) {world : World σ}
    (clean : Clean gauges world) :
    Ends (evaluate setup input entrypointId) world (fun _ after => Clean gauges after)
      (fun _ after => Disposed gauges after) := by
  apply ends_bind
  apply ends_modify
  apply ends_exceptFor
  apply (evaluateOnce_gauged gauged input entrypointId _ rfl).mono
  · exact fun _ _ => id
  · rintro error after (⟨entered, harms⟩ | ⟨unentered, unharmed⟩)
    · refine ⟨fun _ => ?_, fun base => Or.inr (Or.inr (harms base))⟩
      apply ends_bind
      apply ends_modify
      exact ends_throw (Or.inl (by simp [entered]))
    · refine ⟨fun _ => ?_, fun _ => Or.inr unharmed⟩
      apply ends_bind
      apply ends_modify
      apply ends_throw
      rcases unharmed with clean | harmed
      · refine Or.inr (Or.inl ⟨?_, clean.checkpointed, clean.disarmed⟩)
        simp [clean.unpoisoned, unentered]
      · exact Or.inr (Or.inr harmed)
  · exact ⟨clean.unpoisoned, clean.checkpointed, clean.disarmed⟩

/-- `reload_data` on a clean instance. -/
theorem reloadData_gauged (data : Option Document) (version : Nat) {world : World σ}
    (clean : Clean gauges world) :
    Ends (reloadData setup data version) world (fun _ after => Clean gauges after)
      (fun _ after => Disposed gauges after) := by
  apply ends_bind
  apply ends_exceptFor
  apply (loadData_gauged gauged data world).mono
  · rintro _ after ⟨same, checkpointed, steady⟩
    apply ends_modify
    exact ⟨same.trans clean.unpoisoned, checkpointed, steady.trans clean.disarmed⟩
  · intro error after harms
    refine ⟨fun _ => ?_, fun base => Or.inr (Or.inr (harms base))⟩
    apply ends_bind
    apply ends_modify
    exact ends_throw (Or.inl rfl)

/-- A loan of a clean instance leaves it clean, or poisoned, or harmed. -/
theorem loan_gauged (data : Option Document) (version : Nat) (input : Document)
    (entrypointId : Int) {world : World σ} (clean : Clean gauges world) :
    Ends (loan setup data version input entrypointId) world (fun _ after => Clean gauges after)
      (fun _ after => Disposed gauges after) := by
  have refreshes : Ends (refreshIfStale setup data version) world
      (fun _ after => Clean gauges after) (fun _ after => Disposed gauges after) := by
    apply ends_bind
    apply ends_field
    exact ends_ite (fun _ => reloadData_gauged gauged data version clean)
      (fun _ => ends_pure clean)
  apply refreshes.seq
  exact fun _ _ refreshed => evaluate_gauged gauged input entrypointId refreshed

/-- An attempt to instantiate leaves the far-future deadline that it armed.

Proof: the attempt arms the far-future deadline first, and its later calls keep it. -/
theorem attempt_gauged (initialPages : Nat) (world : World σ) :
    Ends (attempt setup.native setup.guest setup.maxMemoryPages initialPages) world
      (fun _ after => after.poisoned = world.poisoned ∧
        gauges.deadline after.guest = noDeadlineTicks) (fun _ _ => True) := by
  have limits : Reports .instantiation (limitMemory setup.native setup.maxMemoryPages) ∧
      Steady gauges (limitMemory setup.native setup.maxMemoryPages) := by
    unfold limitMemory
    cases setup.maxMemoryPages with
    | none => exact ⟨reports_pure _, fun _ => ends_pure rfl⟩
    | some pages => exact ⟨reports_call _ (fun _ => rfl), steady_call (gauged.setLimits _)⟩
  have later : Reports .instantiation (do
      call .instantiation .newMemory (setup.native.newMemory initialPages setup.maxMemoryPages)
      limitMemory setup.native setup.maxMemoryPages
      call .instantiation .instantiate setup.native.instantiate) :=
    reports_bind (reports_call _ (fun _ => rfl)) (fun _ =>
      reports_bind limits.1 (fun _ => reports_call _ (fun _ => rfl)))
  have steady : Steady gauges (do
      call .instantiation .newMemory (setup.native.newMemory initialPages setup.maxMemoryPages)
      limitMemory setup.native setup.maxMemoryPages
      call .instantiation .instantiate setup.native.instantiate) :=
    steady_bind (steady_call (gauged.newMemory _ _)) (fun _ =>
      steady_bind limits.2 (fun _ => steady_call gauged.instantiate))
  have arms : Reports .instantiation
      (call .instantiation .setEpochDeadline (setup.guest.setEpochDeadline noDeadlineTicks)) :=
    reports_call _ (fun _ => rfl)
  have armed := gauged.setEpochDeadline noDeadlineTicks world.guest
  apply ends_bind
  apply ((arms world).and (ends_called armed)).mono
  · rintro _ middle ⟨⟨framed, -⟩, deadline, -⟩
    apply ((later middle).and (steady middle)).mono
    · rintro _ after ⟨⟨framedLater, -⟩, same⟩
      exact ⟨(framed.trans framedLater).poisoned, same.trans deadline⟩
    · exact fun _ _ _ => trivial
  · exact fun _ _ _ => trivial

/-- A new runtime is unpoisoned and carries the far-future deadline. -/
theorem createRuntime_gauged (log : List Fault) :
    Ends (createRuntime setup.native setup.guest setup.maxMemoryPages) log
      (fun world _ => world.poisoned = false ∧ gauges.deadline world.guest = noDeadlineTicks)
      (fun _ _ => True) := by
  have loops : ∀ ceiling left initialPages log,
      Ends (instantiateLoop setup.native setup.guest setup.maxMemoryPages ceiling left
        initialPages) log
        (fun world _ => world.poisoned = false ∧ gauges.deadline world.guest = noDeadlineTicks)
        (fun _ _ => True) := by
    intro ceiling left
    induction left with
    | zero => exact fun _ _ => ends_throw trivial
    | succ left inductionHypothesis =>
      intro initialPages log
      apply ends_bind
      apply ends_ask
      · intro store _
        apply ends_tryCatch
        apply ends_bind
        apply ends_within
        apply (attempt_gauged gauged initialPages _).mono
        · exact fun _ _ ended => ends_pure ended
        · intro error after _
          apply ends_ite (fun _ => ends_throw trivial)
          intro _
          apply ends_ite (fun _ => ends_throw trivial)
          intro _
          exact ends_ite (fun _ => ends_throw trivial) (fun _ => inductionHypothesis _ _)
      · exact fun _ _ => trivial
  exact ends_ite (fun _ => ends_throw trivial) (fun _ => loops _ _ _ _)

/-- The start of the ticker leaves a clean instance clean. -/
theorem ensureRunning_gauged {world : World σ} (clean : Clean gauges world) :
    Ends (ensureRunning setup) world (fun _ after => Clean gauges after) (fun _ _ => True) := by
  unfold ensureRunning
  cases setup.deadlineTicks with
  | none => exact ends_pure clean
  | some ticks =>
    have reports : Reports .ticker (call .ticker .startTicker setup.guest.startTicker) :=
      reports_call _ (fun _ => rfl)
    have keeps := (gauged.startTicker.1 world.guest).and (gauged.startTicker.2 world.guest)
    apply ((reports world).and (ends_called keeps)).mono
    · rintro _ after ⟨⟨framed, -⟩, steady, still⟩
      exact ⟨framed.poisoned.trans clean.unpoisoned,
        still.trans (clean.checkpointed.trans framed.dataHeapPtr.symm),
        steady.trans clean.disarmed⟩
    · exact fun _ _ _ => trivial

/-- `__init__` leaves a clean instance on a new runtime.

Proof: nothing before the load raises the mark or touches the deadline, which stands where the
last attempt to instantiate left it. The load leaves the heap pointer at its checkpoint, and
the start of the ticker changes neither. -/
theorem initialise_gauged (data : Option Document) (version : Nat) {world : World σ}
    (unpoisoned : world.poisoned = false)
    (disarmed : gauges.deadline world.guest = noDeadlineTicks) :
    Ends (initialise setup data version) world (fun _ after => Clean gauges after)
      (fun _ _ => True) := by
  have converts : Reports .deadline (convertTimeout setup) ∧
      Steady gauges (convertTimeout setup) := by
    unfold convertTimeout
    cases setup.timeoutTicks with
    | none => exact ⟨reports_pure _, fun _ => ends_pure rfl⟩
    | some outcome =>
      exact ⟨reports_bind (reports_callPython _ (fun _ => rfl)) (fun _ => reports_pure _),
        steady_bind (steady_callPython _) (fun _ _ => ends_pure rfl)⟩
  have reports : Reports .metadata
      (decodeBuiltins setup.guest setup.json setup.limits .metadata) :=
    (reports_law setup.guest setup.json .metadata).decodeBuiltins
  have steady : Steady gauges (decodeBuiltins setup.guest setup.json setup.limits .metadata) :=
    (steady_law gauged setup.json .metadata).decodeBuiltins
  apply ends_bind
  apply ends_bind
  apply ends_fromExcept
  · intro _ _
    apply ends_bind
    apply ends_bind
    apply (heapPtrGet_gauged gauged .initialHeap world).mono
    · rintro heapPtr located ⟨framed, -, same⟩
      apply ends_bind
      apply ends_modify
      apply ends_modify
      apply ends_bind
      apply ((converts.1 _).and (converts.2 _)).mono
      · rintro _ converted ⟨⟨framedTimeout, -⟩, sameTimeout⟩
        apply ends_bind
        apply ((reports converted).and (steady converted)).mono
        · rintro entries decoded ⟨⟨framedBuiltins, -⟩, sameBuiltins⟩
          apply ends_modify
          apply ends_bind
          apply ends_modify
          apply ends_bind
          apply (loadData_gauged gauged data _).mono
          · rintro _ loaded ⟨unpoisonedLoad, checkpointed, sameLoad⟩
            apply ensureRunning_gauged gauged
            refine ⟨?_, checkpointed, ?_⟩
            · have earlier := framedBuiltins.poisoned.trans framedTimeout.poisoned
              exact unpoisonedLoad.trans (earlier.trans (framed.poisoned.trans unpoisoned))
            · have earlier := sameBuiltins.trans sameTimeout
              exact sameLoad.trans (earlier.trans (same.trans disarmed))
          · exact fun _ _ _ => trivial
        · exact fun _ _ _ => trivial
      · exact fun _ _ _ => trivial
    · exact fun _ _ _ => trivial
  · exact fun _ _ => trivial

/-- A new instance is clean. -/
theorem build_gauged (data : Option Document) (version : Nat) (log : List Fault) :
    Ends (build setup data version) log (fun world _ => Clean gauges world) (fun _ _ => True) := by
  apply ends_bind
  apply (createRuntime_gauged gauged log).mono
  · rintro runtime log ⟨unpoisoned, disarmed⟩
    apply ends_bind
    apply ends_within
    apply (initialise_gauged gauged data version _ _).mono
    · exact fun _ _ clean => ends_pure clean
    · exact fun _ _ _ => trivial
    · exact unpoisoned
    · exact disarmed
  · exact fun _ _ _ => trivial

end Instance

/-- What a borrower asks of an instance, with the policy's snapshot. -/
structure Request where
  data : Option Document
  version : Nat
  input : Document
  entrypointId : Int

/-- The instance after a loan, however the loan ended, with a log of this loan
alone. -/
def afterLoan (setup : Setup σ) (world : World σ) (request : Request) : World σ :=
  final (loan setup request.data request.version request.input request.entrypointId)
    { world with faults := [] }

/-- The instance on the idle queue: a loan is over when `_release` puts the
instance back, and a poisoned one is replaced. -/
def pooling (setup : Setup σ) (built : World σ) : Machine (World σ) Request where
  initial := built
  step world request :=
    if (afterLoan setup world request).poisoned then none else some (afterLoan setup world request)

/-- A loan in which no exception escaped the poisoning. -/
def Harmless (setup : Setup σ) (world : World σ) (request : Request) : Prop :=
  ∀ fault ∈ (afterLoan setup world request).faults, Fault.isHarmful fault = false

/-- The log of a loan is finite. -/
instance (setup : Setup σ) (world : World σ) (request : Request) :
    Decidable (Harmless setup world request) :=
  inferInstanceAs (Decidable (∀ fault ∈ (afterLoan setup world request).faults,
    Fault.isHarmful fault = false))

/-- In every run whose loans are all harmless, every instance that is pooled is
clean.

Proof: by induction on the loans. A loan ends with an instance that is poisoned, clean, or has
a harmful fault in its log; the first is not pooled and the condition excludes the last. -/
theorem pooled_clean (setup : Setup σ) (gauges : Gauges σ)
    (gauged : Gauged setup.native setup.guest gauges) (data : Option Document) (version : Nat)
    (log later : List Fault) (fresh : World σ)
    (built : build setup data version log = .ok fresh later) (pooled : World σ)
    (reached : ReachableUnder (pooling setup fresh) (Harmless setup) pooled) :
    Clean gauges pooled := by
  refine under_invariant (Clean gauges) ?_ ?_ reached
  · exact (build_gauged gauged data version log).of_ok built
  · intro before request after _ clean harmless released
    have start : Clean gauges { before with faults := [] } :=
      ⟨clean.unpoisoned, clean.checkpointed, clean.disarmed⟩
    have ends := loan_gauged gauged request.data request.version request.input
      request.entrypointId start
    have disposed : Disposed gauges (afterLoan setup before request) :=
      (ends.mono (fun _ _ => Or.inr ∘ Or.inl) (fun _ _ => id)).final
    change (if (afterLoan setup before request).poisoned then none
      else some (afterLoan setup before request)) = some after at released
    split at released
    · cases released
    · rename_i unpoisoned
      cases released
      rcases disposed with poisoned | clean | ⟨fault, logged, harmful⟩
      · exact absurd poisoned unpoisoned
      · exact clean
      · rw [harmless fault logged] at harmful
        cases harmful

/-- A guest that is nothing but its gauges. -/
structure Meter where
  heapPtr : Int
  deadline : Nat
deriving DecidableEq

/-- Reading the gauges. -/
def meterGauges : Gauges Meter := ⟨Meter.heapPtr, Meter.deadline⟩

/-- A `KeyboardInterrupt` from a host builtin or a signal handler. -/
def keyboardInterrupt : Raised := ⟨.keyboardInterrupt, "", []⟩

/-- A guest whose memory reads as zeros. An evaluation moves the heap pointer, and
is interrupted at entrypoint 1. -/
def meterGuest : Guest Meter where
  opaMalloc size := fun meter => .ok meter.heapPtr { meter with heapPtr := meter.heapPtr + size }
  opaJsonParse _ _ := pure 8
  opaJsonDump _ := pure 8
  opaHeapPtrGet := fun meter => .ok meter.heapPtr meter
  opaHeapPtrSet addr := fun meter => .ok ⟨⟩ { meter with heapPtr := addr }
  entrypoints := pure 8
  builtins := pure 8
  opaEval entrypointId _ _ _ heapPtr := fun meter =>
    if entrypointId = 1 then .error keyboardInterrupt { meter with heapPtr := heapPtr + 64 }
    else .ok 8 { meter with heapPtr := heapPtr + 64 }
  memoryLen := pure 4096
  memoryRead _ _ := pure [0]
  memoryWrite _ _ := pure ⟨⟩
  setEpochDeadline ticks := fun meter => .ok ⟨⟩ { meter with deadline := ticks }
  startTicker := pure ⟨⟩

/-- The native calls around it. -/
def meterNative : Native Meter where
  newStore := .ok ⟨1024, 0⟩
  newMemory _ _ := pure ⟨⟩
  setLimits _ := pure ⟨⟩
  instantiate := pure ⟨⟩

/-- A policy without builtins, with a timeout of 30 seconds. -/
def meterSetup : Setup Meter where
  native := meterNative
  guest := meterGuest
  maxMemoryPages := some 2
  json := ⟨fun _ => .ok (.dict []), fun _ => .ok [], fun _ => .ok ""⟩
  limits := ⟨100, 100, 100, 100, true⟩
  exports := ⟨[("opa_wasm_abi_version", some 1), ("opa_wasm_abi_minor_version", some 2)],
    Abi.expectedSignatures, []⟩
  timeoutTicks := some (.ok 3000)

/-- The instance that is built. -/
def meterInstance : World Meter :=
  { created ⟨1024, noDeadlineTicks⟩ with initialHeapPtr := 1024, dataHeapPtr := 1024 }

/-- The gauges of this guest are what its calls say. -/
theorem meter_gauged : Gauged meterNative meterGuest meterGauges where
  heapPtrSet _ _ := ⟨rfl, rfl⟩
  heapPtrGet _ := ⟨rfl, rfl⟩
  setEpochDeadline _ _ := ⟨rfl, rfl⟩
  newMemory _ _ _ := rfl
  setLimits _ _ := rfl
  instantiate _ := rfl
  opaMalloc _ _ := rfl
  opaJsonParse _ _ _ := rfl
  opaJsonDump _ _ := rfl
  entrypoints _ := rfl
  builtins _ := rfl
  opaEval entrypointId _ _ _ _ _ := by
    unfold Ends meterGuest
    by_cases interrupted : entrypointId = 1 <;> simp [interrupted, meterGauges]
  memoryLen _ := rfl
  memoryRead _ _ _ := rfl
  memoryWrite _ _ _ := rfl
  startTicker := ⟨fun _ => rfl, fun _ => rfl⟩

/-- The metered instance is what the constructor builds. -/
theorem meter_built : build meterSetup none 0 [] = .ok meterInstance [] := by decide +kernel

/-- After an evaluation that returned, the pooled instance is clean. -/
theorem pooled_clean_evaluated :
    Clean meterGauges ((run (pooling meterSetup meterInstance) (Harmless meterSetup) meterInstance
      [⟨none, 0, .value .none, 0⟩]).getD meterInstance) :=
  pooled_clean meterSetup meterGauges meter_gauged none 0 [] [] meterInstance meter_built _
    (executed_reaches (pooling meterSetup meterInstance) (Harmless meterSetup)
      [⟨none, 0, .value .none, 0⟩] meterInstance (by decide +kernel))

/-- An interrupted evaluation poisons nothing: its instance is pooled with the heap
pointer past the checkpoint and the deadline armed. -/
theorem interrupted_loan_pooled :
    ¬∀ pooled, Reachable (pooling meterSetup meterInstance) pooled →
      Clean meterGauges pooled := by
  intro clean
  have reached := executed_reaches (pooling meterSetup meterInstance) anything
    [⟨none, 0, .value .none, 1⟩] meterInstance (by decide +kernel)
  have disarmed := (clean _ reached).disarmed
  revert disarmed
  decide +kernel

end OpaPyWasm.PolicyInstance
