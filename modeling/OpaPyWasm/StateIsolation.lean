import OpaPyWasm.GuestMemory
import OpaPyWasm.PolicyInstance

/-!
# No state bleeds between requests

On a deterministic guest with a bump allocator an instance is determined by the
document it loaded last. Whatever was loaded and evaluated before, an evaluation
has the outcome that it has on an instance built with that document, from the same
addresses and the same memory below the checkpoint.

Loading goes back to the heap pointer of the first load, and evaluating goes back
to the checkpoint behind the data. Each is compared on two instances that agree
below the address it goes back to.
-/

namespace OpaPyWasm.PolicyInstance

open Exceptions Values Effects GuestCalls MemoryCodec WasmtimeRuntime Regions

variable {σ : Type} {setup : Setup σ} {space : Space σ} {floor bound top : Int}
  {start start' world world' : World σ}

/-- What an instance that kept its data has in common with itself. -/
structure KeptData (space : Space σ) (world after : World σ) : Prop where
  initialHeapPtr : after.initialHeapPtr = world.initialHeapPtr
  dataAddr : after.dataAddr = world.dataAddr
  dataHeapPtr : after.dataHeapPtr = world.dataHeapPtr
  region : AgreeBelow space world.dataHeapPtr world.guest after.guest
  atCheckpoint : space.top after.guest = world.dataHeapPtr

/-- Two instances with the same data at the same addresses. -/
structure SameData (space : Space σ) (world world' : World σ) : Prop where
  dataAddr : world.dataAddr = world'.dataAddr
  dataHeapPtr : world.dataHeapPtr = world'.dataHeapPtr
  region : AgreeBelow space world.dataHeapPtr world.guest world'.guest

/-- The handlers raise the same on both instances. -/
theorem handleFailure_alike {α : Type} (setup : Setup σ) (entered : Bool) (error : Raised)
    (resets : Alike (resetHeapIfSafe setup entered) world world' (fun _ _ _ => True)
      (fun _ _ _ => True)) :
    Alike (handleFailure setup entered error : Py σ α) world world' (fun _ _ _ => False)
      (fun _ _ _ => True) := by
  apply alike_ite
  · intro _
    apply resets.seq
    exact fun _ _ _ _ => alike_throw trivial
  · intro _
    apply alike_ite
    · intro _
      apply resets.seq
      exact fun _ _ _ _ => alike_throw trivial
    · exact fun _ => alike_throw trivial

section Bump

variable (bump : BumpGuest setup.guest space)
include bump

/-- After a reset the heap pointers are the same too. -/
theorem heapPtrSet_twin (stage : Stage) {raised : Raised → World σ → World σ → Prop}
    (kindred : Kindred space floor bound start start' world world') :
    Alike (heapPtrSet setup stage bound) world world'
      (fun _ after after' => Twin space floor bound bound start start' after after') raised := by
  apply alike_of_done (call_ends (fun _ => rfl) (bump.heapPtrSet bound world.guest))
    (call_ends (fun _ => rfl) (bump.heapPtrSet bound world'.guest))
  rintro after after' ⟨⟨atTop, bytes⟩, framed⟩ ⟨⟨atTop', bytes'⟩, framed'⟩
  refine ⟨⟨kindred.framed.trans framed, kindred.framed'.trans framed', ?_, ?_, kindred.above⟩,
    atTop, atTop'⟩
  · intro other below
    rw [bytes, bytes']
    exact kindred.agree other below
  · intro other below
    rw [bytes]
    exact kindred.kept other below

/-- The heap pointer is read as it is. -/
theorem heapPtrGet_quiet (stage : Stage) (located : space.top world.guest = top) :
    Ends (heapPtrGet setup stage) world
      (fun value after => value = top ∧ Quiet space world after) (fun _ _ => False) := by
  apply (call_ends (fun _ => rfl) (bump.heapPtrGet world.guest)).mono
  · rintro value after ⟨⟨same, undisturbed⟩, framed⟩
    exact ⟨same.trans located, framed, undisturbed⟩
  · exact fun _ _ => id

/-- Twins read the same heap pointer. -/
theorem heapPtrGet_twin (stage : Stage) {raised : Raised → World σ → World σ → Prop}
    (twin : Twin space floor bound top start start' world world') :
    Alike (heapPtrGet setup stage) world world'
      (fun value after after' => value = top ∧
        Twin space floor bound top start start' after after') raised := by
  apply (alike_of_returns top (heapPtrGet_quiet bump stage twin.atTop)
    (heapPtrGet_quiet bump stage twin.atTop')).mono
  · rintro value after after' ⟨same, quiet, quiet'⟩
    exact ⟨same, twin.quiet quiet quiet'⟩
  · exact fun _ _ _ => id

/-- Setting a deadline disturbs nothing. -/
theorem armDeadline_twin {raised : Raised → World σ → World σ → Prop}
    (kindred : Kindred space floor bound start start' world world') :
    Alike (armDeadline setup) world world'
      (fun _ after after' => Kindred space floor bound start start' after after') raised := by
  unfold armDeadline
  cases setup.deadlineTicks with
  | none => exact alike_pure kindred
  | some ticks =>
    apply alike_of_done (call_ends (fun _ => rfl) (bump.setEpochDeadline ticks world.guest))
      (call_ends (fun _ => rfl) (bump.setEpochDeadline ticks world'.guest))
    rintro after after' ⟨undisturbed, framed⟩ ⟨undisturbed', framed'⟩
    exact kindred.quiet ⟨framed, undisturbed⟩ ⟨framed', undisturbed'⟩

/-- Clearing the deadline disturbs nothing. -/
theorem disarmDeadline_twin {raised : Raised → World σ → World σ → Prop}
    (twin : Twin space floor bound top start start' world world') :
    Alike (disarmDeadline setup) world world'
      (fun _ after after' => Twin space floor bound top start start' after after') raised := by
  unfold disarmDeadline
  cases setup.deadlineTicks with
  | none => exact alike_pure twin
  | some _ =>
    apply alike_of_done
      (call_ends (fun _ => rfl) (bump.setEpochDeadline noDeadlineTicks world.guest))
      (call_ends (fun _ => rfl) (bump.setEpochDeadline noDeadlineTicks world'.guest))
    rintro after after' ⟨undisturbed, framed⟩ ⟨undisturbed', framed'⟩
    exact twin.quiet ⟨framed, undisturbed⟩ ⟨framed', undisturbed'⟩

/-- The handler of a failed load raises the same on both instances. -/
theorem recoverData_alike (initial : Int) (error : Raised) (world world' : World σ) :
    Alike (recoverData setup initial error) world world' (fun (_ : PUnit) _ _ => False)
      (fun _ _ _ => True) := by
  have resets : Alike (heapPtrSet setup .dataRecovery initial) world world'
      (fun _ _ _ => True) (fun _ _ _ => True) :=
    alike_of_done (call_ends (fun _ => rfl) (bump.heapPtrSet initial world.guest))
      (call_ends (fun _ => rfl) (bump.heapPtrSet initial world'.guest)) (fun _ _ _ _ => trivial)
  apply resets.seq
  intro _ _ _ _
  apply alike_bind
  apply alike_modify
  exact alike_ite (fun _ => alike_throw trivial) (fun _ => alike_throw trivial)

/-- What one load leaves on two instances that went back to the same address: the
same addresses, the same memory below the checkpoint, and the memory below the
floor as it was. -/
structure LoadedAlike (space : Space σ) (world world' after after' : World σ) : Prop where
  initialHeapPtr : after.initialHeapPtr = world.initialHeapPtr
  initialHeapPtr' : after'.initialHeapPtr = world'.initialHeapPtr
  dataAddr : after.dataAddr = after'.dataAddr
  dataHeapPtr : after.dataHeapPtr = after'.dataHeapPtr
  atCheckpoint : space.top after.guest = after.dataHeapPtr
  atCheckpoint' : space.top after'.guest = after'.dataHeapPtr
  agree : AgreeBelow space after.dataHeapPtr after.guest after'.guest
  kept : AgreeBelow space world.initialHeapPtr world.guest after.guest
  above : world.initialHeapPtr ≤ after.dataHeapPtr

/-- A load does the same on two instances that agree below the address that it goes
back to.

Proof: both instances go back to the same address, below which they agree. From there the same
text is written at the same address and parsed alike, so they agree below the new checkpoint
too. -/
theorem loadData_alike (data : Option Document) (same : world.initialHeapPtr = world'.initialHeapPtr)
    (agree : AgreeBelow space world.initialHeapPtr world.guest world'.guest) :
    Alike (loadData setup data) world world'
      (fun _ after after' => LoadedAlike space world world' after after') (fun _ _ _ => True) := by
  have kindred : Kindred space world.initialHeapPtr world.initialHeapPtr world world' world world' :=
    ⟨rfl, rfl, agree, .refl _ _, Int.le_refl _⟩
  apply alike_bind
  apply alike_field same
  apply (heapPtrSet_twin bump .dataReset kindred).seq
  intro _ reset reset' twin
  cases data with
  | none =>
    apply alike_modify
    exact ⟨twin.framed.initialHeapPtr, twin.framed'.initialHeapPtr, rfl, rfl,
      twin.atTop, twin.atTop', twin.agree, twin.kept, Int.le_refl _⟩
  | some document =>
    apply alike_bind
    apply alike_exceptFor
    apply alike_bind
    apply (pythonToOpaValue_twin bump setup.json twin document setup.limits.maxDataBytes "data").mono
    · rintro addr parsed parsed' ⟨higher, twin⟩
      apply alike_modify
      refine (alike_of_returns higher (heapPtrGet_quiet bump .dataCheckpoint ?_)
        (heapPtrGet_quiet bump .dataCheckpoint ?_)).seq ?_
      · exact twin.atTop
      · exact twin.atTop'
      rintro heapPtr after after' ⟨rfl, ⟨framed, undisturbed⟩, framed', undisturbed'⟩
      apply alike_modify
      have agree := (undisturbed.agree heapPtr).symm.trans
        (twin.agree.trans (undisturbed'.agree heapPtr))
      exact ⟨framed.initialHeapPtr.trans twin.framed.initialHeapPtr,
        framed'.initialHeapPtr.trans twin.framed'.initialHeapPtr,
        framed.dataAddr.trans framed'.dataAddr.symm, rfl,
        undisturbed.top.trans twin.atTop, undisturbed'.top.trans twin.atTop', agree,
        twin.kept.trans (undisturbed.agree _), twin.above⟩
    · exact fun error after after' _ =>
        ⟨fun _ => (recoverData_alike bump _ error after after').mono (fun _ _ _ => False.elim)
          (fun _ _ _ => id), fun _ => trivial⟩

/-- A reset to the checkpoint, on two instances that have the same one. -/
theorem resetHeap_twin (stage : Stage) {raised : Raised → World σ → World σ → Prop}
    (kindred : Kindred space floor bound start start' world world')
    (checkpoint : start.dataHeapPtr = bound) (checkpoint' : start'.dataHeapPtr = bound) :
    Alike (resetHeapToCheckpoint setup stage) world world'
      (fun _ after after' => Twin space floor bound bound start start' after after') raised := by
  have same := kindred.framed.dataHeapPtr.trans checkpoint
  have same' := kindred.framed'.dataHeapPtr.trans checkpoint'
  apply alike_bind
  apply alike_field (same.trans same'.symm)
  rw [same]
  exact heapPtrSet_twin bump stage kindred

/-- Before `opa_eval` the input lies between the checkpoint and the heap pointer that
is handed over. -/
theorem enterGuest_twin (inputBytes : List UInt8)
    (kindred : Kindred space bound bound start start' world world')
    (checkpoint : start.dataHeapPtr = bound) (checkpoint' : start'.dataHeapPtr = bound) :
    Alike (enterGuest setup inputBytes) world world'
      (fun addrs after after' => addrs = (bound, bound + (inputBytes.length : Int)) ∧
        Twin space bound (bound + inputBytes.length) (bound + inputBytes.length) start start' after
          after')
      (fun _ _ _ => True) := by
  apply (armDeadline_twin bump kindred).seq
  intro _ armed armed' kindred
  apply (resetHeap_twin bump .evaluation kindred checkpoint checkpoint').seq
  intro _ reset reset' twin
  apply (writeBytes_twin bump twin inputBytes).seq
  rintro inputAddr written written' ⟨rfl, twin⟩
  apply (heapPtrGet_twin bump .evaluation twin).seq
  rintro heapPtr after after' ⟨rfl, twin⟩
  exact alike_pure ⟨rfl, twin⟩

/-- An instance with a text that `opa_eval` left behind the data. -/
structure Answered (space : Space σ) (addr : Int) (text : Nat) (top : Int) (world : World σ) :
    Prop where
  positive : 0 ≤ addr
  below : addr + text < top
  covered : top ≤ space.size world.guest
  terminated : Terminated space world.guest addr text

/-- Both guests answer at the same address, above the heap pointer they were given. -/
theorem opaEval_twin (entrypoint data input : Int) (length : Nat)
    (twin : Twin space floor top top start start' world world') (below : input + length ≤ top) :
    Alike (call .evaluation .opaEval (setup.guest.opaEval entrypoint data input length top))
      world world'
      (fun addr after after' => ∃ higher text,
        Twin space floor higher higher start start' after after' ∧
        Answered space addr text higher after ∧ Answered space addr text higher after')
      (fun _ _ _ => True) := by
  have alike := bump.opaEval_alike entrypoint data input length top world.guest world'.guest below
    twin.atTop.symm twin.atTop'.symm twin.agree
  apply ((alike_call alike).with_ends
    (call_ends (fun _ => rfl)
      (bump.opaEval entrypoint data input length top world.guest twin.atTop.symm))
    (call_ends (fun _ => rfl)
      (bump.opaEval entrypoint data input length top world'.guest twin.atTop'.symm))).mono
  · rintro addr after after' ⟨⟨⟨same, agree⟩, framed, framed'⟩,
      ⟨⟨grown, kept, covered, text, positive, less, terminated⟩, -⟩, ⟨-, -, covered', -⟩, -⟩
    refine ⟨space.top after.guest, text, ⟨⟨twin.framed.trans framed, twin.framed'.trans framed', agree,
      twin.kept.trans (kept.mono twin.above), Int.le_trans twin.above grown⟩, rfl, same.symm⟩,
      ⟨positive, less, covered, terminated⟩,
      ⟨positive, less, same ▸ covered', terminated.agree agree less⟩⟩
  · exact fun _ _ _ _ => trivial

/-- Both answers are read alike, and the heap goes back to the checkpoint. -/
theorem readResult_twin {addr : Int} {text : Nat}
    (twin : Twin space floor top top start start' world world') (bounded : bound ≤ top)
    (answered : Answered space addr text top world) (answered' : Answered space addr text top world')
    (checkpoint : start.dataHeapPtr = bound) (checkpoint' : start'.dataHeapPtr = bound)
    (above : floor ≤ bound) :
    Alike (readResult setup addr) world world'
      (fun _ after after' => Twin space floor bound bound start start' after after')
      (fun _ _ _ => True) := by
  apply (readJsonCstring_alike bump setup.json setup.limits _ _ answered.terminated
    answered.positive twin.agree answered.below answered.covered answered'.covered).seq
  rintro result read read' ⟨quiet, quiet'⟩
  have twin := twin.quiet quiet quiet'
  have kindred : Kindred space floor bound start start' read read' :=
    ⟨twin.framed, twin.framed', twin.agree.mono bounded, twin.kept, above⟩
  apply (resetHeap_twin bump .evaluation kindred checkpoint checkpoint').seq
  intro _ reset reset' twin
  apply (disarmDeadline_twin bump twin).seq
  intro _ after after' twin
  exact alike_pure twin

/-- An evaluation inside the guest, on two instances with the same data. -/
theorem runGuest_alike (inputBytes : List UInt8) (entrypointId : Int)
    (sameAddr : world.dataAddr = world'.dataAddr)
    (sameHeapPtr : world.dataHeapPtr = world'.dataHeapPtr)
    (agree : AgreeBelow space world.dataHeapPtr world.guest world'.guest) :
    Alike (runGuest setup inputBytes entrypointId) world world'
      (fun _ after after' => Twin space world.dataHeapPtr world.dataHeapPtr world.dataHeapPtr
        { world with enteredWasm := true } { world' with enteredWasm := true } after after')
      (fun _ _ _ => True) := by
  have kindred : Kindred space world.dataHeapPtr world.dataHeapPtr { world with enteredWasm := true }
      { world' with enteredWasm := true } { world with enteredWasm := true }
      { world' with enteredWasm := true } :=
    ⟨rfl, rfl, agree, .refl _ _, Int.le_refl _⟩
  apply alike_bind
  apply alike_modify
  apply (enterGuest_twin bump inputBytes kindred rfl sameHeapPtr.symm).seq
  rintro _ entered entered' ⟨rfl, twin⟩
  apply alike_bind
  apply alike_field
  · exact twin.framed.dataAddr.trans (sameAddr.trans twin.framed'.dataAddr.symm)
  apply (opaEval_twin bump entrypointId _ _ inputBytes.length twin (Int.le_refl _)).seq
  rintro resultAddr answered answered' ⟨higher, text, twin, answer, answer'⟩
  exact readResult_twin bump twin twin.above answer answer' rfl sameHeapPtr.symm (Int.le_refl _)

/-- `Evaluator.evaluate` on two instances with the same data.

Proof: the input is encoded without the guest, so alike. Inside the guest both run from the
same addresses and the same data, and after a rejected input both reset the heap to the same
checkpoint. -/
theorem evaluateOnce_alike (input : Document) (entrypointId : Int)
    (same : SameData space world world') :
    Alike (evaluateOnce setup input entrypointId) world world'
      (fun _ after _ => KeptData space world after) (fun _ _ _ => True) := by
  have blind := (blind_law (σ := σ) setup.json .input).encodeInput input setup.limits.maxInputBytes
    setup.limits.parseRawJsonInput
  apply alike_bind
  apply alike_tryCatch
  apply (blind world world').mono
  · rintro inputBytes _ _ ⟨rfl, rfl⟩
    apply alike_tryCatch
    apply (runGuest_alike bump inputBytes entrypointId same.dataAddr same.dataHeapPtr
      same.region).mono
    · intro _ after after' twin
      exact ⟨twin.framed.initialHeapPtr, twin.framed.dataAddr, twin.framed.dataHeapPtr, twin.kept,
        twin.atTop⟩
    · intro error after after' _
      exact (handleFailure_alike setup true error (alike_pure trivial)).mono
        (fun _ _ _ => False.elim) (fun _ _ _ => id)
  · rintro error after after' ⟨logged, logged'⟩
    have checkpoint := logged.guestOnly.dataHeapPtr
    have checkpoint' := logged'.guestOnly.dataHeapPtr.trans same.dataHeapPtr.symm
    have agree : AgreeBelow space world.dataHeapPtr after.guest after'.guest := by
      rw [logged.guest, logged'.guest]
      exact same.region
    have kindred : Kindred space world.dataHeapPtr world.dataHeapPtr after after' after after' :=
      ⟨guestOnly_refl _, guestOnly_refl _, agree, .refl _ _, Int.le_refl _⟩
    have resets : Alike (resetHeapIfSafe setup false) after after' (fun _ _ _ => True)
        (fun _ _ _ => True) :=
      (resetHeap_twin bump .inputReset kindred checkpoint checkpoint').mono
        (fun _ _ _ _ => trivial) (fun _ _ _ => id)
    exact (handleFailure_alike setup false error resets).mono (fun _ _ _ => False.elim)
      (fun _ _ _ => id)

/-- An evaluation has the same outcome on two instances with the same data, and
keeps the data. -/
theorem evaluate_alike (input : Document) (entrypointId : Int) (same : SameData space world world') :
    Alike (evaluate setup input entrypointId) world world'
      (fun _ after _ => KeptData space world after) (fun _ _ _ => True) := by
  have unentered : SameData space { world with enteredWasm := false }
      { world' with enteredWasm := false } := ⟨same.dataAddr, same.dataHeapPtr, same.region⟩
  apply alike_bind
  apply alike_modify
  apply alike_exceptFor
  apply (evaluateOnce_alike bump input entrypointId unentered).mono
  · rintro _ after after' kept
    exact ⟨kept.initialHeapPtr, kept.dataAddr, kept.dataHeapPtr, kept.region, kept.atCheckpoint⟩
  · intro error after after' _
    refine ⟨fun _ => ?_, fun _ => trivial⟩
    apply alike_bind
    apply alike_modify
    exact alike_throw trivial

/-- A rejected input leaves the heap at the checkpoint. -/
theorem handleFailure_rejected {α : Type} (error : Raised)
    (atCheckpoint : space.top world.guest = world.dataHeapPtr) :
    Ends (handleFailure setup false error : Py σ α) world (fun _ _ => False)
      (fun _ after => KeptData space world after) := by
  have kept : KeptData space world world := ⟨rfl, rfl, rfl, .refl _ _, atCheckpoint⟩
  have resets : Ends (resetHeapIfSafe setup false) world
      (fun _ after => KeptData space world after) (fun _ _ => False) := by
    apply ends_bind
    apply ends_field
    apply (call_ends (fun _ => rfl) (bump.heapPtrSet world.dataHeapPtr world.guest)).mono
    · rintro _ after ⟨⟨atTop, bytes⟩, framed⟩
      exact ⟨framed.initialHeapPtr, framed.dataAddr, framed.dataHeapPtr,
        fun addr _ => (bytes addr).symm, atTop⟩
    · exact fun _ _ => id
  apply ends_ite
  · intro _
    apply resets.next
    exact fun _ _ keptAfter => ends_throw keptAfter
  · intro _
    apply ends_ite
    · intro _
      apply resets.next
      exact fun _ _ keptAfter => ends_throw keptAfter
    · exact fun _ => ends_throw kept

/-- `Evaluator.evaluate` raises inside the guest, or it keeps the data.

Proof: what is raised behind the mark of the guest's entry does not count. Before it only the
interpreter is asked, and the handler resets the heap to the checkpoint where it stands
already. -/
theorem evaluateOnce_rejected (input : Document) (entrypointId : Int)
    (atCheckpoint : space.top world.guest = world.dataHeapPtr) :
    Ends (evaluateOnce setup input entrypointId) world (fun _ _ => True)
      (fun _ after => after.enteredWasm = false → KeptData space world after) := by
  have blind := (blind_law (σ := σ) setup.json .input).encodeInput input setup.limits.maxInputBytes
    setup.limits.parseRawJsonInput
  apply ends_bind
  apply ends_tryCatch
  apply (blind world world).self_ends.mono
  · rintro inputBytes encoded ⟨same, -⟩
    rw [same]
    apply ends_tryCatch
    apply (runGuest_reports setup inputBytes entrypointId _).mono
    · exact fun _ _ _ => trivial
    · rintro error after ⟨entered, -⟩
      have inside : after.enteredWasm = false → KeptData space world after := by
        rw [entered]
        exact fun absurd => nomatch absurd
      apply ends_ite (fun _ => ends_throw inside)
      intro _
      exact ends_ite (fun _ => ends_throw inside) (fun _ => ends_throw inside)
  · rintro error after ⟨logged, -⟩
    have framed := logged.guestOnly
    have located : space.top after.guest = after.dataHeapPtr := by
      rw [logged.guest, framed.dataHeapPtr]
      exact atCheckpoint
    apply (handleFailure_rejected bump error located).mono
    · exact fun _ _ => False.elim
    · intro _ last kept _
      refine ⟨kept.initialHeapPtr.trans framed.initialHeapPtr, kept.dataAddr.trans framed.dataAddr,
        kept.dataHeapPtr.trans framed.dataHeapPtr, ?_, kept.atCheckpoint.trans framed.dataHeapPtr⟩
      rw [← framed.dataHeapPtr, ← logged.guest]
      exact kept.region

/-- An evaluation whose input was rejected keeps the data, too. -/
theorem evaluate_rejected (input : Document) (entrypointId : Int)
    (atCheckpoint : space.top world.guest = world.dataHeapPtr) :
    Ends (evaluate setup input entrypointId) world (fun _ _ => True)
      (fun _ after => after.enteredWasm = false → KeptData space world after) := by
  apply ends_bind
  apply ends_modify
  apply ends_exceptFor
  refine (evaluateOnce_rejected bump input entrypointId ?_).mono (fun _ _ _ => trivial) ?_
  · exact atCheckpoint
  · intro error after rejected
    have kept : after.enteredWasm = false → KeptData space world after := by
      intro unentered
      obtain ⟨initialHeapPtr, dataAddr, dataHeapPtr, region, atTop⟩ := rejected unentered
      exact ⟨initialHeapPtr, dataAddr, dataHeapPtr, region, atTop⟩
    refine ⟨fun _ => ?_, fun _ => kept⟩
    apply ends_bind
    apply ends_modify
    apply ends_throw
    intro unentered
    obtain ⟨initialHeapPtr, dataAddr, dataHeapPtr, region, atTop⟩ := kept unentered
    exact ⟨initialHeapPtr, dataAddr, dataHeapPtr, region, atTop⟩

end Bump

/-- An instance after a history, with the document it loaded last. Evaluations
return, or they raise before they entered the guest. -/
inductive Used (setup : Setup σ) : Option Document → World σ → Prop where
  | built {data : Option Document} {version : Nat} {world : World σ} {log : List Fault} :
      build setup data version [] = .ok world log → Used setup data world
  | reloaded {earlier data : Option Document} {version : Nat} {world after : World σ} :
      Used setup earlier world → reloadData setup data version world = .ok ⟨⟩ after →
        Used setup data after
  | evaluated {data : Option Document} {input : Document} {entrypointId : Int} {result : Value}
      {world after : World σ} :
      Used setup data world → evaluate setup input entrypointId world = .ok result after →
        Used setup data after
  | rejected {data : Option Document} {input : Document} {entrypointId : Int} {error : Raised}
      {world after : World σ} :
      Used setup data world → evaluate setup input entrypointId world = .error error after →
        after.enteredWasm = false → Used setup data after

/-- The instance before its first load. The log starts with the instance. -/
def Opened (setup : Setup σ) (origin : World σ) : Prop :=
  ∃ runtime log, createRuntime setup.native setup.guest setup.maxMemoryPages [] = .ok runtime log ∧
    openInstance setup { runtime with faults := log } = .ok ⟨⟩ origin

/-- What an instance that loaded a document last has in common with the instance
that loads it first. -/
structure Determined (setup : Setup σ) (space : Space σ) (origin : World σ)
    (data : Option Document) (world : World σ) : Prop where
  initialHeapPtr : world.initialHeapPtr = origin.initialHeapPtr
  floor : AgreeBelow space origin.initialHeapPtr origin.guest world.guest
  loaded : ∃ reference, loadData setup data origin = .ok ⟨⟩ reference ∧
    SameData space world reference
  atCheckpoint : space.top world.guest = world.dataHeapPtr
  above : origin.initialHeapPtr ≤ world.dataHeapPtr

/-- Having the same data has no direction. -/
theorem SameData.symm (same : SameData space world world') : SameData space world' world :=
  ⟨same.dataAddr.symm, same.dataHeapPtr.symm, same.dataHeapPtr ▸ same.region.symm⟩

/-- Two instances with the data of a third have the same data. -/
theorem SameData.trans {world'' : World σ} (same : SameData space world world')
    (same' : SameData space world' world'') : SameData space world world'' :=
  ⟨same.dataAddr.trans same'.dataAddr, same.dataHeapPtr.trans same'.dataHeapPtr,
    same.region.trans (same.dataHeapPtr ▸ same'.region)⟩

/-- Keeping the data keeps what it was determined by. -/
theorem Determined.kept {origin after : World σ} {data : Option Document}
    (determined : Determined setup space origin data world) (kept : KeptData space world after) :
    Determined setup space origin data after := by
  obtain ⟨reference, loaded, same⟩ := determined.loaded
  refine ⟨kept.initialHeapPtr.trans determined.initialHeapPtr, ?_, ⟨reference, loaded, ?_⟩,
    kept.atCheckpoint.trans kept.dataHeapPtr.symm, kept.dataHeapPtr ▸ determined.above⟩
  · exact determined.floor.trans (kept.region.mono determined.above)
  · have back : SameData space after world :=
      ⟨kept.dataAddr, kept.dataHeapPtr, kept.dataHeapPtr ▸ kept.region.symm⟩
    exact back.trans same

/-- Two instances that loaded the same document last have the same data. -/
theorem Determined.sameData {origin : World σ} {data : Option Document}
    (determined : Determined setup space origin data world)
    (determined' : Determined setup space origin data world') : SameData space world world' := by
  obtain ⟨reference, loaded, same⟩ := determined.loaded
  obtain ⟨reference', loaded', same'⟩ := determined'.loaded
  rw [loaded] at loaded'
  cases loaded'
  exact same.trans same'.symm

/-- There is one instance before the first load. -/
theorem opened_unique {origin origin' : World σ} (opened : Opened setup origin)
    (opened' : Opened setup origin') : origin = origin' := by
  obtain ⟨runtime, log, created, reached⟩ := opened
  obtain ⟨runtime', log', created', reached'⟩ := opened'
  rw [created] at created'
  cases created'
  rw [reached] at reached'
  cases reached'
  rfl

/-- How an instance was built. -/
theorem opened_of_built {data : Option Document} {version : Nat} {log : List Fault}
    (built : build setup data version [] = .ok world log) :
    ∃ origin loaded, Opened setup origin ∧
      loadData setup data { origin with dataVersion := version } = .ok ⟨⟩ loaded ∧
      ensureRunning setup loaded = .ok ⟨⟩ world := by
  obtain ⟨runtime, createdLog, created, initialised⟩ := bind_returned built
  obtain ⟨⟨_, last⟩, lastLog, ran, returned⟩ := bind_returned initialised
  cases returned
  have initialises : initialise setup data version { runtime with faults := createdLog } =
      .ok ⟨⟩ last := by
    unfold within at ran
    split at ran
    · rename_i ended
      cases ran
      exact ended
    · cases ran
  obtain ⟨_, origin, opened, versioned⟩ := bind_returned initialises
  obtain ⟨_, dated, modified, rest⟩ := bind_returned versioned
  cases modified
  obtain ⟨_, loaded, load, started⟩ := bind_returned rest
  exact ⟨origin, loaded, ⟨runtime, createdLog, created, opened⟩, load, started⟩

section Bump

variable (bump : BumpGuest setup.guest space)
include bump

/-- A load determines the instance. -/
theorem loadData_determines {origin : World σ} (data : Option Document)
    (initial : world.initialHeapPtr = origin.initialHeapPtr)
    (floor : AgreeBelow space origin.initialHeapPtr origin.guest world.guest) :
    Ends (loadData setup data) world
      (fun _ after => Determined setup space origin data after) (fun _ _ => True) := by
  apply ends_of_returned
  intro _ after ended
  obtain ⟨reference, loaded, alike⟩ := (loadData_alike bump data initial
    (initial ▸ floor.symm)).of_ok ended
  refine ⟨alike.initialHeapPtr.trans initial, ?_,
    ⟨reference, loaded, alike.dataAddr, alike.dataHeapPtr, alike.agree⟩, alike.atCheckpoint,
    initial ▸ alike.above⟩
  exact floor.trans (initial ▸ alike.kept)

/-- A new instance is determined by its document. -/
theorem built_determined {origin : World σ} (opened : Opened setup origin)
    {data : Option Document} {version : Nat} {log : List Fault}
    (built : build setup data version [] = .ok world log) :
    Determined setup space origin data world := by
  obtain ⟨origin', loaded, opened', load, started⟩ := opened_of_built built
  rw [← opened_unique opened opened'] at load
  have determines : Ends (loadData setup data) { origin with dataVersion := version }
      (fun _ after => Determined setup space origin data after) (fun _ _ => True) :=
    loadData_determines bump data rfl (.refl _ _)
  have determined := determines.of_ok load
  have starts : Ends (ensureRunning setup) loaded
      (fun _ after => KeptData space loaded after) (fun _ _ => True) := by
    unfold ensureRunning
    cases setup.deadlineTicks with
    | none => exact ends_pure ⟨rfl, rfl, rfl, .refl _ _, determined.atCheckpoint⟩
    | some _ =>
      apply (call_ends (fun _ => rfl) (bump.startTicker loaded.guest)).mono
      · rintro _ after ⟨undisturbed, framed⟩
        exact ⟨framed.initialHeapPtr, framed.dataAddr, framed.dataHeapPtr, undisturbed.agree _,
          undisturbed.top.trans determined.atCheckpoint⟩
      · exact fun _ _ _ => trivial
  exact determined.kept (starts.of_ok started)

/-- A reload determines the instance anew. -/
theorem reloadData_determines {origin : World σ} {earlier : Option Document}
    (determined : Determined setup space origin earlier world) (data : Option Document)
    (version : Nat) :
    Ends (reloadData setup data version) world
      (fun _ after => Determined setup space origin data after) (fun _ _ => True) := by
  apply ends_bind
  apply ends_exceptFor
  apply (loadData_determines bump data determined.initialHeapPtr determined.floor).mono
  · intro _ loaded determinedAfter
    apply ends_modify
    exact determinedAfter.kept ⟨rfl, rfl, rfl, .refl _ _, determinedAfter.atCheckpoint⟩
  · exact fun _ _ _ => ⟨fun _ => ends_bind (ends_modify (ends_throw trivial)), fun _ => trivial⟩

/-- An evaluation that returns keeps the data. -/
theorem evaluate_kept (input : Document) (entrypointId : Int) (world : World σ) :
    Ends (evaluate setup input entrypointId) world
      (fun _ after => KeptData space world after) (fun _ _ => True) :=
  (evaluate_alike bump input entrypointId ⟨rfl, rfl, .refl _ _⟩).self_ends

/-- An instance is determined by the document it loaded last. -/
theorem used_determined {origin : World σ} (opened : Opened setup origin)
    {data : Option Document} (used : Used setup data world) :
    Determined setup space origin data world := by
  induction used with
  | built built => exact built_determined bump opened built
  | reloaded _ ended inductionHypothesis =>
    exact (reloadData_determines bump inductionHypothesis _ _).of_ok ended
  | evaluated _ ended inductionHypothesis =>
    exact inductionHypothesis.kept ((evaluate_kept bump _ _ _).of_ok ended)
  | rejected _ ended unentered inductionHypothesis =>
    exact inductionHypothesis.kept
      ((evaluate_rejected bump _ _ inductionHypothesis.atCheckpoint).of_error ended unentered)

/-- On a deterministic guest with a bump allocator, an instance after any history of
reloads, evaluations and rejected inputs evaluates like the instance that is built
with the document it loaded last, from the same addresses and the same data. Its heap
pointer is at the checkpoint, its data stays as it is, and the input lies between the
checkpoint and the heap pointer that `opa_eval` gets.

Proof: every call in the history leaves the instance determined by the document it loaded
last: the memory below its first checkpoint never changes, and a reload writes the same text
at the same address as the first load did. Instances with the same data evaluate alike. -/
theorem history_forgotten {data : Option Document} (used : Used setup data world)
    {version : Nat} {fresh : World σ} {log : List Fault}
    (built : build setup data version [] = .ok fresh log) :
    SameData space world fresh ∧
    space.top world.guest = world.dataHeapPtr ∧
    (∀ input entrypointId,
      outcome (evaluate setup input entrypointId) world =
        outcome (evaluate setup input entrypointId) fresh ∧
      Ends (evaluate setup input entrypointId) world
        (fun _ after => KeptData space world after)
        (fun _ after => after.enteredWasm = false → KeptData space world after)) ∧
    ∀ inputBytes, Ends (enterGuest setup inputBytes) world
      (fun addrs after => addrs.1 = world.dataHeapPtr ∧
        addrs.1 + inputBytes.length ≤ addrs.2 ∧ addrs.2 = space.top after.guest ∧
        AgreeBelow space world.dataHeapPtr world.guest after.guest)
      (fun _ _ => True) := by
  obtain ⟨origin, _, opened, -, -⟩ := opened_of_built built
  have determined := used_determined bump opened used
  have same := determined.sameData (built_determined bump opened built)
  refine ⟨same, determined.atCheckpoint, ?_, ?_⟩
  · intro input entrypointId
    refine ⟨(evaluate_alike bump input entrypointId same).outcome_eq, ?_⟩
    apply ((evaluate_kept bump input entrypointId world).and
      (evaluate_rejected bump input entrypointId determined.atCheckpoint)).mono
    · exact fun _ _ both => both.1
    · exact fun _ _ both => both.2
  · intro inputBytes
    have kindred : Kindred space world.dataHeapPtr world.dataHeapPtr world world world world :=
      ⟨rfl, rfl, .refl _ _, .refl _ _, Int.le_refl _⟩
    apply (enterGuest_twin bump inputBytes kindred rfl rfl).self_ends.mono
    · rintro addrs after ⟨rfl, twin⟩
      exact ⟨rfl, Int.le_refl _, twin.atTop.symm, twin.kept⟩
    · exact fun _ _ _ => trivial

end Bump

/-- A guest that is nothing but its memory. -/
structure Tape where
  top : Int
  cells : Int → UInt8

/-- A block of bytes on the tape. -/
def Tape.store (tape : Tape) (addr : Int) (data : List UInt8) : Tape :=
  { tape with cells := fun other =>
      if addr ≤ other then data.getD (other - addr).toNat (tape.cells other) else tape.cells other }

/-- A memory of one page of 4096 bytes. -/
def tapeSpace : Space Tape := ⟨Tape.top, fun _ => 4096, Tape.cells⟩

/-- What a guest does that runs out of memory. -/
def outOfMemory : Raised := ⟨.trap false, "wasm trap: unreachable", []⟩

/-- A byte that does not end a text. -/
def printable (byte : UInt8) : UInt8 := if byte = 0 then 1 else byte

/-- The text of an answer: the first byte of the data and the first byte of the input,
with the terminator. -/
def Tape.answerText (tape : Tape) (data input heapPtr : Int) : List UInt8 :=
  [printable (if data < heapPtr then tape.cells data else 0),
    printable (if input < heapPtr then tape.cells input else 0), 0]

/-- The tape with an answer behind the heap pointer. -/
def Tape.answer (tape : Tape) (data input heapPtr : Int) : Tape :=
  { tape.store heapPtr (tape.answerText data input heapPtr) with top := heapPtr + 3 }

/-- A guest whose values are their texts, and whose answer is the first byte of the
data and the first byte of the input. -/
def tapeGuest : Guest Tape where
  opaMalloc size := fun tape =>
    if tape.top + size ≤ 4096 then .ok tape.top { tape with top := tape.top + size }
    else .error outOfMemory tape
  opaJsonParse addr _ := pure addr
  opaJsonDump addr := pure addr
  opaHeapPtrGet := fun tape => .ok tape.top tape
  opaHeapPtrSet addr := fun tape => .ok ⟨⟩ { tape with top := addr }
  entrypoints := pure 8
  builtins := pure 8
  opaEval _ data input _ heapPtr := fun tape =>
    if 0 ≤ heapPtr ∧ heapPtr + 3 ≤ 4096 then .ok heapPtr (tape.answer data input heapPtr)
    else .error outOfMemory tape
  memoryLen := pure 4096
  memoryRead start stop := fun tape => .ok (slice tapeSpace tape start (stop - start).toNat) tape
  memoryWrite addr data := fun tape => .ok ⟨⟩ (tape.store addr data)
  setEpochDeadline _ := pure ⟨⟩
  startTicker := pure ⟨⟩

/-- The native calls around it. -/
def tapeNative : Native Tape where
  newStore := .ok ⟨1024, fun _ => 0⟩
  newMemory _ _ := pure ⟨⟩
  setLimits _ := pure ⟨⟩
  instantiate := pure ⟨⟩

/-- A policy without builtins, whose documents are lists of bytes. -/
def tapeSetup : Setup Tape where
  native := tapeNative
  guest := tapeGuest
  maxMemoryPages := some 2
  json := ⟨fun raw => .ok (if raw = [] then .dict []
      else .list (raw.map (fun byte => .int byte.toNat))), fun _ => .ok [], fun _ => .ok ""⟩
  limits := ⟨100, 100, 100, 100, true⟩
  exports := ⟨[("opa_wasm_abi_version", some 1), ("opa_wasm_abi_minor_version", some 2)],
    Abi.expectedSignatures, []⟩
  timeoutTicks := none

/-- A tape that is left alone is undisturbed. -/
theorem tape_undisturbed (tape : Tape) : Undisturbed tapeSpace tape tape := ⟨rfl, rfl, fun _ => rfl⟩

/-- A stored block is written, and nothing else. -/
theorem store_written (tape : Tape) (addr : Int) (data : List UInt8) :
    Written tapeSpace addr data tape (tape.store addr data) where
  top := rfl
  size := rfl
  inside index below := by
    have shifted : (addr + index - addr).toNat = index := by omega
    have inside : addr ≤ addr + index := by omega
    simp only [tapeSpace, Tape.store, if_pos inside, shifted, List.getD_eq_getElem?_getD,
      List.getElem?_eq_getElem below, Option.getD_some]
  outside other away := by
    simp only [tapeSpace, Tape.store]
    split
    · rw [List.getD_eq_getElem?_getD, List.getElem?_eq_none (by omega), Option.getD_none]
    · rfl

/-- A printable byte is no terminator. -/
theorem printable_ne_zero (byte : UInt8) : printable byte ≠ 0 := by
  unfold printable
  split
  · decide
  · assumption

/-- An answer is a terminated text of two bytes. -/
theorem answer_terminated (tape : Tape) (data input heapPtr : Int) :
    Terminated tapeSpace (tape.answer data input heapPtr) heapPtr 2 := by
  have written := store_written tape heapPtr (tape.answerText data input heapPtr)
  constructor
  · intro index less
    have inside : index < (tape.answerText data input heapPtr).length := Nat.lt_succ_of_lt less
    have byte : tapeSpace.byte (tape.answer data input heapPtr) (heapPtr + index) = _ :=
      written.inside index inside
    rw [byte]
    match index, less with
    | 0, _ => exact printable_ne_zero _
    | 1, _ => exact printable_ne_zero _
  · exact written.inside 2 (Nat.lt_succ_self 2)

/-- An answer lies behind the heap pointer. -/
theorem answer_below (tape : Tape) (data input heapPtr : Int) :
    AgreeBelow tapeSpace heapPtr tape (tape.answer data input heapPtr) :=
  (store_written tape heapPtr (tape.answerText data input heapPtr)).below (Int.le_refl _)

/-- Tapes that agree below the heap pointer give the same answer. -/
theorem answer_agree {first second : Tape} (data input heapPtr : Int)
    (agree : AgreeBelow tapeSpace heapPtr first second) :
    AgreeBelow tapeSpace (heapPtr + 3) (first.answer data input heapPtr)
      (second.answer data input heapPtr) := by
  have cell : ∀ addr, (if addr < heapPtr then first.cells addr else 0) =
      if addr < heapPtr then second.cells addr else 0 := by
    intro addr
    by_cases below : addr < heapPtr
    · rw [if_pos below, if_pos below]
      exact agree addr below
    · rw [if_neg below, if_neg below]
  have text : first.answerText data input heapPtr = second.answerText data input heapPtr := by
    unfold Tape.answerText
    rw [cell, cell]
  have written := store_written first heapPtr (first.answerText data input heapPtr)
  have written' := store_written second heapPtr (second.answerText data input heapPtr)
  rw [← text] at written'
  have both := agree.written written written'
  intro addr below
  change (first.store heapPtr _).cells addr = (second.store heapPtr _).cells addr
  rw [← text]
  exact both addr below

/-- The tape is a deterministic guest with a bump allocator.

Proof: each call of the tape writes at or above the heap pointer that it is given, or not at
all, and what it writes depends on what lies below. -/
theorem tape_bump : BumpGuest tapeGuest tapeSpace where
  heapPtrGet tape := ⟨rfl, tape_undisturbed tape⟩
  heapPtrSet _ _ := ⟨rfl, fun _ => rfl⟩
  memoryLen tape := ⟨rfl, tape_undisturbed tape⟩
  memoryRead start length tape _ _ := by
    refine ⟨?_, tape_undisturbed tape⟩
    have shifted : (start + length - start).toNat = length := by omega
    rw [shifted]
  memoryWrite addr data tape _ _ := store_written tape addr data
  setEpochDeadline _ tape := tape_undisturbed tape
  startTicker tape := tape_undisturbed tape
  opaMalloc length tape := by
    unfold Ends tapeGuest
    by_cases fits : tape.top + length ≤ 4096
    · simp [fits, tapeSpace]
    · simp [fits]
  opaMalloc_alike length first second same := by
    unfold Alike tapeGuest
    have same : first.top = second.top := same
    by_cases fits : second.top + length ≤ 4096
    · simp [same, fits]
    · simp [same, fits]
  opaJsonParse _ _ tape := ⟨Int.le_refl _, .refl _ _⟩
  opaJsonParse_alike _ _ _ _ _ same agree := ⟨rfl, same, agree⟩
  opaEval entrypoint data input length heapPtr tape atTop := by
    unfold Ends tapeGuest
    by_cases fits : 0 ≤ heapPtr ∧ heapPtr + 3 ≤ 4096
    · simp only [if_pos fits]
      exact ⟨Int.le_add_of_nonneg_right (by decide), answer_below tape data input heapPtr, fits.2, 2,
        fits.1, Int.add_lt_add_left (by decide) heapPtr, answer_terminated tape data input heapPtr⟩
    · simp only [if_neg fits]
  opaEval_alike entrypoint data input length heapPtr first second below atTop atTop' agree := by
    unfold Alike tapeGuest
    by_cases fits : 0 ≤ heapPtr ∧ heapPtr + 3 ≤ 4096
    · simp only [if_pos fits]
      exact ⟨trivial, rfl, answer_agree data input heapPtr agree⟩
    · simp only [if_neg fits]
      exact ⟨trivial, trivial⟩

/-- The instance built with a document. -/
def tapeBuilt (data : Option Document) : World Tape :=
  (outcome (build tapeSetup data 0) []).toOption.getD (created ⟨0, fun _ => 0⟩)

/-- That instance after its document was replaced, with an evaluation on it. -/
def tapeReused (data : Document) : World Tape :=
  final (evaluate tapeSetup (.bytes [5]) 0)
    (final (reloadData tapeSetup (some data) 1) (tapeBuilt (some (.bytes [2, 3]))))

/-- The reused instance has a history that ends with the new document. -/
theorem tape_reused : Used tapeSetup (some (.bytes [7])) (tapeReused (.bytes [7])) := by
  have built := returned_of_outcome (created ⟨0, fun _ => 0⟩)
    (show (outcome (build tapeSetup (some (.bytes [2, 3])) 0) []).toOption.isSome = true by
      decide +kernel)
  have reloaded := done_of_outcome
    (show (outcome (reloadData tapeSetup (some (.bytes [7])) 1)
      (tapeBuilt (some (.bytes [2, 3])))).toOption.isSome = true by decide +kernel)
  have evaluated := returned_of_outcome Value.none
    (show (outcome (evaluate tapeSetup (.bytes [5]) 0)
      (final (reloadData tapeSetup (some (.bytes [7])) 1)
        (tapeBuilt (some (.bytes [2, 3]))))).toOption.isSome = true by decide +kernel)
  exact .evaluated (.reloaded (.built built) reloaded) evaluated

/-- A reloaded instance that was used before answers like a new one. -/
theorem history_forgotten_reloaded :
    outcome (evaluate tapeSetup (.bytes [9]) 0) (tapeReused (.bytes [7])) =
      outcome (evaluate tapeSetup (.bytes [9]) 0) (tapeBuilt (some (.bytes [7]))) := by
  have built := returned_of_outcome (created ⟨0, fun _ => 0⟩)
    (show (outcome (build tapeSetup (some (.bytes [7])) 0) []).toOption.isSome = true by
      decide +kernel)
  exact ((history_forgotten tape_bump tape_reused built).2.2.1 (.bytes [9]) 0).1

end OpaPyWasm.PolicyInstance
