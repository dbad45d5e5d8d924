import OpaPyWasm.BuiltinDispatch
import OpaPyWasm.ExceptionChains

/-!
# The error of an expired deadline

A guest that runs past its deadline is stopped by a trap, and the evaluation fails with an
error that says so. `Evaluator.evaluate` tells this trap from others by the texts on its chain,
and only where no typed error is on the chain. What the store knows of the call, namely
whether the deadline stopped it, is not asked.

Here the store knows it, and the error that is raised is compared with that. The two agree
except for three kinds of failures: a stopped call that a builtin's dispatch made, a stopped
call whose trap has a typed error on its chain, and another failure that reads like a
stopped call.
-/

namespace OpaPyWasm.TimeLimit

open Exceptions Values Effects GuestCalls MemoryCodec PolicyInstance BuiltinDispatch ExceptionChains

/-- The text of the error of an expired deadline. -/
def timeLimitText : String :=
  "evaluation exceeded its time limit (eval_timeout_seconds) and was interrupted"

/-- The error of an expired deadline. -/
def IsTimeLimit (error : Raised) : Prop :=
  error.kind = .opa .evaluation ∧ error.text = timeLimitText

/-- The calls that run code of the guest: the exports of the module. -/
def isExport : Operation → Bool
  | .opaMalloc => true
  | .opaJsonParse => true
  | .opaJsonDump => true
  | .opaHeapPtrGet => true
  | .opaHeapPtrSet => true
  | .entrypoints => true
  | .builtins => true
  | .opaEval => true
  | _ => false

/-- A failure that reads like an expired deadline: the first typed error on its chain is the
error of an expired deadline, or there is none and some text mentions an interrupt. -/
def LooksStopped (raised : Raised) : Prop :=
  raised.kind.isException = true ∧
    match raised.typedInChain with
    | some typed => IsTimeLimit typed
    | none => raised.isEpochInterrupt = true

/-- The error for any other failure has another text. -/
theorem failureText_ne (text : String) : s!"evaluation failed: {text}" ≠ timeLimitText := by
  intro same
  have letters := congrArg (fun text => text.toList.take 12) same
  simp [ToString.toString, timeLimitText, String.toList_append] at letters

/-- After the guest's entry the error of an expired deadline is raised exactly for the
failures that read like one. -/
theorem isTimeLimit_reraised_iff (raised : Raised) :
    IsTimeLimit (reraised true raised) ↔ LooksStopped raised := by
  unfold LooksStopped reraised
  by_cases passes : isPassthrough raised.kind = true
  · have isOpa := isOpa_of_isPassthrough passes
    have found : raised.typedInChain = some ⟨raised.kind, raised.text, []⟩ := by
      simp [Raised.typedInChain, Raised.path, splitTyped, isOpa]
    simp only [passes, if_true, found, isException_of_isOpa isOpa, true_and]
    rfl
  · by_cases caught : raised.kind.isException = true
    · simp only [passes, caught, if_false, if_true, true_and, Bool.false_eq_true]
      unfold evaluationFailure
      cases found : raised.typedInChain with
      | some typed => rfl
      | none =>
        by_cases mentioned : raised.isEpochInterrupt = true
        · simp only [mentioned, Bool.and_self, if_true, iff_true]
          exact ⟨rfl, rfl⟩
        · simp only [mentioned, Bool.and_false, if_false, Bool.false_eq_true, iff_false]
          rintro ⟨-, same⟩
          exact failureText_ne raised.text same
    · simp only [passes, caught, if_false, false_and, iff_false, Bool.false_eq_true]
      rintro ⟨kind, -⟩
      rw [kind] at caught
      exact caught rfl

section Stops

variable {σ : Type} (setup : Setup σ) (repr : Text → String)

/-- A call of an export fails inside the dispatch of a builtin, and what the dispatch raised
arrives on the chain of an exception: it is the exception, or only exceptions of the
runtime are in front of it. -/
def Hosted (raised : Raised) (fault : Fault) (guest : σ) : Prop :=
  ∃ (snapshot : Snapshot) (builtinId : Int) (argAddrs : List Int) (before after : World σ)
    (inner : Raised) (wrappers : List Node),
    dispatchBuiltin setup repr snapshot builtinId argAddrs before = .error inner after ∧
    after.guest = guest ∧ after.faults = fault :: before.faults ∧
    isExport fault.operation = true ∧ raised.path = wrappers ++ inner.path ∧
    ∀ node ∈ wrappers, node.kind.isUntyped = true

/-- What arrives from a call that the deadline stopped, with the guest that it leaves: the
trap, or what a dispatch raised in which a stopped call was made. -/
inductive Interrupted : Raised → σ → Prop where
  | trap {raised : Raised} {guest : σ} (native : raised.kind = .trap false)
      (worded : mentionsInterrupt raised.text = true) : Interrupted raised guest
  | dispatch {raised : Raised} {fault : Fault} {guest : σ}
      (hosted : Hosted setup repr raised fault guest)
      (stopped : Interrupted fault.raised guest) : Interrupted raised guest

/-- A stopped call was made by the dispatch of a builtin. -/
def InDispatch (raised : Raised) (guest : σ) : Prop :=
  ∃ fault, Hosted setup repr raised fault guest ∧ Interrupted setup repr fault.raised guest

/-- What the exports do when the deadline stops them. `stopped` is what the store knows of the
call that was made last. -/
structure StopsByTrap (stopped : σ → Prop) : Prop where
  opaMalloc : ∀ size guest, Ends (setup.guest.opaMalloc size) guest (fun _ _ => True)
    (fun raised after => stopped after → Interrupted setup repr raised after)
  opaJsonParse : ∀ addr length guest, Ends (setup.guest.opaJsonParse addr length) guest
    (fun _ _ => True) (fun raised after => stopped after → Interrupted setup repr raised after)
  opaJsonDump : ∀ addr guest, Ends (setup.guest.opaJsonDump addr) guest (fun _ _ => True)
    (fun raised after => stopped after → Interrupted setup repr raised after)
  opaHeapPtrGet : ∀ guest, Ends setup.guest.opaHeapPtrGet guest (fun _ _ => True)
    (fun raised after => stopped after → Interrupted setup repr raised after)
  opaHeapPtrSet : ∀ addr guest, Ends (setup.guest.opaHeapPtrSet addr) guest (fun _ _ => True)
    (fun raised after => stopped after → Interrupted setup repr raised after)
  opaEval : ∀ entrypointId dataAddr inputAddr inputLen heapPtr guest,
    Ends (setup.guest.opaEval entrypointId dataAddr inputAddr inputLen heapPtr) guest
      (fun _ _ => True) (fun raised after => stopped after → Interrupted setup repr raised after)

/-- The call that failed between two worlds was stopped by the deadline. -/
def StoppedCall (stopped : σ → Prop) (before after : World σ) : Prop :=
  ∃ fault, after.faults = fault :: before.faults ∧ isExport fault.operation = true ∧
    stopped after.guest

/-- The failures that the report tells apart. A stopped call was not made by a dispatch, and a
typed error on the chain of its trap could only be the error of an expired deadline; the
exception of any other failure does not read like a stopped call, unless the codec
converts it. -/
def ToldApart (stopped : σ → Prop) (before after : World σ) : Prop :=
  ∀ fault, after.faults = fault :: before.faults → fault.isConverted = false →
    (StoppedCall stopped before after → ¬InDispatch setup repr fault.raised after.guest ∧
      ∀ typed, fault.raised.typedInChain = some typed → IsTimeLimit typed) ∧
    (¬StoppedCall stopped before after → ¬LooksStopped fault.raised)

end Stops

section Dispatch

variable {σ α : Type} {setup : Setup σ} {repr : Text → String}

/-- What an interrupted dispatch raises is an `OpaBuiltinError`, or no `Exception` and what
was raised last. -/
def Attributed (before : List Fault) (inner : Raised) (after : List Fault) : Prop :=
  inner.kind = .opa .builtin ∨
    inner.kind.isException = false ∧ ∀ fault, after = fault :: before → fault.raised = inner

/-- What a guarded part of the dispatch raises is attributed. -/
theorem asBuiltinError_attributed {body : Py σ α} {text : Raised → String} {world : World σ}
    (ends : Ends body world (fun _ after => after.faults = world.faults) (fun raised after =>
      raised.kind.isOpa = true ∨
        ∀ fault, after.faults = fault :: world.faults → fault.raised = raised)) :
    Ends (asBuiltinError body text) world (fun _ after => after.faults = world.faults)
      (fun error after => Attributed world.faults error after.faults) := by
  apply (asBuiltinError_raises ends).mono
  · exact fun _ _ => id
  · rintro error after ⟨inner, raised, -, typed | ⟨rfl, uncaught⟩⟩
    · exact .inl typed
    · refine .inr ⟨uncaught, ?_⟩
      rcases raised with isOpa | last
      · rw [isException_of_isOpa isOpa] at uncaught
        cases uncaught
      · exact last

/-- A program that reports what it raises raises a typed error or what was raised last. -/
theorem reports_last {stage : Stage} {program : Py σ α} (reports : Reports stage program)
    (world : World σ) :
    Ends program world (fun _ after => after.faults = world.faults) (fun raised after =>
      raised.kind.isOpa = true ∨
        ∀ fault, after.faults = fault :: world.faults → fault.raised = raised) := by
  apply (reports world).mono
  · exact fun _ _ both => both.2
  · rintro raised after ⟨-, ⟨-, isOpa⟩ | ⟨fault, logged, -, ⟨same, -⟩ | ⟨isOpa, -⟩⟩⟩
    · exact .inl isOpa
    · refine .inr ?_
      intro other last
      rw [logged] at last
      rw [← (List.cons.inj last).1, same]
    · exact .inl isOpa

/-- The arguments of a builtin are read one after another: each failure is reported where it
happens. -/
theorem reports_decodeArguments (stage : String) (argAddrs : List Int) :
    Reports .evaluation (decodeArguments setup stage argAddrs) := by
  induction argAddrs with
  | nil => exact reports_pure []
  | cons addr rest inductionHypothesis =>
    have buffers := (reports_law setup.guest setup.json .evaluation).buffers setup.limits
    apply reports_bind (buffers.opaValueToPython addr stage)
    intro value
    apply reports_bind inductionHypothesis
    intro others
    exact reports_pure _

/-- What a dispatch raises is attributed. -/
theorem dispatchBuiltin_attributed (snapshot : Snapshot) (builtinId : Int) (argAddrs : List Int)
    (world : World σ) :
    Ends (dispatchBuiltin setup repr snapshot builtinId argAddrs) world
      (fun _ after => after.faults = world.faults)
      (fun error after => Attributed world.faults error after.faults) := by
  apply ends_bind
  apply ends_field
  split
  · exact ends_throw (.inl rfl)
  · rename_i name resolved
    split
    · exact ends_throw (.inl rfl)
    · rename_i fn registered
      apply (asBuiltinError_attributed (reports_last (reports_decodeArguments _ argAddrs) world)).seq
      intro args decoded logged
      rw [← logged]
      have called : Ends (fromExcept (fn args) : Py σ Value) decoded
          (fun _ after => after.faults = decoded.faults) (fun raised after =>
            raised.kind.isOpa = true ∨
              ∀ fault, after.faults = fault :: decoded.faults → fault.raised = raised) := by
        apply ends_fromExcept
        · exact fun _ _ => rfl
        · exact fun _ _ => .inr (fun fault same => absurd same.symm (List.cons_ne_self _ _))
      apply (asBuiltinError_attributed called).seq
      intro result returned logged'
      rw [← logged']
      have buffers := (reports_law setup.guest setup.json .evaluation).buffers setup.limits
      exact asBuiltinError_attributed (reports_last (buffers.pythonObjectToOpaValue result _ _) returned)

/-- What arrives from a dispatch in which a call raised an `Exception` has an
`OpaBuiltinError` as its first typed error. -/
theorem Hosted.split {raised : Raised} {fault : Fault} {guest : σ}
    (hosted : Hosted setup repr raised fault guest) (caught : fault.raised.kind.isException = true) :
    ∃ wrappers typed rest, raised.path = wrappers ++ typed :: rest ∧
      (∀ node ∈ wrappers, node.kind.isUntyped = true) ∧ typed.kind = .opa .builtin := by
  obtain ⟨snapshot, builtinId, argAddrs, before, after, inner, wrappers, ran, -, logged, -, path,
    native⟩ := hosted
  have attributed := (dispatchBuiltin_attributed snapshot builtinId argAddrs before).of_error ran
  have builtin : inner.kind = .opa .builtin := by
    rcases attributed with builtin | ⟨uncaught, last⟩
    · exact builtin
    · rw [last fault logged, uncaught] at caught
      cases caught
  exact ⟨wrappers, ⟨inner.kind, inner.text⟩, inner.chain, path, native, builtin⟩

/-- What arrives from a stopped call is an `Exception`. -/
theorem Interrupted.isException {raised : Raised} {guest : σ}
    (interrupted : Interrupted setup repr raised guest) : raised.kind.isException = true := by
  induction interrupted with
  | trap native worded =>
    rw [native]
    rfl
  | dispatch hosted stopped inductionHypothesis =>
    obtain ⟨wrappers, typed, rest, path, native, builtin⟩ := hosted.split inductionHypothesis
    cases wrappers with
    | nil =>
      obtain ⟨rfl, -⟩ := List.cons.inj path
      exact isException_of_isOpa (congrArg Kind.isOpa builtin)
    | cons outer others =>
      obtain ⟨rfl, -⟩ := List.cons.inj path
      have untyped := native _ List.mem_cons_self
      exact (Bool.and_eq_true_iff.mp untyped).1

/-- The typed error that is found for a stopped call of a dispatch is an
`OpaBuiltinError`. -/
theorem InDispatch.typedInChain {raised : Raised} {guest : σ}
    (inDispatch : InDispatch setup repr raised guest) :
    ∃ typed, raised.typedInChain = some typed ∧ typed.kind = .opa .builtin := by
  obtain ⟨fault, hosted, stopped⟩ := inDispatch
  obtain ⟨wrappers, typed, rest, path, native, builtin⟩ := hosted.split stopped.isException
  have untyped : ∀ node ∈ wrappers, node.kind.isOpa = false := by
    intro node member
    simpa using (Bool.and_eq_true_iff.mp (native node member)).2
  have isOpa : typed.kind.isOpa = true := congrArg Kind.isOpa builtin
  refine ⟨⟨typed.kind, typed.text, wrappers⟩, ?_, builtin⟩
  rw [Raised.typedInChain, path, splitTyped_append untyped isOpa]
  rfl

end Dispatch

section Failures

variable {σ α β : Type} {setup : Setup σ} {repr : Text → String} {stopped : σ → Prop}

/-- An error of a class that the codec raises. -/
def IsCodecError (raised : Raised) : Prop :=
  ∃ error, raised.kind = .opa error ∧ isCodecError error = true

/-- What a failure on the way through the guest is: an error of the codec, or the exception of
the call that failed, which the codec may convert. A stopped call leaves what such a call
leaves. -/
def Answered (setup : Setup σ) (repr : Text → String) (stopped : σ → Prop) (world : World σ)
    (raised : Raised) (after : World σ) : Prop :=
  (after.faults = world.faults ∧ IsCodecError raised) ∨
    ∃ fault, after.faults = fault :: world.faults ∧
      (fault.isConverted = true ∧ isExport fault.operation = false ∧ IsCodecError raised ∨
        fault.isConverted = false ∧ fault.raised = raised) ∧
      (isExport fault.operation = true → stopped after.guest →
        Interrupted setup repr raised after.guest)

/-- A program all of whose failures are such. -/
def Answers (setup : Setup σ) (repr : Text → String) (stopped : σ → Prop) (program : Py σ α) : Prop :=
  ∀ world, Ends program world (fun _ after => after.faults = world.faults)
    (fun raised after => Answered setup repr stopped world raised after)

/-- Returning. -/
theorem answers_pure (value : α) : Answers setup repr stopped (pure value) :=
  fun _ => ends_pure rfl

/-- Reading a field. -/
theorem answers_field (part : World σ → α) : Answers setup repr stopped (field part) :=
  fun _ => ends_field rfl

/-- One program after another: the first logs nothing where it returns. -/
theorem answers_bind {program : Py σ α} {next : α → Py σ β}
    (first : Answers setup repr stopped program)
    (second : ∀ value, Answers setup repr stopped (next value)) :
    Answers setup repr stopped (program >>= next) := by
  intro world
  apply (first world).seq
  intro value middle same
  have continued := second value middle
  unfold Answered at continued ⊢
  rwa [same] at continued

/-- An export of which a stopped call leaves what such a call leaves. -/
theorem answers_export {stage : Stage} {operation : Operation} {called : EStateM Raised σ α}
    (exported : isExport operation = true) (stops : ∀ guest, Ends called guest (fun _ _ => True)
      (fun raised after => stopped after → Interrupted setup repr raised after)) :
    Answers setup repr stopped (call stage operation called) := by
  intro world
  have kept : ∀ raised, Fault.isConverted ⟨stage, operation, raised⟩ = false := by
    intro raised
    cases operation <;> first | rfl | cases exported
  apply ends_call
  apply (stops world.guest).mono
  · exact fun _ _ _ => rfl
  · exact fun raised guest interrupted => .inr ⟨_, rfl, .inr ⟨kept raised, rfl⟩, fun _ => interrupted⟩

/-- A call that runs no code of the guest. -/
theorem answers_call {stage : Stage} {operation : Operation} {called : EStateM Raised σ α}
    (native : isExport operation = false)
    (passed : ∀ raised, Fault.isConverted ⟨stage, operation, raised⟩ = false) :
    Answers setup repr stopped (call stage operation called) := by
  intro world
  apply ends_call
  apply ends_true.mono
  · exact fun _ _ _ => rfl
  · intro raised guest _
    refine .inr ⟨_, rfl, .inr ⟨passed raised, rfl⟩, ?_⟩
    intro exported
    rw [native] at exported
    cases exported

/-- A call of the interpreter, which stops no guest. -/
theorem answers_callPython {stage : Stage} {operation : Operation} (outcome : Except Raised α)
    (native : isExport operation = false)
    (passed : ∀ raised, Fault.isConverted ⟨stage, operation, raised⟩ = false) :
    Answers setup repr stopped (callPython stage operation outcome) := by
  intro world
  apply ends_callPython
  · exact fun _ _ => rfl
  · intro raised _
    refine .inr ⟨_, rfl, .inr ⟨passed raised, rfl⟩, ?_⟩
    intro exported
    rw [native] at exported
    cases exported

/-- A guarded call of the interpreter, whose handler raises an error of the codec. -/
theorem answers_converted {stage : Stage} {operation : Operation} {caught : Kind → Bool}
    (outcome : Except Raised α) (error : OpaError) (text : Raised → String)
    (own : isCodecError error = true) (native : isExport operation = false)
    (exact : ∀ raised, Fault.isConverted ⟨stage, operation, raised⟩ = caught raised.kind) :
    Answers setup repr stopped (exceptFor caught (callPython stage operation outcome)
      (fun raised => throw (opaErrorFrom error (text raised) raised))) := by
  intro world
  have notExported : isExport operation = true → ∀ condition : Prop, condition := by
    intro exported
    rw [native] at exported
    cases exported
  apply ends_exceptFor
  apply ends_callPython
  · exact fun _ _ => rfl
  · intro raised _
    constructor
    · intro isCaught
      apply ends_throw
      exact .inr ⟨_, rfl, .inl ⟨(exact raised).trans isCaught, native, error, rfl, own⟩,
        fun exported => notExported exported _⟩
    · intro uncaught
      exact .inr ⟨_, rfl, .inr ⟨(exact raised).trans uncaught, rfl⟩,
        fun exported => notExported exported _⟩

section Runs

variable (stops : StopsByTrap setup repr stopped)
include stops

/-- Every transfer of the codec answers for its failures. -/
theorem answers_law (stage : Stage) :
    StepLaw setup.guest setup.json stage (fun _ program => Answers setup repr stopped program) where
  returns := answers_pure
  raises error _ own := fun _ => ends_throw (.inl ⟨rfl, error, rfl, own⟩)
  sequence := answers_bind
  encode _ := answers_callPython _ rfl (fun _ => rfl)
  repr _ := answers_callPython _ rfl (fun _ => rfl)
  loads _ error text own := answers_converted _ error text own rfl (fun _ => rfl)
  dumps _ error text own := answers_converted _ error text own rfl (fun _ => rfl)
  opaMalloc size := answers_export rfl (stops.opaMalloc size)
  opaJsonParse addr length := answers_export rfl (stops.opaJsonParse addr length)
  opaJsonDump addr := answers_export rfl (stops.opaJsonDump addr)
  memoryLen := answers_call rfl (fun _ => rfl)
  memoryRead _ _ := answers_call rfl (fun _ => rfl)
  memoryWrite _ _ := answers_call rfl (fun _ => rfl)

/-- The reset is one call of the guest. -/
theorem answers_resetHeap (stage : Stage) :
    Answers setup repr stopped (resetHeapToCheckpoint setup stage) := by
  apply answers_bind (answers_field _)
  intro heapPtr
  exact answers_export rfl (stops.opaHeapPtrSet heapPtr)

omit stops in
/-- Setting the deadline calls no export. -/
theorem answers_armDeadline : Answers setup repr stopped (armDeadline setup) := by
  unfold armDeadline
  split
  · exact answers_pure _
  · exact answers_call rfl (fun _ => rfl)

omit stops in
/-- Neither does setting it far off. -/
theorem answers_disarmDeadline : Answers setup repr stopped (disarmDeadline setup) := by
  unfold disarmDeadline
  split
  · exact answers_pure _
  · exact answers_call rfl (fun _ => rfl)

/-- Up to `opa_eval` every failure is accounted for. -/
theorem answers_enterGuest (inputBytes : List UInt8) :
    Answers setup repr stopped (enterGuest setup inputBytes) := by
  apply answers_bind answers_armDeadline
  intro _
  apply answers_bind (answers_resetHeap stops .evaluation)
  intro _
  apply answers_bind ((answers_law stops .evaluation).writeBytes inputBytes)
  intro inputAddr
  apply answers_bind (answers_export rfl stops.opaHeapPtrGet)
  intro heapPtr
  exact answers_pure _

/-- So is every failure behind it. -/
theorem answers_readResult (resultAddr : Int) :
    Answers setup repr stopped (readResult setup resultAddr) := by
  apply answers_bind (((answers_law stops .evaluation).buffers setup.limits).readJsonCstring _ _ _)
  intro result
  apply answers_bind (answers_resetHeap stops .evaluation)
  intro _
  apply answers_bind answers_disarmDeadline
  intro _
  exact answers_pure _

/-- The way through the guest answers for its failures. -/
theorem answers_runGuest (inputBytes : List UInt8) (entrypointId : Int) :
    Answers setup repr stopped (runGuest setup inputBytes entrypointId) := by
  have entered : Answers setup repr stopped
      (modify (fun world => { world with enteredWasm := true }) : Py σ PUnit) :=
    fun _ => ends_modify rfl
  apply answers_bind entered
  intro _
  apply answers_bind (answers_enterGuest stops inputBytes)
  rintro ⟨inputAddr, heapPtr⟩
  apply answers_bind (answers_field _)
  intro dataAddr
  apply answers_bind (answers_export rfl (stops.opaEval _ _ _ _ _))
  intro resultAddr
  exact answers_readResult stops resultAddr

end Runs

section Verdicts

variable {world after : World σ} {raised : Raised}

/-- An error of the codec does not read like an expired deadline. -/
theorem IsCodecError.not_looksStopped (own : IsCodecError raised) : ¬LooksStopped raised := by
  obtain ⟨error, kind, codec⟩ := own
  have found : raised.typedInChain = some ⟨raised.kind, raised.text, []⟩ := by
    simp [Raised.typedInChain, Raised.path, splitTyped, kind, Kind.isOpa]
  unfold LooksStopped
  rw [found]
  rintro ⟨-, limit, -⟩
  rw [kind] at limit
  cases limit
  cases codec

/-- A stopped call of a dispatch does not read like one. -/
theorem InDispatch.not_looksStopped {guest : σ} (inDispatch : InDispatch setup repr raised guest) :
    ¬LooksStopped raised := by
  obtain ⟨typed, found, builtin⟩ := inDispatch.typedInChain
  unfold LooksStopped
  rw [found]
  rintro ⟨-, limit, -⟩
  rw [builtin] at limit
  cases limit

/-- The trap of an expired deadline reads like one exactly if no typed error but the error of
an expired deadline is found on its chain. -/
theorem looksStopped_trap (native : raised.kind = .trap false)
    (worded : mentionsInterrupt raised.text = true) :
    LooksStopped raised ↔ ∀ typed, raised.typedInChain = some typed → IsTimeLimit typed := by
  have caught : raised.kind.isException = true := by
    rw [native]
    rfl
  have mentioned : raised.isEpochInterrupt = true := by
    rw [Raised.isEpochInterrupt, Raised.path, List.any_cons, worded]
    rfl
  unfold LooksStopped
  cases raised.typedInChain with
  | none => simp [caught, mentioned]
  | some typed => simp [caught]

/-- Where the log did not grow no call was stopped. -/
theorem not_stoppedCall_of_same (same : after.faults = world.faults) :
    ¬StoppedCall stopped world after := by
  rintro ⟨fault, logged, -⟩
  rw [same] at logged
  exact List.cons_ne_self _ _ logged.symm

/-- The call that failed was stopped. -/
theorem stoppedCall_iff {fault : Fault} (logged : after.faults = fault :: world.faults) :
    StoppedCall stopped world after ↔ isExport fault.operation = true ∧ stopped after.guest := by
  constructor
  · rintro ⟨other, logged', exported, known⟩
    rw [logged] at logged'
    obtain ⟨rfl, -⟩ := List.cons.inj logged'
    exact ⟨exported, known⟩
  · exact fun both => ⟨fault, logged, both⟩

/-- What the report has to tell apart concerns the call that failed. -/
theorem toldApart_iff {fault : Fault} (logged : after.faults = fault :: world.faults)
    (kept : fault.isConverted = false) :
    ToldApart setup repr stopped world after ↔
      (StoppedCall stopped world after → ¬InDispatch setup repr fault.raised after.guest ∧
        ∀ typed, fault.raised.typedInChain = some typed → IsTimeLimit typed) ∧
      (¬StoppedCall stopped world after → ¬LooksStopped fault.raised) := by
  constructor
  · exact fun toldApart => toldApart fault logged kept
  · intro holds other logged' _
    rw [logged] at logged'
    obtain ⟨rfl, -⟩ := List.cons.inj logged'
    exact holds

/-- Where no exception of a call arrives there is nothing to tell apart. -/
theorem toldApart_of_codec
    (none : ∀ fault, after.faults = fault :: world.faults → fault.isConverted = true) :
    ToldApart setup repr stopped world after := by
  intro fault logged kept
  rw [none fault logged] at kept
  cases kept

/-- A stopped call reads like one exactly if it can be told apart. -/
theorem Interrupted.looksStopped_iff {guest : σ} (interrupted : Interrupted setup repr raised guest) :
    LooksStopped raised ↔ ¬InDispatch setup repr raised guest ∧
      ∀ typed, raised.typedInChain = some typed → IsTimeLimit typed := by
  by_cases inDispatch : InDispatch setup repr raised guest
  · exact iff_of_false inDispatch.not_looksStopped (fun both => both.1 inDispatch)
  · cases interrupted with
    | trap native worded =>
      rw [looksStopped_trap native worded]
      exact (and_iff_right inDispatch).symm
    | dispatch hosted known => exact absurd ⟨_, hosted, known⟩ inDispatch

/-- The error of an expired deadline is raised exactly for a stopped call if and only if the
failure can be told apart. -/
theorem Answered.reported_iff (answered : Answered setup repr stopped world raised after) :
    (IsTimeLimit (reraised true raised) ↔ StoppedCall stopped world after) ↔
      ToldApart setup repr stopped world after := by
  rw [isTimeLimit_reraised_iff]
  rcases answered with ⟨same, own⟩ | ⟨fault, logged, ⟨converted, native, own⟩ | ⟨kept, rfl⟩, leaves⟩
  · refine iff_of_true (iff_of_false own.not_looksStopped (not_stoppedCall_of_same same)) ?_
    refine toldApart_of_codec (fun fault logged => ?_)
    rw [same] at logged
    exact absurd logged.symm (List.cons_ne_self _ _)
  · have unstopped : ¬StoppedCall stopped world after := by
      rw [stoppedCall_iff logged, native]
      exact fun both => Bool.false_ne_true both.1
    refine iff_of_true (iff_of_false own.not_looksStopped unstopped) ?_
    refine toldApart_of_codec (fun other logged' => ?_)
    rw [logged] at logged'
    obtain ⟨rfl, -⟩ := List.cons.inj logged'
    exact converted
  · rw [toldApart_iff logged kept]
    by_cases stop : StoppedCall stopped world after
    · obtain ⟨exported, known⟩ := (stoppedCall_iff logged).mp stop
      have interrupted := leaves exported known
      simp only [stop, iff_true, true_implies, not_true, false_implies, and_true]
      exact interrupted.looksStopped_iff
    · simp only [stop, iff_false, false_implies, not_false_eq_true, true_implies, true_and]

end Verdicts

end Failures

section Evaluation

variable {σ : Type} {setup : Setup σ} {repr : Text → String} {stopped : σ → Prop}

/-- After the guest's entry the handlers raise an error and touch nothing. -/
theorem ends_handleFailure_entered {α : Type} {raised : Raised} {world : World σ}
    {returned : α → World σ → Prop} {failed : Raised → World σ → Prop}
    (holds : failed (reraised true raised) world) :
    Ends (handleFailure setup true raised) world returned failed := by
  unfold handleFailure
  unfold reraised at holds
  split
  · rename_i passes
    rw [if_pos passes] at holds
    exact holds
  · rename_i passes
    rw [if_neg passes] at holds
    split
    · rename_i caught
      rw [if_pos caught] at holds
      exact holds
    · rename_i uncaught
      rw [if_neg uncaught] at holds
      exact holds

/-- Before it the handlers only reset the heap. -/
theorem ends_handleFailure_outside {α : Type} (raised : Raised) (world : World σ)
    {returned : α → World σ → Prop} :
    Ends (handleFailure setup false raised) world returned
      (fun _ after => after.enteredWasm = world.enteredWasm) := by
  have reset : Ends (resetHeapIfSafe setup false) world
      (fun _ after => after.enteredWasm = world.enteredWasm)
      (fun _ after => after.enteredWasm = world.enteredWasm) := by
    apply (reports_resetHeap setup .inputReset world).mono
    · exact fun _ _ both => both.1.enteredWasm
    · exact fun _ _ both => both.1.enteredWasm
  unfold handleFailure
  apply ends_ite
  · exact fun _ => reset.seq (fun _ _ same => ends_throw same)
  · intro _
    apply ends_ite
    · exact fun _ => reset.seq (fun _ _ same => ends_throw same)
    · exact fun _ => ends_throw rfl

/-- What an evaluation raises after the guest's entry is what the handlers make of a failure on
the way through the guest.

Proof: a rejected input leaves the mark of the guest's entry unset. What is raised behind the
mark comes from the run of the guest, and `_handle_evaluation_failure` makes the reraised
error of it. -/
theorem evaluate_raises (stops : StopsByTrap setup repr stopped) (input : Document)
    (entrypointId : Int) (world : World σ) :
    Ends (PolicyInstance.evaluate setup input entrypointId) world (fun _ _ => True)
      (fun error after => after.enteredWasm = true →
        ∃ raised, error = reraised true raised ∧
          Answered setup repr stopped world raised after) := by
  have encoding := (reports_law setup.guest setup.json .input).encodeInput input
    setup.limits.maxInputBytes setup.limits.parseRawJsonInput { world with enteredWasm := false }
  have encoded : Ends (tryCatch (encodeInput setup.json .input input setup.limits.maxInputBytes
      setup.limits.parseRawJsonInput) (handleFailure setup false))
      { world with enteredWasm := false } (fun _ after => after.faults = world.faults)
      (fun _ after => after.enteredWasm = false) := by
    apply ends_tryCatch
    apply encoding.mono
    · exact fun _ _ both => both.2
    · rintro raised failed ⟨framed, -⟩
      apply (ends_handleFailure_outside raised failed).mono
      · exact fun _ _ => id
      · exact fun _ _ same => same.trans framed.enteredWasm
  have evaluating : Ends (evaluateOnce setup input entrypointId) { world with enteredWasm := false }
      (fun _ _ => True) (fun error after => after.enteredWasm = true →
        ∃ raised, error = reraised true raised ∧
          Answered setup repr stopped world raised after) := by
    apply ends_bind
    apply encoded.mono
    · intro inputBytes middle same
      apply ends_tryCatch
      apply (answers_runGuest stops inputBytes entrypointId middle).mono
      · exact fun _ _ _ => trivial
      · intro raised failed answered
        apply ends_handleFailure_entered
        unfold Answered at answered ⊢
        rw [same] at answered
        exact fun _ => ⟨raised, rfl, answered⟩
    · intro error after outside entered
      rw [outside] at entered
      cases entered
  apply ends_bind
  apply ends_modify
  apply ends_exceptFor
  apply evaluating.mono
  · exact fun _ _ => id
  · intro error failed raises
    constructor
    · exact fun _ => ends_bind (ends_modify (ends_throw raises))
    · exact fun _ => raises

/-- An `Exception` of `Evaluator.evaluate` goes on, and an instance that was entered is
poisoned. -/
theorem evaluate_failed {input : Document} {entrypointId : Int} {world failed : World σ}
    {raised : Raised} (caught : raised.kind.isException = true) (fresh : world.enteredWasm = false)
    (ran : evaluateOnce setup input entrypointId world = .error raised failed) :
    PolicyInstance.evaluate setup input entrypointId world =
      .error raised { failed with poisoned := failed.poisoned || failed.enteredWasm } := by
  have unset : { world with enteredWasm := false } = world := by
    rw [← fresh]
  have once : Ends (evaluateOnce setup input entrypointId) world (fun _ _ => False)
      (fun error after => error = raised ∧ after = failed) := by
    unfold Ends
    rw [ran]
    exact ⟨rfl, rfl⟩
  have ends : Ends (PolicyInstance.evaluate setup input entrypointId) world (fun _ _ => False)
      (fun error after => error = raised ∧
        after = { failed with poisoned := failed.poisoned || failed.enteredWasm }) := by
    apply ends_bind
    apply ends_modify
    rw [unset]
    apply ends_exceptFor
    apply once.mono
    · exact fun _ _ => False.elim
    · rintro error after ⟨rfl, rfl⟩
      constructor
      · exact fun _ => ends_bind (ends_modify (ends_throw ⟨rfl, rfl⟩))
      · intro uncaught
        rw [caught] at uncaught
        cases uncaught
  unfold Ends at ends
  split at ends
  · exact ends.elim
  · rename_i error after ended
    rw [ended, ends.1, ends.2]

/-- For every failure after the guest's entry, the error of an expired deadline is raised exactly
if the call that failed was stopped by the deadline. -/
def LimitReported (setup : Setup σ) (stopped : σ → Prop) (input : Document) (entrypointId : Int)
    (world : World σ) : Prop :=
  Ends (PolicyInstance.evaluate setup input entrypointId) world (fun _ _ => True)
    (fun error after => after.enteredWasm = true →
      (IsTimeLimit error ↔ StoppedCall stopped world after))

/-- A failure after the guest's entry whose report is not right. -/
theorem not_limitReported {input : Document} {entrypointId : Int} {world after : World σ}
    {error : Raised}
    (ended : PolicyInstance.evaluate setup input entrypointId world = .error error after)
    (entered : after.enteredWasm = true)
    (wrong : ¬(IsTimeLimit error ↔ StoppedCall stopped world after)) :
    ¬LimitReported setup stopped input entrypointId world :=
  fun reported => wrong (reported.of_error ended entered)

/-- An evaluation reports an expired deadline, and only that, exactly if its failure is one
that the report tells apart.

Proof: a failure behind the guest's entry is an error of the codec or what the failed call
raised, and for each of them the reraised error reports the limit exactly if it is told apart.
-/
theorem limit_reported_iff (stops : StopsByTrap setup repr stopped) (input : Document)
    (entrypointId : Int) (world : World σ) :
    LimitReported setup stopped input entrypointId world ↔
      Ends (PolicyInstance.evaluate setup input entrypointId) world (fun _ _ => True)
        (fun _ after => after.enteredWasm = true → ToldApart setup repr stopped world after) := by
  have raises := evaluate_raises stops input entrypointId world
  have verdict : Ends (PolicyInstance.evaluate setup input entrypointId) world (fun _ _ => True)
      (fun error after => after.enteredWasm = true →
        ((IsTimeLimit error ↔ StoppedCall stopped world after) ↔
          ToldApart setup repr stopped world after)) := by
    apply raises.mono
    · exact fun _ _ => id
    · intro error after failure entered
      obtain ⟨raised, rfl, answered⟩ := failure entered
      exact answered.reported_iff
  constructor
  · intro reported
    apply (verdict.and reported).mono
    · exact fun _ _ _ => trivial
    · exact fun _ _ both entered => (both.1 entered).mp (both.2 entered)
  · intro apart
    apply (verdict.and apart).mono
    · exact fun _ _ _ => trivial
    · exact fun _ _ both entered => (both.1 entered).mpr (both.2 entered)

end Evaluation

section Runs

/-- The trap of an expired deadline. -/
def interrupt : Raised := ⟨.trap false, "wasm trap: interrupt", []⟩

/-- A trap in a function of the guest whose name is in the backtrace. -/
def namedTrap : Raised :=
  ⟨.trap false, "wasm trap: unreachable at epoch_days", []⟩

/-- A guest whose state is whether the deadline stopped it. It runs past the deadline when it
dumps a value, and `opa_eval` does what is given. -/
def expiringGuest (run : EStateM Raised Bool Int) : Guest Bool where
  opaMalloc _ := pure 8
  opaJsonParse _ _ := pure 8
  opaJsonDump _ := fun _ => .error interrupt true
  opaHeapPtrGet := pure 8
  opaHeapPtrSet _ := pure ⟨⟩
  entrypoints := pure 8
  builtins := pure 8
  opaEval _ _ _ _ _ := run
  memoryLen := pure 131072
  memoryRead _ _ := pure [0]
  memoryWrite _ _ := pure ⟨⟩
  setEpochDeadline _ := pure ⟨⟩
  startTicker := pure ⟨⟩

/-- The setup of such an instance, with a deadline. -/
def expiringSetup (run : EStateM Raised Bool Int) : Setup Bool where
  native := ⟨.ok false, fun _ _ => pure ⟨⟩, fun _ => pure ⟨⟩, pure ⟨⟩⟩
  guest := expiringGuest run
  maxMemoryPages := none
  json := ⟨fun _ => .ok .none, fun _ => .ok [], fun _ => .ok ""⟩
  limits := ⟨100, 100, 100, 100, true⟩
  exports := ⟨[], [], []⟩
  timeoutTicks := some (.ok 20)

/-- An instance of a module that needs the builtin `f`. -/
def idleInstance (guest : Bool) : World Bool :=
  { WasmtimeRuntime.created guest with builtinIdToName := [(0, [102])] }

/-- `opa_eval` calls the builtin, and what its dispatch raises arrives under a trap. -/
def callsBuiltin : EStateM Raised Bool Int := fun guest =>
  match dispatchBuiltin (expiringSetup (pure 0)) (fun _ => "'f'")
      (fun _ => some (fun _ => .ok .none)) 0 [4] (idleInstance guest) with
  | .ok addr after => .ok addr after.guest
  | .error inner after => .error ⟨.trap false, "error while executing", inner.path⟩ after.guest

/-- What the builtin's dispatch raises for the stopped call. -/
def dispatchError : Raised :=
  opaErrorFrom .builtin ("builtin " ++ "'f'" ++ ": failed to decode arguments: " ++ interrupt.text)
    interrupt

/-- What arrives from `opa_eval` then. -/
def hostedError : Raised := ⟨.trap false, "error while executing", dispatchError.path⟩

/-- The instance after `opa_eval` failed. -/
def failedInstance (guest : Bool) (raised : Raised) : World Bool :=
  { idleInstance guest with
    enteredWasm := true
    faults := [⟨.evaluation, .opaEval, raised⟩] }

set_option maxRecDepth 20000 in
/-- The text of the trap mentions the interrupt. -/
theorem interrupt_worded : mentionsInterrupt interrupt.text = true := by
  have lower : interrupt.text.toLower = "wasm trap: interrupt" := by decide +kernel
  simp only [mentionsInterrupt, lower]
  simp +decide [String.splitOn, String.splitOnAux]

set_option maxRecDepth 20000 in
/-- The text of the other trap mentions an epoch. -/
theorem namedTrap_worded : mentionsInterrupt namedTrap.text = true := by
  have lower : namedTrap.text.toLower = "wasm trap: unreachable at epoch_days" := by
    decide +kernel
  simp only [mentionsInterrupt, lower]
  simp +decide [String.splitOn, String.splitOnAux]

/-- The guest stops by traps if `opa_eval` does. -/
theorem stopsByTrap_expiring {run : EStateM Raised Bool Int}
    (runs : ∀ guest, Ends run guest (fun _ _ => True) (fun raised after => after = true →
      Interrupted (expiringSetup run) (fun _ => "'f'") raised after)) :
    StopsByTrap (expiringSetup run) (fun _ => "'f'") (fun guest => guest = true) where
  opaMalloc _ _ := trivial
  opaJsonParse _ _ _ := trivial
  opaJsonDump _ _ := fun _ => .trap rfl interrupt_worded
  opaHeapPtrGet _ := trivial
  opaHeapPtrSet _ _ := trivial
  opaEval _ _ _ _ _ := runs

/-- The dispatch fails in whatever state the guest is. -/
theorem callsBuiltin_eq : callsBuiltin = fun _ => .error hostedError true := rfl

/-- What the dispatch raises arrives under the trap. -/
theorem callsBuiltin_hosted (guest : Bool) :
    Ends callsBuiltin guest (fun _ _ => True) (fun raised after =>
      Interrupted (expiringSetup callsBuiltin) (fun _ => "'f'") raised after) := by
  have ran : dispatchBuiltin (expiringSetup callsBuiltin) (fun _ => "'f'")
      (fun _ => some (fun _ => .ok .none)) 0 [4] (idleInstance guest) =
        .error dispatchError { idleInstance true with
          faults := [⟨.evaluation, .opaJsonDump, interrupt⟩] } := rfl
  have hosted : Hosted (expiringSetup callsBuiltin) (fun _ => "'f'") hostedError
      ⟨.evaluation, .opaJsonDump, interrupt⟩ true := by
    refine ⟨fun _ => some (fun _ => .ok .none), 0, [4], idleInstance guest, _, dispatchError,
      [⟨.trap false, "error while executing"⟩], ran, rfl, rfl, rfl, rfl, ?_⟩
    intro node member
    rw [List.mem_singleton.mp member]
    rfl
  unfold Ends
  rw [callsBuiltin_eq]
  exact .dispatch hosted (.trap rfl interrupt_worded)

/-- An evaluation whose `opa_eval` the deadline stops is reported as such. -/
theorem stopped_evaluation_reported :
    LimitReported (expiringSetup (fun _ => .error interrupt true)) (fun guest => guest = true)
      (.value .none) 0 (idleInstance false) := by
  have stops : StopsByTrap (expiringSetup (fun _ => .error interrupt true)) (fun _ => "'f'")
      (fun guest => guest = true) :=
    stopsByTrap_expiring (fun _ _ => .trap rfl interrupt_worded)
  have ran : evaluateOnce (expiringSetup (fun _ => .error interrupt true)) (.value .none) 0
      (idleInstance false) = .error (evaluationFailure true interrupt)
        (failedInstance true interrupt) := rfl
  have ended := evaluate_failed (isException_of_isOpa (evaluationFailure_isOpa true interrupt)) rfl ran
  apply (limit_reported_iff stops _ _ _).mpr
  unfold Ends
  rw [ended]
  rintro - fault logged -
  obtain ⟨rfl, -⟩ := List.cons.inj logged
  constructor
  · intro _
    constructor
    · intro inDispatch
      obtain ⟨typed, found, -⟩ := inDispatch.typedInChain
      cases found
    · intro typed found
      cases found
  · exact fun unstopped => absurd ⟨_, rfl, rfl, rfl⟩ unstopped

/-- A stopped call of a builtin's dispatch is reported as the builtin's error, and a trap in a
function whose name mentions an epoch as an expired deadline.

Proof: both evaluations are run to the error that they raise, and the log and the reported
error are compared. -/
theorem limit_misreported :
    (StopsByTrap (expiringSetup callsBuiltin) (fun _ => "'f'") (fun guest => guest = true) ∧
      ¬LimitReported (expiringSetup callsBuiltin) (fun guest => guest = true) (.value .none) 0
        (idleInstance false)) ∧
    StopsByTrap (expiringSetup (fun _ => .error namedTrap false)) (fun _ => "'f'")
        (fun guest => guest = true) ∧
      ¬LimitReported (expiringSetup (fun _ => .error namedTrap false)) (fun guest => guest = true)
        (.value .none) 0 (idleInstance false) := by
  constructor
  · constructor
    · apply stopsByTrap_expiring
      intro guest
      exact (callsBuiltin_hosted guest).mono (fun _ _ => id) (fun _ _ interrupted _ => interrupted)
    · have ran : evaluateOnce (expiringSetup callsBuiltin) (.value .none) 0 (idleInstance false) =
          .error (evaluationFailure true hostedError) (failedInstance true hostedError) := by
        rw [callsBuiltin_eq]
        rfl
      have kind : (evaluationFailure true hostedError).kind = .opa .builtin := rfl
      apply not_limitReported
        (evaluate_failed (isException_of_isOpa (evaluationFailure_isOpa true hostedError)) rfl ran) rfl
      intro same
      have limit := same.mpr ⟨_, rfl, rfl, rfl⟩
      rw [IsTimeLimit, kind] at limit
      cases limit.1
  · constructor
    · exact stopsByTrap_expiring (fun _ => fun stop => by cases stop)
    · have ran : evaluateOnce (expiringSetup (fun _ => .error namedTrap false)) (.value .none) 0
          (idleInstance false) = .error (evaluationFailure true namedTrap)
            (failedInstance false namedTrap) := rfl
      have looks : LooksStopped namedTrap := by
        apply (looksStopped_trap rfl namedTrap_worded).mpr
        intro typed found
        cases found
      apply not_limitReported
        (evaluate_failed (isException_of_isOpa (evaluationFailure_isOpa true namedTrap)) rfl ran) rfl
      intro same
      obtain ⟨fault, logged, -, stop⟩ := same.mp ((isTimeLimit_reraised_iff namedTrap).mpr looks)
      cases stop

end Runs

end OpaPyWasm.TimeLimit
