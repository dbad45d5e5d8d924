import OpaPyWasm.StringScan

/-!
# The limit of a result

Two limits guard the same bytes. `read_cstring` gives up after `max_cstring_scan_bytes`, among
which it counts the terminator; `_check_size` then compares the bytes without the terminator
with `max_result_bytes`. With equal limits, which is the default, a document of exactly the
result limit is not delivered: the scan ends one byte before its terminator.
-/

namespace OpaPyWasm.PolicyInstance

open Exceptions Values Effects GuestCalls MemoryCodec Regions

variable {σ : Type} {guest : Guest σ} {space : Space σ} {still : σ → σ → Prop}
  {limits : Limits} {json : Json} {world : World σ} {addr : Int} {length : Nat} {value : Value}

variable (limits json world) in
/-- A document that lies terminated in memory is returned where both limits admit it, and is
refused with `OpaMemoryError` otherwise.

Proof: the scan returns the text where the budget holds its terminator, and the size is tested
after it. -/
theorem readJsonCstring_within (readable : Readable guest space still) (stage : Stage)
    (limit : Nat) (kind : String) (terminated : Terminated space world.guest addr length)
    (positive : 0 ≤ addr) (inside : addr + length < space.size world.guest)
    (parsed : json.loads (slice space world.guest addr length) = .ok value) :
    Ends (readJsonCstring guest json limits stage addr limit kind) world
      (fun value' after => (length < limits.maxCstringScanBytes ∧ length ≤ limit) ∧
        value' = value ∧ GuestOnly world after)
      (fun error _ => ¬(length < limits.maxCstringScanBytes ∧ length ≤ limit) ∧
        error.kind = .opa .memory) := by
  apply ends_bind
  apply (readCstring_reads readable stage limits terminated positive inside).mono
  · rintro text after ⟨read, framed, -⟩
    unfold readText at read
    split at read
    · rename_i budget
      obtain rfl := Except.ok.inj read
      apply ends_bind
      unfold checkSize
      rw [length_slice]
      apply ends_ite
      · intro large
        exact ends_throw ⟨fun both => absurd both.2 (by omega), rfl⟩
      · intro small
        apply ends_pure
        apply ends_exceptFor
        apply ends_callPython
        · intro value' same
          rw [parsed] at same
          exact ⟨⟨budget, by omega⟩, (Except.ok.inj same).symm, framed⟩
        · intro error failed
          rw [parsed] at failed
          cases failed
    · cases read
  · intro error _ failed
    unfold readText at failed
    split at failed
    · cases failed
    · rename_i spent
      obtain rfl := Except.error.inj failed
      exact ⟨fun both => spent both.1, rfl⟩

section Evaluation

variable {setup : Setup σ}

/-- What comes after a result was read never fails: the heap pointer and the deadline are set
back. -/
structure Resets (guest : Guest σ) : Prop where
  heapPtrSet : ∀ addr state,
    Ends (guest.opaHeapPtrSet addr) state (fun _ _ => True) (fun _ _ => False)
  setEpochDeadline : ∀ ticks state,
    Ends (guest.setEpochDeadline ticks) state (fun _ _ => True) (fun _ _ => False)

/-- `Evaluator.evaluate` from the guest's entry up to the address of the result. -/
def callGuest (setup : Setup σ) (inputBytes : List UInt8) (entrypointId : Int) : Py σ Int := do
  modify (fun world => { world with enteredWasm := true })
  let (inputAddr, heapPtr) ← enterGuest setup inputBytes
  let dataAddr ← field World.dataAddr
  call .evaluation .opaEval
    (setup.guest.opaEval entrypointId dataAddr inputAddr inputBytes.length heapPtr)

/-- After that call the result is read. -/
theorem runGuest_eq (inputBytes : List UInt8) (entrypointId : Int) :
    runGuest setup inputBytes entrypointId =
      callGuest setup inputBytes entrypointId >>= readResult setup := by
  unfold runGuest callGuest
  simp only [bind_assoc]

/-- Setting the heap pointer back. -/
theorem resetHeap_done (resets : Resets setup.guest) (world : World σ) :
    Ends (resetHeapToCheckpoint setup .evaluation) world (fun _ after => GuestOnly world after)
      (fun _ _ => False) := by
  apply ends_bind
  apply ends_field
  apply (call_ends (fun _ => rfl) (resets.heapPtrSet _ world.guest)).mono
  · exact fun _ _ => And.right
  · exact fun _ _ => id

/-- Setting the deadline back. -/
theorem disarmDeadline_done (resets : Resets setup.guest) (world : World σ) :
    Ends (disarmDeadline setup) world (fun _ after => GuestOnly world after)
      (fun _ _ => False) := by
  unfold disarmDeadline
  split
  · exact ends_pure (guestOnly_refl world)
  · apply (call_ends (fun _ => rfl) (resets.setEpochDeadline _ world.guest)).mono
    · exact fun _ _ => And.right
    · exact fun _ _ => id

/-- A result that is read is delivered. -/
theorem readResult_delivers (resets : Resets setup.guest)
    (read : Ends (readJsonCstring setup.guest setup.json setup.limits .evaluation addr
      setup.limits.maxResultBytes "result") world
        (fun value' after => value' = value ∧ GuestOnly world after) (fun _ _ => False)) :
    Ends (readResult setup addr) world
      (fun value' after => value' = value ∧ GuestOnly world after) (fun _ _ => False) := by
  apply read.next
  rintro _ first ⟨rfl, framed⟩
  apply (resetHeap_done resets first).next
  intro _ second framedHeap
  apply (disarmDeadline_done resets second).next
  intro _ third framedDeadline
  exact ends_pure ⟨rfl, framed.trans (framedHeap.trans framedDeadline)⟩

/-- The guest's call does not mark the instance. -/
theorem callGuest_poisoned {inputBytes : List UInt8} {entrypointId : Int} {start after : World σ}
    (called : callGuest setup inputBytes entrypointId start = .ok addr after) :
    after.poisoned = start.poisoned := by
  have reports : Reports .evaluation (do
      let (inputAddr, heapPtr) ← enterGuest setup inputBytes
      let dataAddr ← field World.dataAddr
      call .evaluation .opaEval
        (setup.guest.opaEval entrypointId dataAddr inputAddr inputBytes.length heapPtr)) := by
    apply reports_bind (reports_enterGuest setup inputBytes)
    intro addrs
    apply reports_bind (reports_field _)
    intro dataAddr
    exact reports_call _ (fun _ => rfl)
  obtain ⟨_, entered, marked, ended⟩ := bind_returned called
  cases marked
  exact ((reports _).of_ok ended).1.poisoned

/-- What an evaluation reads it delivers, and the instance stays as good as it was. -/
theorem evaluate_delivers {input : Document} {inputBytes : List UInt8} {entrypointId : Int}
    {start entered : World σ}
    (encoded : encodeInput setup.json .input input setup.limits.maxInputBytes
      setup.limits.parseRawJsonInput { start with enteredWasm := false } = .ok inputBytes entered)
    (called : callGuest setup inputBytes entrypointId entered = .ok addr world)
    (read : Ends (readResult setup addr) world
      (fun value' after => value' = value ∧ GuestOnly world after) (fun _ _ => False)) :
    Ends (evaluate setup input entrypointId) start
      (fun value' after => value' = value ∧ after.poisoned = start.poisoned) (fun _ _ => False) := by
  have encodes := (reports_law setup.guest setup.json .input).encodeInput input
    setup.limits.maxInputBytes setup.limits.parseRawJsonInput
  have unmarked : world.poisoned = start.poisoned :=
    (callGuest_poisoned called).trans ((encodes _).of_ok encoded).1.poisoned
  apply ends_bind
  apply ends_modify
  apply ends_exceptFor
  apply ends_bind
  apply ends_tryCatch
  apply (ends_of_ok encoded).mono
  · rintro _ _ ⟨rfl, rfl⟩
    apply ends_tryCatch
    rw [runGuest_eq]
    apply ends_bind
    apply (ends_of_ok called).mono
    · rintro _ _ ⟨rfl, rfl⟩
      apply read.mono
      · rintro _ after ⟨rfl, framed⟩
        exact ⟨rfl, framed.poisoned.trans unmarked⟩
      · exact fun _ _ => False.elim
    · exact fun _ _ => False.elim
  · exact fun _ _ => False.elim

variable (world) in
/-- Take limits with a scan budget no smaller than the result limit, and a document that lies
terminated in memory. It is read where it is no larger than the result limit, refused where it
is larger, and an evaluation that comes to it within the limit delivers it and does not
poison its instance; all this if and only if the document is not of exactly the result limit,
or the scan budget is larger than that.

Proof: reading succeeds exactly if the document is shorter than the scan budget and no longer
than the limit. At the boundary the scan budget alone decides, and apart from it the limit
does. -/
theorem result_limit_exact (readable : Readable setup.guest space still)
    (resets : Resets setup.guest)
    (wide : setup.limits.maxResultBytes ≤ setup.limits.maxCstringScanBytes)
    (terminated : Terminated space world.guest addr length) (positive : 0 ≤ addr)
    (inside : addr + length < space.size world.guest)
    (parsed : setup.json.loads (slice space world.guest addr length) = .ok value) :
    ((length ≤ setup.limits.maxResultBytes →
        outcome (readJsonCstring setup.guest setup.json setup.limits .evaluation addr
          setup.limits.maxResultBytes "result") world = .ok value) ∧
      (setup.limits.maxResultBytes < length →
        ∃ error, outcome (readJsonCstring setup.guest setup.json setup.limits .evaluation addr
          setup.limits.maxResultBytes "result") world = .error error ∧
            error.kind = .opa .memory) ∧
      (length ≤ setup.limits.maxResultBytes →
        ∀ input inputBytes entrypointId start entered,
          encodeInput setup.json .input input setup.limits.maxInputBytes
            setup.limits.parseRawJsonInput { start with enteredWasm := false } =
              .ok inputBytes entered →
          callGuest setup inputBytes entrypointId entered = .ok addr world →
          Ends (evaluate setup input entrypointId) start
            (fun value' after => value' = value ∧ after.poisoned = start.poisoned)
            (fun _ _ => False))) ↔
      (length ≠ setup.limits.maxResultBytes ∨
        setup.limits.maxResultBytes < setup.limits.maxCstringScanBytes) := by
  have read := readJsonCstring_within setup.limits setup.json world readable .evaluation
    setup.limits.maxResultBytes "result" terminated positive inside parsed
  have delivered : length < setup.limits.maxCstringScanBytes ∧
      length ≤ setup.limits.maxResultBytes →
      Ends (readJsonCstring setup.guest setup.json setup.limits .evaluation addr
        setup.limits.maxResultBytes "result") world
        (fun value' after => value' = value ∧ GuestOnly world after) (fun _ _ => False) :=
    fun fits => read.mono (fun _ _ => And.right) (fun _ _ failed => failed.1 fits)
  have refused : ¬(length < setup.limits.maxCstringScanBytes ∧
      length ≤ setup.limits.maxResultBytes) →
      ∃ error, outcome (readJsonCstring setup.guest setup.json setup.limits .evaluation addr
        setup.limits.maxResultBytes "result") world = .error error ∧ error.kind = .opa .memory := by
    intro misfit
    obtain ⟨error, -, raised, -, kind⟩ :=
      (read.mono (fun _ _ done => misfit done.1) (fun _ _ => id)).outcome_error
    exact ⟨error, raised, kind⟩
  constructor
  · rintro ⟨returned, -, -⟩
    by_contra boundary
    obtain ⟨error, raised, -⟩ := refused (by omega)
    rw [returned (by omega)] at raised
    cases raised
  · intro apart
    refine ⟨fun small => ?_, fun large => refused (by omega), fun small => ?_⟩
    · refine ((delivered (by omega)).mono ?_ (fun _ _ => False.elim)).outcome_eq
      rintro _ after ⟨rfl, -⟩
      rfl
    · intro input inputBytes entrypointId start entered encoded called
      exact evaluate_delivers encoded called (readResult_delivers resets (delivered (by omega)))

/-- An instance whose decision is the document `null`, with two limits for it. -/
def nullSetup (maxResultBytes maxCstringScanBytes : Nat) : Setup Linear where
  native := ⟨.ok ⟨64, fun _ => 0⟩, fun _ _ => pure ⟨⟩, fun _ => pure ⟨⟩, pure ⟨⟩⟩
  guest := linearGuest 32 8
  maxMemoryPages := none
  json := ⟨fun _ => .ok .none, fun _ => .ok [110, 117, 108, 108], fun _ => .ok "None"⟩
  limits := ⟨100, 100, maxResultBytes, maxCstringScanBytes, true⟩
  exports := ⟨[], [], []⟩
  timeoutTicks := none

/-- Its memory, with the document at address 8. -/
def nullMemory : Linear := Linear.written ⟨64, fun _ => 0⟩ 8 [110, 117, 108, 108]

/-- The document is followed by its terminator. -/
theorem nullMemory_terminated : Terminated linearSpace nullMemory 8 4 := by
  constructor
  · decide
  · decide

/-- A document of as many bytes as both limits admit is refused, and its evaluation poisons the
instance. -/
theorem result_limit_refused :
    (nullSetup 4 4).limits.maxResultBytes ≤ (nullSetup 4 4).limits.maxCstringScanBytes ∧
      Terminated linearSpace nullMemory 8 4 ∧ 4 ≤ (nullSetup 4 4).limits.maxResultBytes ∧
      (∃ error, outcome (readJsonCstring (nullSetup 4 4).guest (nullSetup 4 4).json
        (nullSetup 4 4).limits .evaluation 8 (nullSetup 4 4).limits.maxResultBytes "result")
          (WasmtimeRuntime.created nullMemory) = .error error ∧ error.kind = .opa .memory) ∧
      (final (evaluate (nullSetup 4 4) (.value .none) 0)
        (WasmtimeRuntime.created nullMemory)).poisoned = true := by
  refine ⟨by decide, nullMemory_terminated, by decide, ?_, by decide +kernel⟩
  have read := readJsonCstring_within (nullSetup 4 4).limits (nullSetup 4 4).json
    (WasmtimeRuntime.created nullMemory) (linear_readable 32 8) .evaluation
    (nullSetup 4 4).limits.maxResultBytes "result" nullMemory_terminated (by decide) (by decide) rfl
  have spent : ¬(4 < (nullSetup 4 4).limits.maxCstringScanBytes ∧
      4 ≤ (nullSetup 4 4).limits.maxResultBytes) := by
    decide
  obtain ⟨error, -, raised, -, kind⟩ :=
    (read.mono (fun _ _ done => spent done.1) (fun _ _ => id)).outcome_error
  exact ⟨error, raised, kind⟩

/-- The calls after a result of this guest never fail. -/
theorem linear_resets (buffer decision : Int) : Resets (linearGuest buffer decision) where
  heapPtrSet _ _ := trivial
  setEpochDeadline _ _ := trivial

/-- With one byte more for the scan it is read. -/
theorem result_limit_exact_null :
    outcome (readJsonCstring (nullSetup 4 5).guest (nullSetup 4 5).json (nullSetup 4 5).limits
      .evaluation 8 (nullSetup 4 5).limits.maxResultBytes "result")
        (WasmtimeRuntime.created nullMemory) = .ok .none :=
  ((result_limit_exact (WasmtimeRuntime.created nullMemory) (linear_readable 32 8)
    (linear_resets 32 8) (by decide) nullMemory_terminated (by decide) (by decide) rfl).mpr
      (.inr (by decide))).1 (by decide)

end Evaluation

end OpaPyWasm.PolicyInstance
