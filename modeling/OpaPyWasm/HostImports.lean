import OpaPyWasm.Library.Utf8Replacement
import OpaPyWasm.TimeLimit

/-!
# The host functions of a module

A module imports `opa_abort`, `opa_println` and `opa_builtinN` from the host and calls them
while it evaluates. The first two hand over the address of a text in the linear memory,
which is read for diagnostics only: up to a limit, up to its NUL, and with replacement
characters for what is not UTF-8.

What the code of a module does in one call of `opa_eval` is a tree here: it computes on its
own state, calls host functions, and returns or traps. An exception of a host function ends
the call, and comes out of it behind exceptions of the runtime at most.
-/

namespace OpaPyWasm.HostImports

open Exceptions Values Effects GuestCalls MemoryCodec PolicyInstance BuiltinDispatch ExceptionChains
  TimeLimit

/-- Where the index of a slice lies: counted from the end where it is negative, and inside
the sequence in any case. -/
def sliceIndex (size : Nat) (index : Int) : Nat :=
  if index < 0 then (index + size).toNat else min index.toNat size

/-- `sequence[start:stop]`. -/
def pythonSlice {α : Type} (sequence : List α) (start stop : Int) : List α :=
  (sequence.take (sliceIndex sequence.length stop)).drop (sliceIndex sequence.length start)

/-- The bytes before the first NUL. -/
def beforeNul (data : List UInt8) : List UInt8 := data.takeWhile (· ≠ 0)

/-- The limit of `_read_cstring_lenient`. -/
def messageLimit : Nat := 4096

/-- The callback of an instance: the id, the context and the addresses of the arguments. -/
abbrev Dispatch (σ : Type) := Int → Int → List Int → EStateM Raised σ Int

section Functions

variable {σ : Type} (guest : Guest σ)

/-- `_read_cstring_lenient`. -/
def readCstringLenient (addr : Int) (limit : Nat) : EStateM Raised σ String := do
  let data? ← exceptFor Kind.isException (some <$> guest.memoryRead addr (addr + limit))
    (fun _ => pure none)
  match data? with
  | none => pure s!"<unreadable message at addr {addr}>"
  | some data => pure (display (Utf8.decodeReplacing (beforeNul data)))

/-- `opa_abort`. -/
def opaAbort (addr : Int) : EStateM Raised σ PUnit := do
  let message ← readCstringLenient guest addr messageLimit
  throw (opaError .abort message)

/-- `opa_println`, which hands the text to the log. -/
def opaPrintln (addr : Int) : EStateM Raised σ PUnit := do
  let _ ← readCstringLenient guest addr messageLimit
  pure ⟨⟩

/-- `opa_builtinN` of a name. -/
def opaBuiltin (dispatch : Option (Dispatch σ)) (name : String) (builtinId ctx : Int)
    (args : List Int) : EStateM Raised σ Int :=
  match dispatch with
  | none => throw (opaError .builtin
      (s!"policy invoked host builtin id {builtinId} via {name} but no " ++
        "builtin dispatch is registered"))
  | some dispatch => dispatch builtinId ctx args

/-- What the code of a module does in a call of an export. -/
inductive Code (σ : Type) where
  | returns (result : Int)
  | traps (raised : Raised)
  | computes (change : σ → σ) (rest : σ → Code σ)
  | aborts (addr : Int) (rest : Code σ)
  | prints (addr : Int) (rest : Code σ)
  | calls (name : String) (builtinId ctx : Int) (args : List Int) (rest : Int → Code σ)

variable (dispatch : Option (Dispatch σ)) (surface : Raised → Raised)

/-- A host function called from the guest: what it raises comes out of the call of the
export. -/
def hosted {α : Type} (body : EStateM Raised σ α) : EStateM Raised σ α :=
  tryCatch body (fun raised => throw (surface raised))

/-- Run the code of a module with the host functions. -/
def Code.run : Code σ → EStateM Raised σ Int
  | .returns result => pure result
  | .traps raised => throw raised
  | .computes change rest => fun state => (rest (change state)).run (change state)
  | .aborts addr rest => do
    hosted surface (opaAbort guest addr)
    rest.run
  | .prints addr rest => do
    hosted surface (opaPrintln guest addr)
    rest.run
  | .calls name builtinId ctx args rest => do
    let result ← hosted surface (opaBuiltin dispatch name builtinId ctx args)
    (rest result).run

/-- The code that is left once so much of it ran without an exception. -/
inductive Code.Leads : Code σ → σ → Code σ → σ → Prop
  | refl (code : Code σ) (state : σ) : Leads code state code state
  | computes {change : σ → σ} {rest : σ → Code σ} {state final : σ} {last : Code σ}
      (later : Leads (rest (change state)) (change state) last final) :
      Leads (.computes change rest) state last final
  | prints {addr : Int} {rest last : Code σ} {state middle final : σ}
      (printed : opaPrintln guest addr state = .ok ⟨⟩ middle)
      (later : Leads rest middle last final) : Leads (.prints addr rest) state last final
  | calls {name : String} {builtinId ctx result : Int} {args : List Int} {rest : Int → Code σ}
      {state middle final : σ} {last : Code σ}
      (returned : opaBuiltin dispatch name builtinId ctx args state = .ok result middle)
      (later : Leads (rest result) middle last final) :
      Leads (.calls name builtinId ctx args rest) state last final

/-- What comes out of a call has what was raised inside behind untyped exceptions at most. -/
def Carries : Prop :=
  ∀ raised, ∃ wrappers, (surface raised).path = wrappers ++ raised.path ∧
    ∀ node ∈ wrappers, node.kind.isUntyped = true

end Functions

section Runs

variable {σ α : Type} {guest : Guest σ} {dispatch : Option (Dispatch σ)} {surface : Raised → Raised}

/-- A host function that returns, returns to the guest. -/
theorem hosted_ok {body : EStateM Raised σ α} {value : α} {state after : σ}
    (returned : body state = .ok value after) : hosted surface body state = .ok value after := by
  change EStateM.tryCatch body _ state = _
  unfold EStateM.tryCatch
  rw [returned]

/-- What a host function raises comes out of the call. -/
theorem hosted_error {body : EStateM Raised σ α} {raised : Raised} {state after : σ}
    (failed : body state = .error raised after) :
    hosted surface body state = .error (surface raised) after := by
  change EStateM.tryCatch body _ state = _
  unfold EStateM.tryCatch
  rw [failed]
  rfl

/-- Code runs like what is left of it. -/
theorem Code.Leads.run {code last : Code σ} {state final : σ}
    (leads : Code.Leads guest dispatch code state last final) :
    code.run guest dispatch surface state = last.run guest dispatch surface final := by
  induction leads with
  | refl => rfl
  | computes _ inductionHypothesis => exact inductionHypothesis
  | prints printed _ inductionHypothesis =>
    exact (bind_of_ok (hosted_ok printed)).trans inductionHypothesis
  | calls returned _ inductionHypothesis =>
    exact (bind_of_ok (hosted_ok returned)).trans inductionHypothesis

/-- A typed error that came out of a call is raised again with its class and its text.

Proof: what carries the error has nothing typed in front of it, so the search finds it. An
error that nothing carries passes, or is found at once. -/
theorem Carries.reraised (carries : Carries surface) {inner : Raised}
    (typed : inner.kind.isOpa = true) :
    (reraised true (surface inner)).kind = inner.kind ∧
      (reraised true (surface inner)).text = inner.text ∧
      (reraised true (surface inner)).kind.isException = true := by
  obtain ⟨wrappers, path, untyped⟩ := carries inner
  have found : (surface inner).typedInChain = some ⟨inner.kind, inner.text, wrappers⟩ := by
    have apart : ∀ node ∈ wrappers, node.kind.isOpa = false := by
      intro node member
      simpa using (Bool.and_eq_true_iff.mp (untyped node member)).2
    rw [Raised.typedInChain, path, Raised.path, splitTyped_append apart typed]
    rfl
  have isException := isException_of_isOpa typed
  cases wrappers with
  | nil =>
    obtain ⟨kind, text⟩ : (surface inner).kind = inner.kind ∧ (surface inner).text = inner.text := by
      simpa [Raised.path] using (List.cons.inj path).1
    unfold ExceptionChains.reraised
    split_ifs with passes caught
    · exact ⟨kind, text, kind ▸ isException⟩
    · simp [evaluationFailure, found, isException]
    · exact absurd (kind ▸ isException) caught
  | cons outer wrappers =>
    have kind : (surface inner).kind = outer.kind := congrArg Node.kind (List.cons.inj path).1
    have both := Bool.and_eq_true_iff.mp (untyped outer List.mem_cons_self)
    have apart : isPassthrough (surface inner).kind = false := by
      by_contra passes
      have isOpa := isOpa_of_isPassthrough (Bool.eq_true_of_not_eq_false passes)
      simp [← kind, isOpa] at both
    have caught : (surface inner).kind.isException = true := kind ▸ both.1
    simp [ExceptionChains.reraised, apart, caught, evaluationFailure, found, isException]

end Runs

section Evaluations

variable {σ : Type} {setup : Setup σ} {dispatch : Option (Dispatch σ)} {surface : Raised → Raised}
  {code : Int → Int → Int → Int → Int → Code σ} {input : Document} {inputBytes : List UInt8}
  {entrypointId inputAddr heapPtr : Int} {start entered ready : World σ}

/-- An instance on which `opa_eval` runs the code of the module. -/
def evaluating (setup : Setup σ) (dispatch : Option (Dispatch σ)) (surface : Raised → Raised)
    (code : Int → Int → Int → Int → Int → Code σ) : Setup σ :=
  { setup with
    guest := { setup.guest with
      opaEval := fun entrypointId dataAddr inputAddr inputLen heapPtr =>
        (code entrypointId dataAddr inputAddr inputLen heapPtr).run setup.guest dispatch surface } }

variable
  (encoded : encodeInput setup.json .input input setup.limits.maxInputBytes
    setup.limits.parseRawJsonInput { start with enteredWasm := false } = .ok inputBytes entered)
  (prepared : enterGuest setup inputBytes { entered with enteredWasm := true } =
    .ok (inputAddr, heapPtr) ready)
include encoded prepared

/-- A typed error of a host function arrives at the caller of `evaluate` with its class and its
text, and the instance is poisoned.

Proof: the evaluation is run to `opa_eval`, which raises what the host function raised; both
handlers recognise a typed error in it and raise it again with its class and text. -/
theorem host_error_arrives (carries : Carries surface) {inner : Raised} {guest : σ}
    (typed : inner.kind.isOpa = true)
    (failed : (code entrypointId ready.dataAddr inputAddr inputBytes.length heapPtr).run setup.guest
      dispatch surface ready.guest = .error (surface inner) guest) :
    Ends (evaluate (evaluating setup dispatch surface code) input entrypointId) start
      (fun _ _ => False) (fun raised after => raised.kind = inner.kind ∧ raised.text = inner.text ∧
        after.poisoned = true ∧ after.guest = guest) := by
  obtain ⟨kind, text, caught⟩ := carries.reraised typed
  have inside : ready.enteredWasm = true :=
    ((reports_enterGuest setup inputBytes _).of_ok prepared).1.enteredWasm
  apply ends_bind
  apply ends_modify
  apply ends_exceptFor
  apply ends_bind
  apply ends_tryCatch
  apply (ends_of_ok encoded).mono ?_ (fun _ _ => False.elim)
  intro bytes world same
  rw [same.1, same.2]
  apply ends_tryCatch
  apply ends_bind
  apply ends_modify
  apply ends_bind
  apply (ends_of_ok prepared).mono ?_ (fun _ _ => False.elim)
  intro addrs world same
  rw [same.1, same.2]
  apply ends_bind
  apply ends_field
  apply ends_bind
  apply ends_call
  apply (ends_of_error failed).mono (fun _ _ => False.elim)
  intro raised after same
  rw [same.1, same.2]
  apply ends_handleFailure_entered
  refine ⟨fun _ => ?_, fun passes => ?_⟩
  · apply ends_bind
    apply ends_modify
    exact ends_throw ⟨kind, text, by simp [inside], rfl⟩
  · rw [caught] at passes
    cases passes

end Evaluations

section Messages

variable {σ : Type} {guest : Guest σ} {memory : σ → List UInt8}

/-- `Memory.read` of the runtime, which takes its range like a slice. -/
def ReadsSlices (guest : Guest σ) (memory : σ → List UInt8) : Prop :=
  ∀ start stop state, guest.memoryRead start stop state =
    .ok (pythonSlice (memory state) start stop) state

/-- The bytes of the message at an address. -/
def messageAt (data : List UInt8) (addr : Int) : List UInt8 :=
  beforeNul (pythonSlice data addr (addr + messageLimit))

/-- The text that is read at an address. -/
theorem readCstringLenient_reads (reads : ReadsSlices guest memory) (addr : Int) (state : σ) :
    readCstringLenient guest addr messageLimit state =
      .ok (display (Utf8.decodeReplacing (messageAt (memory state) addr))) state := by
  have read : exceptFor Kind.isException
      (some <$> guest.memoryRead addr (addr + messageLimit)) (fun _ => pure none) state =
        .ok (some (pythonSlice (memory state) addr (addr + messageLimit))) state := by
    change EStateM.tryCatch (EStateM.map some (guest.memoryRead addr (addr + messageLimit))) _ state = _
    unfold EStateM.tryCatch EStateM.map
    rw [reads]
  exact bind_of_ok read

/-- Printing leaves the guest as it is, whatever lies at the address. -/
theorem opaPrintln_returns (reads : ReadsSlices guest memory) (addr : Int) (state : σ) :
    opaPrintln guest addr state = .ok ⟨⟩ state :=
  bind_of_ok (readCstringLenient_reads reads addr state)

/-- An abort raises what lies at the address. -/
theorem opaAbort_raises (reads : ReadsSlices guest memory) (addr : Int) (state : σ) :
    opaAbort guest addr state =
      .error (opaError .abort (display (Utf8.decodeReplacing (messageAt (memory state) addr)))) state :=
  bind_of_ok (readCstringLenient_reads reads addr state)

/-- A diagnostic never fails, even where the memory cannot be read. -/
theorem ends_readCstringLenient (addr : Int) (limit : Nat) (state : σ) :
    Ends (readCstringLenient guest addr limit) state (fun _ _ => True)
      (fun raised _ => raised.kind.isException = false) := by
  apply ends_bind
  apply ends_exceptFor
  apply ends_true.mono
  · intro data? after _
    cases data? <;> exact ends_pure trivial
  · exact fun raised after _ => ⟨fun _ => ends_pure (ends_pure trivial), id⟩

/-- The bytes before a NUL, cut. -/
theorem beforeNul_take {bytes behind : List UInt8} (present : 0 ∉ bytes) (limit : Nat) :
    beforeNul ((bytes ++ 0 :: behind).take limit) = bytes.take limit := by
  induction bytes generalizing limit with
  | nil => cases limit <;> rfl
  | cons byte bytes inductionHypothesis =>
    obtain ⟨nonzero, present⟩ := not_or.mp (mt List.mem_cons.mpr present)
    cases limit with
    | zero => rfl
    | succ limit =>
      have kept := inductionHypothesis present limit
      unfold beforeNul at kept ⊢
      simpa [List.takeWhile_cons, Ne.symm nonzero] using kept

/-- A range that begins inside the memory. -/
theorem pythonSlice_eq {data : List UInt8} {addr : Int} (positive : 0 ≤ addr) (limit : Nat) :
    pythonSlice data addr (addr + limit) = (data.drop addr.toNat).take limit := by
  have first : sliceIndex data.length addr = min addr.toNat data.length := if_neg (by omega)
  have last : sliceIndex data.length (addr + limit) = min (addr.toNat + limit) data.length := by
    unfold sliceIndex
    rw [if_neg (by omega)]
    congr 1
    omega
  rw [pythonSlice, first, last, List.drop_take]
  by_cases within : addr.toNat ≤ data.length
  · rw [Nat.min_eq_left within, List.take_eq_take_iff, List.length_drop]
    omega
  · have nothing {start : Nat} (beyond : data.length ≤ start) : data.drop start = [] :=
      List.drop_eq_nil_of_le beyond
    rw [nothing (by omega), nothing (by omega), List.take_nil, List.take_nil]

/-- The bytes of a text that lies at an address with its NUL. -/
theorem messageAt_text {data behind : List UInt8} {text : List Nat} {addr : Int}
    (positive : 0 ≤ addr) (scalars : Utf8.IsText text) (present : 0 ∉ text)
    (lies : data.drop addr.toNat = Utf8.encode text ++ 0 :: behind) :
    messageAt data addr = (Utf8.encode text).take messageLimit := by
  have absent : 0 ∉ Utf8.encode text :=
    Utf8.zero_not_mem_encode (fun point member => (scalars point member).lt)
      (fun point member zero => present (zero ▸ member))
  rw [messageAt, pythonSlice_eq positive, lies]
  exact beforeNul_take absent messageLimit

end Messages

/-- What a policy says when it aborts arrives. The caller of `evaluate` gets an
`OpaAbortError`, whatever the code of the module did before and whichever exceptions of the
runtime come with it, and the instance is poisoned. The error has a text for any bytes at the
address, and unless it has a replacement character it has just these bytes. A text with a
NUL behind it is shown as it is, up to the limit of the scan, with a replacement character
where the limit is inside a character. -/
theorem abort_message_arrives {σ : Type} {setup : Setup σ} {dispatch : Option (Dispatch σ)}
    {surface : Raised → Raised} {code : Int → Int → Int → Int → Int → Code σ} {input : Document}
    {inputBytes : List UInt8} {entrypointId inputAddr heapPtr addr : Int}
    {start entered ready : World σ} {rest : Code σ} {guest : σ} {memory : σ → List UInt8}
    (carries : Carries surface) (reads : ReadsSlices setup.guest memory)
    (encoded : encodeInput setup.json .input input setup.limits.maxInputBytes
      setup.limits.parseRawJsonInput { start with enteredWasm := false } = .ok inputBytes entered)
    (prepared : enterGuest setup inputBytes { entered with enteredWasm := true } =
      .ok (inputAddr, heapPtr) ready)
    (leads : Code.Leads setup.guest dispatch
      (code entrypointId ready.dataAddr inputAddr inputBytes.length heapPtr) ready.guest
      (.aborts addr rest) guest) :
    ∃ shown,
      Ends (evaluate (evaluating setup dispatch surface code) input entrypointId) start
        (fun _ _ => False) (fun raised after => raised.kind = .opa .abort ∧
          raised.text = display shown ∧ after.poisoned = true ∧ after.guest = guest) ∧
      Utf8.IsText shown ∧
      (Utf8.replacement ∉ shown → Utf8.encode shown = messageAt (memory guest) addr) ∧
      ∀ text behind, Utf8.IsText text → 0 ∉ text → 0 ≤ addr →
        (memory guest).drop addr.toNat = Utf8.encode text ++ 0 :: behind →
        Utf8.Shown messageLimit text shown := by
  refine ⟨Utf8.decodeReplacing (messageAt (memory guest) addr), ?_, Utf8.isText_decodeReplacing _,
    Utf8.encode_decodeReplacing, fun text behind scalars present positive lies => ?_⟩
  · have aborted := opaAbort_raises reads addr guest
    generalize display (Utf8.decodeReplacing (messageAt (memory guest) addr)) = message at aborted ⊢
    have typed : (opaError .abort message).kind.isOpa = true := rfl
    refine host_error_arrives encoded prepared carries typed ?_
    rw [leads.run]
    exact bind_of_error (hosted_error aborted)
  · rw [messageAt_text positive scalars present lies]
    exact Utf8.decode_take scalars messageLimit

/-- Bytes in a memory. -/
def written (addr : Int) (data memory : List UInt8) : List UInt8 :=
  memory.take addr.toNat ++ data ++ memory.drop (addr.toNat + data.length)

/-- A guest with one small memory. -/
def smallGuest : Guest (List UInt8) where
  opaMalloc _ := pure 8
  opaJsonParse addr _ := pure addr
  opaJsonDump addr := pure addr
  opaHeapPtrGet := pure 16
  opaHeapPtrSet _ := pure ⟨⟩
  entrypoints := pure 0
  builtins := pure 0
  opaEval _ _ _ _ _ := pure 0
  memoryLen := List.length <$> get
  memoryRead start stop memory := .ok (pythonSlice memory start stop) memory
  memoryWrite addr data := modify (written addr data)
  setEpochDeadline _ := pure ⟨⟩
  startTicker := pure ⟨⟩

/-- An instance around it. -/
def smallSetup : Setup (List UInt8) where
  native := ⟨.ok (List.replicate 48 0), fun _ _ => pure ⟨⟩, fun _ => pure ⟨⟩, pure ⟨⟩⟩
  guest := smallGuest
  maxMemoryPages := none
  json := ⟨fun _ => .ok .none, fun _ => .ok [], fun _ => .ok "None"⟩
  limits := ⟨100, 100, 100, 100, false⟩
  exports := ⟨[], [], []⟩
  timeoutTicks := none

/-- A module that prints its input, writes a text, and aborts with it. -/
def refusing (_ _ inputAddr _ _ : Int) : Code (List UInt8) :=
  .prints inputAddr (.computes (written 32 [110, 111, 0]) (fun _ => .aborts 32 (.returns 0)))

/-- What a host function raises arrives behind a trap. -/
def behindTrap (raised : Raised) : Raised := ⟨.trap false, "error while executing", raised.path⟩

/-- The abort arrives with its text. -/
theorem abort_message_arrives_refused :
    ∃ (raised : Raised) (after : World (List UInt8)),
      outcome (evaluate (evaluating smallSetup none behindTrap refusing) (.bytes [123, 125]) 0)
        (WasmtimeRuntime.created (List.replicate 48 0)) = .error raised ∧
      raised.kind = .opa .abort ∧ raised.text = display [110, 111] ∧ after.poisoned = true ∧
        after.guest = written 32 [110, 111, 0] (written 8 [123, 125] (List.replicate 48 0)) := by
  have reads : ReadsSlices smallSetup.guest id := fun _ _ _ => rfl
  have carries : Carries behindTrap :=
    fun raised => ⟨[⟨.trap false, "error while executing"⟩], rfl, by simp [Kind.isUntyped]; decide⟩
  have encoded : encodeInput smallSetup.json .input (.bytes [123, 125])
      smallSetup.limits.maxInputBytes smallSetup.limits.parseRawJsonInput
      { WasmtimeRuntime.created (List.replicate 48 (0 : UInt8)) with enteredWasm := false } =
        .ok [123, 125] (WasmtimeRuntime.created (List.replicate 48 0)) := rfl
  have prepared : enterGuest smallSetup [123, 125]
      { WasmtimeRuntime.created (List.replicate 48 0) with enteredWasm := true } =
        .ok (8, 16) { WasmtimeRuntime.created (written 8 [123, 125] (List.replicate 48 0)) with
          enteredWasm := true } := rfl
  have leads : Code.Leads smallSetup.guest none (refusing 0 0 8 ([123, 125] : List UInt8).length 16)
      (written 8 [123, 125] (List.replicate 48 0)) (.aborts 32 (.returns 0))
      (written 32 [110, 111, 0] (written 8 [123, 125] (List.replicate 48 0))) :=
    .prints (opaPrintln_returns reads 8 _) (.computes (.refl _ _))
  obtain ⟨shown, arrives, -, -, text⟩ := @abort_message_arrives (List UInt8) smallSetup none
    behindTrap refusing _ _ 0 _ _ _ _ _ _ _ _ id carries reads encoded prepared leads
  have shows := text [110, 111] (List.replicate 13 0) (by decide) (by decide) (by decide) (by decide)
  obtain rfl := shows.eq_of_fits (by decide)
  exact arrives.outcome_error

end OpaPyWasm.HostImports
