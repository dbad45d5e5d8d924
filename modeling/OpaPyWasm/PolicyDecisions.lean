import OpaPyWasm.AddressSpace
import OpaPyWasm.StateIsolation
import OpaPyWasm.ValueCrossing

/-!
# An evaluation is the decision of the policy

A policy module is there for its decisions: on an entrypoint, the data, if there are
any, and the input. The guest parses the texts that Python writes into its memory,
evaluates, and leaves the text of the decision. How its values lie in memory is its own
affair; what lies below the heap pointer stays what it is.

An instance over such a guest, after any history of reloads, evaluations and rejected
inputs, returns the decision on the document that it loaded last and on the input that it
is given, while the limits allow it and the memory lasts.
-/

namespace OpaPyWasm.PolicyDecisions

open Exceptions Values Effects GuestCalls MemoryCodec WasmtimeRuntime PolicyInstance Regions
  JsonDocuments ValueCrossing

/-- A JSON text in UTF-8, with its value. -/
structure JsonBytes (json : Json) where
  raw : List UInt8
  value : Value
  valid : IsUtf8Json raw
  loaded : json.loads raw = .ok value
  known : IsJsonValue value

/-- What a policy module is for, its decisions, and what memory it needs: for a value that
it parses, for an evaluation, and in all. -/
structure PolicyModule where
  decision : Int → Option Value → Value → Value
  parsing : Value → Nat
  evaluating : Int → Option Value → Value → Nat
  memory : Int

section Module

variable {json : Json} (compiled : PolicyModule)

/-- The decision on texts. -/
def PolicyModule.decide (entrypointId : Int) (data : Option (JsonBytes json))
    (input : JsonBytes json) : Value :=
  compiled.decision entrypointId (data.map JsonBytes.value) input.value

/-- The memory that a text takes up with its value. -/
def PolicyModule.storing (text : JsonBytes json) : Nat :=
  text.raw.length + compiled.parsing text.value

/-- The memory that the data take up. -/
def PolicyModule.storingData : Option (JsonBytes json) → Nat
  | none => 0
  | some text => compiled.storing text

end Module

/-- Which values addresses denote, by the memory below a bound. -/
abbrev Denotation (σ : Type) := σ → Int → Int → Value → Prop

/-- The data that `opa_eval` is given; no address stands for none. -/
def Supplied {σ : Type} (denotes : Denotation σ) (state : σ) (bound addr : Int) :
    Option Value → Prop
  | none => addr = 0
  | some value => 0 < addr ∧ denotes state bound addr value

/-- The laws of a guest that runs a policy module, beside those of its memory. Where the
memory lasts, a JSON text is parsed into an address that denotes its value, and an
evaluation leaves one of the guest's texts of the decision. -/
structure Runs {σ : Type} (guest : Guest σ) (space : Space σ) (json : Json)
    (compiled : PolicyModule) (denotes : Denotation σ) (texts : Value → List UInt8 → Prop) :
    Prop extends BumpGuest guest space where
  stable : ∀ {first second bound addr value}, denotes first bound addr value →
    AgreeBelow space bound first second → denotes second bound addr value
  allocates : ∀ (length : Nat) state, space.top state + length ≤ compiled.memory →
    Ends (guest.opaMalloc length) state (fun _ _ => True) (fun _ _ => False)
  parses : ∀ (text : JsonBytes json) addr state, 0 < addr →
    addr + text.raw.length ≤ space.top state →
    slice space state addr text.raw.length = text.raw →
    space.top state + compiled.parsing text.value ≤ compiled.memory →
    Ends (guest.opaJsonParse addr text.raw.length) state
      (fun result after => 0 < result ∧ denotes after (space.top after) result text.value ∧
        space.top after ≤ space.top state + compiled.parsing text.value)
      (fun _ _ => False)
  evaluates : ∀ entrypointId data (input : JsonBytes json) bound dataAddr inputAddr heapPtr state,
    heapPtr = space.top state → 0 < inputAddr → bound ≤ inputAddr →
    inputAddr + input.raw.length ≤ heapPtr → Supplied denotes state bound dataAddr data →
    slice space state inputAddr input.raw.length = input.raw →
    heapPtr + compiled.evaluating entrypointId data input.value ≤ compiled.memory →
    Ends (guest.opaEval entrypointId dataAddr inputAddr input.raw.length heapPtr) state
      (fun addr after => ∃ text, texts (compiled.decision entrypointId data input.value) text ∧
        json.loads text = .ok (compiled.decision entrypointId data input.value) ∧ 0 ≤ addr ∧
        addr + text.length < space.size after ∧ Terminated space after addr text.length ∧
        slice space after addr text.length = text)
      (fun _ _ => False)

/-- The texts are within the limits, and the memory lasts for an evaluation with them. -/
structure Suffices {σ : Type} (setup : Setup σ) (compiled : PolicyModule)
    (texts : Value → List UInt8 → Prop) (initial entrypointId : Int)
    (data : Option (JsonBytes setup.json)) (input : JsonBytes setup.json) : Prop where
  dataWithin : ∀ text ∈ data, text.raw.length ≤ setup.limits.maxDataBytes
  inputWithin : input.raw.length ≤ setup.limits.maxInputBytes
  resultWithin : Fits setup.limits texts (compiled.decide entrypointId data input)
  memoryLasts : initial + compiled.storingData data + input.raw.length +
    compiled.evaluating entrypointId (data.map JsonBytes.value) input.value ≤ compiled.memory

/-- An instance that holds the data: its data address denotes them, and they lie between
the initial heap pointer and the checkpoint. -/
structure Holds {σ : Type} (denotes : Denotation σ) (compiled : PolicyModule) {json : Json}
    (initial : Int) (data : Option (JsonBytes json)) (world : World σ) : Prop where
  supplied : Supplied denotes world.guest world.dataHeapPtr world.dataAddr
    (data.map JsonBytes.value)
  above : initial ≤ world.dataHeapPtr
  below : world.dataHeapPtr ≤ initial + compiled.storingData data

section Texts

variable {σ : Type} {json : Json} {stage : Stage}

/-- A text with a value passes the validation. -/
theorem validated_loaded (text : JsonBytes json) (validate : Bool) :
    (validated json stage text.raw validate : Py σ (List UInt8)) = pure text.raw := by
  unfold validated
  cases validate with
  | false => rfl
  | true =>
    rw [if_pos rfl, text.loaded]
    rfl

/-- A document that is taken becomes its text, validated or not. -/
theorem coerceToJsonBytes_taken {document : Document} {text : JsonBytes json}
    (taken : Taken json document text.raw) (validate : Bool) :
    (coerceToJsonBytes json stage document validate : Py σ (List UInt8)) = pure text.raw := by
  unfold Taken at taken
  split at taken
  · obtain ⟨same, -⟩ := taken
    unfold coerceToJsonBytes
    rw [← same]
    exact validated_loaded text validate
  · rename_i given
    obtain ⟨encoded, -⟩ := taken
    change (callPython stage .encode (encodeUtf8 given) >>= fun raw =>
      validated json stage raw validate) = _
    rw [encoded]
    exact validated_loaded text validate
  · rename_i value noText
    obtain ⟨written, dumped, encoded⟩ := taken
    have same : (json.dumps value >>= encodeUtf8) = .ok text.raw := by
      rw [dumped]
      exact encoded
    unfold coerceToJsonBytes
    split
    · rename_i document
      cases document
    · rename_i other document
      exact absurd (Document.value.inj document) (noText other)
    · rename_i document
      rw [← Document.value.inj document, dumps, same]
      rfl

/-- A text within its limit passes the check. -/
theorem checkSize_within {raw : List UInt8} {limit : Nat} (within : raw.length ≤ limit)
    (kind : String) : (checkSize raw limit kind : Py σ PUnit) = pure ⟨⟩ :=
  if_neg (by omega)

/-- An input within its limit is encoded as its text. -/
theorem encodeInput_taken_within {document : Document} {text : JsonBytes json}
    (taken : Taken json document text.raw) {limit : Nat} (within : text.raw.length ≤ limit)
    (validate : Bool) :
    (encodeInput json stage document limit validate : Py σ (List UInt8)) = pure text.raw := by
  unfold encodeInput
  rw [coerceToJsonBytes_taken taken, pure_bind, checkSize_within within, pure_bind]

end Texts

variable {σ : Type} {setup : Setup σ} {space : Space σ} {compiled : PolicyModule}
  {denotes : Denotation σ} {texts : Value → List UInt8 → Prop} {stage : Stage}
  {world : World σ} {initial entrypointId : Int} {data : Option (JsonBytes setup.json)}
  {input : JsonBytes setup.json}

section Running

variable (runs : Runs setup.guest space setup.json compiled denotes texts)
include runs

/-- What is supplied stays so while the memory below its bound does. -/
theorem Runs.supplied {first second : σ} {bound addr : Int} {value : Option Value}
    (supplied : Supplied denotes first bound addr value)
    (agree : AgreeBelow space bound first second) : Supplied denotes second bound addr value := by
  cases value with
  | none => exact supplied
  | some value => exact ⟨supplied.1, runs.stable supplied.2 agree⟩

/-- Instances with the same data hold the same data. -/
theorem Runs.holds {world' : World σ} (holds : Holds denotes compiled initial data world)
    (same : SameData space world world') : Holds denotes compiled initial data world' where
  supplied := by
    rw [← same.dataAddr, ← same.dataHeapPtr]
    exact runs.supplied holds.supplied same.region
  above := same.dataHeapPtr ▸ holds.above
  below := same.dataHeapPtr ▸ holds.below

/-- Bytes are written at the heap pointer, where the memory lasts. -/
theorem writeBytes_stores (raw : List UInt8) (world : World σ)
    (positive : 0 < space.top world.guest)
    (room : space.top world.guest + raw.length ≤ compiled.memory) :
    Ends (writeBytes setup.guest stage raw) world
      (fun addr after => addr = space.top world.guest ∧
        space.top after.guest = space.top world.guest + raw.length ∧
        slice space after.guest addr raw.length = raw ∧
        AgreeBelow space addr world.guest after.guest ∧ GuestOnly world after)
      (fun _ _ => False) := by
  have allocates := (runs.opaMalloc raw.length world.guest).and
    (runs.allocates raw.length world.guest room)
  have called : Ends (call stage .opaMalloc (setup.guest.opaMalloc raw.length)) world
      (fun addr after => (addr = space.top world.guest ∧
        space.top after.guest = space.top world.guest + raw.length ∧
        space.top after.guest ≤ space.size after.guest ∧
        ∀ other, space.byte after.guest other = space.byte world.guest other) ∧
          GuestOnly world after)
      (fun _ _ => False) :=
    (call_ends (fun _ => rfl) allocates).mono (fun _ _ both => ⟨both.1.1, both.2⟩)
      (fun _ _ both => both.2)
  apply called.next
  rintro addr allocated ⟨⟨same, moved, covered, bytes⟩, framed⟩
  unfold checkPointer
  rw [if_neg (by omega)]
  apply ends_bind
  apply ends_pure
  have inside : addr + raw.length ≤ space.size allocated.guest := by omega
  apply (checkRange_quiet runs.toBumpGuest addr raw.length "write_bytes" (by omega) inside).next
  rintro _ checked ⟨-, framedLater, undisturbed⟩
  have writes := runs.memoryWrite addr raw checked.guest (by omega)
    (by rw [undisturbed.size]; exact inside)
  apply (call_ends (fun _ => rfl) writes).next
  rintro _ after ⟨written, framedLast⟩
  refine ends_pure ⟨same, ?_, written.slice, ?_, (framed.trans framedLater).trans framedLast⟩
  · rw [written.top, undisturbed.top, moved]
  · have kept : AgreeBelow space addr world.guest allocated.guest :=
      fun other _ => (bytes other).symm
    exact kept.trans ((undisturbed.agree addr).trans (written.below (Int.le_refl addr)))

/-- A document becomes a value above the heap pointer. -/
theorem pythonToOpaValue_supplies {document : Document} {text : JsonBytes setup.json}
    (taken : Taken setup.json document text.raw) {limit : Nat} (within : text.raw.length ≤ limit)
    (kind : String) (world : World σ) (positive : 0 < space.top world.guest)
    (room : space.top world.guest + compiled.storing text ≤ compiled.memory) :
    Ends (pythonToOpaValue setup.guest setup.json stage document limit kind) world
      (fun addr after => 0 < addr ∧
        denotes after.guest (space.top after.guest) addr text.value ∧
        space.top world.guest ≤ space.top after.guest ∧
        space.top after.guest ≤ space.top world.guest + compiled.storing text ∧
        GuestOnly world after)
      (fun _ _ => False) := by
  unfold PolicyModule.storing at room ⊢
  unfold pythonToOpaValue pythonToOpaValueValidating writeJsonValidating
  simp only [coerceToJsonBytes_taken taken, checkSize_within within, pure_bind, bind_assoc]
  apply (writeBytes_stores runs text.raw world positive (by omega)).next
  rintro addr stored ⟨same, moved, held, -, framed⟩
  have parses := (runs.opaJsonParse addr text.raw.length stored.guest).and
    (runs.parses text addr stored.guest (by omega) (by omega) held (by omega))
  have called : Ends (call stage .opaJsonParse (setup.guest.opaJsonParse addr text.raw.length))
      stored
      (fun result after => (space.top stored.guest ≤ space.top after.guest ∧ 0 < result ∧
        denotes after.guest (space.top after.guest) result text.value ∧
        space.top after.guest ≤ space.top stored.guest + compiled.parsing text.value) ∧
          GuestOnly stored after)
      (fun _ _ => False) :=
    (call_ends (fun _ => rfl) parses).mono (fun _ _ both => ⟨⟨both.1.1.1, both.1.2⟩, both.2⟩)
      (fun _ _ both => both.2)
  apply called.next
  rintro result after ⟨⟨grown, present, denoted, small⟩, framedLater⟩
  apply ends_ite
  · intro null
    omega
  · exact fun _ => ends_pure
      ⟨present, denoted, by omega, by omega, framed.trans framedLater⟩

/-- Setting the heap pointer moves it, and nothing else. -/
theorem heapPtrSet_moves (stage : Stage) (addr : Int) (world : World σ) :
    Ends (heapPtrSet setup stage addr) world
      (fun _ after => space.top after.guest = addr ∧
        (∀ bound, AgreeBelow space bound world.guest after.guest) ∧ GuestOnly world after)
      (fun _ _ => False) := by
  apply (call_ends (fun _ => rfl) (runs.heapPtrSet addr world.guest)).mono
  · rintro _ after ⟨⟨located, bytes⟩, framed⟩
    exact ⟨located, fun _ other _ => (bytes other).symm, framed⟩
  · exact fun _ _ => id

/-- A load supplies the data, where the memory lasts for them.

Proof: without a document the address stays null. Otherwise the text fits in the memory that
is left behind the first checkpoint, and what its address denotes is kept as the heap pointer
is read and stored. -/
theorem loadData_supplies {document : Option Document}
    (taken : Option.Rel (fun document text => Taken setup.json document text.raw) document data)
    (within : ∀ text ∈ data, text.raw.length ≤ setup.limits.maxDataBytes)
    (positive : 0 < world.initialHeapPtr)
    (room : world.initialHeapPtr + compiled.storingData data ≤ compiled.memory) :
    Ends (loadData setup document) world
      (fun _ after => Holds denotes compiled world.initialHeapPtr data after)
      (fun _ _ => False) := by
  apply ends_bind
  apply ends_field
  apply (heapPtrSet_moves runs .dataReset world.initialHeapPtr world).next
  rintro _ reset ⟨located, -, framed⟩
  cases taken with
  | none =>
    apply ends_modify
    exact ⟨rfl, Int.le_refl _, Int.le_add_of_nonneg_right (Int.natCast_nonneg _)⟩
  | @some document text taken =>
    have lasts : space.top reset.guest + compiled.storing text ≤ compiled.memory := by
      rw [located]
      exact room
    have parsed := @pythonToOpaValue_supplies σ setup space compiled denotes texts .dataLoad runs
      document text taken _ (within text rfl) "data" reset (by omega) lasts
    apply ends_bind
    apply ends_exceptFor
    apply ends_bind
    apply parsed.mono
    · rintro addr stored ⟨present, denoted, grown, small, framedLater⟩
      apply ends_modify
      have read : Ends (heapPtrGet setup .dataCheckpoint) { stored with dataAddr := addr }
          (fun value after => value = space.top stored.guest ∧
            Quiet space { stored with dataAddr := addr } after) (fun _ _ => False) :=
        heapPtrGet_quiet runs.toBumpGuest .dataCheckpoint rfl
      apply read.next
      rintro heapPtr last ⟨same, lastFramed, undisturbed⟩
      apply ends_modify
      have dataAddr : last.dataAddr = addr := lastFramed.dataAddr
      refine ⟨⟨?_, ?_⟩, ?_, ?_⟩
      · exact dataAddr ▸ present
      · rw [same]
        exact dataAddr ▸ runs.stable denoted (undisturbed.agree _)
      · change world.initialHeapPtr ≤ heapPtr
        omega
      · change heapPtr ≤ world.initialHeapPtr + (compiled.storing text : Int)
        omega
    · exact fun _ _ => False.elim

/-- Setting a deadline disturbs nothing. -/
theorem armDeadline_quiet (world : World σ) :
    Ends (armDeadline setup) world (fun _ after => Quiet space world after)
      (fun _ _ => False) := by
  unfold armDeadline
  cases setup.deadlineTicks with
  | none => exact ends_pure ⟨guestOnly_refl world, rfl, rfl, fun _ => rfl⟩
  | some ticks =>
    apply (call_ends (fun _ => rfl) (runs.setEpochDeadline ticks world.guest)).mono
    · exact fun _ _ both => ⟨both.2, both.1⟩
    · exact fun _ _ => id

/-- Clearing the deadline does not fail. -/
theorem disarmDeadline_returns (world : World σ) :
    Ends (disarmDeadline setup) world (fun _ _ => True) (fun _ _ => False) := by
  unfold disarmDeadline
  cases setup.deadlineTicks with
  | none => exact ends_pure trivial
  | some ticks =>
    apply (call_ends (fun _ => rfl) (runs.setEpochDeadline noDeadlineTicks world.guest)).mono
    · exact fun _ _ _ => trivial
    · exact fun _ _ => id

/-- Before `opa_eval` the input lies at the checkpoint, behind the data. -/
theorem enterGuest_stores (input : JsonBytes setup.json) (world : World σ)
    (positive : 0 < world.dataHeapPtr)
    (room : world.dataHeapPtr + input.raw.length ≤ compiled.memory) :
    Ends (enterGuest setup input.raw) world
      (fun addrs after => addrs.1 = world.dataHeapPtr ∧
        addrs.2 = world.dataHeapPtr + input.raw.length ∧ addrs.2 = space.top after.guest ∧
        slice space after.guest addrs.1 input.raw.length = input.raw ∧
        AgreeBelow space world.dataHeapPtr world.guest after.guest ∧ GuestOnly world after)
      (fun _ _ => False) := by
  apply (armDeadline_quiet runs world).next
  rintro _ armed ⟨framed, undisturbed⟩
  apply ends_bind
  apply ends_bind
  apply ends_field
  rw [framed.dataHeapPtr]
  apply (heapPtrSet_moves runs .evaluation world.dataHeapPtr armed).mono
  · rintro _ reset ⟨located, kept, framedReset⟩
    apply (writeBytes_stores runs input.raw reset (by omega) (by omega)).next
    rintro inputAddr stored ⟨same, moved, held, keptBelow, framedStored⟩
    have read : Ends (heapPtrGet setup .evaluation) stored
        (fun value after => value = space.top stored.guest ∧ Quiet space stored after)
        (fun _ _ => False) := heapPtrGet_quiet runs.toBumpGuest .evaluation rfl
    apply read.next
    rintro heapPtr last ⟨top, framedLast, undisturbedLast⟩
    apply ends_pure
    refine ⟨by omega, ?_, top.trans undisturbedLast.top.symm, ?_, ?_, ?_⟩
    · change heapPtr = _
      omega
    · rw [← (undisturbedLast.agree (inputAddr + input.raw.length)).slice_eq (Int.le_refl _)]
      exact held
    · rw [show inputAddr = world.dataHeapPtr by omega] at keptBelow
      exact (undisturbed.agree _).trans ((kept _).trans
        (keptBelow.trans (undisturbedLast.agree _)))
    · exact ((framed.trans framedReset).trans framedStored).trans framedLast
  · exact fun _ _ => id

/-- A text within the limits is read and parsed.

Proof: the scan returns the text, which is no larger than the limit, and `json.loads` takes
it. The reset and the deadline do not fail. -/
theorem readResult_parses {addr : Int} {text : List UInt8} {value : Value} (world : World σ)
    (within : text.length ≤ setup.limits.maxResultBytes)
    (scanned : text.length < setup.limits.maxCstringScanBytes)
    (loaded : setup.json.loads text = .ok value) (positive : 0 ≤ addr)
    (inside : addr + text.length < space.size world.guest)
    (terminated : Terminated space world.guest addr text.length)
    (stored : slice space world.guest addr text.length = text) :
    Ends (readResult setup addr) world (fun result _ => result = value) (fun _ _ => False) := by
  have read : readText space setup.limits world.guest addr text.length = .ok text := by
    unfold readText
    rw [if_pos scanned, stored]
  have reads := readCstring_reads runs.toBumpGuest.readable .evaluation setup.limits terminated
    positive inside
  apply ends_bind
  apply ends_bind
  apply reads.mono
  · rintro raw after ⟨same, -, -⟩
    cases read.symm.trans same
    rw [checkSize_within within]
    apply ends_bind
    apply ends_pure
    apply ends_exceptFor
    apply ends_callPython
    · intro result same
      cases loaded.symm.trans same
      apply ends_bind
      apply ends_bind
      apply ends_field
      apply (heapPtrSet_moves runs .evaluation after.dataHeapPtr after).mono
      · intro _ reset _
        apply (disarmDeadline_returns runs reset).next
        exact fun _ _ _ => ends_pure rfl
      · exact fun _ _ => id
    · intro error failed
      cases loaded.symm.trans failed
  · intro error after failed
    cases read.symm.trans failed

/-- The guest's part of an evaluation is the decision. -/
theorem runGuest_decides (holds : Holds denotes compiled initial data world)
    (positive : 0 < initial)
    (enough : Suffices setup compiled texts initial entrypointId data input) :
    Ends (runGuest setup input.raw entrypointId) world
      (fun result _ => result = compiled.decide entrypointId data input) (fun _ _ => False) := by
  have lasts := enough.memoryLasts
  have flagged : Holds denotes compiled initial data { world with enteredWasm := true } :=
    ⟨holds.supplied, holds.above, holds.below⟩
  apply ends_bind
  apply ends_modify
  generalize { world with enteredWasm := true } = started at flagged ⊢
  have above := flagged.above
  have below := flagged.below
  apply (enterGuest_stores runs input started (by omega) (by omega)).next
  rintro ⟨inputAddr, heapPtr⟩ entered ⟨located, behind, top, stored, kept, framed⟩
  apply ends_bind
  apply ends_field
  have supplied : Supplied denotes entered.guest started.dataHeapPtr entered.dataAddr
      (data.map JsonBytes.value) := by
    rw [framed.dataAddr]
    exact runs.supplied flagged.supplied kept
  have evaluates := runs.evaluates entrypointId (data.map JsonBytes.value) input
    started.dataHeapPtr entered.dataAddr inputAddr heapPtr entered.guest top (by omega) (by omega)
    (by omega) supplied stored (by omega)
  apply (ends_called evaluates).next
  rintro resultAddr answered ⟨text, written, loaded, present, inside, terminated, held⟩
  obtain ⟨within, scanned⟩ := enough.resultWithin text written
  exact readResult_parses runs answered within scanned loaded present inside terminated held

/-- An evaluation on an instance that holds the data returns the decision. -/
theorem evaluate_decides {document : Document} (holds : Holds denotes compiled initial data world)
    (positive : 0 < initial) (taken : Taken setup.json document input.raw)
    (enough : Suffices setup compiled texts initial entrypointId data input) :
    Ends (evaluate setup document entrypointId) world
      (fun result _ => result = compiled.decide entrypointId data input) (fun _ _ => False) := by
  apply ends_bind
  apply ends_modify
  apply ends_exceptFor
  apply ends_bind
  apply ends_tryCatch
  rw [encodeInput_taken_within taken enough.inputWithin]
  apply ends_pure
  apply ends_tryCatch
  have unentered : Holds denotes compiled initial data { world with enteredWasm := false } :=
    ⟨holds.supplied, holds.above, holds.below⟩
  exact (runGuest_decides runs unentered positive enough).mono (fun _ _ => id)
    (fun _ _ => False.elim)

section Histories

variable {origin : World σ} (opened : Opened setup origin)
  (positive : 0 < origin.initialHeapPtr)
include opened positive

/-- An instance holds what it loaded last. -/
theorem used_holds {document : Option Document} (used : Used setup document world)
    (taken : Option.Rel (fun document text => Taken setup.json document text.raw) document data)
    (within : ∀ text ∈ data, text.raw.length ≤ setup.limits.maxDataBytes)
    (room : origin.initialHeapPtr + compiled.storingData data ≤ compiled.memory) :
    Holds denotes compiled origin.initialHeapPtr data world := by
  obtain ⟨reference, loaded, same⟩ := (used_determined runs.toBumpGuest opened used).loaded
  have supplies : Ends (loadData setup document) origin
      (fun _ after => Holds denotes compiled origin.initialHeapPtr data after)
      (fun _ _ => False) := loadData_supplies runs taken within positive room
  exact runs.holds (supplies.of_ok loaded) same.symm

/-- After any history of reloads, evaluations and rejected inputs, an evaluation returns the
decision on the document that was loaded last and on its input, within the limits and while
the memory lasts.

Proof: after the history the instance holds the data that were loaded last, and the module
decides on what it holds. -/
theorem used_decides {document : Option Document} (used : Used setup document world)
    {inputDocument : Document}
    (taken : Option.Rel (fun document text => Taken setup.json document text.raw) document data)
    (inputTaken : Taken setup.json inputDocument input.raw)
    (enough : Suffices setup compiled texts origin.initialHeapPtr entrypointId data input) :
    outcome (evaluate setup inputDocument entrypointId) world =
      .ok (compiled.decide entrypointId data input) := by
  have lasts := enough.memoryLasts
  have holds := used_holds runs opened positive used taken enough.dataWithin (by omega)
  have decides := evaluate_decides runs holds positive inputTaken enough
  cases ended : evaluate setup inputDocument entrypointId world with
  | ok result after =>
    rw [outcome_ok ended, decides.of_ok ended]
  | error raised after => exact (decides.of_error ended).elim

end Histories

end Running

/-- The value of a digit or of the empty object. -/
def digitLoads (raw : List UInt8) : Except Raised Value :=
  if raw = [0x7B, 0x7D] then .ok (.dict [])
  else match raw with
    | [digit] =>
      if 0x30 ≤ digit.toNat ∧ digit.toNat < 0x3A then .ok (.int (digit.toNat - 0x30))
      else .error ⟨.jsonDecodeError, "Expecting value", []⟩
    | _ => .error ⟨.jsonDecodeError, "Expecting value", []⟩

/-- A `json` module that knows the digits and the empty object. -/
def digitJson : Json where
  loads := digitLoads
  dumps
    | .dict [] => .ok [0x7B, 0x7D]
    | .int value =>
      if 0 ≤ value ∧ value < 10 then .ok [0x30 + value.toNat]
      else .error ⟨.typeError, "not JSON serializable", []⟩
    | _ => .error ⟨.typeError, "not JSON serializable", []⟩
  repr _ := .ok "0"

/-- It knows short texts only. -/
theorem digitJson_short {raw : List UInt8} {value : Value}
    (loaded : digitJson.loads raw = .ok value) : raw.length ≤ 2 := by
  change digitLoads raw = .ok value at loaded
  unfold digitLoads at loaded
  split at loaded
  · rename_i same
    rw [same]
    exact Nat.le_refl 2
  · split at loaded
    · exact Nat.le_succ 1
    · cases loaded

/-- What the tape copies of a text that begins so, with a terminator. -/
def copied (first : UInt8) : List UInt8 :=
  if first = 0x7B then [0x7B, 0x7D, 0] else [printable first, 0]

/-- A text of this module is copied as a whole. -/
theorem copied_text (text : JsonBytes digitJson) :
    ∃ first rest, text.raw = first :: rest ∧ copied first = text.raw ++ [0] ∧ 0 ∉ text.raw := by
  have loaded : digitLoads text.raw = .ok text.value := text.loaded
  unfold digitLoads at loaded
  split at loaded
  · rename_i same
    rw [same]
    exact ⟨0x7B, [0x7D], rfl, rfl, by decide⟩
  · split at loaded
    · rename_i digit same
      by_cases known : 0x30 ≤ digit.toNat ∧ digit.toNat < 0x3A
      · have nonzero : digit ≠ 0 := by
          rintro rfl
          simp at known
        have noBrace : digit ≠ 0x7B := by
          rintro rfl
          simp at known
        rw [same]
        refine ⟨digit, [], rfl, ?_, ?_⟩
        · rw [copied, if_neg noBrace, printable, if_neg nonzero]
          rfl
        · rw [List.mem_singleton]
          exact Ne.symm nonzero
      · rw [if_neg known] at loaded
        cases loaded
    · cases loaded

/-- Whatever is copied is a terminated text. -/
theorem copied_eq (first : UInt8) :
    ∃ text, copied first = text ++ [0] ∧ 0 ∉ text ∧ text.length ≤ 2 := by
  unfold copied
  split
  · exact ⟨[0x7B, 0x7D], rfl, by decide, Nat.le_refl 2⟩
  · refine ⟨[printable first], rfl, ?_, Nat.le_succ 1⟩
    rw [List.mem_singleton]
    exact Ne.symm (printable_ne_zero first)

/-- The tape's module: the first entrypoint decides by the data, where there are any, and
every other one by the input. -/
def copyingModule : PolicyModule where
  decision entrypointId data input := if entrypointId = 0 then data.getD input else input
  parsing _ := 0
  evaluating _ _ _ := 3
  memory := 4096

/-- The address of the text that the tape copies. -/
def chosen (entrypointId data input : Int) : Int :=
  if entrypointId = 0 ∧ data ≠ 0 then data else input

/-- The first byte of it, which lies below the heap pointer. -/
def firstByte (tape : Tape) (addr heapPtr : Int) : UInt8 :=
  if addr < heapPtr then tape.cells addr else 0

/-- The tape with a copy behind the heap pointer. -/
def copyTape (tape : Tape) (addr heapPtr : Int) : Tape :=
  { tape.store heapPtr (copied (firstByte tape addr heapPtr)) with
    top := heapPtr + (copied (firstByte tape addr heapPtr)).length }

/-- A guest whose values are their texts, and whose decision is one of them. -/
def copyingGuest : Guest Tape :=
  { tapeGuest with
    opaEval := fun entrypointId data input _ heapPtr tape =>
      if 0 ≤ heapPtr ∧ heapPtr + 3 ≤ 4096 then
        .ok heapPtr (copyTape tape (chosen entrypointId data input) heapPtr)
      else .error outOfMemory tape }

/-- An address denotes the value of the text that lies there. -/
def textAt : Denotation Tape := fun tape bound addr value =>
  ∃ text : JsonBytes digitJson, text.value = value ∧
    slice tapeSpace tape addr text.raw.length = text.raw ∧ addr + text.raw.length ≤ bound

/-- A copy lies behind the heap pointer and is a terminated text. -/
theorem copyTape_leaves (tape : Tape) (addr heapPtr : Int) {text : List UInt8}
    (copies : copied (firstByte tape addr heapPtr) = text ++ [0]) (plain : 0 ∉ text) :
    AgreeBelow tapeSpace heapPtr tape (copyTape tape addr heapPtr) ∧
      Terminated tapeSpace (copyTape tape addr heapPtr) heapPtr text.length ∧
      slice tapeSpace (copyTape tape addr heapPtr) heapPtr text.length = text := by
  have written := store_written tape heapPtr (copied (firstByte tape addr heapPtr))
  have kept := written.below (Int.le_refl heapPtr)
  rw [copies] at written
  obtain ⟨terminated, same⟩ := terminated_written written plain
  rw [copies] at kept
  unfold copyTape
  rw [copies]
  exact ⟨kept, ⟨terminated.text, terminated.terminator⟩, same⟩

/-- Tapes that agree below the heap pointer hold the same copy. -/
theorem copyTape_agree {first second : Tape} (addr heapPtr : Int)
    (agree : AgreeBelow tapeSpace heapPtr first second) :
    (copyTape first addr heapPtr).top = (copyTape second addr heapPtr).top ∧
      AgreeBelow tapeSpace (copyTape first addr heapPtr).top (copyTape first addr heapPtr)
        (copyTape second addr heapPtr) := by
  have same : firstByte first addr heapPtr = firstByte second addr heapPtr := by
    unfold firstByte
    by_cases below : addr < heapPtr
    · rw [if_pos below, if_pos below]
      exact agree addr below
    · rw [if_neg below, if_neg below]
  have written := store_written first heapPtr (copied (firstByte first addr heapPtr))
  have written' := store_written second heapPtr (copied (firstByte second addr heapPtr))
  rw [← same] at written'
  have both := agree.written written written'
  unfold copyTape
  rw [← same]
  exact ⟨rfl, both⟩

/-- The tape with copies is a deterministic guest with a bump allocator. -/
theorem copying_bump : BumpGuest copyingGuest tapeSpace where
  heapPtrGet := tape_bump.heapPtrGet
  heapPtrSet := tape_bump.heapPtrSet
  memoryLen := tape_bump.memoryLen
  memoryRead := tape_bump.memoryRead
  memoryWrite := tape_bump.memoryWrite
  setEpochDeadline := tape_bump.setEpochDeadline
  startTicker := tape_bump.startTicker
  opaMalloc := tape_bump.opaMalloc
  opaMalloc_alike := tape_bump.opaMalloc_alike
  opaJsonParse := tape_bump.opaJsonParse
  opaJsonParse_alike := tape_bump.opaJsonParse_alike
  opaEval entrypointId data input length heapPtr tape atTop := by
    unfold Ends copyingGuest
    by_cases fits : 0 ≤ heapPtr ∧ heapPtr + 3 ≤ 4096
    · obtain ⟨text, copies, plain, short⟩ :=
        copied_eq (firstByte tape (chosen entrypointId data input) heapPtr)
      obtain ⟨kept, terminated, -⟩ := copyTape_leaves tape _ heapPtr copies plain
      have top : tapeSpace.top (copyTape tape (chosen entrypointId data input) heapPtr) =
          heapPtr + ((text ++ [0]).length : Nat) := by
        rw [← copies]
        rfl
      rw [List.length_append, List.length_singleton] at top
      simp only [if_pos fits]
      refine ⟨by omega, kept, ?_, text.length, fits.1, by omega, terminated⟩
      rw [top]
      change heapPtr + ((text.length + 1 : Nat) : Int) ≤ 4096
      omega
    · simp only [if_neg fits]
  opaEval_alike entrypointId data input length heapPtr first second below atTop atTop' agree := by
    unfold Alike copyingGuest
    by_cases fits : 0 ≤ heapPtr ∧ heapPtr + 3 ≤ 4096
    · simp only [if_pos fits]
      exact ⟨trivial, copyTape_agree _ heapPtr agree⟩
    · simp only [if_neg fits]
      exact ⟨trivial, trivial⟩

/-- It runs its module.

Proof: a load leaves the text where it was written, so what an address denotes is the text
found there. An evaluation copies one digit of the chosen document and a terminator to its
heap, and the digit is the whole text. -/
theorem copying_runs : Runs copyingGuest tapeSpace digitJson copyingModule textAt
    (fun value raw => digitJson.loads raw = .ok value) where
  toBumpGuest := copying_bump
  stable := by
    rintro first second bound addr value ⟨text, same, held, below⟩ agree
    exact ⟨text, same, by rw [← agree.slice_eq below]; exact held, below⟩
  allocates length tape room := by
    have fits : tape.top + length ≤ 4096 := room
    unfold Ends copyingGuest tapeGuest
    simp [fits]
  parses text addr tape positive below held room :=
    ⟨positive, ⟨text, rfl, held, below⟩, Int.le_add_of_nonneg_right (Int.natCast_nonneg _)⟩
  evaluates := by
    intro entrypointId data input bound dataAddr inputAddr heapPtr tape top positive behind below
      supplied held room
    have fits : 0 ≤ heapPtr ∧ heapPtr + 3 ≤ 4096 := ⟨by omega, room⟩
    obtain ⟨text, same, located, lies⟩ : ∃ text : JsonBytes digitJson,
        text.value = copyingModule.decision entrypointId data input.value ∧
        slice tapeSpace tape (chosen entrypointId dataAddr inputAddr) text.raw.length = text.raw ∧
        chosen entrypointId dataAddr inputAddr + text.raw.length ≤ heapPtr := by
      unfold chosen copyingModule
      cases data with
      | none =>
        have absent : dataAddr = 0 := supplied
        rw [if_neg (fun both => both.2 absent)]
        exact ⟨input, by simp, held, below⟩
      | some value =>
        obtain ⟨present, text, same, located, lies⟩ := supplied
        by_cases first : entrypointId = 0
        · rw [if_pos ⟨first, by omega⟩]
          exact ⟨text, by simp [first, same], located, by omega⟩
        · rw [if_neg (fun both => first both.1)]
          exact ⟨input, by simp [first], held, below⟩
    obtain ⟨first, rest, begins, copies, plain⟩ := copied_text text
    have short := digitJson_short text.loaded
    have byte : firstByte tape (chosen entrypointId dataAddr inputAddr) heapPtr = first := by
      rw [begins, List.length_cons] at lies
      have head := congrArg List.head? located
      rw [begins] at head
      rw [firstByte, if_pos (by omega)]
      have cell : tapeSpace.byte tape (chosen entrypointId dataAddr inputAddr) = first := by
        simpa [slice, List.range_succ_eq_map] using head
      exact cell
    rw [← byte] at copies
    have leaves := copyTape_leaves tape (chosen entrypointId dataAddr inputAddr) heapPtr copies plain
    unfold Ends copyingGuest
    simp only [if_pos fits]
    refine ⟨text.raw, ?_, ?_, fits.1, ?_, leaves.2.1, leaves.2.2⟩
    · rw [← same]
      exact text.loaded
    · rw [← same]
      exact text.loaded
    · change heapPtr + (text.raw.length : Int) < 4096
      omega

/-- A tape with the empty object at the address of its metadata. -/
def emptyTape : Tape := ⟨1024, fun addr => if addr = 8 then 0x7B else if addr = 9 then 0x7D else 0⟩

/-- A policy on the tape, without builtins. -/
def copyingSetup : Setup Tape :=
  { tapeSetup with
    native := { tapeNative with newStore := .ok emptyTape }
    guest := copyingGuest
    json := digitJson }

/-- A digit that is not zero is a JSON text. -/
theorem digit_isJson {point : Nat} (low : 0x31 ≤ point) (high : point < 0x3A) :
    JsonText.IsJson false [point] := by
  have blank : JsonText.IsSpace [] := fun _ absent => absurd absent List.not_mem_nil
  have digit : JsonText.IntPart [point] :=
    .digits ⟨⟨by omega, by omega⟩, by omega⟩ (fun _ absent => absurd absent List.not_mem_nil)
  have number : JsonText.Derives false .value [point] :=
    .number (.of (.inl rfl) digit .absent .absent)
  exact .of blank number blank

/-- The texts of two numbers. -/
def sevenBytes : JsonBytes digitJson :=
  ⟨[0x37], .int 7, ⟨[0x37], rfl, digit_isJson (by decide) (by decide)⟩, rfl, .int 7⟩

/-- The text of the number 3. -/
def threeBytes : JsonBytes digitJson :=
  ⟨[0x33], .int 3, ⟨[0x33], rfl, digit_isJson (by decide) (by decide)⟩, rfl, .int 3⟩

/-- The instance built with a document. -/
def copyingBuilt : World Tape :=
  (outcome (build copyingSetup (some (.bytes [0x32])) 0) []).toOption.getD (created emptyTape)

/-- That instance after an evaluation, with its document replaced. -/
def copyingReused : World Tape :=
  final (reloadData copyingSetup (some (.bytes sevenBytes.raw)) 1)
    (final (evaluate copyingSetup (.bytes [0x35]) 0) copyingBuilt)

/-- The reused instance has a history that ends with the new document. -/
theorem copying_reused : Used copyingSetup (some (.bytes sevenBytes.raw)) copyingReused := by
  have built := returned_of_outcome (created emptyTape)
    (show (outcome (build copyingSetup (some (.bytes [0x32])) 0) []).toOption.isSome = true by
      decide +kernel)
  have evaluated := returned_of_outcome Value.none
    (show (outcome (evaluate copyingSetup (.bytes [0x35]) 0) copyingBuilt).toOption.isSome = true by
      decide +kernel)
  have reloaded := done_of_outcome
    (show (outcome (reloadData copyingSetup (some (.bytes sevenBytes.raw)) 1)
      (final (evaluate copyingSetup (.bytes [0x35]) 0) copyingBuilt)).toOption.isSome = true by
        decide +kernel)
  exact .reloaded (.evaluated (.built built) evaluated) reloaded

/-- Its runtime opens, with its heap behind the metadata. -/
theorem copying_opened : ∃ origin, Opened copyingSetup origin ∧ origin.initialHeapPtr = 1024 := by
  have runtime := returned_of_outcome (created emptyTape)
    (show (outcome (createRuntime copyingSetup.native copyingSetup.guest
      copyingSetup.maxMemoryPages) []).toOption.isSome = true by decide +kernel)
  exact ⟨_, ⟨_, _, runtime, done_of_outcome (by decide +kernel)⟩, by decide +kernel⟩

/-- The texts and the memory suffice for every entrypoint. -/
theorem copying_suffices (entrypointId : Int) :
    Suffices copyingSetup copyingModule (fun value raw => digitJson.loads raw = .ok value) 1024
      entrypointId (some sevenBytes) threeBytes where
  dataWithin := by
    rintro text same
    cases Option.mem_some.mp same
    decide
  inputWithin := by decide
  resultWithin := by
    intro raw written
    have short : raw.length ≤ 2 := digitJson_short written
    exact ⟨Nat.le_trans short (by decide), Nat.lt_of_le_of_lt short (by decide)⟩
  memoryLasts := by
    change (1024 + (1 + 0 : Nat) + (1 : Nat) + (3 : Nat) : Int) ≤ 4096
    decide

/-- The used instance decides by the new document at one entrypoint, and by the input at
another. -/
theorem used_decides_reloaded :
    outcome (evaluate copyingSetup (.bytes threeBytes.raw) 0) copyingReused = .ok (.int 7) ∧
      outcome (evaluate copyingSetup (.bytes threeBytes.raw) 1) copyingReused = .ok (.int 3) := by
  obtain ⟨origin, opened, located⟩ := copying_opened
  have positive : 0 < origin.initialHeapPtr := by omega
  have taken : Option.Rel
      (fun document (text : JsonBytes copyingSetup.json) =>
        Taken copyingSetup.json document text.raw)
      (some (.bytes sevenBytes.raw)) (some sevenBytes) := .some ⟨rfl, _, sevenBytes.loaded⟩
  have inputTaken : Taken copyingSetup.json (.bytes threeBytes.raw) threeBytes.raw :=
    ⟨rfl, _, threeBytes.loaded⟩
  constructor
  · exact used_decides copying_runs opened positive copying_reused taken inputTaken
      (located ▸ copying_suffices 0)
  · exact used_decides copying_runs opened positive copying_reused taken inputTaken
      (located ▸ copying_suffices 1)

end OpaPyWasm.PolicyDecisions
