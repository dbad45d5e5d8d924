import OpaPyWasm.MemoryBounds

/-!
# Null as an answer

An export reports a failure with a null address. The codec refuses the null of the
allocator and of the two conversions; the results of `opa_eval`, `entrypoints` and
`builtins` go on without that check, so there a null is read as a text or handed to
`opa_json_dump`.
-/

namespace OpaPyWasm.GuestTrace

open Exceptions Values Effects GuestCalls MemoryCodec PolicyInstance

/-- The exports whose result the host uses as an address. -/
def Issued.returnsPointer : Issued → Bool
  | .opaMalloc _ => true
  | .opaJsonParse _ _ => true
  | .opaJsonDump _ => true
  | .opaEval _ _ _ _ _ => true
  | .entrypoints => true
  | .builtins => true
  | _ => false

/-- The exports whose result goes on without `_check_pointer`. -/
def Issued.isUnchecked : Issued → Bool
  | .opaEval _ _ _ _ _ => true
  | .entrypoints => true
  | .builtins => true
  | _ => false

/-- A call that reads or writes memory at null, or hands null on as a buffer or a value. -/
def Issued.usesNull : Issued → Bool
  | .memoryRead start _ => start == 0
  | .memoryWrite addr _ => addr == 0
  | .opaJsonParse addr _ => addr == 0
  | .opaJsonDump addr => addr == 0
  | .opaEval _ _ inputAddr _ _ => inputAddr == 0
  | _ => false

/-- After each null that an export returned nothing uses null, and the operation ends with
`OpaMemoryError`. -/
def NullHandled (failure : Option Raised) (calls : List Entry) : Prop :=
  ∀ later entry earlier, calls = later ++ entry :: earlier →
    entry.issued.returnsPointer = true → entry.address = some 0 →
      (∀ call ∈ later, call.issued.usesNull = false) ∧
        ∃ raised, failure = some raised ∧ raised.kind = .opa .memory

/-- No export returned null whose result is not checked. -/
def NoUncheckedNull (calls : List Entry) : Prop :=
  ∀ entry ∈ calls, entry.issued.isUnchecked = true → entry.address ≠ some 0

/-- Each unchecked null was used. -/
def UncheckedUsed (calls : List Entry) : Prop :=
  ∀ later entry earlier, calls = later ++ entry :: earlier →
    entry.issued.isUnchecked = true → entry.address = some 0 →
      ∃ call ∈ later, call.issued.usesNull = true

/-- No export was called whose result is not checked. -/
def Plain (calls : List Entry) : Prop := ∀ entry ∈ calls, entry.issued.isUnchecked = false

/-- Plain calls have no unchecked null to use. -/
theorem Plain.used {calls : List Entry} (plain : Plain calls) : UncheckedUsed calls := by
  rintro later entry earlier rfl unchecked -
  rw [plain entry (by simp)] at unchecked
  cases unchecked

/-- Plain calls one after another are plain. -/
theorem Plain.append {earlier later : List Entry} (first : Plain earlier) (second : Plain later) :
    Plain (later ++ earlier) := by
  intro entry member
  rcases List.mem_append.mp member with inside | inside
  · exact second entry inside
  · exact first entry inside

/-- What was used stays used. -/
theorem UncheckedUsed.append {earlier later : List Entry} (first : UncheckedUsed earlier)
    (second : UncheckedUsed later) : UncheckedUsed (later ++ earlier) := by
  intro new entry old split unchecked null
  rcases List.append_eq_append_iff.mp split with ⟨between, same, rest⟩ | ⟨between, same, rest⟩
  · obtain ⟨call, member, uses⟩ := first between entry old rest unchecked null
    exact ⟨call, by rw [same]; exact List.mem_append_right _ member, uses⟩
  · cases between with
    | nil =>
      obtain ⟨call, member, -⟩ := first [] entry old rest.symm unchecked null
      cases member
    | cons head between =>
      obtain ⟨rfl, rfl⟩ := List.cons.inj rest
      exact second new entry between same unchecked null

/-- Programs that call no such export compose. -/
theorem plain_law : TraceLaw Plain (fun _ => Plain) where
  idle _ inside := absurd inside List.not_mem_nil
  silent _ _ inside := absurd inside List.not_mem_nil
  returns := Plain.append
  raises := Plain.append

/-- Programs that use the null of such exports compose. -/
theorem used_law : TraceLaw UncheckedUsed (fun _ => UncheckedUsed) where
  idle := (plain_law.idle).used
  silent _ := (plain_law.idle).used
  returns := UncheckedUsed.append
  raises := UncheckedUsed.append

/-- A null whose export is checked is refused. -/
theorem refused_of_null {entry : Entry} (points : entry.issued.returnsPointer = true)
    (checked : entry.issued.isUnchecked = false) (null : entry.address = some 0) : entry.Refused := by
  unfold Entry.Refused
  rw [null]
  cases issued : entry.issued with
  | opaMalloc length => exact .inl (Int.le_refl 0)
  | opaJsonParse addr length => exact Int.le_refl 0
  | opaJsonDump addr => exact .inl (Int.le_refl 0)
  | opaEval | entrypoints | builtins =>
    rw [issued] at checked
    cases checked
  | _ =>
    rw [issued] at points
    cases points

/-- Sound calls returned no checked null. -/
theorem Sound.not_null {calls : List Entry} (sound : Sound calls) {entry : Entry}
    (member : entry ∈ calls) (points : entry.issued.returnsPointer = true)
    (checked : NoUncheckedNull calls) : entry.address ≠ some 0 := by
  intro null
  cases unchecked : entry.issued.isUnchecked with
  | true => exact checked entry member unchecked null
  | false => exact (sound entry member).2 (refused_of_null points unchecked null)

/-- Once no unchecked null comes back, sound calls have none to handle. -/
theorem handled_of_sound {failure : Option Raised} {calls : List Entry} (sound : Sound calls)
    (checked : NoUncheckedNull calls) : NullHandled failure calls := by
  rintro later entry earlier rfl points null
  exact absurd null (sound.not_null (by simp) points checked)

/-- Once no unchecked null comes back, guarded calls handle the one they end with.

Proof: the null that was refused is the last call but for tests of the length, so nothing used
it and the error is an `OpaMemoryError`. -/
theorem handled_of_guarded {failure : Raised} {calls : List Entry} (guarded : Guarded failure calls)
    (checked : NoUncheckedNull calls) : NullHandled (some failure) calls := by
  rcases guarded with sound | ⟨kind, checks, refused, old, rfl, sound, -, lengths⟩
  · exact handled_of_sound sound checked
  intro later entry earlier split points null
  have notLength : entry ∉ checks := by
    intro member
    rw [lengths entry member] at points
    cases points
  have notOld : entry ∉ old := by
    intro member
    have oldChecked : NoUncheckedNull old := fun other inside => checked other (by simp [inside])
    exact sound.not_null member points oldChecked null
  have same : later = checks := by
    rcases List.append_eq_append_iff.mp split with ⟨between, same, rest⟩ | ⟨between, same, rest⟩
    · cases between with
      | nil => simpa using same
      | cons head between =>
        obtain ⟨-, rfl⟩ := List.cons.inj rest
        exact absurd (by simp) notOld
    · cases between with
      | nil => simpa using same.symm
      | cons head between =>
        obtain ⟨rfl, -⟩ := List.cons.inj rest
        exact absurd (by simp [same]) notLength
  refine ⟨fun call member => ?_, failure, rfl, kind⟩
  rw [lengths call (same ▸ member)]
  rfl

/-- An unchecked null that was used was not handled. -/
theorem checked_of_handled {failure : Option Raised} {calls : List Entry}
    (used : UncheckedUsed calls) (handled : NullHandled failure calls) : NoUncheckedNull calls := by
  intro entry member unchecked null
  obtain ⟨later, earlier, split⟩ := List.append_of_mem member
  obtain ⟨call, inside, uses⟩ := used later entry earlier split unchecked null
  have points : entry.issued.returnsPointer = true := by
    cases issued : entry.issued <;> rw [issued] at unchecked <;> first | rfl | cases unchecked
  rw [(handled later entry earlier split points null).1 call inside] at uses
  cases uses

section Operations

variable {σ : Type} {guest : Guest σ} {size : σ → Nat} {limits : Limits} {stage : Stage}

/-- A call of any other export. -/
theorem plain_call {α : Type} {operation : Operation} {issued : Issued}
    {address : α → Option Int} {called : EStateM Raised σ α} (checked : issued.isUnchecked = false) :
    Adds Plain (fun _ => Plain) (call stage operation (record size issued address called)) := by
  have one : ∀ before after found, Plain [⟨issued, before, after, found⟩] := by
    intro before after found entry member
    rw [List.mem_singleton.mp member]
    exact checked
  exact adds_call one (fun before after _ => one before after none)

/-- The steps of the transfers call no unchecked export. -/
theorem plain_steps (json : Json) :
    StepLaw (recorded guest size) json stage
      (fun _ program => Adds Plain (fun _ => Plain) program) where
  toTextLaw := adds_textLaw plain_law json stage
  opaMalloc _ := plain_call rfl
  opaJsonParse _ _ := plain_call rfl
  opaJsonDump _ := plain_call rfl
  memoryLen := plain_call rfl
  memoryRead _ _ := plain_call rfl
  memoryWrite _ _ := plain_call rfl

/-- Calls that are plain, and use null if an address is null. -/
def UsesIf (addr : Int) (calls : List Entry) : Prop :=
  Plain calls ∧ (addr = 0 → ∃ call ∈ calls, call.issued.usesNull = true)

/-- More plain calls before or after keep that. -/
theorem UsesIf.append {addr : Int} {earlier later : List Entry} (plain : Plain earlier)
    (uses : UsesIf addr later) : UsesIf addr (later ++ earlier) := by
  refine ⟨plain.append uses.1, fun null => ?_⟩
  obtain ⟨call, member, used⟩ := uses.2 null
  exact ⟨call, List.mem_append_left _ member, used⟩

/-- More plain calls behind keep that too. -/
theorem UsesIf.before {addr : Int} {earlier later : List Entry} (uses : UsesIf addr earlier)
    (plain : Plain later) : UsesIf addr (later ++ earlier) := by
  refine ⟨uses.1.append plain, fun null => ?_⟩
  obtain ⟨call, member, used⟩ := uses.2 null
  exact ⟨call, List.mem_append_right _ member, used⟩

/-- A program that uses an address as it begins. -/
theorem usesIf_bind {α β : Type} {addr : Int} {program : Py (Recorded σ) α}
    {next : α → Py (Recorded σ) β}
    (first : Adds (UsesIf addr) (fun _ => UsesIf addr) program)
    (second : ∀ value, Adds Plain (fun _ => Plain) (next value)) :
    Adds (UsesIf addr) (fun _ => UsesIf addr) (program >>= next) := by
  intro world
  apply ends_bind
  apply (first world).mono
  · intro value middle earlier
    apply (second value middle).mono
    · exact fun _ after later => earlier.trans later (fun _ _ => UsesIf.before)
    · exact fun _ after later => earlier.trans later (fun _ _ => UsesIf.before)
  · exact fun _ _ => id

/-- The conversion of a value hands it to `opa_json_dump`. -/
theorem usesIf_opaValueToPython (json : Json) (valueAddr : Int) (kind : String) :
    Adds (UsesIf valueAddr) (fun _ => UsesIf valueAddr)
      (opaValueToPython (recorded guest size) json limits stage valueAddr kind) := by
  have steps : StepLaw (recorded guest size) json stage (fun _ => Adds Plain fun _ => Plain) :=
    plain_steps json
  apply usesIf_bind
  · have one : ∀ before after found, UsesIf valueAddr [⟨.opaJsonDump valueAddr, before, after, found⟩] := by
      intro before after found
      refine ⟨fun entry member => by rw [List.mem_singleton.mp member]; rfl, fun null => ?_⟩
      exact ⟨_, List.mem_singleton_self _, by simp [Issued.usesNull, null]⟩
    exact adds_call one (fun before after _ => one before after none)
  · intro dumped
    apply adds_bind plain_law (steps.checkPointer _ _)
    intro strAddr
    exact (steps.buffers limits).readJsonCstring _ _ _

/-- The first step of a scan reads memory at its start.

Proof: there is a budget and there is memory, so the first round reads at the address. -/
theorem usesIf_scan (json : Json) (chunkSize memLen : Nat) (start : Int) (left : Nat)
    (long : 0 < memLen) (chunks : 0 < chunkSize) (budget : 0 < limits.maxCstringScanBytes) :
    Adds (UsesIf 0) (fun _ => UsesIf 0)
      (scanCstring (recorded guest size) limits stage chunkSize memLen start (left + 1) 0 []) := by
  intro world
  unfold scanCstring
  dsimp only
  apply ends_ite
  · intro exhausted
    rw [List.length_nil] at exhausted
    omega
  intro _
  apply ends_ite
  · intro ended
    rw [List.length_nil] at ended
    omega
  intro _
  have steps : StepLaw (recorded guest size) json stage (fun _ => Adds Plain fun _ => Plain) :=
    plain_steps json
  refine usesIf_bind (adds_call ?_ ?_) ?_ world
  · intro before after found
    exact ⟨fun entry member => by rw [List.mem_singleton.mp member]; rfl,
      fun _ => ⟨_, List.mem_singleton_self _, rfl⟩⟩
  · intro before after _
    exact ⟨fun entry member => by rw [List.mem_singleton.mp member]; rfl,
      fun _ => ⟨_, List.mem_singleton_self _, rfl⟩⟩
  · intro chunk
    cases chunk.findIdx? (· == 0) with
    | some nul => exact steps.returns _
    | none => exact steps.scanCstring _ _ _ _ _ _

/-- `read_cstring` reads memory at its address. -/
theorem usesIf_readCstring (memory : LinearMemory guest size) (nonempty : ∀ state, 0 < size state)
    (json : Json) (budget : 0 < limits.maxCstringScanBytes) (addr : Int) :
    Adds (UsesIf addr) (fun _ => UsesIf addr)
      (readCstring (recorded guest size) limits stage addr) := by
  intro world
  by_cases null : addr = 0
  · subst null
    apply (ends_memoryLen memory world).next
    rintro memLen checked ⟨rfl, -, asked⟩
    have long := nonempty world.guest.guest
    apply ends_ite
    · intro outside
      omega
    intro _
    have plain : ∀ calls, LengthsOnly calls → Plain calls :=
      fun calls lengths entry member => by rw [lengths entry member]; rfl
    obtain ⟨left, more⟩ : ∃ left, size world.guest.guest - Int.toNat 0 = left + 1 :=
      ⟨size world.guest.guest - 1, by simp; omega⟩
    rw [more]
    apply (usesIf_scan json cstringChunk _ 0 left long (by decide) budget checked).mono
    · exact fun _ after later => asked.trans later (fun _ _ lengths => UsesIf.append (plain _ lengths))
    · exact fun _ after later => asked.trans later (fun _ _ lengths => UsesIf.append (plain _ lengths))
  · have steps : StepLaw (recorded guest size) json stage (fun _ => Adds Plain fun _ => Plain) :=
      plain_steps json
    apply (steps.readCstring addr world).mono
    · exact fun _ after added => added.mono (fun _ plain => ⟨plain, fun zero => absurd zero null⟩)
    · exact fun _ after added => added.mono (fun _ plain => ⟨plain, fun zero => absurd zero null⟩)

/-- A null that the next steps use, whatever export returned it. -/
theorem used_one {addr : Int} {issued : Issued} {before after : Nat} {calls : List Entry}
    (uses : UsesIf addr calls) : UncheckedUsed (calls ++ [⟨issued, before, after, some addr⟩]) := by
  intro later entry earlier split unchecked null
  rcases List.append_eq_append_iff.mp split with ⟨between, same, rest⟩ | ⟨between, same, rest⟩
  · cases between with
    | nil =>
      obtain ⟨rfl, -⟩ := List.cons.inj rest
      rw [List.append_nil] at same
      rw [same]
      exact uses.2 (Option.some.inj null)
    | cons head between =>
      have ended := congrArg List.length rest
      simp at ended
  · cases between with
    | nil =>
      obtain ⟨rfl, -⟩ := List.cons.inj rest
      rw [List.append_nil] at same
      rw [← same]
      exact uses.2 (Option.some.inj null)
    | cons head between =>
      obtain ⟨rfl, -⟩ := List.cons.inj rest
      rw [uses.1 entry (by simp [same])] at unchecked
      cases unchecked

/-- An unchecked null that the next steps use. -/
theorem used_bind {α : Type} {operation : Operation} {issued : Issued}
    {called : EStateM Raised σ Int} {next : Int → Py (Recorded σ) α}
    (uses : ∀ addr, Adds (UsesIf addr) (fun _ => UsesIf addr) (next addr)) :
    Adds UncheckedUsed (fun _ => UncheckedUsed)
      (call stage operation (record size issued some called) >>= next) := by
  intro world
  have ends : Ends called world.guest.guest (fun _ _ => True) (fun _ _ => True) := ends_true
  apply ends_bind
  apply (ends_recorded ends).mono
  · rintro addr middle ⟨added, -⟩
    have one : Extended (· = [⟨issued, size world.guest.guest, size middle.guest.guest, some addr⟩])
        world middle := added.extended rfl
    apply (uses addr middle).mono
    · exact fun _ after later => one.trans later (fun _ _ same uses => same ▸ used_one uses)
    · exact fun _ after later => one.trans later (fun _ _ same uses => same ▸ used_one uses)
  · rintro error after ⟨added, -⟩
    apply added.extended
    intro later entry earlier split unchecked null
    have inside : entry ∈ later ++ entry :: earlier := by simp
    rw [← split, List.mem_singleton] at inside
    rw [inside] at null
    cases null

/-- A metadata export hands its result to the conversion. -/
theorem usesIf_decodeStrIntMap (json : Json) (valueAddr : Int) (kind : String) :
    Adds (UsesIf valueAddr) (fun _ => UsesIf valueAddr)
      (decodeStrIntMap (recorded guest size) json limits stage valueAddr kind) := by
  have steps : StepLaw (recorded guest size) json stage (fun _ => Adds Plain fun _ => Plain) :=
    plain_steps json
  apply usesIf_bind (usesIf_opaValueToPython json valueAddr kind)
  intro decoded
  cases decoded <;> first | exact steps.strIntEntries _ _ | exact steps.raises _ _ rfl

end Operations

section Evaluations

variable {σ : Type} {setup : Setup σ} {size : σ → Nat}

/-- A program that leaves the guest calls no export. -/
theorem plain_leavesGuest {α : Type} {program : Py (Recorded σ) α} (leaves : LeavesGuest program) :
    Adds Plain (fun _ => Plain) program := adds_of_leavesGuest plain_law leaves

/-- `opa_heap_ptr_set` returns no pointer. -/
theorem plain_resetHeap (stage : Stage) :
    Adds Plain (fun _ => Plain) (resetHeapToCheckpoint (recordedSetup setup size) stage) := by
  apply adds_bind plain_law (plain_leavesGuest (fun _ => ends_field rfl))
  intro heapPtr
  exact plain_call rfl

/-- Before `opa_eval` no unchecked export is called. -/
theorem plain_enterGuest (inputBytes : List UInt8) :
    Adds Plain (fun _ => Plain) (enterGuest (recordedSetup setup size) inputBytes) := by
  have armed : Adds Plain (fun _ => Plain) (armDeadline (recordedSetup setup size)) := by
    unfold armDeadline
    split
    · exact plain_leavesGuest (fun _ => ends_pure rfl)
    · exact plain_call rfl
  apply adds_bind plain_law armed
  intro _
  apply adds_bind plain_law (plain_resetHeap _)
  intro _
  apply adds_bind plain_law ((plain_steps setup.json).writeBytes inputBytes)
  intro inputAddr
  apply adds_bind plain_law
  · exact plain_call rfl
  · exact fun heapPtr => plain_leavesGuest (fun _ => ends_pure rfl)

/-- The result of `opa_eval` is read without a check. -/
theorem usesIf_readResult (memory : LinearMemory setup.guest size)
    (nonempty : ∀ state, 0 < size state) (budget : 0 < setup.limits.maxCstringScanBytes)
    (resultAddr : Int) :
    Adds (UsesIf resultAddr) (fun _ => UsesIf resultAddr)
      (readResult (recordedSetup setup size) resultAddr) := by
  have steps : StepLaw (recorded setup.guest size) setup.json .evaluation
      (fun _ => Adds Plain fun _ => Plain) :=
    plain_steps setup.json
  have disarmed : Adds Plain (fun _ => Plain) (disarmDeadline (recordedSetup setup size)) := by
    unfold disarmDeadline
    split
    · exact plain_leavesGuest (fun _ => ends_pure rfl)
    · exact plain_call rfl
  unfold readResult
  apply usesIf_bind
  · apply usesIf_bind (usesIf_readCstring memory nonempty setup.json budget resultAddr)
    exact fun raw => (steps.buffers setup.limits).parsedText _ _ _
  intro result
  apply adds_bind plain_law (plain_resetHeap _)
  intro _
  apply adds_bind plain_law disarmed
  intro _
  exact plain_leavesGuest (fun _ => ends_pure rfl)

/-- A program that calls no unchecked export. -/
theorem Adds.used {α : Type} {program : Py (Recorded σ) α}
    (plain : Adds Plain (fun _ => Plain) program) :
    Adds UncheckedUsed (fun _ => UncheckedUsed) program := by
  intro world
  apply (plain world).mono
  · exact fun _ _ added => added.mono (fun _ => Plain.used)
  · exact fun _ _ added => added.mono (fun _ => Plain.used)

/-- The handlers of an evaluation call no unchecked export. -/
theorem plain_handleFailure {α : Type} (entered : Bool) (raised : Raised) :
    Adds Plain (fun _ => Plain)
      (handleFailure (α := α) (recordedSetup setup size) entered raised) := by
  have throws : ∀ error : Raised, Adds Plain (fun _ => Plain) (throw error : Py (Recorded σ) α) :=
    fun error => plain_leavesGuest (fun _ => ends_throw rfl)
  have resets : Adds Plain (fun _ => Plain) (resetHeapIfSafe (recordedSetup setup size) entered) := by
    cases entered with
    | true => exact plain_leavesGuest (fun _ => ends_pure rfl)
    | false => exact plain_resetHeap _
  unfold handleFailure
  split
  · exact adds_bind plain_law resets (fun _ => throws _)
  · split
    · exact adds_bind plain_law resets (fun _ => throws _)
    · exact throws _

/-- What a program uses stays used in its handler. -/
theorem used_tryCatch {α : Type} {program : Py (Recorded σ) α} {handler : Raised → Py (Recorded σ) α}
    (body : Adds UncheckedUsed (fun _ => UncheckedUsed) program)
    (handles : ∀ raised, Adds UncheckedUsed (fun _ => UncheckedUsed) (handler raised)) :
    Adds UncheckedUsed (fun _ => UncheckedUsed) (tryCatch program handler) := by
  intro world
  apply ends_tryCatch
  apply (body world).mono
  · exact fun _ _ => id
  · exact fun error after added => used_law.prepend (handles error) added

/-- An evaluation uses the null of `opa_eval`. -/
theorem used_evaluateOnce (memory : LinearMemory setup.guest size)
    (nonempty : ∀ state, 0 < size state) (budget : 0 < setup.limits.maxCstringScanBytes)
    (input : Document) (entrypointId : Int) :
    Adds UncheckedUsed (fun _ => UncheckedUsed)
      (evaluateOnce (recordedSetup setup size) input entrypointId) := by
  have encodes : Adds Plain (fun _ => Plain) (encodeInput (σ := Recorded σ) setup.json .input input
      setup.limits.maxInputBytes setup.limits.parseRawJsonInput) :=
    plain_leavesGuest ((leavesGuest_law setup.json .input).encodeInput _ _ _)
  apply adds_bind used_law
  · exact used_tryCatch encodes.used (fun raised => (plain_handleFailure false raised).used)
  intro inputBytes
  refine used_tryCatch ?_ (fun raised => (plain_handleFailure true raised).used)
  apply adds_bind used_law
  · exact (plain_leavesGuest (fun _ => ends_modify rfl)).used
  intro _
  apply adds_bind used_law (plain_enterGuest inputBytes).used
  intro addrs
  apply adds_bind used_law (plain_leavesGuest (fun _ => ends_field rfl)).used
  intro dataAddr
  exact used_bind (usesIf_readResult memory nonempty budget)

/-- Every operation uses an unchecked null. -/
theorem used_operation (memory : LinearMemory setup.guest size)
    (nonempty : ∀ state, 0 < size state) (budget : 0 < setup.limits.maxCstringScanBytes)
    (stage : Stage) (operation : HostOperation) :
    Adds UncheckedUsed (fun _ => UncheckedUsed)
      (operation.run (recordedSetup setup size) stage) := by
  have steps : StepLaw (recorded setup.guest size) setup.json stage (fun _ => Adds Plain fun _ => Plain) :=
    plain_steps setup.json
  have buffers := steps.buffers setup.limits
  have drops : ∀ {α : Type} {program : Py (Recorded σ) α},
      Adds UncheckedUsed (fun _ => UncheckedUsed) program →
      Adds UncheckedUsed (fun _ => UncheckedUsed) (dropped program) :=
    fun used => adds_bind used_law used (fun _ => (plain_leavesGuest (fun _ => ends_pure rfl)).used)
  cases operation with
  | writeBytes data => exact drops (steps.writeBytes data).used
  | readBytes addr length => exact drops (steps.readBytes addr length).used
  | readCstring addr => exact drops (steps.readCstring addr).used
  | writeJson document limit kind validate =>
    exact drops (buffers.writeJsonValidating document limit kind validate).used
  | readJsonCstring addr limit kind => exact drops (buffers.readJsonCstring addr limit kind).used
  | pythonToOpaValue document limit kind validate =>
    exact drops (buffers.pythonToOpaValueValidating document limit kind validate).used
  | pythonObjectToOpaValue value limit kind =>
    exact drops (buffers.pythonObjectToOpaValue value limit kind).used
  | opaValueToPython valueAddr limit kind =>
    exact drops (buffers.opaValueToPythonWithin valueAddr limit kind).used
  | decodeEntrypoints =>
    exact drops (used_bind (fun addr => usesIf_decodeStrIntMap setup.json addr "entrypoints"))
  | decodeBuiltins =>
    exact drops (used_bind (fun addr => usesIf_decodeStrIntMap setup.json addr "builtins"))
  | evaluate input entrypointId =>
    exact drops (used_evaluateOnce memory nonempty budget input entrypointId)

/-- An operation handles every null exactly if none of its calls of `opa_eval`, `entrypoints`
and `builtins` returns one.

Proof: checked nulls are always handled, since the calls are guarded. An unchecked null is
used by what follows, so it is handled in no call that returned one. -/
theorem nulls_handled_iff (memory : LinearMemory setup.guest size)
    (nonempty : ∀ state, 0 < size state) (budget : 0 < setup.limits.maxCstringScanBytes)
    (stage : Stage) (operation : HostOperation) (world : World (Recorded σ)) :
    Ends (operation.run (recordedSetup setup size) stage) world
      (fun _ after =>
        Extended (fun calls => NullHandled none calls ↔ NoUncheckedNull calls) world after)
      (fun error after =>
        Extended (fun calls => NullHandled (some error) calls ↔ NoUncheckedNull calls) world after) := by
  apply ((guarded_operation memory stage operation world).and
    (used_operation memory nonempty budget stage operation world)).mono
  · rintro _ after ⟨⟨calls, added, sound⟩, ⟨calls', added', used⟩⟩
    obtain rfl := List.append_cancel_right (added.symm.trans added')
    exact ⟨calls, added, checked_of_handled used, handled_of_sound sound⟩
  · rintro error after ⟨⟨calls, added, guarded⟩, ⟨calls', added', used⟩⟩
    obtain rfl := List.append_cancel_right (added.symm.trans added')
    exact ⟨calls, added, checked_of_handled used, handled_of_guarded guarded⟩

end Evaluations

/-- A buffer of a guest whose allocator returns null. -/
theorem nulls_handled_allocating :
    Ends (HostOperation.run (recordedSetup (fixedSetup 0 5 5) smallSize) .evaluation
        (.writeBytes [1, 2])) fixedInstance
      (fun _ after =>
        Extended (fun calls => NullHandled none calls ↔ NoUncheckedNull calls) fixedInstance after)
      (fun error after => Extended
        (fun calls => NullHandled (some error) calls ↔ NoUncheckedNull calls) fixedInstance after) :=
  @nulls_handled_iff _ (fixedSetup 0 5 5) _ (fixedGuest_linear 0 5 5)
    (fun _ => Nat.mul_pos (by decide) (Nat.succ_pos _)) (by decide) .evaluation _ _

/-- The calls of an evaluation whose `opa_eval` returns null. -/
def nullTrace : List Entry :=
  (final (evaluateOnce (recordedSetup (fixedSetup 5 0 5) smallSize) (.value (.list [])) 0)
    fixedInstance).guest.trace

/-- A decision that is undefined, the empty result set. -/
def isUndefined : Except Raised Value → Bool
  | .ok (.list []) => true
  | _ => false

/-- Such an evaluation reads memory at null, and returns the decision that it finds there. -/
theorem null_decision_returned :
    isUndefined (outcome (evaluateOnce (recordedSetup (fixedSetup 5 0 5) smallSize)
        (.value (.list [])) 0) fixedInstance) = true ∧
      ¬NullHandled none nullTrace := by
  have trace : nullTrace = [⟨.opaHeapPtrSet 0, 16, 16, none⟩, ⟨.memoryRead 0 16, 16, 16, none⟩,
      ⟨.memoryLen, 16, 16, none⟩] ++ ⟨.opaEval 0 0 5 2 0, 16, 16, some 0⟩ :: nullTrace.drop 4 := by
    decide +kernel
  refine ⟨by decide +kernel, fun handled => ?_⟩
  obtain ⟨-, raised, impossible, -⟩ := handled _ _ _ trace rfl rfl
  cases impossible

end OpaPyWasm.GuestTrace
