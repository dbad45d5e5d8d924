import OpaPyWasm.PolicyApi
import OpaPyWasm.RuntimeConstruction

/-!
# The memory that a module asks for

A module asks for memory in two ways: its import of `env.memory` declares a minimum of pages,
and its active data segments reach into some page. The host guesses the size of the memory. It
tries again with more pages where the data overflow them, and gives up where the declared
minimum is larger, since linking then fails without a trap.
-/

namespace OpaPyWasm.RuntimeConstruction

open Exceptions Values Effects GuestCalls WasmtimeRuntime

variable {σ : Type} {native : Native σ} {guest : Guest σ} {pages : σ → Nat} {minimum extent : Nat}
  {maxMemoryPages : Option Nat}

/-- How the native calls instantiate a valid module that declares a minimum of pages and no
maximum, and whose data reach into a page. A memory of fewer pages than the minimum is refused
by the linker, without a trap; one of fewer pages than the data need traps out of bounds. -/
structure Instantiates (native : Native σ) (guest : Guest σ) (pages : σ → Nat)
    (minimum extent : Nat) : Prop where
  newStore : native.newStore.toOption.isSome
  setEpochDeadline : ∀ ticks state,
    Ends (guest.setEpochDeadline ticks) state (fun _ _ => True) (fun _ _ => False)
  newMemory : ∀ initial maximum state, (∀ most, maximum = some most → initial ≤ most) →
    Ends (native.newMemory initial maximum) state (fun _ after => pages after = initial)
      (fun _ _ => False)
  setLimits : ∀ bytes state,
    Ends (native.setLimits bytes) state (fun _ after => pages after = pages state)
      (fun _ _ => False)
  instantiate : ∀ state, Ends native.instantiate state
    (fun _ _ => minimum ≤ pages state ∧ extent ≤ pages state)
    (fun raised _ => pages state < minimum ∧ raised.kind = .wasmtimeError ∨
      minimum ≤ pages state ∧ pages state < extent ∧ raised.kind = .trap true)

/-- An attempt ends as linking and instantiation do with so many pages. -/
theorem attempt_instantiates (instantiates : Instantiates native guest pages minimum extent)
    {initialPages : Nat} (admitted : ∀ most, maxMemoryPages = some most → initialPages ≤ most)
    (world : World σ) :
    Ends (attempt native guest maxMemoryPages initialPages) world
      (fun _ _ => minimum ≤ initialPages ∧ extent ≤ initialPages)
      (fun raised _ => initialPages < minimum ∧ raised.kind = .wasmtimeError ∨
        minimum ≤ initialPages ∧ initialPages < extent ∧ raised.kind = .trap true) := by
  apply (ends_called (instantiates.setEpochDeadline _ world.guest)).next
  intro _ armed _
  apply (ends_called (instantiates.newMemory initialPages maxMemoryPages armed.guest admitted)).next
  intro _ allocated sized
  have limited : Ends (limitMemory native maxMemoryPages) allocated
      (fun _ after => pages after.guest = pages allocated.guest) (fun _ _ => False) := by
    unfold limitMemory
    cases maxMemoryPages with
    | none => exact ends_pure rfl
    | some most => exact ends_called (instantiates.setLimits _ allocated.guest)
  apply limited.next
  intro _ capped same
  have ends := instantiates.instantiate capped.guest
  rw [same, sized] at ends
  exact ends_called ends

/-- What an attempt comes to. -/
theorem attempted_ends (instantiates : Instantiates native guest pages minimum extent)
    {initialPages : Nat} (below : initialPages ≤ instantiationCeiling maxMemoryPages) :
    attempted (fun _ => native) guest maxMemoryPages initialPages = .ok ⟨⟩ ∧
        minimum ≤ initialPages ∧ extent ≤ initialPages ∨
      ∃ raised, attempted (fun _ => native) guest maxMemoryPages initialPages = .error raised ∧
        (initialPages < minimum ∧ raised.kind = .wasmtimeError ∨
          minimum ≤ initialPages ∧ initialPages < extent ∧ raised.kind = .trap true) := by
  obtain ⟨store, made⟩ := Option.isSome_iff_exists.mp instantiates.newStore
  have opened : native.newStore = .ok store := by
    cases outcome : native.newStore with
    | ok store' =>
      rw [outcome] at made
      exact congrArg Except.ok (Option.some.inj made)
    | error raised =>
      rw [outcome] at made
      cases made
  have admitted : ∀ most, maxMemoryPages = some most → initialPages ≤ most := by
    rintro most rfl
    exact below
  have ends := attempt_instantiates instantiates admitted (created store)
  unfold attempted
  simp only [opened]
  unfold Ends at ends
  unfold outcome
  cases ended : attempt native guest maxMemoryPages initialPages (created store) with
  | ok value after =>
    rw [ended] at ends
    exact .inl ⟨rfl, ends⟩
  | error raised after =>
    rw [ended] at ends
    exact .inr ⟨raised, rfl, ends⟩

/-- The constructor tries again where the minimum is met and the data overflow the memory, below
the ceiling. -/
theorem retried_iff (instantiates : Instantiates native guest pages minimum extent)
    {initialPages : Nat} (below : initialPages ≤ instantiationCeiling maxMemoryPages) :
    Retried (fun _ => native) guest maxMemoryPages initialPages ↔
      initialPages < instantiationCeiling maxMemoryPages ∧ minimum ≤ initialPages ∧
        initialPages < extent := by
  constructor
  · rintro ⟨room, -, raised, failed, overflow⟩
    rcases attempted_ends instantiates below with ⟨fine, -⟩ | ⟨raised', failed', reason⟩
    · cases fine.symm.trans failed
    · cases failed'.symm.trans failed
      rcases reason with ⟨-, kind⟩ | ⟨met, short, -⟩
      · simp [isMemoryOverflowTrap, kind] at overflow
      · exact ⟨room, met, short⟩
  · rintro ⟨room, met, short⟩
    rcases attempted_ends instantiates below with ⟨-, -, enough⟩ | ⟨raised, failed, reason⟩
    · omega
    · rcases reason with ⟨few, -⟩ | ⟨-, -, kind⟩
      · omega
      · exact ⟨room, instantiates.newStore, raised, failed, by simp [isMemoryOverflowTrap, kind]⟩

/-- A later attempt has no fewer pages than the first. -/
theorem pagesAt_ge {ceiling initialPages : Nat} (below : initialPages ≤ ceiling) (count : Nat) :
    initialPages ≤ pagesAt ceiling initialPages count := by
  induction count with
  | zero => exact Nat.le_refl _
  | succ count inductionHypothesis =>
    rw [pagesAt_succ]
    omega

/-- The last attempt succeeds where the minimum is no more than the first one has, and the data
fit below the ceiling. -/
theorem settled_iff (instantiates : Instantiates native guest pages minimum extent)
    (enough : defaultMemoryPages ≤ instantiationCeiling maxMemoryPages) {count : Nat}
    (settles : Settles (fun _ => native) guest maxMemoryPages defaultMemoryPages count) :
    attempted (fun _ => native) guest maxMemoryPages
        (pagesAt (instantiationCeiling maxMemoryPages) defaultMemoryPages count) = .ok ⟨⟩ ↔
      minimum ≤ defaultMemoryPages ∧ extent ≤ instantiationCeiling maxMemoryPages := by
  have bounded := (pagesAt_bounds (show 0 < defaultMemoryPages by decide) enough count).2
  have more := pagesAt_ge enough count
  have final := settles.final
  rw [retried_iff instantiates bounded] at final
  constructor
  · intro fine
    rcases attempted_ends instantiates bounded with ⟨-, met, fits⟩ | ⟨raised, failed, -⟩
    · refine ⟨?_, Nat.le_trans fits bounded⟩
      cases count with
      | zero => exact met
      | succ count =>
        have first := settles.retried 0 (Nat.succ_pos count)
        rw [retried_iff instantiates (by exact enough)] at first
        exact first.2.1
    · cases fine.symm.trans failed
  · rintro ⟨small, fits⟩
    rcases attempted_ends instantiates bounded with ⟨fine, -⟩ | ⟨raised, failed, reason⟩
    · exact fine
    · omega

/-- A module that could be instantiated below the ceiling is instantiated, and no other one, if
and only if it declares no more than 2 pages or does not fit below the ceiling at all.

Proof: an attempt with fewer pages than the declared minimum is refused for good, and this
can only be the first one. An attempt with fewer pages than the data need is tried again with
more, up to the ceiling. -/
theorem instantiated_iff (instantiates : Instantiates native guest pages minimum extent)
    (enough : defaultMemoryPages ≤ instantiationCeiling maxMemoryPages) (log : List Fault) :
    ((outcome (createRuntime native guest maxMemoryPages) log).toOption.isSome ↔
        max minimum extent ≤ instantiationCeiling maxMemoryPages) ↔
      minimum ≤ defaultMemoryPages ∨ instantiationCeiling maxMemoryPages < max minimum extent := by
  have created : (outcome (createRuntime native guest maxMemoryPages) log).toOption.isSome ↔
      minimum ≤ defaultMemoryPages ∧ extent ≤ instantiationCeiling maxMemoryPages := by
    obtain ⟨count, fits, settles⟩ :=
      settles_somewhere (fun _ => native) guest (show 0 < defaultMemoryPages by decide) enough
    have absent : ∀ store ∈ ([] : List Nat), store < 0 :=
      fun store member => absurd member List.not_mem_nil
    have ends := construct_ends enough fits settles ⟨log, 0, [], none, false, false, []⟩ rfl absent
    rw [createRuntime_returns log ⟨log, 0, [], none, false, false, []⟩ rfl,
      ← settled_iff instantiates enough settles]
    unfold Ends at ends
    unfold outcome
    cases ended : construct (fun _ => native) guest maxMemoryPages
      ⟨log, 0, [], none, false, false, []⟩ with
    | ok world after =>
      rw [ended] at ends
      exact ⟨fun _ => ends.2.2, fun _ => rfl⟩
    | error raised after =>
      rw [ended] at ends
      constructor
      · intro returned
        cases returned
      · exact fun fine => absurd fine ends.2.2
  rw [created]
  omega

/-- The rules for a module that is instantiated in memory of its own size. -/
theorem sized_instantiates (minimum extent : Nat) :
    Instantiates (sizedNative minimum extent) idleGuest id minimum extent where
  newStore := rfl
  setEpochDeadline _ _ := trivial
  newMemory _ _ _ _ := rfl
  setLimits _ _ := rfl
  instantiate pages := by
    apply ends_bind
    refine ends_ite (fun few => ends_throw (.inl ⟨few, rfl⟩)) fun met => ?_
    refine ends_ite (fun short => ends_throw (.inr ⟨?_, short, rfl⟩)) fun fits => ends_pure ⟨?_, ?_⟩
    · exact Nat.le_of_not_lt met
    · exact Nat.le_of_not_lt met
    · exact Nat.le_of_not_lt fits

/-- A module that declares 2 pages and whose data reach into the fifth. -/
theorem instantiated_iff_small :
    (outcome (createRuntime (sizedNative 2 5) idleGuest (some 6)) []).toOption.isSome ↔
      max 2 5 ≤ instantiationCeiling (some 6) :=
  (instantiated_iff (sized_instantiates 2 5) (by decide) []).mpr (.inl (by decide))

/-- A module that declares 3 pages passes the validation of its imports, but is not instantiated,
though 16 pages are admitted. -/
theorem declared_minimum_missed :
    outcome (PolicyApi.validateRequiredEnvImports .memory) [] = .ok ⟨⟩ ∧
      Instantiates (sizedNative 3 0) idleGuest id 3 0 ∧
      max 3 0 ≤ instantiationCeiling (some 16) ∧
      (outcome (createRuntime (sizedNative 3 0) idleGuest (some 16)) []).toOption.isSome = false :=
  ⟨rfl, sized_instantiates 3 0, by decide, by decide +kernel⟩

end OpaPyWasm.RuntimeConstruction
