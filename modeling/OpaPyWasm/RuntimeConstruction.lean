import Mathlib.Data.Nat.Find
import Mathlib.Logic.Function.Iterate
import OpaPyWasm.WasmtimeRuntime

/-!
# The stores of a runtime's constructor

`WasmtimeRuntime.__init__` opens a store for each attempt, under a lock that its `close`
takes too and that is not reentrant. The process keeps count of the stores and of the lock.
The native calls of an attempt may end differently at each number of pages.
-/

namespace OpaPyWasm.RuntimeConstruction

open Exceptions Values Effects GuestCalls WasmtimeRuntime

/-- What the constructor shares with the process: the log of the calls, the stores opened so
far and those still open, the `_store` of the new runtime and the lifecycle lock. `blocked`
says that the lock was taken while it was held, and `attempts` are the numbers of pages that
were tried; both are history variables. -/
structure Process where
  faults : List Fault
  opened : Nat
  openStores : List Nat
  current : Option Nat
  locked : Bool
  blocked : Bool
  attempts : List Nat
deriving DecidableEq

/-- The code of the constructors. -/
abbrev Construct := EStateM Raised Process

variable {σ α : Type}

/-- Code that only calls, on the log of the process. -/
def calling (program : Api α) : Construct α := fun process =>
  match program process.faults with
  | .ok value log => .ok value { process with faults := log }
  | .error raised log => .error raised { process with faults := log }

/-- `with _NATIVE_LIFECYCLE_LOCK`. -/
def withLock (body : Construct α) : Construct α := do
  modify (fun process =>
    { process with blocked := process.blocked || process.locked, locked := true })
  let value ← tryCatch body (fun raised => do
    modify (fun process => { process with locked := false })
    throw raised)
  modify (fun process => { process with locked := false })
  pure value

/-- A store is open, and is that of the runtime. -/
def Process.openStore (process : Process) : Process :=
  { process with
    opened := process.opened + 1
    openStores := process.opened :: process.openStores
    current := some process.opened }

/-- `Store.close` on the store of the runtime, where it has one. -/
def Process.closeStore (process : Process) : Process :=
  { process with openStores := process.openStores.filter (fun store => some store ≠ process.current) }

/-- `WasmtimeRuntime.close`. -/
def close : Construct PUnit := withLock (modify Process.closeStore)

section Creation

variable (native : Nat → Native σ) (guest : Guest σ) (maxMemoryPages : Option Nat)

/-- Open the store of an attempt. -/
def newStore (initialPages : Nat) : Construct σ := do
  modify (fun process => { process with attempts := process.attempts ++ [initialPages] })
  let store ← calling (ask .store .newStore (native initialPages).newStore)
  modify Process.openStore
  pure store

/-- The retry loop, with its bound on the attempts. -/
def retryLoop (ceiling : Nat) : Nat → Nat → Construct (World σ)
  | 0, _ => throw (opaError .invalidPolicy "failed to instantiate policy")
  | left + 1, initialPages => do
    let store ← newStore native initialPages
    tryCatch
      (do
        let ended ← calling (within (created store)
          (attempt (native initialPages) guest maxMemoryPages initialPages))
        pure ended.2)
      (fun raised =>
        if !isNative raised.kind then throw raised
        else do
          modify Process.closeStore
          if !isMemoryOverflowTrap raised then throw (instantiationFailure raised)
          else if ceiling ≤ initialPages then throw (instantiationFailure raised)
          else retryLoop ceiling left (min (initialPages * 2) ceiling))

/-- `instantiation_ceiling`. -/
def instantiationCeiling : Nat := maxMemoryPages.getD maxInstantiationMemoryPages

/-- `WasmtimeRuntime.__init__`, from a new object without a store. -/
def construct : Construct (World σ) :=
  let ceiling := instantiationCeiling maxMemoryPages
  if maxMemoryPages.any (fun pages => pages < defaultMemoryPages) then
    throw (opaError .invalidPolicy (s!"max_memory_pages={ceiling} is below the minimum of " ++
      s!"{defaultMemoryPages} pages required to instantiate an OPA policy"))
  else do
    modify (fun process => { process with current := none })
    tryCatch (withLock (retryLoop native guest maxMemoryPages ceiling ceiling defaultMemoryPages))
      (fun raised => do
        close
        throw raised)

/-- How an attempt ends, in a store of its own. -/
def attempted (initialPages : Nat) : Except Raised PUnit :=
  match (native initialPages).newStore with
  | .error raised => .error raised
  | .ok store =>
    outcome (attempt (native initialPages) guest maxMemoryPages initialPages) (created store)

/-- An attempt in a store that was opened overflows the memory, below the ceiling. -/
def Retried (initialPages : Nat) : Prop :=
  initialPages < instantiationCeiling maxMemoryPages ∧
    (native initialPages).newStore.toOption.isSome ∧
      ∃ raised, attempted native guest maxMemoryPages initialPages = .error raised ∧
        isMemoryOverflowTrap raised = true

/-- The numbers of pages tried one after another. -/
def pagesAt (ceiling initialPages count : Nat) : Nat :=
  (fun pages => min (pages * 2) ceiling)^[count] initialPages

end Creation

section Attempts

variable {native : Nat → Native σ} {guest : Guest σ} {maxMemoryPages : Option Nat}

/-- A call goes on with the log. -/
theorem ends_calling {program : Api α} {process : Process} {returned : α → Process → Prop}
    {raised : Raised → Process → Prop}
    (ends : Ends program process.faults
      (fun value log => returned value { process with faults := log })
      (fun error log => raised error { process with faults := log })) :
    Ends (calling program) process returned raised := by
  unfold Ends calling
  unfold Ends at ends
  cases ended : program process.faults <;> simpa only [ended] using ends

/-- A call depends on the guest alone. -/
theorem alike_call_guest {stage : Stage} {operation : Operation} {called : EStateM Raised σ α}
    {world world' : World σ} (same : world.guest = world'.guest) :
    Alike (call stage operation called) world world'
      (fun _ after after' => after.guest = after'.guest) (fun _ _ _ => True) := by
  unfold Alike call
  rw [same]
  cases called world'.guest with
  | ok value after => exact ⟨rfl, rfl⟩
  | error error after => exact ⟨rfl, trivial⟩

/-- So does an attempt. -/
theorem alike_attempt (initialPages : Nat) {world world' : World σ}
    (same : world.guest = world'.guest) :
    Alike (attempt (native initialPages) guest maxMemoryPages initialPages) world world'
      (fun _ _ _ => True) (fun _ _ _ => True) := by
  have limited : ∀ {world world' : World σ}, world.guest = world'.guest →
      Alike (limitMemory (native initialPages) maxMemoryPages) world world'
        (fun _ after after' => after.guest = after'.guest) (fun _ _ _ => True) := by
    intro world world' same
    unfold limitMemory
    cases maxMemoryPages with
    | none => exact alike_pure same
    | some pages => exact alike_call_guest same
  apply (alike_call_guest same).seq
  intro _ armed armed' same
  apply (alike_call_guest same).seq
  intro _ allocated allocated' same
  apply (limited same).seq
  intro _ capped capped' same
  exact (alike_call_guest same).mono (fun _ _ _ _ => trivial) (fun _ _ _ _ => trivial)

/-- What the log of the process holds does not matter to an attempt. -/
theorem ends_attempt {initialPages : Nat} {store : σ}
    (opened : (native initialPages).newStore = .ok store) (process : Process) :
    Ends (calling (within (created store)
        (attempt (native initialPages) guest maxMemoryPages initialPages))) process
      (fun _ after => attempted native guest maxMemoryPages initialPages = .ok ⟨⟩ ∧
        ∃ log, after = { process with faults := log })
      (fun raised after => attempted native guest maxMemoryPages initialPages = .error raised ∧
        ∃ log, after = { process with faults := log }) := by
  have alike : Alike (attempt (native initialPages) guest maxMemoryPages initialPages)
      (created store) { created store with faults := process.faults }
      (fun _ _ _ => True) (fun _ _ _ => True) := alike_attempt initialPages rfl
  have logged := alike.outcome_eq
  unfold attempted
  rw [opened]
  simp only [logged]
  unfold Ends calling within outcome
  cases attempt (native initialPages) guest maxMemoryPages initialPages
    { created store with faults := process.faults } <;> exact ⟨rfl, _, rfl⟩

/-- Opening the store of an attempt. -/
theorem ends_newStore (initialPages : Nat) (process : Process) :
    Ends (newStore native initialPages) process
      (fun store after => (native initialPages).newStore = .ok store ∧ ∃ log,
        after = { process.openStore with
          faults := log, attempts := process.attempts ++ [initialPages] })
      (fun raised after => (native initialPages).newStore = .error raised ∧ ∃ log,
        after = { process with
          faults := log, attempts := process.attempts ++ [initialPages] }) := by
  apply ends_bind
  apply ends_modify
  apply ends_bind
  apply ends_calling
  apply ends_ask
  · intro store made
    apply ends_bind
    apply ends_modify
    exact ends_pure ⟨made, _, rfl⟩
  · intro raised failed
    exact ⟨failed, _, rfl⟩

end Attempts

section Pages

variable {ceiling initialPages : Nat}

/-- The attempts after the first one. -/
theorem pagesAt_later (count : Nat) :
    pagesAt ceiling initialPages (count + 1) =
      pagesAt ceiling (min (initialPages * 2) ceiling) count :=
  Function.iterate_succ_apply _ _ _

/-- Each attempt has twice the pages of the one before, up to the ceiling. -/
theorem pagesAt_succ (count : Nat) :
    pagesAt ceiling initialPages (count + 1) =
      min (pagesAt ceiling initialPages count * 2) ceiling :=
  Function.iterate_succ_apply' _ _ _

/-- No attempt has more pages than the ceiling, or none. -/
theorem pagesAt_bounds (positive : 0 < initialPages) (below : initialPages ≤ ceiling) (count : Nat) :
    0 < pagesAt ceiling initialPages count ∧ pagesAt ceiling initialPages count ≤ ceiling := by
  induction count with
  | zero => exact ⟨positive, below⟩
  | succ count inductionHypothesis =>
    rw [pagesAt_succ]
    omega

/-- Below the ceiling the pages grow. -/
theorem pagesAt_lt (positive : 0 < initialPages) (below : initialPages ≤ ceiling) {count : Nat}
    (room : pagesAt ceiling initialPages count < ceiling) :
    pagesAt ceiling initialPages count < pagesAt ceiling initialPages (count + 1) := by
  have bounds := pagesAt_bounds positive below count
  rw [pagesAt_succ]
  omega

end Pages

section Loop

variable (native : Nat → Native σ) (guest : Guest σ) (maxMemoryPages : Option Nat)

/-- The open stores are stores that were opened, and that of the runtime is closed. -/
structure Process.Sound (process : Process) : Prop where
  opened : ∀ store ∈ process.openStores, store < process.opened
  current : ∀ store, process.current = some store → store ∉ process.openStores

/-- All attempts but the last one of a number of them are tried again. -/
structure Settles (initialPages count : Nat) : Prop where
  retried : ∀ earlier < count, Retried native guest maxMemoryPages
    (pagesAt (instantiationCeiling maxMemoryPages) initialPages earlier)
  final : ¬Retried native guest maxMemoryPages
    (pagesAt (instantiationCeiling maxMemoryPages) initialPages count)

/-- How the process gets on with a number of attempts: closing the runtime closes the only
store that may still be open. -/
structure Tried (initialPages count : Nat) (process after : Process) : Prop where
  attempts : after.attempts = process.attempts ++
    (List.range (count + 1)).map (pagesAt (instantiationCeiling maxMemoryPages) initialPages)
  stores : after.closeStore.openStores = process.openStores
  lock : after.locked = process.locked
  blocked : after.blocked = process.blocked

/-- The runtime's store is open, in addition to those that were. -/
def Process.Holds (process after : Process) : Prop :=
  ∃ store, process.opened ≤ store ∧ after.current = some store ∧
    after.openStores = store :: process.openStores

variable {native guest maxMemoryPages}

/-- Where the runtime's store is closed, closing it again changes nothing. -/
theorem Process.Sound.closed {process : Process} (sound : process.Sound) :
    process.closeStore.openStores = process.openStores := by
  refine List.filter_eq_self.mpr fun store member => ?_
  have apart : some store ≠ process.current := fun same => sound.current store same.symm member
  simpa using apart

/-- A store that was just opened is closed alone. -/
theorem Process.Sound.reclosed {process : Process} (sound : process.Sound) :
    process.openStore.closeStore.openStores = process.openStores := by
  have others : process.openStores.filter (fun store => some store ≠ some process.opened) =
      process.openStores := by
    refine List.filter_eq_self.mpr fun store member => ?_
    have earlier := sound.opened store member
    have apart : store ≠ process.opened := by omega
    simpa using apart
  simpa [Process.openStore, Process.closeStore] using others

/-- A closed store leaves the process sound. -/
theorem Process.Sound.again {process : Process} (sound : process.Sound) :
    process.openStore.closeStore.Sound := by
  constructor
  · intro store member
    rw [sound.reclosed] at member
    have earlier := sound.opened store member
    exact Nat.lt_succ_of_lt earlier
  · intro store same
    obtain rfl : process.opened = store := Option.some.inj same
    rw [sound.reclosed]
    exact fun member => Nat.lt_irrefl _ (sound.opened _ member)

variable (native guest) in
/-- Some attempt is not tried again: the ceiling is reached. -/
theorem settles_somewhere {initialPages : Nat} (positive : 0 < initialPages)
    (below : initialPages ≤ instantiationCeiling maxMemoryPages) :
    ∃ count, initialPages + count ≤ instantiationCeiling maxMemoryPages ∧
      Settles native guest maxMemoryPages initialPages count := by
  classical
  have grown : ∀ count, (∀ earlier < count, Retried native guest maxMemoryPages
      (pagesAt (instantiationCeiling maxMemoryPages) initialPages earlier)) →
      initialPages + count ≤ pagesAt (instantiationCeiling maxMemoryPages) initialPages count := by
    intro count retried
    induction count with
    | zero => exact Nat.le_refl _
    | succ count inductionHypothesis =>
      have before := inductionHypothesis fun earlier less => retried earlier (Nat.lt_succ_of_lt less)
      have more := pagesAt_lt positive below (retried count (Nat.lt_succ_self _)).1
      omega
  have ends : ∃ count, ¬Retried native guest maxMemoryPages
      (pagesAt (instantiationCeiling maxMemoryPages) initialPages count) := by
    refine Classical.byContradiction fun never => ?_
    have always := not_exists_not.mp never
    have large := grown (instantiationCeiling maxMemoryPages) fun earlier _ => always earlier
    have bounded := (pagesAt_bounds positive below (instantiationCeiling maxMemoryPages)).2
    omega
  have least : ∀ earlier < Nat.find ends, Retried native guest maxMemoryPages
      (pagesAt (instantiationCeiling maxMemoryPages) initialPages earlier) :=
    fun earlier less => not_not.mp (Nat.find_min ends less)
  refine ⟨Nat.find ends, ?_, least, Nat.find_spec ends⟩
  exact Nat.le_trans (grown _ least) (pagesAt_bounds positive below _).2

/-- The first attempt of a loop that does not try again. -/
theorem Tried.once {initialPages : Nat} {process after : Process}
    (attempts : after.attempts = process.attempts ++ [initialPages])
    (stores : after.closeStore.openStores = process.openStores)
    (lock : after.locked = process.locked) (blocked : after.blocked = process.blocked) :
    Tried maxMemoryPages initialPages 0 process after :=
  ⟨attempts, stores, lock, blocked⟩

/-- The process after an attempt that is tried again: its store is closed. -/
structure Repeats (initialPages : Nat) (process middle : Process) : Prop where
  attempts : middle.attempts = process.attempts ++ [initialPages]
  opened : process.opened ≤ middle.opened
  stores : middle.openStores = process.openStores
  lock : middle.locked = process.locked
  blocked : middle.blocked = process.blocked
  sound : middle.Sound

/-- A loop after a first attempt. -/
theorem Tried.again {initialPages count : Nat} {process middle after : Process}
    (tried : Tried maxMemoryPages (min (initialPages * 2) (instantiationCeiling maxMemoryPages)) count
      middle after) (repeats : Repeats initialPages process middle) :
    Tried maxMemoryPages initialPages (count + 1) process after where
  attempts := by
    have later : (List.range (count + 1)).map (pagesAt (instantiationCeiling maxMemoryPages)
        (min (initialPages * 2) (instantiationCeiling maxMemoryPages))) =
        (List.range (count + 1)).map (fun earlier =>
          pagesAt (instantiationCeiling maxMemoryPages) initialPages (earlier + 1)) :=
      List.map_congr_left fun earlier _ => (pagesAt_later earlier).symm
    rw [tried.attempts, repeats.attempts, later, List.append_assoc]
    conv_rhs => rw [List.range_succ_eq_map, List.map_cons, List.map_map]
    rfl
  stores := tried.stores.trans repeats.stores
  lock := tried.lock.trans repeats.lock
  blocked := tried.blocked.trans repeats.blocked

/-- The runtime's store after a first attempt. -/
theorem Process.Holds.again {initialPages : Nat} {process middle after : Process}
    (holds : middle.Holds after) (repeats : Repeats initialPages process middle) :
    process.Holds after := by
  obtain ⟨store, newer, current, stores⟩ := holds
  exact ⟨store, Nat.le_trans repeats.opened newer, current, stores.trans (congrArg _ repeats.stores)⟩

/-- A round whose attempt is not tried again ends the loop.

Proof: one case for each way out of a round: the store was not made, or the attempt succeeds,
or its exception is passed on, is no overflow, or has no pages left. Going round again would
be a retry. -/
theorem retryLoop_final {left initialPages : Nat}
    (final : ¬Retried native guest maxMemoryPages initialPages) {process : Process}
    (sound : process.Sound) :
    Ends (retryLoop native guest maxMemoryPages (instantiationCeiling maxMemoryPages) (left + 1)
        initialPages) process
      (fun _ after => Tried maxMemoryPages initialPages 0 process after ∧ process.Holds after ∧
        attempted native guest maxMemoryPages initialPages = .ok ⟨⟩)
      (fun _ after => Tried maxMemoryPages initialPages 0 process after ∧
        attempted native guest maxMemoryPages initialPages ≠ .ok ⟨⟩) := by
  unfold retryLoop
  refine ends_bind ((ends_newStore initialPages process).mono ?_ ?_)
  · rintro store _ ⟨made, log, rfl⟩
    refine ends_tryCatch (ends_bind ((ends_attempt made _).mono ?_ ?_))
    · rintro ended _ ⟨fine, log', rfl⟩
      exact ends_pure ⟨.once rfl sound.reclosed rfl rfl, ⟨_, Nat.le_refl _, rfl, rfl⟩, fine⟩
    · rintro raised _ ⟨failed, log', rfl⟩
      have failed' : attempted native guest maxMemoryPages initialPages ≠ .ok ⟨⟩ := by
        rw [failed]
        exact fun same => by cases same
      refine ends_ite ?_ ?_
      · intro foreign
        exact ends_throw ⟨.once rfl sound.reclosed rfl rfl, failed'⟩
      · intro caught
        refine ends_bind (ends_modify ?_)
        have closed := sound.again.closed.trans sound.reclosed
        refine ends_ite ?_ ?_
        · exact fun _ => ends_throw ⟨.once rfl closed rfl rfl, failed'⟩
        · intro overflow
          refine ends_ite ?_ ?_
          · exact fun _ => ends_throw ⟨.once rfl closed rfl rfl, failed'⟩
          · intro room
            refine absurd ⟨by omega, ?_, raised, failed, by simpa using overflow⟩ final
            rw [made]
            rfl
  · rintro raised _ ⟨failed, log, rfl⟩
    refine ⟨.once rfl sound.closed rfl rfl, ?_⟩
    simp only [attempted, failed]
    exact fun same => by cases same

/-- A round whose attempt is tried again goes on with more pages. -/
theorem retryLoop_repeats {left initialPages : Nat}
    (retried : Retried native guest maxMemoryPages initialPages) {process : Process}
    (sound : process.Sound) {returned : World σ → Process → Prop} {raised : Raised → Process → Prop}
    (later : ∀ middle, Repeats initialPages process middle →
      Ends (retryLoop native guest maxMemoryPages (instantiationCeiling maxMemoryPages) left
        (min (initialPages * 2) (instantiationCeiling maxMemoryPages))) middle returned raised) :
    Ends (retryLoop native guest maxMemoryPages (instantiationCeiling maxMemoryPages) (left + 1)
      initialPages) process returned raised := by
  obtain ⟨room, opens, trap, failed, overflow⟩ := retried
  unfold retryLoop
  refine ends_bind ((ends_newStore initialPages process).mono ?_ ?_)
  · rintro store _ ⟨made, log, rfl⟩
    refine ends_tryCatch (ends_bind ((ends_attempt made _).mono ?_ ?_))
    · rintro ended _ ⟨fine, -⟩
      rw [fine] at failed
      cases failed
    · rintro trap' _ ⟨failed', log', rfl⟩
      obtain rfl : trap' = trap := Except.error.inj (failed'.symm.trans failed)
      have trapped : trap'.kind = .trap true := by simpa [isMemoryOverflowTrap] using overflow
      rw [if_neg (by simp [trapped, isNative])]
      refine ends_bind (ends_modify ?_)
      rw [if_neg (by simp [overflow]), if_neg (by omega)]
      exact later _ ⟨rfl, Nat.le_succ _, sound.reclosed, rfl, rfl, sound.again.opened, sound.again.current⟩
  · rintro raised' _ ⟨failed', -⟩
    rw [failed'] at opens
    cases opens

/-- The loop ends with the first attempt that is not tried again. -/
theorem retryLoop_ends {left initialPages count : Nat} (enough : count < left)
    (settles : Settles native guest maxMemoryPages initialPages count) {process : Process}
    (sound : process.Sound) :
    Ends (retryLoop native guest maxMemoryPages (instantiationCeiling maxMemoryPages) left
        initialPages) process
      (fun _ after => Tried maxMemoryPages initialPages count process after ∧
        process.Holds after ∧
        attempted native guest maxMemoryPages
          (pagesAt (instantiationCeiling maxMemoryPages) initialPages count) = .ok ⟨⟩)
      (fun _ after => Tried maxMemoryPages initialPages count process after ∧
        attempted native guest maxMemoryPages
          (pagesAt (instantiationCeiling maxMemoryPages) initialPages count) ≠ .ok ⟨⟩) := by
  obtain ⟨left, rfl⟩ : ∃ fewer, left = fewer + 1 := ⟨left - 1, by omega⟩
  induction count generalizing left initialPages process with
  | zero => exact retryLoop_final settles.final sound
  | succ count inductionHypothesis =>
    have later : Settles native guest maxMemoryPages
        (min (initialPages * 2) (instantiationCeiling maxMemoryPages)) count := by
      constructor
      · intro earlier less
        rw [← pagesAt_later]
        exact settles.retried (earlier + 1) (Nat.succ_lt_succ less)
      · rw [← pagesAt_later]
        exact settles.final
    refine retryLoop_repeats (settles.retried 0 (Nat.succ_pos _)) sound fun middle repeats => ?_
    obtain ⟨left, rfl⟩ : ∃ fewer, left = fewer + 1 := ⟨left - 1, by omega⟩
    rw [pagesAt_later]
    refine (inductionHypothesis later repeats.sound left (by omega)).mono ?_ ?_
    · rintro world after ⟨tried, holds, fine⟩
      exact ⟨tried.again repeats, holds.again repeats, fine⟩
    · rintro error after ⟨tried, failed⟩
      exact ⟨tried.again repeats, failed⟩

/-- A body under the lock, entered with the lock free. -/
theorem ends_withLock {body : Construct α} {process : Process} {returned : α → Process → Prop}
    {raised : Raised → Process → Prop} (free : process.locked = false)
    (ends : Ends body { process with locked := true }
      (fun value after => returned value { after with locked := false })
      (fun error after => raised error { after with locked := false })) :
    Ends (withLock body) process returned raised := by
  have entered : { process with blocked := process.blocked || process.locked, locked := true } =
      { process with locked := true } := by
    rw [free, Bool.or_false]
  apply ends_bind
  apply ends_modify
  rw [entered]
  apply ends_bind
  apply ends_tryCatch
  apply ends.mono
  · intro value after holds
    exact holds
  · intro error after holds
    exact holds

variable (maxMemoryPages) in
/-- What the constructor leaves: the lock is free, was never waited for, and the attempts are
recorded. -/
structure Left (count : Nat) (process after : Process) : Prop where
  attempts : after.attempts = process.attempts ++ (List.range (count + 1)).map
    (pagesAt (instantiationCeiling maxMemoryPages) defaultMemoryPages)
  free : after.locked = false
  unblocked : after.blocked = process.blocked

/-- The bound on the attempts is never met. -/
theorem retryLoop_enough {left initialPages : Nat} (positive : 0 < initialPages)
    (below : initialPages ≤ instantiationCeiling maxMemoryPages)
    (enough : instantiationCeiling maxMemoryPages < initialPages + left) (extra : Nat) :
    retryLoop native guest maxMemoryPages (instantiationCeiling maxMemoryPages) (left + extra)
        initialPages =
      retryLoop native guest maxMemoryPages (instantiationCeiling maxMemoryPages) left
        initialPages := by
  induction left generalizing initialPages with
  | zero => omega
  | succ left inductionHypothesis =>
    rw [Nat.add_right_comm]
    unfold retryLoop
    congr 1
    funext store
    congr 1
    funext raised
    by_cases final : instantiationCeiling maxMemoryPages ≤ initialPages
    · simp only [final, if_true]
    · rw [inductionHypothesis (by omega) (by omega) (by omega)]

/-- Closing a runtime with the lock free. -/
theorem ends_close {process : Process} (free : process.locked = false) :
    Ends close process (fun _ after => after = { process.closeStore with locked := false })
      (fun _ _ => False) := by
  apply ends_withLock free
  exact ends_modify rfl

/-- The constructor ends with its last attempt.

Proof: the ceiling admits the first attempt, and the lock is free. The retry loop ends with
its last attempt, and the handler closes what a failed one left. -/
theorem construct_ends (enough : defaultMemoryPages ≤ instantiationCeiling maxMemoryPages)
    {count : Nat} (fits : defaultMemoryPages + count ≤ instantiationCeiling maxMemoryPages)
    (settles : Settles native guest maxMemoryPages defaultMemoryPages count)
    (process : Process) (free : process.locked = false)
    (opened : ∀ store ∈ process.openStores, store < process.opened) :
    Ends (construct native guest maxMemoryPages) process
      (fun _ after => Left maxMemoryPages count process after ∧ process.Holds after ∧
        attempted native guest maxMemoryPages
          (pagesAt (instantiationCeiling maxMemoryPages) defaultMemoryPages count) = .ok ⟨⟩)
      (fun _ after => Left maxMemoryPages count process after ∧
        after.openStores = process.openStores ∧
        attempted native guest maxMemoryPages
          (pagesAt (instantiationCeiling maxMemoryPages) defaultMemoryPages count) ≠ .ok ⟨⟩) := by
  have admitted : ¬maxMemoryPages.any (fun pages => pages < defaultMemoryPages) := by
    cases maxMemoryPages with
    | none => simp
    | some pages =>
      have large : defaultMemoryPages ≤ pages := enough
      simpa using large
  have positive : 0 < defaultMemoryPages := by decide
  unfold construct
  dsimp only
  rw [if_neg admitted]
  apply ends_bind
  apply ends_modify
  apply ends_tryCatch
  refine ends_withLock free ?_
  have started : Process.Sound { process with current := none, locked := true } :=
    ⟨opened, fun store same => by cases same⟩
  apply (retryLoop_ends (by omega) settles started).mono
  · rintro world after ⟨tried, holds, fine⟩
    exact ⟨⟨tried.attempts, rfl, tried.blocked⟩, holds, fine⟩
  · rintro raised after ⟨tried, failed⟩
    apply ends_bind
    apply (ends_close rfl).mono
    · rintro _ _ rfl
      exact ends_throw ⟨⟨tried.attempts, rfl, tried.blocked⟩, tried.stores, failed⟩
    · exact fun _ _ => False.elim

variable (native guest maxMemoryPages) in
/-- What a constructor does in a number of attempts after the first one. They have 2 pages first,
and twice as many each time, up to the ceiling; the constructor succeeds if and only if the last
one does. Then one of the stores that it opened is still open, otherwise none, and the lifecycle
lock is free and was never waited for. More attempts than it is allowed would change nothing. -/
structure Constructs (process : Process) (count : Nat) : Prop where
  settles : Settles native guest maxMemoryPages defaultMemoryPages count
  grows : ∀ earlier < count,
    pagesAt (instantiationCeiling maxMemoryPages) defaultMemoryPages earlier <
      pagesAt (instantiationCeiling maxMemoryPages) defaultMemoryPages (earlier + 1)
  bounded : ∀ earlier, pagesAt (instantiationCeiling maxMemoryPages) defaultMemoryPages earlier ≤
    instantiationCeiling maxMemoryPages
  ends : Ends (construct native guest maxMemoryPages) process
    (fun _ after => Left maxMemoryPages count process after ∧ process.Holds after ∧
      attempted native guest maxMemoryPages
        (pagesAt (instantiationCeiling maxMemoryPages) defaultMemoryPages count) = .ok ⟨⟩)
    (fun _ after => Left maxMemoryPages count process after ∧
      after.openStores = process.openStores ∧
      attempted native guest maxMemoryPages
        (pagesAt (instantiationCeiling maxMemoryPages) defaultMemoryPages count) ≠ .ok ⟨⟩)
  terminates : ∀ extra,
    retryLoop native guest maxMemoryPages (instantiationCeiling maxMemoryPages)
        (instantiationCeiling maxMemoryPages + extra) defaultMemoryPages =
      retryLoop native guest maxMemoryPages (instantiationCeiling maxMemoryPages)
        (instantiationCeiling maxMemoryPages) defaultMemoryPages

variable (native guest maxMemoryPages) in
/-- For every ceiling of at least 2 pages and all ways in which the attempts may end, the
constructor tries again as long as the memory overflows below the ceiling, and no longer.

Proof: pages double from attempt to attempt, so some attempt is the first that settles or has
the ceiling's pages. Up to it every attempt is made, opens its store and closes it, and the
loop is allowed enough of them. -/
theorem construct_exact (enough : defaultMemoryPages ≤ instantiationCeiling maxMemoryPages)
    (process : Process) (free : process.locked = false)
    (opened : ∀ store ∈ process.openStores, store < process.opened) :
    ∃ count, Constructs native guest maxMemoryPages process count := by
  have positive : 0 < defaultMemoryPages := by decide
  obtain ⟨count, fits, settles⟩ := settles_somewhere native guest positive enough
  refine ⟨count, settles, fun earlier less => ?_, fun earlier => ?_, ?_, fun extra => ?_⟩
  · exact pagesAt_lt positive enough (settles.retried earlier less).1
  · exact (pagesAt_bounds positive enough earlier).2
  · exact construct_ends enough fits settles process free opened
  · exact retryLoop_enough positive enough (by omega) extra

/-- Native calls for a module that declares a minimum of pages and whose data reach into
another; the state is the size of its memory. -/
def sizedNative (minimum extent : Nat) : Native Nat where
  newStore := .ok 0
  newMemory pages _ := set pages
  setLimits _ := pure ⟨⟩
  instantiate := do
    let pages ← get
    if pages < minimum then throw ⟨.wasmtimeError, "incompatible import type", []⟩
    else if pages < extent then throw ⟨.trap true, "out of bounds memory access", []⟩
    else pure ⟨⟩

/-- A guest that does nothing. -/
def idleGuest : Guest Nat where
  opaMalloc _ := pure 0
  opaJsonParse _ _ := pure 0
  opaJsonDump _ := pure 0
  opaHeapPtrGet := pure 0
  opaHeapPtrSet _ := pure ⟨⟩
  entrypoints := pure 0
  builtins := pure 0
  opaEval _ _ _ _ _ := pure 0
  memoryLen := get
  memoryRead _ _ := pure []
  memoryWrite _ _ := pure ⟨⟩
  setEpochDeadline _ := pure ⟨⟩
  startTicker := pure ⟨⟩

/-- A process in which another store is open. -/
def busyProcess : Process := ⟨[], 1, [0], none, false, false, []⟩

/-- Data that reach into the fifth page, under a ceiling of 6 pages. -/
theorem construct_exact_sized :
    ∃ count, Constructs (fun _ => sizedNative 2 5) idleGuest (some 6) busyProcess count :=
  construct_exact (fun _ => sizedNative 2 5) idleGuest (some 6) (by decide) busyProcess rfl
    (by decide)

end Loop

section Mirrors

/-- A call goes on with the log. -/
theorem mirrors_calling (api : Api α) : Mirrors Process.faults (calling api) api := by
  intro process
  unfold MirrorsAt calling
  cases api process.faults <;> exact ⟨rfl, rfl⟩

/-- The lock is nothing to the calls. -/
theorem mirrors_withLock {body : Construct α} {api : Api α} (mirrors : Mirrors Process.faults body api) :
    Mirrors Process.faults (withLock body) api := by
  have unlocked : Mirrors Process.faults (withLock body)
      (tryCatch api (fun raised => throw raised) >>= fun value => pure value) := by
    refine Mirrors.after ?_ fun _ => rfl
    refine (mirrors.tryCatch fun raised => ?_).bind fun value => ?_
    · exact (mirrors_throw raised).after fun _ => rfl
    · exact (mirrors_pure value).after fun _ => rfl
  rwa [tryCatch_rethrow, bind_pure] at unlocked

variable {native : Native σ} {guest : Guest σ} {maxMemoryPages : Option Nat}

/-- Opening a store is a call. -/
theorem mirrors_newStore (initialPages : Nat) :
    Mirrors Process.faults (newStore (fun _ => native) initialPages)
      (ask .store .newStore native.newStore) := by
  have recorded : Mirrors Process.faults (newStore (fun _ => native) initialPages)
      (ask .store .newStore native.newStore >>= fun store => pure store) := by
    refine Mirrors.after ?_ fun _ => rfl
    refine (mirrors_calling _).bind fun store => ?_
    exact (mirrors_pure store).after fun _ => rfl
  rwa [bind_pure] at recorded

/-- The loop with its stores makes the calls of the loop. -/
theorem mirrors_retryLoop (ceiling left initialPages : Nat) :
    Mirrors Process.faults (retryLoop (fun _ => native) guest maxMemoryPages ceiling left initialPages)
      (instantiateLoop native guest maxMemoryPages ceiling left initialPages) := by
  induction left generalizing initialPages with
  | zero => exact mirrors_throw _
  | succ left inductionHypothesis =>
    unfold retryLoop instantiateLoop
    refine (mirrors_newStore initialPages).bind fun store => ?_
    refine ((mirrors_calling _).bind fun ended => mirrors_pure _).tryCatch fun raised => ?_
    split
    · exact mirrors_throw _
    · refine Mirrors.after ?_ fun _ => rfl
      split
      · exact mirrors_throw _
      · split
        · exact mirrors_throw _
        · exact inductionHypothesis _

variable (native guest maxMemoryPages) in
/-- The constructor with its stores makes the calls of the constructor without them, and ends
like it. -/
theorem mirrors_construct :
    Mirrors Process.faults (construct (fun _ => native) guest maxMemoryPages)
      (createRuntime native guest maxMemoryPages) := by
  unfold construct createRuntime
  dsimp only
  split
  · exact mirrors_throw _
  · refine Mirrors.after ?_ fun _ => rfl
    rw [← tryCatch_rethrow (instantiateLoop _ _ _ _ _ _)]
    refine (mirrors_withLock (mirrors_retryLoop _ _ _)).tryCatch fun raised => ?_
    have closes : Mirrors Process.faults close (pure ⟨⟩) :=
      mirrors_withLock ((mirrors_pure PUnit.unit).after fun _ => rfl)
    exact closes.bind fun _ => mirrors_throw raised

/-- The constructor without its stores returns where the one with them does. -/
theorem createRuntime_returns (log : List Fault) (process : Process) (faults : process.faults = log) :
    (outcome (createRuntime native guest maxMemoryPages) log).toOption.isSome =
      (outcome (construct (fun _ => native) guest maxMemoryPages) process).toOption.isSome := by
  have mirrors := mirrors_construct native guest maxMemoryPages process
  unfold MirrorsAt at mirrors
  rw [faults] at mirrors
  unfold outcome
  cases ended : construct (fun _ => native) guest maxMemoryPages process <;>
    cases ended' : createRuntime native guest maxMemoryPages log <;>
    simp only [ended, ended'] at mirrors ⊢ <;> rfl

end Mirrors

end OpaPyWasm.RuntimeConstruction
