import OpaPyWasm.Library.Quiescence
import OpaPyWasm.Library.Threads
import OpaPyWasm.RuntimeConstruction

/-!
# The native lifecycle lock

One lock of the process stands around all native code that opens or finalises a store:
around the retry loop of every constructor of a runtime, whatever pool or policy it
works for, and around every `close`. It is not reentrant. A constructor that fails
releases it and takes it again in its own `close`.

Any number of threads construct runtimes and close them. A native call is one action,
and how it ends is part of the action. The runtimes whose constructor has returned, and
the stores whose runtime was closed since, are history variables.
-/

namespace OpaPyWasm.NativeLifecycle

open Exceptions WasmtimeRuntime RuntimeConstruction Machines Threads

/-- An attempt to instantiate the module, with the cap on its memory. -/
structure Attempt where
  maxMemoryPages : Option Nat
  initialPages : Nat
  enough : defaultMemoryPages ≤ initialPages

/-- `instantiation_ceiling`. -/
def Attempt.ceiling (attempt : Attempt) : Nat := instantiationCeiling attempt.maxMemoryPages

/-- The first attempt. -/
def Attempt.first (maxMemoryPages : Option Nat) : Attempt :=
  ⟨maxMemoryPages, defaultMemoryPages, Nat.le_refl _⟩

/-- The next attempt, with twice the pages up to the ceiling. -/
def Attempt.doubled (attempt : Attempt) (below : attempt.initialPages < attempt.ceiling) : Attempt :=
  ⟨attempt.maxMemoryPages, min (attempt.initialPages * 2) attempt.ceiling, by
    have enough := attempt.enough
    omega⟩

/-- The native calls of an attempt behind its store: the deadline, the memory, the limit
where one is configured, the linker with its host functions, and the instance with its
exports. -/
inductive NativeCall where
  | arming
  | allocating
  | limiting
  | registering
  | instantiating
deriving DecidableEq

/-- The native call that comes next. -/
def NativeCall.after (limited : Bool) : NativeCall → Option NativeCall
  | .arming => some .allocating
  | .allocating => some (if limited then .limiting else .registering)
  | .limiting => some .registering
  | .registering => some .instantiating
  | .instantiating => none

/-- The program point of a thread with its local variables; `current` is the `_store` of
the runtime. -/
inductive Point where
  | idle (last : Option (Except Raised Nat))
  | acquiring (maxMemoryPages : Option Nat)
  | opening (current : Option Nat) (attempt : Attempt)
  | attempting (call : NativeCall) (store : Nat) (attempt : Attempt)
  | discarding (store : Nat) (attempt : Attempt) (raised : Raised)
  | returning (store : Nat)
  | raising (current : Option Nat) (raised : Raised)
  | closing (current : Option Nat) (raised : Option Raised)
  | finalising (current : Option Nat) (raised : Option Raised)
  | leaving (raised : Option Raised)

/-- What the threads of the process share: the lock, the stores opened so far, the open
ones, the stores of the runtimes that were constructed, and those of the runtimes that
were closed. -/
structure Shared where
  lock : Bool
  opened : Nat
  openStores : List Nat
  runtimes : List Nat
  released : List Nat

/-- A caller calls, the thread goes on, or a native call ends. -/
inductive Action where
  | callConstruct (maxMemoryPages : Option Nat)
  | callClose (store : Nat)
  | go
  | ends (outcome : Except Raised PUnit)

/-- `max_memory_pages` is below the minimum. -/
def belowMinimum (maxMemoryPages : Option Nat) : Bool :=
  maxMemoryPages.any (fun pages => pages < defaultMemoryPages)

/-- What a runtime below the minimum is refused with. -/
def minimumError (maxMemoryPages : Option Nat) : Raised :=
  opaError .invalidPolicy
    (s!"max_memory_pages={instantiationCeiling maxMemoryPages} is below the minimum of " ++
      s!"{defaultMemoryPages} pages required to instantiate an OPA policy")

/-- `Store.close`, which does nothing to a store that is closed. -/
def Shared.closeStore (shared : Shared) (store : Nat) : Shared :=
  { shared with openStores := shared.openStores.filter (· ≠ store) }

/-- Close the `_store` of a runtime, where it has one; `_store` is missing on a runtime
whose first store did not open, and `close` passes over that. -/
def Shared.closeCurrent (shared : Shared) : Option Nat → Shared
  | none => shared
  | some store => shared.closeStore store

/-- The runtime of a store was closed by its owner. -/
def Shared.release (shared : Shared) : Option Nat → Option Raised → Shared
  | some store, none => { shared with released := store :: shared.released }
  | _, _ => shared

/-- What a call has come to when it returns or raises. -/
def ended : Option Raised → Option (Except Raised Nat)
  | none => none
  | some raised => some (.error raised)

/-- One atomic action at a program point. -/
def next (shared : Shared) : Point → Action → Option (Shared × Point)
  -- WasmtimeRuntime.__init__
  | .idle _, .callConstruct maxMemoryPages =>
    if belowMinimum maxMemoryPages then
      some (shared, .idle (some (.error (minimumError maxMemoryPages))))
    else some (shared, .acquiring maxMemoryPages)
  | .acquiring maxMemoryPages, .go =>
    if shared.lock then none
    else some ({ shared with lock := true }, .opening none (.first maxMemoryPages))
  | .opening _ attempt, .ends (.ok _) =>
    some ({ shared with
        opened := shared.opened + 1, openStores := shared.opened :: shared.openStores },
      .attempting .arming shared.opened attempt)
  | .opening current _, .ends (.error raised) => some (shared, .raising current raised)
  | .attempting call store attempt, .ends (.ok _) =>
    match call.after attempt.maxMemoryPages.isSome with
    | some following => some (shared, .attempting following store attempt)
    | none => some (shared, .returning store)
  | .attempting _ store attempt, .ends (.error raised) =>
    if isNative raised.kind then some (shared, .discarding store attempt raised)
    else some (shared, .raising (some store) raised)
  | .discarding store attempt raised, .go =>
    if below : isMemoryOverflowTrap raised = true ∧ attempt.initialPages < attempt.ceiling then
      some (shared.closeStore store, .opening (some store) (attempt.doubled below.2))
    else
      some (shared.closeStore store,
        .raising (some store) (instantiationFailure raised))
  | .returning store, .go =>
    some ({ shared with lock := false, runtimes := store :: shared.runtimes },
      .idle (some (.ok store)))
  | .raising current raised, .go =>
    some ({ shared with lock := false }, .closing current (some raised))
  -- WasmtimeRuntime.close
  | .idle _, .callClose store =>
    if store ∈ shared.runtimes then some (shared, .closing (some store) none) else none
  | .closing current raised, .go =>
    if shared.lock then none
    else some ({ shared with lock := true }, .finalising current raised)
  | .finalising current raised, .go =>
    some ((shared.closeCurrent current).release current raised, .leaving raised)
  | .leaving raised, .go => some ({ shared with lock := false }, .idle (ended raised))
  | _, _ => none

/-- What one atomic action can do. -/
inductive Move : Shared → Point → Action → Shared → Point → Prop
  | constructRefused (shared : Shared) (last : Option (Except Raised Nat))
      (maxMemoryPages : Option Nat) (small : belowMinimum maxMemoryPages = true) :
      Move shared (.idle last) (.callConstruct maxMemoryPages) shared
        (.idle (some (.error (minimumError maxMemoryPages))))
  | constructCalled (shared : Shared) (last : Option (Except Raised Nat))
      (maxMemoryPages : Option Nat) :
      Move shared (.idle last) (.callConstruct maxMemoryPages) shared (.acquiring maxMemoryPages)
  | locked (shared : Shared) (maxMemoryPages : Option Nat) (free : shared.lock = false) :
      Move shared (.acquiring maxMemoryPages) .go { shared with lock := true }
        (.opening none (.first maxMemoryPages))
  | storeOpened (shared : Shared) (current : Option Nat) (attempt : Attempt) (done : PUnit) :
      Move shared (.opening current attempt) (.ends (.ok done))
        { shared with
          opened := shared.opened + 1, openStores := shared.opened :: shared.openStores }
        (.attempting .arming shared.opened attempt)
  | storeFailed (shared : Shared) (current : Option Nat) (attempt : Attempt) (raised : Raised) :
      Move shared (.opening current attempt) (.ends (.error raised)) shared
        (.raising current raised)
  | callReturned (shared : Shared) (call following : NativeCall) (store : Nat) (attempt : Attempt)
      (done : PUnit) (follows : call.after attempt.maxMemoryPages.isSome = some following) :
      Move shared (.attempting call store attempt) (.ends (.ok done)) shared
        (.attempting following store attempt)
  | lastReturned (shared : Shared) (call : NativeCall) (store : Nat) (attempt : Attempt)
      (done : PUnit) (last : call.after attempt.maxMemoryPages.isSome = none) :
      Move shared (.attempting call store attempt) (.ends (.ok done)) shared
        (.returning store)
  | callFailed (shared : Shared) (call : NativeCall) (store : Nat) (attempt : Attempt)
      (raised : Raised) (native : isNative raised.kind = true) :
      Move shared (.attempting call store attempt) (.ends (.error raised)) shared
        (.discarding store attempt raised)
  | callRaised (shared : Shared) (call : NativeCall) (store : Nat) (attempt : Attempt)
      (raised : Raised) (foreign : isNative raised.kind = false) :
      Move shared (.attempting call store attempt) (.ends (.error raised)) shared
        (.raising (some store) raised)
  | retried (shared : Shared) (store : Nat) (attempt : Attempt) (raised : Raised)
      (overflow : isMemoryOverflowTrap raised = true)
      (below : attempt.initialPages < attempt.ceiling) :
      Move shared (.discarding store attempt raised) .go (shared.closeStore store)
        (.opening (some store) (attempt.doubled below))
  | givenUp (shared : Shared) (store : Nat) (attempt : Attempt) (raised : Raised) :
      Move shared (.discarding store attempt raised) .go (shared.closeStore store)
        (.raising (some store) (instantiationFailure raised))
  | constructed (shared : Shared) (store : Nat) :
      Move shared (.returning store) .go
        { shared with lock := false, runtimes := store :: shared.runtimes }
        (.idle (some (.ok store)))
  | constructFailed (shared : Shared) (current : Option Nat) (raised : Raised) :
      Move shared (.raising current raised) .go { shared with lock := false }
        (.closing current (some raised))
  | closeCalled (shared : Shared) (last : Option (Except Raised Nat)) (store : Nat)
      (constructed : store ∈ shared.runtimes) :
      Move shared (.idle last) (.callClose store) shared (.closing (some store) none)
  | closeLocked (shared : Shared) (current : Option Nat) (raised : Option Raised)
      (free : shared.lock = false) :
      Move shared (.closing current raised) .go { shared with lock := true }
        (.finalising current raised)
  | finalised (shared : Shared) (current : Option Nat) (raised : Option Raised) :
      Move shared (.finalising current raised) .go
        ((shared.closeCurrent current).release current raised) (.leaving raised)
  | closeReturned (shared : Shared) (raised : Option Raised) :
      Move shared (.leaving raised) .go { shared with lock := false } (.idle (ended raised))

/-- Every action of a thread is one of these moves. -/
theorem next_move {shared shared' : Shared} {point point' : Point} {action : Action}
    (acted : next shared point action = some (shared', point')) :
    Move shared point action shared' point' := by
  unfold next at acted
  split at acted <;> (try split at acted) <;>
    simp only [Option.some.injEq, Prod.mk.injEq, reduceCtorEq] at acted <;>
    obtain ⟨rfl, rfl⟩ := acted
  case h_7.isTrue below => exact .retried _ _ _ _ below.1 below.2
  all_goals (constructor <;> simp_all)

/-- A process in which nobody has called yet. -/
def start {Thread : Type} : State Thread Shared Point where
  shared := ⟨false, 0, [], [], []⟩
  threads := fun _ => .idle none

/-- Constructors and closes of any number of threads at every interleaving. -/
def process (Thread : Type) [DecidableEq Thread] :
    Machine (State Thread Shared Point) (Thread × Action) :=
  machine (fun _ => next) start

section Lock

/-- A thread executes native code that opens or finalises a store. -/
def Point.native : Point → Bool
  | .opening _ _ => true
  | .attempting _ _ _ => true
  | .discarding _ _ _ => true
  | .finalising _ _ => true
  | _ => false

/-- One for a thread inside a `with` block of the lock. -/
def Point.locks : Point → Nat
  | .opening _ _ => 1
  | .attempting _ _ _ => 1
  | .discarding _ _ _ => 1
  | .returning _ => 1
  | .raising _ _ => 1
  | .finalising _ _ => 1
  | .leaving _ => 1
  | _ => 0

/-- One while the lock is held. -/
def Shared.locked (shared : Shared) : Nat := if shared.lock then 1 else 0

/-- Native code runs inside the lock. -/
theorem Point.locks_of_native {point : Point} (native : point.native = true) : point.locks = 1 := by
  cases point <;> first | rfl | cases native

/-- Closing the store of an attempt does not touch the lock. -/
@[simp] theorem Shared.lock_closeCurrent (shared : Shared) (current : Option Nat)
    (raised : Option Raised) :
    ((shared.closeCurrent current).release current raised).lock = shared.lock := by
  cases current <;> cases raised <;> rfl

/-- Acquiring and releasing keep the lock in step with its owner. -/
theorem Move.keeps_lock {shared shared' : Shared} {point point' : Point} {action : Action}
    (move : Move shared point action shared' point')
    (owned : point.locks = 1 → shared.lock = true) :
    shared'.locked + 0 + point.locks = shared.locked + 0 + point'.locks := by
  cases move with
  | locked _ free | closeLocked _ _ free => simp [Shared.locked, Point.locks, free]
  | constructed | constructFailed | closeReturned =>
    simp [Shared.locked, Point.locks, owned rfl]
  | finalised => simp [Shared.locked, Point.locks]
  | _ => rfl

end Lock

section Stores

/-- The store of a runtime whose constructor has not returned. -/
def Point.building : Point → Option Nat
  | .opening current _ => current
  | .attempting _ store _ => some store
  | .discarding store _ _ => some store
  | .returning store => some store
  | .raising current _ => current
  | .closing current (some _) => current
  | .finalising current (some _) => current
  | _ => none

/-- The store of an attempt that has not failed. -/
def Point.holding : Point → Option Nat
  | .attempting _ store _ => some store
  | .returning store => some store
  | _ => none

/-- The store of the attempt before the next one, which is closed. -/
def Point.reopening : Point → Option Nat
  | .opening current _ => current
  | _ => none

/-- The store of a runtime that its owner closes. -/
def Point.owning : Point → Option Nat
  | .closing current none => current
  | .finalising current none => current
  | _ => none

/-- What one action does to the stores, and to the stores that the thread's point
speaks of. -/
inductive Change (shared : Shared) (point : Point) : Shared → Point → Prop
  | keeps {shared' : Shared} {point' : Point} (opened : shared'.opened = shared.opened)
      (stores : shared'.openStores = shared.openStores) (runtimes : shared'.runtimes = shared.runtimes)
      (released : shared'.released = shared.released) (building : point'.building = point.building)
      (holding : ∀ store, point'.holding = some store → point.holding = some store)
      (reopening : point'.reopening = none)
      (owning : ∀ store, point'.owning = some store →
        point.owning = some store ∨ store ∈ shared.runtimes) : Change shared point shared' point'
  | opens {point' : Point} (reopened : point.building = point.reopening)
      (building : point'.building = some shared.opened) (reopening : point'.reopening = none)
      (owning : point'.owning = none) :
      Change shared point { shared with
        opened := shared.opened + 1, openStores := shared.opened :: shared.openStores } point'
  | closes {shared' : Shared} {point' : Point} (store : Nat) (own : point.building = some store)
      (opened : shared'.opened = shared.opened)
      (stores : shared'.openStores = shared.openStores.filter (· ≠ store))
      (runtimes : shared'.runtimes = shared.runtimes) (released : shared'.released = shared.released)
      (building : point'.building = some store ∨ point'.building = none)
      (holding : point'.holding = none)
      (reopening : ∀ other, point'.reopening = some other → other = store)
      (owning : point'.owning = none) : Change shared point shared' point'
  | constructs {shared' : Shared} {point' : Point} (store : Nat) (held : point.holding = some store)
      (own : point.building = some store) (opened : shared'.opened = shared.opened)
      (stores : shared'.openStores = shared.openStores)
      (runtimes : shared'.runtimes = store :: shared.runtimes)
      (released : shared'.released = shared.released) (building : point'.building = none)
      (holding : point'.holding = none) (reopening : point'.reopening = none)
      (owning : point'.owning = none) : Change shared point shared' point'
  | releases {shared' : Shared} {point' : Point} (store : Nat) (own : point.owning = some store)
      (opened : shared'.opened = shared.opened)
      (stores : shared'.openStores = shared.openStores.filter (· ≠ store))
      (runtimes : shared'.runtimes = shared.runtimes)
      (released : shared'.released = store :: shared.released) (unbuilt : point.building = none)
      (building : point'.building = none)
      (holding : point'.holding = none) (reopening : point'.reopening = none)
      (owning : point'.owning = none) : Change shared point shared' point'

/-- Every move is one of these changes. -/
theorem Move.change {shared shared' : Shared} {point point' : Point} {action : Action}
    (move : Move shared point action shared' point') : Change shared point shared' point' := by
  cases move with
  | storeOpened => exact .opens rfl rfl rfl rfl
  | retried store _ _ _ below =>
    refine .closes store rfl rfl rfl rfl rfl (.inl rfl) rfl ?_ rfl
    intro other same
    exact (Option.some.inj same).symm
  | givenUp store => exact .closes store rfl rfl rfl rfl rfl (.inl rfl) rfl nofun rfl
  | constructed store => exact .constructs store rfl rfl rfl rfl rfl rfl rfl rfl rfl rfl
  | locked => exact .keeps rfl rfl rfl rfl rfl nofun rfl nofun
  | callReturned | lastReturned => exact .keeps rfl rfl rfl rfl rfl (fun _ same => same) rfl nofun
  | closeCalled _ store constructed =>
    refine .keeps rfl rfl rfl rfl rfl nofun rfl ?_
    intro other same
    obtain rfl : store = other := Option.some.inj same
    exact .inr constructed
  | closeLocked current raised =>
    cases raised with
    | none => exact .keeps rfl rfl rfl rfl rfl nofun rfl (fun _ same => .inl same)
    | some raised => exact .keeps rfl rfl rfl rfl rfl nofun rfl nofun
  | finalised current raised =>
    cases current with
    | none => cases raised <;> exact .keeps rfl rfl rfl rfl rfl nofun rfl nofun
    | some store =>
      cases raised with
      | none => exact .releases store rfl rfl rfl rfl rfl rfl rfl rfl rfl rfl
      | some raised => exact .closes store rfl rfl rfl rfl rfl (.inr rfl) rfl nofun rfl
  | _ => exact .keeps rfl rfl rfl rfl rfl nofun rfl nofun

/-- What holds of the stores that a thread's point speaks of. -/
structure Stands (shared : Shared) (point : Point) : Prop where
  building : ∀ store, point.building = some store → store < shared.opened ∧ store ∉ shared.runtimes
  holding : ∀ store, point.holding = some store → store ∈ shared.openStores
  reopening : ∀ store, point.reopening = some store → store ∉ shared.openStores
  owning : ∀ store, point.owning = some store → store ∈ shared.runtimes

/-- What holds of the stores that no thread's point speaks of. -/
structure Shared.Sound (shared : Shared) : Prop where
  known : ∀ store ∈ shared.openStores, store < shared.opened
  built : ∀ store ∈ shared.runtimes, store < shared.opened
  live : ∀ store ∈ shared.runtimes, store ∈ shared.openStores ↔ store ∉ shared.released
  released : ∀ store ∈ shared.released, store ∈ shared.runtimes

/-- A store that is held is under construction. -/
theorem Point.building_of_holding {point : Point} {store : Nat} (held : point.holding = some store) :
    point.building = some store := by
  cases point <;> first | exact held | cases held

/-- A store that was the last attempt's is under construction. -/
theorem Point.building_of_reopening {point : Point} {store : Nat}
    (reopens : point.reopening = some store) : point.building = some store := by
  cases point <;> first | exact reopens | cases reopens

section Changes

variable {shared shared' : Shared} {point point' other : Point} {store : Nat}
  (change : Change shared point shared' point')
include change

/-- The acting thread's point stands after its change.

Proof: one case for each kind of change: its record says what the acting thread builds and
holds after it. -/
theorem Change.stands (stands : Stands shared point) (sound : shared.Sound) :
    Stands shared' point' := by
  cases change with
  | keeps opened stores runtimes released building holding reopening owning =>
    refine ⟨?_, ?_, ?_, ?_⟩
    · rw [building, opened, runtimes]
      exact stands.building
    · rw [stores]
      exact fun store held => stands.holding store (holding store held)
    · simp [reopening]
    · rw [runtimes]
      exact fun store owned => (owning store owned).elim (stands.owning store) id
  | opens reopened building reopening owning =>
    refine ⟨?_, ?_, by simp [reopening], by simp [owning]⟩
    · intro store same
      obtain rfl : shared.opened = store := Option.some.inj (building.symm.trans same)
      exact ⟨Nat.lt_succ_self _, fun member => Nat.lt_irrefl _ (sound.built _ member)⟩
    · intro store held
      obtain rfl : shared.opened = store :=
        Option.some.inj (building.symm.trans (Point.building_of_holding held))
      exact List.mem_cons_self
  | closes store own opened stores runtimes released building holding reopening owning =>
    refine ⟨?_, by simp [holding], ?_, by simp [owning]⟩
    · intro other same
      rw [opened, runtimes]
      rcases building with kept | none
      · exact stands.building other (own.trans (kept.symm.trans same))
      · simp [none] at same
    · intro other reopens
      rw [reopening other reopens, stores]
      simp
  | constructs store held own opened stores runtimes released building holding reopening owning =>
    exact ⟨by simp [building], by simp [holding], by simp [reopening], by simp [owning]⟩
  | releases store own opened stores runtimes released unbuilt building holding reopening owning =>
    exact ⟨by simp [building], by simp [holding], by simp [reopening], by simp [owning]⟩

/-- Another thread's point stands too, if it builds another runtime.

Proof: one case for each kind of change. What the other thread builds has another number than
what this one opens, closes or makes a runtime of. -/
theorem Change.stands_other (stands : Stands shared point) (others : Stands shared other)
    (apart : ∀ store, point.building = some store → other.building ≠ some store) :
    Stands shared' other := by
  cases change with
  | keeps opened stores runtimes released =>
    refine ⟨?_, ?_, ?_, ?_⟩
    · rw [opened, runtimes]
      exact others.building
    · rw [stores]
      exact others.holding
    · rw [stores]
      exact others.reopening
    · rw [runtimes]
      exact others.owning
  | opens =>
    refine ⟨?_, ?_, ?_, others.owning⟩
    · exact fun store builds => ⟨Nat.lt_succ_of_lt (others.building store builds).1,
        (others.building store builds).2⟩
    · exact fun store held => List.mem_cons_of_mem _ (others.holding store held)
    · intro store reopens member
      rcases List.mem_cons.mp member with rfl | member
      · exact Nat.lt_irrefl _ (others.building _ (Point.building_of_reopening reopens)).1
      · exact others.reopening store reopens member
  | closes closed own opened stores runtimes =>
    refine ⟨?_, ?_, ?_, ?_⟩
    · rw [opened, runtimes]
      exact others.building
    · intro store held
      rw [stores, List.mem_filter]
      refine ⟨others.holding store held, ?_⟩
      have different : store ≠ closed := by
        rintro rfl
        exact apart store own (Point.building_of_holding held)
      simpa using different
    · intro store reopens member
      rw [stores] at member
      exact others.reopening store reopens (List.mem_filter.mp member).1
    · rw [runtimes]
      exact others.owning
  | constructs built held own opened stores runtimes =>
    refine ⟨?_, ?_, ?_, ?_⟩
    · intro store builds
      rw [opened, runtimes]
      refine ⟨(others.building store builds).1, fun member => ?_⟩
      rcases List.mem_cons.mp member with rfl | member
      · exact apart store own builds
      · exact (others.building store builds).2 member
    · rw [stores]
      exact others.holding
    · rw [stores]
      exact others.reopening
    · rw [runtimes]
      exact fun store owned => List.mem_cons_of_mem _ (others.owning store owned)
  | releases closed own opened stores runtimes =>
    refine ⟨?_, ?_, ?_, ?_⟩
    · rw [opened, runtimes]
      exact others.building
    · intro store held
      rw [stores, List.mem_filter]
      refine ⟨others.holding store held, ?_⟩
      have different : store ≠ closed := by
        rintro rfl
        exact (others.building store (Point.building_of_holding held)).2 (stands.owning store own)
      simpa using different
    · intro store reopens member
      rw [stores] at member
      exact others.reopening store reopens (List.mem_filter.mp member).1
    · rw [runtimes]
      exact others.owning

/-- The stores stay sound.

Proof: one case for each kind of change. A store that is opened has a new number, one that an
attempt closes belongs to no runtime, and one that is released belongs to the runtime that
holds it. -/
theorem Change.sound (stands : Stands shared point) (sound : shared.Sound) : shared'.Sound := by
  obtain ⟨known, built, live, released⟩ := sound
  cases change with
  | keeps opened stores runtimes freed =>
    refine ⟨?_, ?_, ?_, ?_⟩
    · rwa [stores, opened]
    · rwa [runtimes, opened]
    · rwa [runtimes, stores, freed]
    · rwa [freed, runtimes]
  | opens =>
    refine ⟨?_, fun store member => Nat.lt_succ_of_lt (built store member), ?_, released⟩
    · intro store member
      rcases List.mem_cons.mp member with rfl | member
      · exact Nat.lt_succ_self _
      · exact Nat.lt_succ_of_lt (known store member)
    · intro store member
      have different : store ≠ shared.opened := Nat.ne_of_lt (built store member)
      simpa [different] using live store member
  | closes closed own opened stores runtimes freed =>
    have apart : ∀ store ∈ shared.runtimes, store ≠ closed := by
      rintro store member rfl
      exact (stands.building store own).2 member
    refine ⟨?_, ?_, ?_, ?_⟩
    · intro store member
      rw [stores] at member
      rw [opened]
      exact known store (List.mem_filter.mp member).1
    · rwa [runtimes, opened]
    · intro store member
      rw [runtimes] at member
      rw [stores, freed]
      simpa [apart store member] using live store member
    · rwa [freed, runtimes]
  | constructs new held own opened stores runtimes freed =>
    obtain ⟨below, fresh⟩ := stands.building new own
    refine ⟨?_, ?_, ?_, ?_⟩
    · rwa [stores, opened]
    · intro store member
      rw [runtimes] at member
      rw [opened]
      rcases List.mem_cons.mp member with rfl | member
      · exact below
      · exact built store member
    · intro store member
      rw [runtimes] at member
      rw [stores, freed]
      rcases List.mem_cons.mp member with rfl | member
      · exact iff_of_true (stands.holding store held) (fun gone => fresh (released store gone))
      · exact live store member
    · intro store gone
      rw [freed] at gone
      rw [runtimes]
      exact List.mem_cons_of_mem _ (released store gone)
  | releases closed own opened stores runtimes freed =>
    refine ⟨?_, ?_, ?_, ?_⟩
    · intro store member
      rw [stores] at member
      rw [opened]
      exact known store (List.mem_filter.mp member).1
    · rwa [runtimes, opened]
    · intro store member
      rw [runtimes] at member
      rw [stores, freed]
      by_cases same : store = closed
      · simp [same]
      · simpa [same] using live store member
    · intro store gone
      rw [freed] at gone
      rw [runtimes]
      rcases List.mem_cons.mp gone with rfl | gone
      · exact stands.owning store own
      · exact released store gone

/-- A store that becomes or stays a runtime's under construction is not another
thread's. -/
theorem Change.apart (others : Stands shared other)
    (apart : ∀ store, point.building = some store → other.building ≠ some store) :
    ∀ store, point'.building = some store → other.building ≠ some store := by
  intro store builds
  cases change with
  | keeps _ _ _ _ building => exact apart store (building ▸ builds)
  | opens _ building =>
    intro same
    obtain rfl : shared.opened = store := Option.some.inj (building.symm.trans builds)
    exact Nat.lt_irrefl _ (others.building _ same).1
  | closes closed own _ _ _ _ building =>
    rcases building with kept | none
    · exact apart store (own.trans (kept.symm.trans builds))
    · simp [none] at builds
  | constructs _ _ _ _ _ _ _ building => simp [building] at builds
  | releases _ _ _ _ _ _ _ building => simp [building] at builds

/-- An open store is a runtime's or under construction, here or elsewhere.

Proof: one case for each kind of change. Only the constructor that returns moves its store to
the runtimes, and what is closed is not open. -/
theorem Change.accounted (stands : Stands shared point) (elsewhere : Prop)
    (accounted : store ∈ shared.openStores →
      store ∈ shared.runtimes ∨ point.building = some store ∨ elsewhere)
    (isOpen : store ∈ shared'.openStores) :
    store ∈ shared'.runtimes ∨ point'.building = some store ∨ elsewhere := by
  cases change with
  | keeps _ stores runtimes _ building =>
    rw [runtimes, building]
    exact accounted (stores ▸ isOpen)
  | opens reopened building =>
    rcases List.mem_cons.mp isOpen with rfl | isOpen
    · exact .inr (.inl building)
    · refine (accounted isOpen).imp_right (Or.imp_left (fun own => ?_))
      exact absurd isOpen (stands.reopening store (reopened ▸ own))
  | closes closed own _ stores runtimes =>
    rw [stores, List.mem_filter] at isOpen
    rw [runtimes]
    refine (accounted isOpen.1).imp_right (Or.imp_left (fun here => ?_))
    obtain rfl : closed = store := Option.some.inj (own.symm.trans here)
    simp at isOpen
  | constructs new _ own _ stores runtimes =>
    rw [stores] at isOpen
    rw [runtimes]
    rcases accounted isOpen with built | here | there
    · exact .inl (List.mem_cons_of_mem _ built)
    · obtain rfl : new = store := Option.some.inj (own.symm.trans here)
      exact .inl List.mem_cons_self
    · exact .inr (.inr there)
  | releases closed _ _ stores runtimes _ unbuilt =>
    rw [stores, List.mem_filter] at isOpen
    rw [runtimes]
    refine (accounted isOpen.1).imp_right (Or.imp_left (fun here => ?_))
    simp [unbuilt] at here

end Changes

/-- The stores of a process: what each point says of its own holds, no two threads
construct a runtime on one store, and every open store is accounted for. -/
structure Accounted {Thread : Type} (state : State Thread Shared Point) : Prop where
  stands : ∀ thread, Stands state.shared (state.threads thread)
  apart : ∀ one other, one ≠ other → ∀ store,
    (state.threads one).building = some store → (state.threads other).building ≠ some store
  sound : state.shared.Sound
  accounted : ∀ store ∈ state.shared.openStores,
    store ∈ state.shared.runtimes ∨ ∃ thread, (state.threads thread).building = some store

variable {Thread : Type} [DecidableEq Thread]

/-- One action keeps the stores accounted for.

Proof: the acting thread by its own change, every other thread since it builds another
runtime. An open store is still a runtime's, or still under construction by the thread that
built it. -/
theorem Accounted.step {before : State Thread Shared Point} {thread : Thread} {shared' : Shared}
    {point' : Point} (kept : Accounted before)
    (change : Change before.shared (before.threads thread) shared' point') :
    Accounted ⟨shared', Function.update before.threads thread point'⟩ := by
  have others (other : Thread) (different : other ≠ thread) :
      Function.update before.threads thread point' other = before.threads other :=
    Function.update_of_ne different point' before.threads
  refine ⟨fun other => ?_, fun one other different store builds => ?_,
    change.sound (kept.stands thread) kept.sound, fun store isOpen => ?_⟩
  · dsimp only
    by_cases same : other = thread
    · subst same
      simpa only [Function.update_self] using change.stands (kept.stands other) kept.sound
    · rw [others other same]
      exact change.stands_other (kept.stands thread) (kept.stands other)
        (kept.apart thread other (Ne.symm same))
  · dsimp only at builds ⊢
    by_cases first : one = thread
    · subst first
      rw [Function.update_self] at builds
      rw [others other (Ne.symm different)]
      exact change.apart (kept.stands other) (kept.apart one other different) store builds
    · rw [others one first] at builds
      by_cases second : other = thread
      · subst second
        rw [Function.update_self]
        exact fun same => change.apart (kept.stands one)
          (kept.apart other one (Ne.symm different)) store same builds
      · rw [others other second]
        exact kept.apart one other different store builds
  · have split (here : ∃ other, (before.threads other).building = some store) :
        (before.threads thread).building = some store ∨
          ∃ other, other ≠ thread ∧ (before.threads other).building = some store := by
      obtain ⟨other, builds⟩ := here
      by_cases same : other = thread
      · exact .inl (same ▸ builds)
      · exact .inr ⟨other, same, builds⟩
    refine (change.accounted (kept.stands thread) _
      (fun member => (kept.accounted store member).imp_right split) isOpen).imp_right ?_
    rintro (here | ⟨other, different, builds⟩)
    · exact ⟨thread, by simpa only [Function.update_self] using here⟩
    · exact ⟨other, by simpa only [others other different] using builds⟩

/-- In every reachable state the stores are accounted for. -/
theorem accounted_reachable {state : State Thread Shared Point}
    (reached : Reachable (process Thread) state) : Accounted state := by
  refine invariant Accounted ?_ ?_ reached
  · exact ⟨fun _ => ⟨nofun, nofun, nofun, nofun⟩, fun _ _ _ _ => nofun,
      ⟨nofun, nofun, nofun, nofun⟩, nofun⟩
  · intro before label after _ kept stepped
    obtain ⟨shared', point', acted, rfl⟩ := step_cases stepped
    exact kept.step (next_move acted).change

end Stores

section Progress

/-- The pages below the ceiling. -/
def Attempt.left (attempt : Attempt) : Nat := attempt.ceiling - attempt.initialPages

/-- The native calls of an attempt that are left. -/
def NativeCall.left : NativeCall → Nat
  | .arming => 5
  | .allocating => 4
  | .limiting => 3
  | .registering => 2
  | .instantiating => 1

/-- The steps that a thread has left in its call, with eight for each page that a retry
may add. -/
def Point.work : Point → Nat
  | .idle _ => 0
  | .acquiring maxMemoryPages => 8 * (Attempt.first maxMemoryPages).left + 12
  | .opening _ attempt => 8 * attempt.left + 11
  | .attempting call _ attempt => 8 * attempt.left + 5 + call.left
  | .discarding _ attempt _ => 8 * attempt.left + 5
  | .returning _ => 4
  | .raising _ _ => 4
  | .closing _ _ => 3
  | .finalising _ _ => 2
  | .leaving _ => 1

/-- Fewer pages are left below the ceiling after a retry. -/
theorem Attempt.left_doubled (attempt : Attempt) (below : attempt.initialPages < attempt.ceiling) :
    (attempt.doubled below).left < attempt.left := by
  have enough : 2 ≤ attempt.initialPages := attempt.enough
  have same : (attempt.doubled below).ceiling = attempt.ceiling := rfl
  have doubled : (attempt.doubled below).initialPages =
      min (attempt.initialPages * 2) attempt.ceiling := rfl
  unfold Attempt.left
  rw [same, doubled]
  omega

/-- Fewer native calls are left behind one that has returned. -/
theorem NativeCall.left_after {limited : Bool} {call following : NativeCall}
    (follows : call.after limited = some following) : following.left < call.left := by
  cases call <;> cases limited <;> cases follows <;> decide

/-- A native call that executes is left. -/
theorem NativeCall.left_pos (call : NativeCall) : 0 < call.left := by
  cases call <;> decide

/-- A thread calls. -/
def Action.begins : Action → Bool
  | .callConstruct _ => true
  | .callClose _ => true
  | _ => false

/-- Each step that begins no new call takes something off. -/
theorem Move.work_falls {shared shared' : Shared} {point point' : Point} {action : Action}
    (move : Move shared point action shared' point') (same : action.begins = false) :
    point'.work < point.work := by
  cases move with
  | constructRefused | constructCalled | closeCalled => simp [Action.begins] at same
  | callReturned call following store attempt done follows =>
    have fewer := NativeCall.left_after follows
    simp only [Point.work]
    omega
  | retried store attempt raised overflow below =>
    have fewer := attempt.left_doubled below
    simp only [Point.work]
    omega
  | callFailed call | callRaised call | lastReturned call =>
    have positive := call.left_pos
    simp only [Point.work]
    omega
  | storeOpened | storeFailed | givenUp =>
    simp only [Point.work, NativeCall.left]
    omega
  | locked | constructed | constructFailed | closeLocked | finalised | closeReturned =>
    simp [Point.work]

/-- A thread inside a call can go on, once the native call that it executes ends,
unless another one holds the lock. -/
theorem goes_on {shared : Shared} {point : Point} (busy : ∀ last, point ≠ .idle last)
    (outside : point.locks = 0 → shared.lock = false) :
    ∃ action, (action = .go ∨ action = .ends (.ok .unit)) ∧ (next shared point action).isSome = true := by
  cases point with
  | idle last => exact absurd rfl (busy last)
  | acquiring | closing => exact ⟨.go, .inl rfl, by simp [next, outside rfl]⟩
  | opening | attempting =>
    refine ⟨.ends (.ok .unit), .inr rfl, ?_⟩
    simp only [next]
    try split
    all_goals rfl
  | discarding =>
    refine ⟨.go, .inl rfl, ?_⟩
    simp only [next]
    split <;> rfl
  | returning | raising | finalising | leaving => exact ⟨.go, .inl rfl, rfl⟩

variable {Thread : Type} {state : State Thread Shared Point}

/-- No thread is inside a call. -/
def AllIdle (state : State Thread Shared Point) : Prop :=
  ∀ thread, ∃ last, state.threads thread = .idle last

/-- Steps that begin no new call. -/
def uncalled (_ : State Thread Shared Point) (label : Thread × Action) : Prop :=
  label.2.begins = false

/-- A thread goes on, or the native call that it executes returns. -/
def goes (_ : State Thread Shared Point) (label : Thread × Action) : Prop :=
  label.2 = .go ∨ label.2 = .ends (.ok .unit)

/-- Where all threads are idle, the open stores are those of the runtimes that were
constructed and not closed. -/
theorem Accounted.idle (kept : Accounted state) (idle : AllIdle state) (store : Nat) :
    store ∈ state.shared.openStores ↔
      store ∈ state.shared.runtimes ∧ store ∉ state.shared.released := by
  constructor
  · intro isOpen
    rcases kept.accounted store isOpen with built | ⟨thread, builds⟩
    · exact ⟨built, (kept.sound.live store built).mp isOpen⟩
    · obtain ⟨last, same⟩ := idle thread
      simp [same, Point.building] at builds
  · rintro ⟨built, kept'⟩
    exact (kept.sound.live store built).mpr kept'

section Counted

variable [DecidableEq Thread] [Fintype Thread] (reached : Reachable (process Thread) state)
include reached

/-- The lock has exactly one owner while it is held and none otherwise. -/
theorem lock_ledger : state.shared.locked = total Point.locks state.threads := by
  have owned : Balances Shared.locked (fun _ => 0) Point.locks state := by
    refine invariant (Balances Shared.locked (fun _ => 0) Point.locks) ?_ ?_ reached
    · simp [Balances, process, machine, start, Shared.locked, total, Point.locks]
    · intro before label after _ balanced stepped
      refine balanced.step (fun shared' point' acted => ?_) stepped
      have carried : (before.threads label.1).locks ≤ total Point.locks before.threads :=
        weight_le_total Point.locks before.threads label.1
      refine (next_move acted).keeps_lock (fun inside => ?_)
      by_contra unlocked
      simp only [Balances, Shared.locked, unlocked] at balanced
      simp at balanced
      omega
  simpa [Balances] using owned

/-- At most one thread is inside a `with` block of the lock. -/
theorem owner_unique {one other : Thread} (first : (state.threads one).locks = 1)
    (second : (state.threads other).locks = 1) : one = other := by
  by_contra different
  have both := weights_le_total Point.locks state.threads different
  have held : state.shared.locked ≤ 1 := by
    unfold Shared.locked
    split <;> omega
  rw [lock_ledger reached] at held
  omega

/-- Whoever constructs or closes a runtime, no two threads execute native code that opens
or finalises a store at once. No store is lost: one whose constructor has returned stays
open until its runtime is closed, whichever threads close it how often. Any other open
store belongs to a constructor under way, each store to one of them. So whenever no call
is under way, the open stores are those of the runtimes that were constructed and
not closed. -/
theorem native_code_alone :
    (∀ one other, (state.threads one).native = true → (state.threads other).native = true →
      one = other) ∧
    (∀ store ∈ state.shared.runtimes,
      store ∈ state.shared.openStores ↔ store ∉ state.shared.released) ∧
    (∀ store ∈ state.shared.openStores, store ∈ state.shared.runtimes ∨
      ∃! thread, (state.threads thread).building = some store) ∧
    (AllIdle state → ∀ store, store ∈ state.shared.openStores ↔
      store ∈ state.shared.runtimes ∧ store ∉ state.shared.released) := by
  have kept := accounted_reachable reached
  refine ⟨fun one other first second => ?_, kept.sound.live, fun store isOpen => ?_, kept.idle⟩
  · exact owner_unique reached (Point.locks_of_native first) (Point.locks_of_native second)
  · refine (kept.accounted store isOpen).imp_right ?_
    rintro ⟨thread, builds⟩
    refine ⟨thread, builds, fun other same => ?_⟩
    by_contra different
    exact kept.apart other thread different store same builds

end Counted

/-- The first thread constructs a runtime at its second attempt, and calls `close`; the
second thread is inside its own constructor by then. -/
def constructedTwice : State Bool Shared Point :=
  (run (process Bool) anything start
    [(false, .callConstruct none), (false, .go), (false, .ends (.ok .unit)),
      (false, .ends (.ok .unit)), (false, .ends (.ok .unit)), (false, .ends (.ok .unit)),
      (false, .ends (.error ⟨.trap true, "out of bounds memory access", []⟩)), (false, .go),
      (false, .ends (.ok .unit)), (false, .ends (.ok .unit)), (false, .ends (.ok .unit)),
      (false, .ends (.ok .unit)), (false, .ends (.ok .unit)), (false, .go),
      (true, .callConstruct (some 4)), (true, .go), (true, .ends (.ok .unit)),
      (false, .callClose 1)]).getD start

/-- The state is reached. -/
theorem constructedTwice_reachable : Reachable (process Bool) constructedTwice :=
  executed_reaches (process Bool) anything _ start (by decide)

/-- The store of the first attempt is closed, the second attempt's is a runtime's, and a
third one is under construction. -/
theorem native_code_alone_twice :
    constructedTwice.shared.openStores = [2, 1] ∧ constructedTwice.shared.runtimes = [1] ∧
      (constructedTwice.threads true).building = some 2 ∧
      ∃! thread, (constructedTwice.threads thread).building = some 2 :=
  ⟨by decide, by decide, by decide,
    ((native_code_alone constructedTwice_reachable).2.2.1 2 (by decide)).resolve_left (by decide)⟩

section Counted

variable [DecidableEq Thread] [Fintype Thread] (reached : Reachable (process Thread) state)
include reached

/-- Where no thread can go on, whatever native calls return, no call is under way. -/
theorem stopped_idle
    (stopped : ∀ label, goes state label → (process Thread).step state label = none) :
    AllIdle state := by
  have stands (thread : Thread) (outside : (state.threads thread).locks = 0 →
      state.shared.lock = false) : ∃ last, state.threads thread = .idle last := by
    by_contra busy
    obtain ⟨action, going, acts⟩ :=
      goes_on (fun last same => busy ⟨last, same⟩) outside
    have stuck := stopped (thread, action) going
    simp only [process, machine, Option.map_eq_none_iff] at stuck
    simp [stuck] at acts
  have free : state.shared.lock = false := by
    by_contra held
    have locked : total Point.locks state.threads ≠ 0 := by
      rw [← lock_ledger reached]
      simp [Shared.locked, held]
    obtain ⟨thread, inside⟩ := exists_weight locked
    obtain ⟨last, same⟩ := stands thread (fun outside => absurd outside inside)
    simp [same, Point.locks] at inside
  exact fun thread => stands thread (fun _ => free)

end Counted

/-- The steps that all threads have left. -/
def remaining [Fintype Thread] (state : State Thread Shared Point) : Nat :=
  total Point.work state.threads

variable [DecidableEq Thread] [Fintype Thread]

/-- A step that begins no new call takes something off what remains. -/
theorem remaining_falls :
    Falls (process Thread) uncalled remaining := by
  intro before label after reached same stepped
  obtain ⟨shared', point', acted, rfl, carried⟩ := step_total Point.work stepped
  have fell : point'.work < (before.threads label.1).work := (next_move acted).work_falls same
  simp only [remaining]
  omega

/-- Where some call is under way, some thread can go on. -/
theorem some_goes : Advances (process Thread) goes AllIdle := by
  intro state reached busy
  by_contra stuck
  refine busy (stopped_idle reached (fun label going => ?_))
  by_contra stepped
  obtain ⟨after, stepped⟩ := Option.ne_none_iff_exists'.mp stepped
  exact stuck ⟨label, after, going, stepped⟩

/-- The lock is not reentrant, and a constructor that fails takes it twice: still every
construction and every close comes to its end, however native calls end, unless new calls
keep coming. Runs without new calls take no more steps than remain in the state that
they start from. While any call is under way some thread can go on, or some native call
is under way and may return. -/
theorem native_calls_end (reached : Reachable (process Thread) state) :
    (∀ labels last, Takes (process Thread) uncalled state labels last →
      labels.length ≤ total Point.work state.threads) ∧
    ((∀ label, goes state label → (process Thread).step state label = none) →
      AllIdle state) ∧
    ∃ labels last, Takes (process Thread) goes state labels last ∧ AllIdle last := by
  have falls : Falls (process Thread) goes remaining := by
    intro before label after reached going stepped
    refine remaining_falls before label after reached ?_ stepped
    rcases going with going | going <;> rw [uncalled, going] <;> rfl
  refine ⟨fun labels last taken => ?_, stopped_idle reached, some_goes.settles falls reached⟩
  have bounded := remaining_falls.bounds reached taken
  simp only [remaining] at bounded
  omega

/-- The closer waits for the constructor, and both come to their end. -/
theorem native_calls_end_twice :
    (constructedTwice.threads false).work = 3 ∧ constructedTwice.shared.lock = true ∧
      ∃ labels last, Takes (process Bool) goes constructedTwice labels last ∧ AllIdle last :=
  ⟨by decide, by decide, (native_calls_end constructedTwice_reachable).2.2⟩

end Progress

end OpaPyWasm.NativeLifecycle
