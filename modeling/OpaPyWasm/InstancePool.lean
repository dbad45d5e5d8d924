import Mathlib.Tactic.Simps.Basic
import OpaPyWasm.Library.Threads

/-!
# The bounded instance pool

`OpaInstancePool` keeps a bounded queue of idle slots. A slot is a placeholder
for an instance not built yet, an instance, or the close sentinel. `borrow`
draws a slot, builds or refreshes an instance, yields it, and `_release` puts a
slot back. `close` sets the closed flag, drains the queue and posts a sentinel.

Any number of threads run these calls. One action is one queue get or put, one
read or write of the closed flag, one counter update, one lock operation, one
`instance.close()`, or the outcome of one callback. The factory, the snapshot
and the refresh callbacks and the body of the with-block are the environment's:
their outcomes are part of the action.

Instances are numbered in the order in which the factory returned them. Four
fields are history variables that no step reads: the instances closed so far,
the instances whose put found the queue full, how far `close` has come, and
whether some `close` call has returned.
-/

namespace OpaPyWasm.InstancePool

/-- An entry of the idle queue: `None`, a pooled instance, or the sentinel. -/
inductive Slot where
  | placeholder
  | pooled (id : Nat)
  | sentinel
deriving DecidableEq

/-- The fields of an instance that the pool reads. -/
structure Instance where
  dataVersion : Nat
  poisoned : Bool
deriving DecidableEq

/-- How a call into the pool ended. -/
inductive Result where
  | finished
  | failed
  | timedOut
  | policyClosed
  | closeReturned
deriving DecidableEq

/-- How far the call that set the closed flag has come. -/
inductive Stage where
  | opened
  | draining
  | drained
  | posted
deriving DecidableEq

/-- The constructor rejects a size below one. A timed pool has a borrow timeout
that is not `None`. -/
structure Config where
  maxSize : Nat
  positive : 1 ≤ maxSize
  timed : Bool

/-- What all threads share. -/
structure Shared where
  idle : List Slot
  closedEvent : Bool
  closeLock : Bool
  created : Nat
  recreated : Nat
  built : Nat
  instances : Nat → Instance
  closed : List Nat
  dropped : List Nat
  stage : Stage
  closeReturned : Bool

/-- The program point of a thread with its local variables. The data of type
`α` is what the snapshot callback reported. -/
inductive Point (α : Type) where
  | outside (last : Option Result)
  | borrow
  | waiting
  | drawn (slot : Slot)
  | dropping (id : Nat)
  | reposting
  | creating
  | counting (id : Nat)
  | refreshing (id : Nat)
  | comparing (id : Nat) (data : α) (version : Nat)
  | reloading (id : Nat) (data : α) (version : Nat)
  | yielded (id : Nat) (discarded : Bool)
  | releasing (id : Nat) (discarded : Bool) (result : Result)
  | recreating (id : Nat) (result : Result)
  | restoring (instance? : Option Nat) (result : Result)
  | closingInstance (id : Nat) (result : Result)
  | returning (id : Nat) (result : Result)
  | close
  | testing
  | marking
  | draining
  | drainClosing (id : Nat)
  | posting
  | unlocking
deriving DecidableEq

/-- A thread either goes on with its next atomic operation, or the environment
decides what a callback, the caller or the clock does. -/
inductive Action (α : Type) where
  | callBorrow
  | callClose
  | go
  | timeout
  | factoryReturns (version : Nat)
  | factoryRaises
  | snapshotReturns (data : α) (version : Nat)
  | refreshReturns (version : Nat)
  | refreshRaises (poisons : Bool)
  | poison
  | discard
  | exit
deriving DecidableEq

/-- `put_nowait` with `queue.Full` swallowed. -/
def putNowait (config : Config) (idle : List Slot) (slot : Slot) : List Slot :=
  if idle.length < config.maxSize then idle ++ [slot] else idle

/-- `instance.close()`. -/
@[simps] def Shared.closeInstance (shared : Shared) (id : Nat) : Shared :=
  { shared with closed := id :: shared.closed }

/-- `_put_slot(None)`. -/
@[simps] def Shared.putPlaceholder (shared : Shared) (config : Config) : Shared :=
  { shared with idle := putNowait config shared.idle .placeholder }

/-- `_put_wake_sentinel()`. -/
@[simps] def Shared.putWakeSentinel (shared : Shared) (config : Config) : Shared :=
  { shared with idle := putNowait config shared.idle .sentinel }

/-- `_put_slot(instance)`: a full queue drops the instance. -/
def Shared.putInstance (shared : Shared) (config : Config) (id : Nat) : Shared :=
  if shared.idle.length < config.maxSize then
    { shared with idle := shared.idle ++ [.pooled id] }
  else { shared with dropped := id :: shared.dropped }

/-- Write one instance's fields. -/
@[simps] def Shared.setInstance (shared : Shared) (id : Nat) (fields : Instance) : Shared :=
  { shared with instances := Function.update shared.instances id fields }

variable {α : Type}

/-- One atomic action at a program point. -/
def next (config : Config) (shared : Shared) : Point α → Action α → Option (Shared × Point α)
  -- borrow
  | .outside _, .callBorrow => some (shared, .borrow)
  | .borrow, .go =>
    if shared.closedEvent then some (shared, .outside (some .policyClosed))
    else some (shared, .waiting)
  -- _take_slot
  | .waiting, .go =>
    match shared.idle with
    | [] => none
    | slot :: rest => some ({ shared with idle := rest }, .drawn slot)
  | .waiting, .timeout =>
    if config.timed ∧ shared.idle = [] then some (shared, .outside (some .timedOut)) else none
  | .drawn .sentinel, .go => some (shared, .reposting)
  | .drawn .placeholder, .go =>
    if shared.closedEvent then some (shared, .reposting) else some (shared, .creating)
  | .drawn (.pooled id), .go =>
    if shared.closedEvent then some (shared, .dropping id) else some (shared, .refreshing id)
  | .dropping id, .go => some (shared.closeInstance id, .reposting)
  | .reposting, .go => some (shared.putWakeSentinel config, .outside (some .policyClosed))
  -- _create_instance
  | .creating, .factoryReturns version =>
    some ({ shared.setInstance shared.built ⟨version, false⟩ with built := shared.built + 1 },
      .counting shared.built)
  | .creating, .factoryRaises => some (shared, .restoring none .failed)
  | .counting id, .go => some ({ shared with created := shared.created + 1 }, .refreshing id)
  -- _refresh_if_stale
  | .refreshing id, .snapshotReturns data version => some (shared, .comparing id data version)
  | .comparing id data version, .go =>
    if (shared.instances id).dataVersion ≠ version then some (shared, .reloading id data version)
    else some (shared, .yielded id false)
  | .reloading id _ _, .refreshReturns version =>
    some (shared.setInstance id { shared.instances id with dataVersion := version },
      .yielded id false)
  | .reloading id _ _, .refreshRaises poisons =>
    some (shared.setInstance id
      { shared.instances id with poisoned := (shared.instances id).poisoned || poisons },
      .releasing id false .failed)
  -- the body of the with-block
  | .yielded id discarded, .poison =>
    some (shared.setInstance id { shared.instances id with poisoned := true },
      .yielded id discarded)
  | .yielded id _, .discard => some (shared, .yielded id true)
  | .yielded id discarded, .exit => some (shared, .releasing id discarded .finished)
  -- _release
  | .releasing id discarded result, .go =>
    if shared.closedEvent then some (shared, .restoring (some id) result)
    else if discarded || (shared.instances id).poisoned then some (shared, .recreating id result)
    else some (shared, .returning id result)
  | .recreating id result, .go =>
    some ({ shared with recreated := shared.recreated + 1 }, .restoring (some id) result)
  | .restoring none result, .go => some (shared.putPlaceholder config, .outside (some result))
  | .restoring (some id) result, .go =>
    some (shared.putPlaceholder config, .closingInstance id result)
  | .closingInstance id result, .go => some (shared.closeInstance id, .outside (some result))
  | .returning id result, .go => some (shared.putInstance config id, .outside (some result))
  -- close
  | .outside _, .callClose => some (shared, .close)
  | .close, .go =>
    if shared.closeLock then none else some ({ shared with closeLock := true }, .testing)
  | .testing, .go =>
    if shared.closedEvent then some (shared, .unlocking) else some (shared, .marking)
  | .marking, .go => some ({ shared with closedEvent := true, stage := .draining }, .draining)
  | .draining, .go =>
    match shared.idle with
    | [] => some ({ shared with stage := .drained }, .posting)
    | .pooled id :: rest => some ({ shared with idle := rest }, .drainClosing id)
    | _ :: rest => some ({ shared with idle := rest }, .draining)
  | .drainClosing id, .go => some (shared.closeInstance id, .draining)
  | .posting, .go =>
    some ({ shared.putWakeSentinel config with stage := .posted }, .unlocking)
  | .unlocking, .go =>
    some ({ shared with closeLock := false, closeReturned := true },
      .outside (some .closeReturned))
  | _, _ => none

/-- What one atomic action can do, one case for each outcome at each program
point. Laws of the pool are proved by cases on it. -/
inductive Move (config : Config) :
    Shared → Point α → Action α → Shared → Point α → Prop
  | borrowCalled (shared : Shared) (last : Option Result) :
      Move config shared (.outside last) .callBorrow shared .borrow
  | borrowRefused (shared : Shared) (flag : shared.closedEvent = true) :
      Move config shared .borrow .go shared (.outside (some .policyClosed))
  | borrowAdmitted (shared : Shared) (flag : shared.closedEvent = false) :
      Move config shared .borrow .go shared .waiting
  | slotDrawn (shared : Shared) (slot : Slot) (rest : List Slot)
      (front : shared.idle = slot :: rest) :
      Move config shared .waiting .go { shared with idle := rest } (.drawn slot)
  | timedOut (shared : Shared) (timed : config.timed = true) (empty : shared.idle = []) :
      Move config shared .waiting .timeout shared (.outside (some .timedOut))
  | sentinelDrawn (shared : Shared) :
      Move config shared (.drawn .sentinel) .go shared .reposting
  | placeholderRefused (shared : Shared) (flag : shared.closedEvent = true) :
      Move config shared (.drawn .placeholder) .go shared .reposting
  | placeholderTaken (shared : Shared) (flag : shared.closedEvent = false) :
      Move config shared (.drawn .placeholder) .go shared .creating
  | instanceRefused (shared : Shared) (id : Nat) (flag : shared.closedEvent = true) :
      Move config shared (.drawn (.pooled id)) .go shared (.dropping id)
  | instanceTaken (shared : Shared) (id : Nat) (flag : shared.closedEvent = false) :
      Move config shared (.drawn (.pooled id)) .go shared (.refreshing id)
  | drawnClosed (shared : Shared) (id : Nat) :
      Move config shared (.dropping id) .go (shared.closeInstance id) .reposting
  | sentinelReposted (shared : Shared) :
      Move config shared .reposting .go (shared.putWakeSentinel config)
        (.outside (some .policyClosed))
  | instanceBuilt (shared : Shared) (version : Nat) :
      Move config shared .creating (.factoryReturns version)
        { shared.setInstance shared.built ⟨version, false⟩ with built := shared.built + 1 }
        (.counting shared.built)
  | buildFailed (shared : Shared) :
      Move config shared .creating .factoryRaises shared (.restoring none .failed)
  | creationCounted (shared : Shared) (id : Nat) :
      Move config shared (.counting id) .go { shared with created := shared.created + 1 }
        (.refreshing id)
  | snapshotRead (shared : Shared) (id : Nat) (data : α) (version : Nat) :
      Move config shared (.refreshing id) (.snapshotReturns data version) shared
        (.comparing id data version)
  | foundStale (shared : Shared) (id : Nat) (data : α) (version : Nat)
      (stale : (shared.instances id).dataVersion ≠ version) :
      Move config shared (.comparing id data version) .go shared (.reloading id data version)
  | foundCurrent (shared : Shared) (id : Nat) (data : α) (version : Nat)
      (current : (shared.instances id).dataVersion = version) :
      Move config shared (.comparing id data version) .go shared (.yielded id false)
  | refreshed (shared : Shared) (id : Nat) (data : α) (version tag : Nat) :
      Move config shared (.reloading id data version) (.refreshReturns tag)
        (shared.setInstance id { shared.instances id with dataVersion := tag })
        (.yielded id false)
  | refreshFailed (shared : Shared) (id : Nat) (data : α) (version : Nat) (poisons : Bool) :
      Move config shared (.reloading id data version) (.refreshRaises poisons)
        (shared.setInstance id
          { shared.instances id with poisoned := (shared.instances id).poisoned || poisons })
        (.releasing id false .failed)
  | poisoned (shared : Shared) (id : Nat) (discarded : Bool) :
      Move config shared (.yielded id discarded) .poison
        (shared.setInstance id { shared.instances id with poisoned := true })
        (.yielded id discarded)
  | discarded (shared : Shared) (id : Nat) (discarded : Bool) :
      Move config shared (.yielded id discarded) .discard shared (.yielded id true)
  | exited (shared : Shared) (id : Nat) (discarded : Bool) :
      Move config shared (.yielded id discarded) .exit shared (.releasing id discarded .finished)
  | releaseClosed (shared : Shared) (id : Nat) (discarded : Bool) (result : Result)
      (flag : shared.closedEvent = true) :
      Move config shared (.releasing id discarded result) .go shared (.restoring (some id) result)
  | releaseReplaced (shared : Shared) (id : Nat) (discarded : Bool) (result : Result)
      (flag : shared.closedEvent = false)
      (unfit : (discarded || (shared.instances id).poisoned) = true) :
      Move config shared (.releasing id discarded result) .go shared (.recreating id result)
  | releaseHealthy (shared : Shared) (id : Nat) (discarded : Bool) (result : Result)
      (flag : shared.closedEvent = false) (kept : discarded = false)
      (healthy : (shared.instances id).poisoned = false) :
      Move config shared (.releasing id discarded result) .go shared (.returning id result)
  | recreationCounted (shared : Shared) (id : Nat) (result : Result) :
      Move config shared (.recreating id result) .go
        { shared with recreated := shared.recreated + 1 } (.restoring (some id) result)
  | slotRestored (shared : Shared) (result : Result) :
      Move config shared (.restoring none result) .go (shared.putPlaceholder config)
        (.outside (some result))
  | slotRecycled (shared : Shared) (id : Nat) (result : Result) :
      Move config shared (.restoring (some id) result) .go (shared.putPlaceholder config)
        (.closingInstance id result)
  | replacedClosed (shared : Shared) (id : Nat) (result : Result) :
      Move config shared (.closingInstance id result) .go (shared.closeInstance id)
        (.outside (some result))
  | instanceReturned (shared : Shared) (id : Nat) (result : Result) :
      Move config shared (.returning id result) .go (shared.putInstance config id)
        (.outside (some result))
  | closeCalled (shared : Shared) (last : Option Result) :
      Move config shared (.outside last) .callClose shared .close
  | closeLocked (shared : Shared) (free : shared.closeLock = false) :
      Move config shared .close .go { shared with closeLock := true } .testing
  | closeRepeated (shared : Shared) (flag : shared.closedEvent = true) :
      Move config shared .testing .go shared .unlocking
  | closeFirst (shared : Shared) (flag : shared.closedEvent = false) :
      Move config shared .testing .go shared .marking
  | flagSet (shared : Shared) :
      Move config shared .marking .go
        { shared with closedEvent := true, stage := .draining } .draining
  | drainEnded (shared : Shared) (empty : shared.idle = []) :
      Move config shared .draining .go { shared with stage := .drained } .posting
  | instanceDrained (shared : Shared) (id : Nat) (rest : List Slot)
      (front : shared.idle = .pooled id :: rest) :
      Move config shared .draining .go { shared with idle := rest } (.drainClosing id)
  | emptyDrained (shared : Shared) (slot : Slot) (rest : List Slot)
      (front : shared.idle = slot :: rest) (bare : ∀ id, slot ≠ .pooled id) :
      Move config shared .draining .go { shared with idle := rest } .draining
  | drainedClosed (shared : Shared) (id : Nat) :
      Move config shared (.drainClosing id) .go (shared.closeInstance id) .draining
  | sentinelPosted (shared : Shared) :
      Move config shared .posting .go { shared.putWakeSentinel config with stage := .posted }
        .unlocking
  | closeUnlocked (shared : Shared) :
      Move config shared .unlocking .go
        { shared with closeLock := false, closeReturned := true }
        (.outside (some .closeReturned))

/-- Every action the pool performs is one of these moves. -/
theorem next_move {config : Config} {shared shared' : Shared} {point point' : Point α}
    {action : Action α} (acted : next config shared point action = some (shared', point')) :
    Move config shared point action shared' point' := by
  unfold next at acted
  split at acted <;> (try split at acted) <;> (try split at acted) <;>
    simp only [Option.some.injEq, Prod.mk.injEq, reduceCtorEq] at acted <;>
    (try obtain ⟨rfl, rfl⟩ := acted)
  -- The program points and the action determine the case; only the drained
  -- placeholder or sentinel is an unnamed remainder of its match.
  all_goals first
    | exact .emptyDrained _ _ _ (by assumption) (by assumption)
    | (constructor <;> simp_all)

/-- The constructor seeds the queue with placeholders; nothing is built. -/
def opened (config : Config) : Shared where
  idle := List.replicate config.maxSize .placeholder
  closedEvent := false
  closeLock := false
  created := 0
  recreated := 0
  built := 0
  instances := fun _ => ⟨0, false⟩
  closed := []
  dropped := []
  stage := .opened
  closeReturned := false

variable {Thread : Type}

/-- Every thread may call `borrow` or `close`, in any order and any number of
times. -/
def start (config : Config) : Threads.State Thread Shared (Point α) where
  shared := opened config
  threads := fun _ => .outside none

/-- The pool run by any number of threads at every interleaving. -/
def pool [DecidableEq Thread] (config : Config) :
    Machines.Machine (Threads.State Thread Shared (Point α)) (Thread × Action α) :=
  Threads.machine (fun _ => next config) (start config)

/-- A step of the pool is one move of the labelled thread. -/
theorem step_move [DecidableEq Thread] {config : Config}
    {before after : Threads.State Thread Shared (Point α)} {label : Thread × Action α}
    (stepped : (pool config).step before label = some after) :
    ∃ shared' point',
      Move config before.shared (before.threads label.1) label.2 shared' point' ∧
      after = ⟨shared', Function.update before.threads label.1 point'⟩ := by
  obtain ⟨shared', point', acted, same⟩ := Threads.step_cases stepped
  exact ⟨shared', point', next_move acted, same⟩

/-- Three threads and a pool of one slot, for runs on fixed schedules. -/
inductive Caller where
  | first
  | second
  | third
deriving DecidableEq

/-- There are three of them. -/
instance : Fintype Caller where
  elems := {.first, .second, .third}
  complete caller := by cases caller <;> decide

/-- Some actions of one thread in a row. -/
def Caller.does {Taken : Type} (caller : Caller) (actions : List Taken) : List (Caller × Taken) :=
  actions.map (caller, ·)

/-- A pool of one slot whose borrowers wait without a limit. -/
def singleSlot : Config := ⟨1, by decide, false⟩

end OpaPyWasm.InstancePool
